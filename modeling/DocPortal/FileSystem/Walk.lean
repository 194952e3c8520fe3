import DocPortal.FileSystem.Basic
import DocPortal.FileSystem.Failure

/-!
# Resolving paths

A path is walked step by step from the root or from a working directory. Links met on the way are followed,
at most forty in one walk. Every step but the last has to find something, and every step starts in a
directory that may be searched. A walk may end at a vacant location: whether that is a failure is for the
caller to say.
-/

namespace DocPortal

/-- Why the operating system refuses a path or an operation on it. -/
inductive PathFault where
  | noSuchEntry
  | permissionDenied
  | alreadyExists
  | notADirectory
  | isADirectory
  | nameTooLong
  | tooManyLinks
  /-- The path holds a zero byte, with which no path can be handed to the system. -/
  | zeroByte
  deriving DecidableEq, Repr

namespace PathFault

/-- The failure that is reported for a fault. -/
def failure : PathFault → Failure
  | noSuchEntry => .ofNumber 2
  | permissionDenied => .ofNumber 13
  | alreadyExists => .ofNumber 17
  | notADirectory => .ofNumber 20
  | isADirectory => .ofNumber 21
  | nameTooLong => .ofNumber 36
  | tooManyLinks => .ofNumber 40
  | zeroByte => ⟨.other, "file name contained an unexpected NUL byte"⟩

end PathFault

/-- A step of a walk. -/
inductive Step where
  /-- A dot: stay. -/
  | here
  /-- Two dots: go to the directory above. -/
  | up
  | name (n : Bytes)
  /-- The separator at the end of a path: what comes before is a directory. -/
  | slash
  deriving DecidableEq, Repr

namespace Path

/-- The step of a segment. -/
def stepOf (segment : Bytes) : Step :=
  if segment = [0x2E] then .here
  else if segment = [0x2E, 0x2E] then .up
  else .name segment

/-- The steps of a path after its start. -/
def steps (p : Path) : List Step :=
  let named := (Lexical.segments p.bytes).filter (· ≠ [])
  if named ≠ [] ∧ p.bytes.getLast? = some 0x2F then named.map stepOf ++ [.slash]
  else named.map stepOf

/-- Where a walk along the path starts. -/
def startsAt (p : Path) (cwd : Location) : Location := if p.isAbsolute then [] else cwd

end Path

namespace FileSystem

/-- The greatest length of a name. -/
def nameLimit : Nat := 255

/-- The greatest length of a path. -/
def pathLimit : Nat := 4095

/-- How many links one walk follows. -/
def linkLimit : Nat := 40

/-- What a walk is for. -/
inductive Purpose where
  /-- To look at what is there. -/
  | lookUp
  /-- To open a file for writing, which makes it if it is not there. -/
  | create
  deriving DecidableEq, Repr

/-- How far a walk gets without following a link. -/
inductive Progress where
  /-- To its end. -/
  | arrived (loc : Location)
  /-- To a link in the directory `dir`, with the steps `rest` to go. -/
  | met (dir : Location) (target : Path) (rest : List Step)

/-- Walks up to the first link. -/
def advance (fs : FileSystem) (purpose : Purpose) :
    Location → List Step → Except PathFault Progress
  | loc, [] => .ok (.arrived loc)
  | loc, step :: rest =>
    match fs.find? loc with
    | some .directory =>
      match step with
      | .here | .slash => fs.advance purpose loc rest
      | .up => fs.advance purpose loc.tail rest
      | .name n =>
        if purpose = .create ∧ rest = [.slash] then .error .isADirectory
        else if n.length > nameLimit then .error .nameTooLong
        else match fs.find? (n :: loc) with
          | none => if rest = [] then .ok (.arrived (n :: loc)) else .error .noSuchEntry
          | some (.link target) => .ok (.met loc target rest)
          | some _ => fs.advance purpose (n :: loc) rest
    -- A separator at the end asks for a directory, but not to search it.
    | some .closed => if step = .slash then fs.advance purpose loc rest else .error .permissionDenied
    | _ => .error .notADirectory

/-- Walks to the end, following at most `links` links. -/
def walk (fs : FileSystem) (purpose : Purpose) (links : Nat) (loc : Location)
    (steps : List Step) : Except PathFault Location :=
  match fs.advance purpose loc steps with
  | .error e => .error e
  | .ok (.arrived loc) => .ok loc
  | .ok (.met dir target rest) =>
    match links with
    | 0 => .error .tooManyLinks
    | n + 1 => fs.walk purpose n (target.startsAt dir) (target.steps ++ rest)

/-- Refuses what is no path for the system, whatever the tree. -/
def checkPath (p : Path) : Except PathFault Unit :=
  if 0 ∈ p.bytes then .error .zeroByte
  else if p.bytes = [] then .error .noSuchEntry
  else if p.bytes.length > pathLimit then .error .nameTooLong
  else .ok ()

/-- The location a path leads to, vacant or not. -/
def reach (fs : FileSystem) (cwd : Location) (purpose : Purpose) (p : Path) :
    Except PathFault Location := do
  checkPath p
  fs.walk purpose linkLimit (p.startsAt cwd) p.steps

/-- The location and the node a path leads to. -/
def resolve (fs : FileSystem) (cwd : Location) (p : Path) : Except PathFault (Location × Node) := do
  let loc ← fs.reach cwd .lookUp p
  match fs.find? loc with
  | some node => .ok (loc, node)
  | none => .error .noSuchEntry

/-- Whether a path leads to something. -/
def leadsSomewhere (fs : FileSystem) (cwd : Location) (p : Path) : Bool :=
  (fs.resolve cwd p).isOk

/-- Whether a path leads to a directory. -/
def isDirectory (fs : FileSystem) (cwd : Location) (p : Path) : Bool :=
  match fs.resolve cwd p with
  | .ok (_, .directory) | .ok (_, .closed) => true
  | _ => false

end FileSystem
end DocPortal
