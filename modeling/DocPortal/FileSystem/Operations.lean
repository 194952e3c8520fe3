import DocPortal.FileSystem.Walk

/-!
# Operations on a tree

Reading, listing and changing a tree by path. An operation that fails leaves the tree as it was, except the
making of several directories, which keeps those it has made.
-/

namespace DocPortal

namespace Path

/-- A path, its parent, the parent of that, and so on, at most `n` times. -/
def ancestorsUpTo : Nat → Path → List Path
  | 0, p => [p]
  | n + 1, p => p :: match p.parent? with
    | none => []
    | some q => ancestorsUpTo n q

/-- A path, its parent, the parent of that, and so on. Each is shorter than the one before, so the length
of the path bounds their number. -/
def ancestors (p : Path) : List Path := ancestorsUpTo p.bytes.length p

end Path

namespace FileSystem

/-- The content of the file a path leads to. -/
def read (fs : FileSystem) (cwd : Location) (p : Path) : Except PathFault Bytes := do
  match ← fs.resolve cwd p with
  | (_, .file content) => .ok content
  | (_, .directory) => .error .isADirectory
  | (_, .closed) => .error .permissionDenied
  | _ => .ok []

/-- The text in the file a path leads to. -/
def readText (fs : FileSystem) (cwd : Location) (p : Path) : Except Failure String :=
  match fs.read cwd p with
  | .error fault => .error fault.failure
  | .ok content => match Text.decode? content with
    | some s => .ok s
    | none => .error .notText

/-- Where a new entry for a path would stand: the directory of its last name, and that name. A separator at
the end of the path does not count. -/
def slot (fs : FileSystem) (cwd : Location) (p : Path) : Except PathFault Location := do
  checkPath p
  let steps := p.steps.filter (· ≠ .slash)
  match steps.getLast? with
  | some (.name n) =>
    let dir ← fs.walk .lookUp linkLimit (p.startsAt cwd) (steps.dropLast ++ [.here])
    if n.length > nameLimit then .error .nameTooLong else .ok (n :: dir)
  | _ =>
    let _ ← fs.walk .lookUp linkLimit (p.startsAt cwd) steps
    .error .alreadyExists

/-- Puts a node where nothing is yet. -/
def make (fs : FileSystem) (cwd : Location) (p : Path) (node : Node) :
    Except PathFault FileSystem := do
  let loc ← fs.slot cwd p
  if (fs.find? loc).isSome then .error .alreadyExists else .ok (fs.put loc node)

/-- Makes one directory. -/
def makeDirectory (fs : FileSystem) (cwd : Location) (p : Path) : Except PathFault FileSystem :=
  fs.make cwd p .directory

/-- Makes the first directory of a list of ancestors and those of the rest that it needs. Directories that
are there are kept; what was made stays made when a later one fails. -/
def makeMissing (fs : FileSystem) (cwd : Location) :
    List Path → FileSystem × Except PathFault Unit
  | [] => (fs, .ok ())
  | p :: above =>
    if p.bytes = [] then (fs, .ok ())
    else match fs.makeDirectory cwd p with
      | .ok made => (made, .ok ())
      | .error .noSuchEntry =>
        match fs.makeMissing cwd above with
        | (partly, .error fault) => (partly, .error fault)
        | (ready, .ok ()) =>
          match ready.makeDirectory cwd p with
          | .ok made => (made, .ok ())
          | .error fault => (ready, if ready.isDirectory cwd p then .ok () else .error fault)
      | .error fault => (fs, if fs.isDirectory cwd p then .ok () else .error fault)

/-- Makes a directory and its ancestors. -/
def makeDirectories (fs : FileSystem) (cwd : Location) (p : Path) :
    FileSystem × Except PathFault Unit :=
  fs.makeMissing cwd p.ancestors

/-- Writes a file, which is made if it is not there and overwritten if it is. -/
def write (fs : FileSystem) (cwd : Location) (p : Path) (content : Bytes) :
    Except PathFault FileSystem := do
  let loc ← fs.reach cwd .create p
  match fs.find? loc with
  | some .directory | some .closed => .error .isADirectory
  | some .device => .ok fs
  | _ => .ok (fs.put loc (.file content))

/-- Makes a symbolic link that holds `target`. -/
def makeLink (fs : FileSystem) (cwd : Location) (p target : Path) : Except PathFault FileSystem :=
  fs.make cwd p (.link target)

/-- Removes what the last name of a path names, a link itself and a directory with all below it. -/
def remove (fs : FileSystem) (cwd : Location) (p : Path) : Except PathFault FileSystem := do
  let loc ← fs.slot cwd p
  if (fs.find? loc).isSome then .ok (fs.erase loc) else .error .noSuchEntry

end FileSystem
end DocPortal
