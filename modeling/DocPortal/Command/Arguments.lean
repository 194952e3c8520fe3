import DocPortal.Command.Options
import DocPortal.Config.Basic
import DocPortal.Environment

/-!
# Arguments

Two commands are known: one builds the configuration of a site, the other prints the pages of one directory.
An option that takes one value, and every flag, may be given once. A path must not be empty, and whatever is no
path must be text.
-/

namespace DocPortal
namespace Command

/-- The arguments of the command that builds a site configuration. -/
structure BuildArguments where
  config? : Option Path := none
  sourceDir? : Option Path := none
  base? : Option String := none
  output? : Option Path := none
  /-- Whether the configuration is written on a single line. -/
  compact : Bool := false
  deriving DecidableEq, Repr

/-- The arguments of the command that prints the pages of a directory. -/
structure SidebarArguments where
  dir? : Option Path := none
  extensions : List String := []
  exclude : List String := []
  sort : Bool := false
  deriving DecidableEq, Repr

/-- What a command line asks for. -/
inductive Invocation where
  | build (a : BuildArguments)
  /-- The pages of a directory. -/
  | sidebar (dir : Path) (a : SidebarArguments)
  deriving DecidableEq, Repr

/-- A command line that has been read. -/
structure CommandLine where
  invocation : Invocation
  /-- Whether a log is asked for, too. -/
  logged : Bool
  deriving DecidableEq, Repr

/-- A path in place of none. -/
def setPath (old : Option Path) (value : Bytes) : Option (Option Path) :=
  if old.isSome || value.isEmpty then none else some (some ⟨value⟩)

/-- A text in place of none. -/
def setText (old : Option String) (value : Bytes) : Option (Option String) :=
  if old.isSome then none else (Text.decode? value).map some

/-- A text at the end of a list. -/
def addText (old : List String) (value : Bytes) : Option (List String) :=
  (Text.decode? value).map fun s => old ++ [s]

/-- A flag that was not set. -/
def raise (old : Bool) : Option Bool := if old then none else some true

/-- The option that asks for help. -/
def helpForm {α : Type} : OptionForm α := ⟨"help", some 'h', .interrupt .help⟩

namespace BuildArguments

/-- The options of the command. -/
def forms : List (OptionForm BuildArguments) := [
  ⟨"config", some 'c', .value fun v a => (setPath a.config? v).map ({ a with config? := · })⟩,
  ⟨"source-dir", some 's', .value fun v a => (setPath a.sourceDir? v).map ({ a with sourceDir? := · })⟩,
  ⟨"base", none, .value fun v a => (setText a.base? v).map ({ a with base? := · })⟩,
  ⟨"output", some 'o', .value fun v a => (setPath a.output? v).map ({ a with output? := · })⟩,
  ⟨"compact", none, .flag fun a => (raise a.compact).map ({ a with compact := · })⟩,
  helpForm]

/-- The variable that stands for a configuration file that is not given. -/
def configVariable : String := "PORTICO_CONFIG"

/-- The arguments with the configuration file that the environment names, if none is given. -/
def withEnvironment (env : Environment) (a : BuildArguments) : Option BuildArguments :=
  match a.config?, env.bytes? configVariable with
  | none, some v => (setPath none v).map ({ a with config? := · })
  | _, _ => some a

/-- Reads the words after the name of the command, with options that every command has. -/
def read (env : Environment) (shared : List (OptionForm Bool)) (words : List Bytes) :
    Except Interruption CommandLine := do
  let (a, logged) ← readWords (pairForms forms shared) (fun _ _ => none) words ⟨({}, false), none⟩
  let a ← accept (a.withEnvironment env)
  return ⟨.build a, logged⟩

/-- The settings that take precedence over the configuration file. -/
def overrides (a : BuildArguments) : Overrides := ⟨a.sourceDir?, a.base?⟩

end BuildArguments

namespace SidebarArguments

/-- The options of the command. -/
def forms : List (OptionForm SidebarArguments) := [
  ⟨"ext", some 'e', .value fun v a => (addText a.extensions v).map ({ a with extensions := · })⟩,
  ⟨"exclude", none, .value fun v a => (addText a.exclude v).map ({ a with exclude := · })⟩,
  ⟨"sort", none, .flag fun a => (raise a.sort).map ({ a with sort := · })⟩,
  helpForm]

/-- The directory, which is the only operand. -/
def setDir {β : Type} : Setter (SidebarArguments × β) := fun v (a, b) =>
  (setPath a.dir? v).map fun dir? => ({ a with dir? }, b)

/-- Reads the words after the name of the command, with options that every command has. Without extensions,
markdown pages are meant. -/
def read (shared : List (OptionForm Bool)) (words : List Bytes) : Except Interruption CommandLine := do
  let (a, logged) ← readWords (pairForms forms shared) setDir words ⟨({}, false), none⟩
  let dir ← accept a.dir?
  return ⟨.sidebar dir (if a.extensions = [] then { a with extensions := [".md"] } else a), logged⟩

end SidebarArguments

/-- The name of a command. -/
inductive Name where
  | build
  | sidebar
  | help
  deriving DecidableEq, Repr

/-- The command with a name. -/
def Name.ofBytes? (word : Bytes) : Option Name :=
  [("build", build), ("sidebar", sidebar), ("help", help)].findSome? fun (name, command) =>
    if Text.encode name = word then some command else none

/-- Reads the words from the name of the command on. Help may be asked for about one command. -/
def readCommand (env : Environment) (shared : List (OptionForm Bool)) :
    List Bytes → Except Interruption CommandLine
  | [] => .error .usage
  | word :: rest => match Name.ofBytes? word with
    | none => .error .usage
    | some .build => BuildArguments.read env shared rest
    | some .sidebar => SidebarArguments.read shared rest
    | some .help => match rest with
      | [] => .error .help
      | [topic] => .error (if (Name.ofBytes? topic).isSome then .help else .usage)
      | _ => .error .usage

/-- The option of every command that asks for a log. -/
def sharedForms : List (OptionForm Bool) := [⟨"verbose", some 'v', .flag raise⟩]

/-- Reads a command line after some options that stand before the name of the command; the state tells
whether they asked for a log. -/
def readAfter (env : Environment) : List Bytes → (logged : Bool) → Except Interruption CommandLine
  | [], _ => .error .usage
  | word :: rest, logged =>
    if word = dashes then .error .usage
    else if isDashed word then do
      let p ← takeDashed (sharedForms ++ [helpForm, ⟨"version", some 'V', .interrupt .version⟩]) word logged
      readAfter env rest p.state
    else do
      let line ← readCommand env sharedForms (word :: rest)
      return { line with logged := logged || line.logged }

/-- Reads a whole command line. -/
def readLine (env : Environment) (words : List Bytes) : Except Interruption CommandLine :=
  readAfter env words false

end Command
end DocPortal
