import DocPortal.Config.Error
import DocPortal.Listing.Error
import DocPortal.Machine

/-!
# Outcomes of commands

A command succeeds or fails with an error, and in both cases leaves what it has written and the tree of files as
it has become. Its results go to the standard output; notices go to the standard error output.
-/

namespace DocPortal

/-- Why a command fails. -/
inductive CommandError where
  | config (e : ConfigError)
  | directoryAccess (e : DirectoryAccessError)
  | filter (e : FilterError)
  /-- The output cannot be written. -/
  | output (f : Failure)
  deriving Repr

/-- The message of an error. -/
def CommandError.message : CommandError → String
  | config e => e.message
  | directoryAccess e => e.message
  | filter e => s!"Invalid sidebar extensions: {e.message}"
  | output f => f.text

/-- The colours of notices. -/
inductive Colour where
  | green
  | red
  deriving DecidableEq, Repr

/-- The number of a colour on a terminal. -/
def Colour.number : Colour → Nat
  | green => 32
  | red => 31

/-- A line for the user. -/
structure Notice where
  text : String
  colour? : Option Colour := none
  deriving DecidableEq, Repr

namespace Notice

/-- A line that says what a command works on. -/
def info (text : String) : Notice := ⟨text, none⟩

/-- A line that says that a command has succeeded. -/
def success (text : String) : Notice := ⟨text, some .green⟩

/-- A line that says why a command has failed. -/
def failure (text : String) : Notice := ⟨text, some .red⟩

/-- A notice as it is written, with its colour only if colours are on. -/
def render (coloured : Bool) (n : Notice) : String :=
  match coloured, n.colour? with
  | true, some c => s!"\x1b[{c.number}m{n.text}\x1b[0m\n"
  | _, _ => n.text ++ "\n"

/-- Notices as they are written. -/
def renderAll (coloured : Bool) (l : List Notice) : String := .join (l.map (render coloured))

end Notice

/-- What a command leaves behind. -/
structure Outcome where
  result : Except CommandError Unit
  stdout : String := ""
  notices : List Notice := []
  files : FileSystem

namespace Outcome

/-- The outcome of a command that fails before it has written anything. -/
def failed (m : Machine) (e : CommandError) (notices : List Notice) : Outcome :=
  { result := .error e, notices, files := m.files }

/-- The outcome of a command that succeeds and writes nothing but its result. -/
def printed (m : Machine) (text : String) (notices : List Notice) : Outcome :=
  { result := .ok (), stdout := text, notices, files := m.files }

/-- The outcome with some notices in front of its own. -/
def after (o : Outcome) (notices : List Notice) : Outcome :=
  { o with notices := notices ++ o.notices }

end Outcome
end DocPortal
