import DocPortal.Text.Quoted
import DocPortal.Toml.Value

/-!
# Reading values of a given shape

What is read from a document has a shape: a text, a boolean, a list, a choice, a table of texts or a record. A
record is written as a table, whose unknown keys do not count, or as an array of its fields in order. The first
value of a wrong shape is reported in document order; a key that is missing is reported when all the others have
been read.
-/

namespace DocPortal
namespace Toml

/-- The shapes that are asked for. -/
inductive Shape where
  | text
  | flag
  | list
  | attributes
  | record (name : String)
  deriving DecidableEq, Repr

/-- The words for a shape. -/
def Shape.description : Shape → String
  | text => "a string"
  | flag => "a boolean"
  | list => "a sequence"
  | attributes => "a table of string attributes"
  | record name => "struct " ++ name

/-- A text between backticks. -/
def marked (s : String) : String := "\x60" ++ s ++ "\x60"

/-- The words for a value of a wrong shape. Integers beyond 64 bits are shown with the width they need. -/
def Value.description : Value → String
  | .text s => "string " ++ Text.quoted s
  | .integer n =>
    let width :=
      if -(Nat.pow 2 63 : Int) ≤ n ∧ n < (Nat.pow 2 64 : Int) then ""
      else if n < (Nat.pow 2 127 : Int) then " as i128"
      else " as u128"
    "integer " ++ marked (toString n) ++ width
  | .float x => "floating point " ++ marked x.text
  | .unreadable => "unreadable number"
  | .boolean b => "boolean " ++ marked (if b then "true" else "false")
  | .dateTime _ => "map"
  | .array _ => "sequence"
  | .table _ => "map"

/-- Why a document does not fit what is read from it. -/
inductive ShapeError where
  | wrongShape (found : Value) (expected : Shape)
  /-- A numeral that cannot be read was looked at. -/
  | unreadable
  | missingKey (key : String)
  /-- A name that is none of those to choose from. -/
  | unknownChoice (name : String) (choices : List String)
  /-- A choice that is written neither as a name nor as a table with nothing but a name. -/
  | malformedChoice
  /-- An array that ends before all required fields of a record. -/
  | tooFewFields (record : String)
  deriving Repr

namespace ShapeError

/-- The message of a shape error. -/
def message : ShapeError → String
  | wrongShape found expected => s!"invalid type: {found.description}, expected {expected.description}"
  | unreadable => "unreadable number"
  | missingKey key => "missing field " ++ marked key
  | unknownChoice name choices =>
    s!"unknown variant {marked name}, expected " ++ String.intercalate " or " (choices.map marked)
  | malformedChoice => "malformed choice"
  | tooFewFields record => s!"too few fields for {record}"

end ShapeError

/-- Reads a value of a certain shape. -/
abbrev ShapeReader (α : Type) := Value → Except ShapeError α

namespace ShapeReader

/-- The error for a value of a wrong shape. -/
def mismatch (found : Value) (expected : Shape) : ShapeError :=
  match found with
  | .unreadable => .unreadable
  | v => .wrongShape v expected

/-- Reads a text. -/
def text : ShapeReader String
  | .text s => .ok s
  | v => .error (mismatch v .text)

/-- Reads a boolean. -/
def flag : ShapeReader Bool
  | .boolean b => .ok b
  | v => .error (mismatch v .flag)

/-- Reads an array. -/
def list {α : Type} (item : ShapeReader α) : ShapeReader (List α)
  | .array items => items.mapM item
  | v => .error (mismatch v .list)

/-- The key under which a date-time stands where a table is asked for. -/
def dateTimeKey : String := "$__toml_private_datetime"

/-- The entries of a value that is a table or can stand for one. -/
def entries? : Value → Option Table
  | .table entries => some entries
  | .dateTime d => some [(dateTimeKey, .text d.text)]
  | _ => none

/-- Reads a table of texts, in order. -/
def attributes : ShapeReader (List (String × String)) := fun v =>
  match entries? v with
  | some entries => entries.mapM fun (key, v) => (text v).map (key, ·)
  | none => .error (mismatch v .attributes)

mutual

/-- Passes over a value that does not count, in which all numerals must be readable. -/
def skip : ShapeReader Unit
  | .unreadable => .error .unreadable
  | .array items => skipItems items
  | .table entries => skipEntries entries
  | _ => .ok ()

/-- Passes over items. -/
def skipItems : List Value → Except ShapeError Unit
  | [] => .ok ()
  | v :: rest => match skip v with
    | .ok () => skipItems rest
    | .error e => .error e

/-- Passes over entries. -/
def skipEntries : Table → Except ShapeError Unit
  | [] => .ok ()
  | (_, v) :: rest => match skip v with
    | .ok () => skipEntries rest
    | .error e => .error e

end

/-- The choice with a name. -/
def choiceNamed {α : Type} (choices : List (String × α)) (name : String) : Except ShapeError α :=
  match choices.lookup name with
  | some a => .ok a
  | none => .error (.unknownChoice name (choices.map (·.1)))

/-- Reads one of several choices: its name, or a table with its name as the only key and nothing in it. -/
def choice {α : Type} (choices : List (String × α)) : ShapeReader α
  | .text name => choiceNamed choices name
  | .table [(name, inner)] => do
    let a ← choiceNamed choices name
    match inner with
    | .table [] | .array [] => return a
    | _ => .error .malformedChoice
  | _ => .error .malformedChoice

end ShapeReader

/-- Reads the fields of a record. -/
structure RecordReader (α : Type) where
  /-- The keys in order, each with the check that its value has to pass. -/
  fields : List (String × (Value → Except ShapeError Unit))
  /-- The record of the values that keys have; the other argument says what a missing key means. -/
  build : (String → Option Value) → (String → ShapeError) → Except ShapeError α

namespace RecordReader

variable {α β : Type}

instance : Applicative RecordReader where
  pure a := ⟨[], fun _ _ => .ok a⟩
  seq f x := ⟨f.fields ++ (x ()).fields, fun get missing => do
    let g ← f.build get missing
    let a ← (x ()).build get missing
    return g a⟩

/-- Reads a field that has to be there. -/
def required (key : String) (read : ShapeReader α) : RecordReader α where
  fields := [(key, fun v => (read v).map fun _ => ())]
  build get missing := match get key with
    | some v => read v
    | none => .error (missing key)

/-- Reads a field that may be left out. -/
def optional (key : String) (read : ShapeReader α) (default : α) : RecordReader α where
  fields := [(key, fun v => (read v).map fun _ => ())]
  build get _ := match get key with
    | some v => read v
    | none => .ok default

/-- Reads a record from the entries of a table. -/
def readTable (r : RecordReader α) (entries : Table) : Except ShapeError α := do
  entries.forM fun (key, v) => match r.fields.lookup key with
    | some check => check v
    | none => ShapeReader.skip v
  r.build (List.lookup · entries) .missingKey

/-- Reads a record, which has a name in messages. -/
def read (r : RecordReader α) (name : String) : ShapeReader α := fun v =>
  match ShapeReader.entries? v, v with
  | some entries, _ => r.readTable entries
  | none, .array items =>
    let given := (r.fields.map (·.1)).zip items
    r.build (List.lookup · given) fun _ => .tooFewFields name
  | none, v => .error (ShapeReader.mismatch v (.record name))

end RecordReader

end Toml
end DocPortal
