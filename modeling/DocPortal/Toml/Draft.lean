import DocPortal.Toml.SyntaxError
import DocPortal.Toml.Value

/-!
# Tables under construction

A document opens tables by headers and by dotted keys and fills them line by line. While it is read, each
table remembers how it was opened, since that decides who may still add to it. Once the document ends, all
tables are closed into values.
-/

namespace DocPortal
namespace Toml

/-- How a table was opened. -/
inductive Opening where
  /-- By a header that names a table inside it. -/
  | implied
  /-- By a dotted key. -/
  | dotted
  /-- By a header of its own. -/
  | headed
  deriving DecidableEq, Repr

/-- What stands under a key while the document is read. -/
inductive Draft where
  /-- A value that takes no further entries; inline tables and arrays are such. -/
  | closed (value : Value)
  /-- An array of tables: the finished ones and the entries of the last one. -/
  | tables (finished : List Value) (last : List (String × Draft))
  | table (opening : Opening) (entries : List (String × Draft))

/-- The entries of a table under construction. -/
abbrev Entries := List (String × Draft)

mutual

/-- The value that a draft has come to. -/
def Draft.value : Draft → Value
  | .closed v => v
  | .tables finished last => .array (finished ++ [.table (closeEntries last)])
  | .table _ entries => .table (closeEntries entries)

/-- The table that entries under construction have come to. -/
def closeEntries : List (String × Draft) → Table
  | [] => []
  | (key, draft) :: rest => (key, draft.value) :: closeEntries rest

end

namespace Entries

/-- Puts in place of a key what `f` makes of it; a new key comes last. -/
def alter (key : String) (f : Option Draft → Except SyntaxError Draft) :
    Entries → Except SyntaxError Entries
  | [] => (f none).map fun draft => [(key, draft)]
  | (k, draft) :: rest =>
    if k = key then (f (some draft)).map fun draft => (k, draft) :: rest
    else (alter key f rest).map ((k, draft) :: ·)

/-- Adds a key that is not there yet. -/
def add (key : String) (draft : Draft) (entries : Entries) : Except SyntaxError Entries :=
  entries.alter key fun
    | none => .ok draft
    | some _ => .error (.duplicateKey key)

/-- Lets `f` work on the table that a path of keys leads to, given how that table was opened. Tables missing
on the way are opened as `way` says, in an array of tables the way leads into the last one, and a dotted key
does not pass through a table with a header of its own. All tables on the way of a dotted key count as opened by
it, even those that a header had implied. -/
def extend (way : Opening) (f : Opening → Entries → Except SyntaxError Entries) :
    Opening → List String → Entries → Except SyntaxError Entries
  | opening, [], entries => f opening entries
  | _, key :: path, entries => entries.alter key fun
    | none => (extend way f way path []).map (.table way)
    | some (.closed _) => .error (.closedTable key)
    | some (.tables finished last) => (extend way f .headed path last).map (.tables finished)
    | some (.table opening inner) =>
      if way = .dotted ∧ opening = .headed then .error (.duplicateKey key)
      else (extend way f opening path inner).map (.table (if way = .dotted then .dotted else opening))

/-- Gives a dotted key its value. The table it leads to must not have a header of its own. -/
def put (path : List String) (key : String) (value : Value) (entries : Entries) :
    Except SyntaxError Entries :=
  entries.extend .dotted
    (fun opening inner =>
      if path ≠ [] ∧ opening = .headed then .error (.duplicateKey key) else inner.add key (.closed value))
    .headed path

/-- Opens a table by its header. A table that was only implied so far moves to the end. -/
def openTable (path : List String) (key : String) (entries : Entries) : Except SyntaxError Entries :=
  entries.extend .implied
    (fun _ inner => match inner.lookup key with
      | none => .ok (inner ++ [(key, .table .headed [])])
      | some (.table .implied found) => .ok (inner.filter (·.1 ≠ key) ++ [(key, .table .headed found)])
      | some _ => .error (.duplicateKey key))
    .headed path

/-- Opens the next table of an array of tables by its header. -/
def openNext (path : List String) (key : String) (entries : Entries) : Except SyntaxError Entries :=
  entries.extend .implied
    (fun _ inner => inner.alter key fun
      | none => .ok (.tables [] [])
      | some (.tables finished last) => .ok (.tables (finished ++ [.table (closeEntries last)]) [])
      | some _ => .error (.duplicateKey key))
    .headed path

end Entries

end Toml
end DocPortal
