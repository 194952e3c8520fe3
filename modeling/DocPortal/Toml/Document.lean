import DocPortal.Toml.Composite

/-!
# TOML documents

A document is a sequence of statements, one a line: table headers, and keys with values, which belong to the
table of the last header. A byte order mark in front does not count.
-/

namespace DocPortal
namespace Toml

/-- One statement of a document. -/
inductive Statement where
  /-- Opens a table. -/
  | header (key : DottedKey)
  /-- Opens the next table of an array of tables. -/
  | nextHeader (key : DottedKey)
  | entry (key : DottedKey) (value : Value)
  deriving Repr

/-- Takes one statement off the front. -/
def readStatement : Reader Statement
  | '[' :: '[' :: s => do match ← readKey s with
    | (key, ']' :: ']' :: s) => return (.nextHeader key, s)
    | _ => .error .unclosedHeader
  | '[' :: s => do match ← readKey s with
    | (key, ']' :: s) => return (.header key, s)
    | _ => .error .unclosedHeader
  | s => do
    let ((key, v), s) ← readEntry (fun s => .ok (s.dropWhile isBlank)) readValue s
    return (.entry key v, s)

/-- Whether nothing but a comment follows on the line. -/
def endsLine (s : List Char) : Bool :=
  let rest := s.dropWhile isBlank
  rest.isEmpty || startsLine rest || rest.head? = some '#'

/-- The statements of a text, at most `n` of them. -/
def statements : (n : Nat) → List Char → Except SyntaxError (List Statement)
  | 0, _ => .error .expectedLineEnd
  | n + 1, s => do
    let s ← dropTrivia false s
    if s.isEmpty then return []
    let (first, s) ← readStatement s
    if endsLine s then return first :: (← statements n s)
    else .error .expectedLineEnd

/-- A document that is being read: all of its tables, and the header that the next keys belong to. -/
structure Progress where
  entries : Entries
  header : List String

/-- The document after one more statement. -/
def Progress.next (p : Progress) : Statement → Except SyntaxError Progress
  | .header key => return ⟨← p.entries.openTable key.path key.name, key.parts⟩
  | .nextHeader key => return ⟨← p.entries.openNext key.path key.name, key.parts⟩
  | .entry key v => do
    let fill := fun _ (inner : Entries) => inner.put key.path key.name v
    return { p with entries := ← p.entries.extend .implied fill .headed p.header }

/-- The table that statements make up. -/
def Table.ofStatements (l : List Statement) : Except SyntaxError Table :=
  (l.foldlM Progress.next ⟨[], []⟩).map fun p => closeEntries p.entries

/-- A text without a byte order mark at its front. -/
def dropMark : List Char → List Char
  | '\ufeff' :: rest => rest
  | s => s

/-- The table that a document holds. -/
def Table.read (document : String) : Except SyntaxError Table := do
  let s := dropMark document.toList
  Table.ofStatements (← statements (s.length + 1) s)

end Toml
end DocPortal
