import DocPortal.Toml.Draft
import DocPortal.Toml.Key

/-!
# Arrays and inline tables

Between the brackets of an array or an inline table blanks, line breaks and comments may stand around every
item, and in an inline table also around every equals sign; commas stand between the items and may follow the
last one.
-/

namespace DocPortal
namespace Toml

/-- The text after blanks, line breaks and comments; the flag tells that it starts within a comment. -/
def dropTrivia : (comment : Bool) → List Char → Except SyntaxError (List Char)
  | _, [] => .ok []
  | _, '\n' :: rest => dropTrivia false rest
  | _, '\r' :: '\n' :: rest => dropTrivia false rest
  | true, c :: rest => if isPlain c then dropTrivia true rest else .error .controlCharacter
  | false, c :: rest =>
    if isBlank c then dropTrivia false rest
    else if c = '#' then dropTrivia true rest
    else .ok (c :: rest)

/-- Takes at most `n` items and the closing bracket off the front. -/
def readItems {α : Type} (item : Reader α) (close : Char) : (n : Nat) → Reader (List α)
  | 0, _ => .error .expectedSeparator
  | n + 1, s => do
    let s ← dropTrivia false s
    if s.head? = some close then return ([], s.tail)
    let (first, s) ← item s
    let s ← dropTrivia false s
    if s.head? = some close then return ([first], s.tail)
    if s.head? = some ',' then
      let (more, s) ← readItems item close n s.tail
      return (first :: more, s)
    else .error .expectedSeparator

/-- Takes a key, an equals sign and a value off the front; `gap` takes off what may stand around the equals
sign. -/
def readEntry (gap : List Char → Except SyntaxError (List Char)) (value : Reader Value) :
    Reader (DottedKey × Value) := fun s => do
  let (key, s) ← readKey s
  let s ← gap s
  if s.head? = some '=' then
    let s ← gap s.tail
    let (v, s) ← value s
    return ((key, v), s)
  else .error .expectedEquals

/-- The table that keys with their values make up. -/
def tableOf (items : List (DottedKey × Value)) : Except SyntaxError Table :=
  let put := fun (entries : Entries) (item : DottedKey × Value) =>
    entries.put item.1.path item.1.name item.2
  (items.foldlM put []).map closeEntries

/-- Takes a value off the front in which arrays and inline tables are nested at most `depth` deep. -/
def readNested : (depth : Nat) → Reader Value
  | depth, s => match readQuoted? s, depth, s with
    | some r, _, _ => r.map fun (text, rest) => (.text text, rest)
    | none, 0, '[' :: _ => .error .tooDeep
    | none, 0, '\x7b' :: _ => .error .tooDeep
    | none, depth + 1, '[' :: s => do
      let (items, s) ← readItems (readNested depth) ']' (s.length + 1) s
      return (.array items, s)
    | none, depth + 1, '\x7b' :: s => do
      let (items, s) ← readItems (readEntry (dropTrivia false) (readNested depth)) '\x7d' (s.length + 1) s
      return (.table (← tableOf items), s)
    | none, _, s => readScalar s

/-- How deep arrays and inline tables may be nested. -/
def nestingLimit : Nat := 80

/-- Takes a value off the front. -/
def readValue : Reader Value := readNested nestingLimit

end Toml
end DocPortal
