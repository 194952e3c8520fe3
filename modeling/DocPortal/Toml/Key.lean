import DocPortal.Toml.Quoted

/-!
# Keys

A key has one or more parts with points between them, which lead from table to table. A part is bare or
quoted on one line. The number of parts is limited.
-/

namespace DocPortal
namespace Toml

/-- A key: the tables on the way and the name in the last of them. -/
structure DottedKey where
  path : List String
  name : String
  deriving DecidableEq, Repr

namespace DottedKey

/-- All parts of a key, in order. -/
def parts (k : DottedKey) : List String := k.path ++ [k.name]

/-- The key with one more part in front. -/
def within (part : String) (k : DottedKey) : DottedKey := { k with path := part :: k.path }

end DottedKey

/-- Whether a character may stand in a bare key. -/
def isBare (c : Char) : Bool := c.isAlphanum || c = '_' || c = '-'

/-- Takes one part of a key off the front. -/
def readPart : Reader String
  | '"' :: '"' :: '"' :: _ => .error .expectedKey
  | '\'' :: '\'' :: '\'' :: _ => .error .expectedKey
  | '"' :: rest => (readBasic rest).map fun (text, rest) => (.ofList text, rest)
  | '\'' :: rest => (readLiteral rest).map fun (text, rest) => (.ofList text, rest)
  | s =>
    let (front, rest) := s.span isBare
    if front = [] then .error .expectedKey else .ok (.ofList front, rest)

/-- How many parts a key may have. -/
def partLimit : Nat := 80

/-- Takes a key of at most `n` parts off the front, and the blanks after it. -/
def readParts : (n : Nat) → Reader DottedKey
  | 0, _ => .error .tooDeep
  | n + 1, s => do
    let (part, rest) ← readPart s
    match rest.dropWhile isBlank with
    | '.' :: rest =>
      let (key, rest) ← readParts n (rest.dropWhile isBlank)
      return (key.within part, rest)
    | rest => return (⟨[], part⟩, rest)

/-- Takes a key off the front, and the blanks around it. -/
def readKey : Reader DottedKey := fun s => readParts partLimit (s.dropWhile isBlank)

end Toml
end DocPortal
