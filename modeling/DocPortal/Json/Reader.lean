import DocPortal.Json.Basic

/-!
# Reading JSON

A JSON text is one value with blanks around it. Everything is read off the front of what is left of the
text, and a text counts only if all of it is read. Between two tokens blanks may stand. A character of a
text literal may be escaped, by a letter or by its one or two units of sixteen bits.
-/

namespace DocPortal
namespace Json

/-- Reads something off the front of a text. -/
abbrev Reader (α : Type) := List Char → Option (α × List Char)

/-! ## Blanks and words -/

/-- Whether a character may stand between tokens. -/
def isBlank (c : Char) : Bool := c = ' ' || c = '\t' || c = '\n' || c = '\r'

/-- What is left after blanks. -/
def skipBlanks (s : List Char) : List Char := s.dropWhile isBlank

/-- Whether a character belongs to words, which are the tokens that no mark begins and ends. -/
def isWordChar (c : Char) : Bool := c.isAlphanum || c = '+' || c = '-' || c = '.'

/-- The value that a word stands for. -/
def ofWord? (word : List Char) : Option Json :=
  if word = "null".toList then some .null
  else if word = "true".toList then some (.boolean true)
  else if word = "false".toList then some (.boolean false)
  else if h : isNumeral word = true then some (.number ⟨word, h⟩)
  else none

/-- Reads a value that is a word. -/
def readWord : Reader Json := fun s =>
  (ofWord? (s.takeWhile isWordChar)).map (·, s.dropWhile isWordChar)

/-! ## Text literals -/

/-- Whether a character may stand in a text literal as it is. -/
def isPlain (c : Char) : Bool := c ≠ '"' && c ≠ '\\' && 0x20 ≤ c.toNat

/-- The letters of escapes and what they stand for. -/
def escapes : List (Char × Char) :=
  [('"', '"'), ('\\', '\\'), ('/', '/'), ('b', '\x08'), ('f', '\x0c'), ('n', '\n'), ('r', '\r'),
    ('t', '\t')]

/-- The units of sixteen bits that stand for a character. -/
def units (c : Char) : List Nat :=
  if c.toNat < 0x10000 then [c.toNat]
  else [0xD800 + (c.toNat - 0x10000) / 0x400, 0xDC00 + (c.toNat - 0x10000) % 0x400]

/-- The number of the character that units stand for, if they stand for one. -/
def scalar : List Nat → Nat
  | [n] => n
  | [high, low] => (high - 0xD800) * 0x400 + (low - 0xDC00) + 0x10000
  | _ => 0

/-- The character that units stand for. -/
def ofUnits? (ns : List Nat) : Option Char :=
  if units (.ofNat (scalar ns)) = ns then some (.ofNat (scalar ns)) else none

/-- Reads the escape of one unit. -/
def readUnit : Reader Nat
  | '\\' :: 'u' :: a :: b :: c :: d :: s =>
    if [a, b, c, d].all (Text.isDigitIn 16) then some (Text.ofDigits 16 [a, b, c, d], s) else none
  | _ => none

/-- Reads a character that is not escaped by units. -/
def readPlain : Reader Char
  | '\\' :: e :: s => (escapes.lookup e).map (·, s)
  | c :: s => if isPlain c then some (c, s) else none
  | [] => none

/-- Reads one character of a text literal. -/
def readChar : Reader Char := fun s =>
  match readUnit s with
  | some (n, s) => match ofUnits? [n] with
    | some c => some (c, s)
    | none => do
      let (m, s) ← readUnit s
      let c ← ofUnits? [n, m]
      return (c, s)
  | none => readPlain s

/-- Reads at most `n` characters, and the closing quote. -/
def readChars : (n : Nat) → Reader (List Char)
  | 0, _ => none
  | _ + 1, '"' :: s => some ([], s)
  | n + 1, s => do
    let (c, s) ← readChar s
    let (cs, s) ← readChars n s
    return (c :: cs, s)

/-- Reads a text literal. -/
def readLiteral : Reader String
  | '"' :: s => do
    let (cs, s) ← readChars s.length s
    return (.ofList cs, s)
  | _ => none

/-! ## Values -/

section

variable {α : Type} (item : Reader α) (close : Char)

/-- Reads at most `n` further items, each after a comma, and the closing bracket. -/
def readFurther : (n : Nat) → Reader (List α)
  | 0, _ => none
  | n + 1, s => match skipBlanks s with
    | [] => none
    | c :: s =>
      if c = close then some ([], s)
      else if c = ',' then do
        let (x, s) ← item (skipBlanks s)
        let (xs, s) ← readFurther n s
        return (x :: xs, s)
      else none

/-- Reads items with commas between them, and the closing bracket. -/
def readListed : Reader (List α) := fun s =>
  let s := skipBlanks s
  if s.head? = some close then some ([], s.tail)
  else do
    let (x, s) ← item s
    let (xs, s) ← readFurther item close s.length s
    return (x :: xs, s)

/-- Reads a member of an object. -/
def readMember : Reader (String × α) := fun s => do
  let (key, s) ← readLiteral s
  match skipBlanks s with
  | ':' :: s => do
    let (value, s) ← item (skipBlanks s)
    return ((key, value), s)
  | _ => none

end

/-- Reads a value that is nested less than `depth` times. -/
def readValue : (depth : Nat) → Reader Json
  | 0, _ => none
  | depth + 1, s => match s with
    | '"' :: _ => (readLiteral s).map fun (x, s) => (.text x, s)
    | '[' :: s => (readListed (readValue depth) ']' s).map fun (xs, s) => (.array xs, s)
    | '\x7b' :: s =>
      (readListed (readMember (readValue depth)) '\x7d' s).map fun (ms, s) => (.object ms, s)
    | s => readWord s

/-- The value that a JSON text stands for. -/
def decode (s : String) : Option Json :=
  match readValue s.toList.length (skipBlanks s.toList) with
  | some (j, rest) => if skipBlanks rest = [] then some j else none
  | none => none

end Json
end DocPortal
