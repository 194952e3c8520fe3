import DocPortal.Toml.Scalar

/-!
# Quoted texts

Text stands between double quotes with escapes or between single quotes without, on one line or, between
tripled quotes, on several. A line break right after an opening tripled quote does not count. Before a
closing tripled quote up to two quotes belong to the text.
-/

namespace DocPortal
namespace Toml

open Text (isDigitIn ofDigits)

/-- Whether a character may stand unescaped: a tab, or no control character. -/
def isPlain (c : Char) : Bool := c = '\t' || (0x20 ≤ c.toNat && c.toNat ≠ 0x7F)

/-- The character whose number is given by exactly `n` digits in base sixteen. -/
def hexChar? (n : Nat) (s : List Char) : Option Char :=
  let digits := s.take n
  let value := ofDigits 16 digits
  if digits.length = n ∧ digits.all (isDigitIn 16) ∧ value.isValidChar then some (.ofNat value)
  else none

/-- The character that an escape stands for, and how many characters follow the backslash. -/
def escape? : List Char → Option (Char × Nat)
  | 'b' :: _ => some ('\x08', 1)
  | 'e' :: _ => some ('\x1b', 1)
  | 'f' :: _ => some ('\x0c', 1)
  | 'n' :: _ => some ('\n', 1)
  | 'r' :: _ => some ('\r', 1)
  | 't' :: _ => some ('\t', 1)
  | '"' :: _ => some ('"', 1)
  | '\\' :: _ => some ('\\', 1)
  | 'x' :: s => (hexChar? 2 s).map (·, 3)
  | 'u' :: s => (hexChar? 4 s).map (·, 5)
  | 'U' :: s => (hexChar? 8 s).map (·, 9)
  | _ => none

/-- Puts a character in front of a text that was read. -/
def prepend (c : Char) : List Char × List Char → List Char × List Char
  | (text, rest) => (c :: text, rest)

/-- The text up to a double quote on the same line. -/
def readBasic : Reader (List Char)
  | [] => .error .unterminatedText
  | '"' :: rest => .ok ([], rest)
  | '\\' :: rest => match escape? rest with
    | none => .error .invalidEscape
    | some (c, n) => (readBasic (rest.drop n)).map (prepend c)
  | '\n' :: _ => .error .unterminatedText
  | c :: rest => if isPlain c then (readBasic rest).map (prepend c) else .error .controlCharacter
termination_by s => s.length
decreasing_by all_goals simp only [List.length_cons, List.length_drop]; omega

/-- The text up to a single quote on the same line. -/
def readLiteral : Reader (List Char)
  | [] => .error .unterminatedText
  | c :: rest =>
    if c = '\'' then .ok ([], rest)
    else if c = '\n' then .error .unterminatedText
    else if isPlain c then (readLiteral rest).map (prepend c)
    else .error .controlCharacter

/-- The text without a line break at its front. -/
def dropLineBreak : List Char → List Char
  | '\n' :: rest => rest
  | '\r' :: '\n' :: rest => rest
  | s => s

/-- Whether a text starts with a line break. -/
def startsLine : List Char → Bool
  | '\n' :: _ => true
  | '\r' :: '\n' :: _ => true
  | _ => false

/-- The quotes that belong to a text after its closing tripled quote was found: two at most. -/
def closingQuotes (quote : Char) : List Char → List Char × List Char
  | c :: d :: rest =>
    if c = quote ∧ d = quote then ([quote, quote], rest)
    else if c = quote then ([quote], d :: rest)
    else ([], c :: d :: rest)
  | [c] => if c = quote then ([quote], []) else ([], [c])
  | [] => ([], [])

/-- The text after blanks and line breaks. -/
def dropBlankLines : List Char → List Char
  | ' ' :: rest => dropBlankLines rest
  | '\t' :: rest => dropBlankLines rest
  | '\n' :: rest => dropBlankLines rest
  | '\r' :: '\n' :: rest => dropBlankLines rest
  | s => s

theorem length_dropBlankLines_le (s : List Char) : (dropBlankLines s).length ≤ s.length := by
  fun_induction dropBlankLines s <;> simp_all <;> omega

/-- The text up to a tripled double quote. A backslash at the end of a line takes away the line break and
all blanks and line breaks after it. -/
def readBasicLines : Reader (List Char)
  | [] => .error .unterminatedText
  | '"' :: '"' :: '"' :: rest => .ok (closingQuotes '"' rest)
  | '\\' :: rest =>
    have := length_dropBlankLines_le rest
    if startsLine (rest.dropWhile isBlank) then readBasicLines (dropBlankLines rest)
    else match escape? rest with
      | none => .error .invalidEscape
      | some (c, n) => (readBasicLines (rest.drop n)).map (prepend c)
  | c :: rest =>
    if isPlain c || startsLine (c :: rest) then (readBasicLines rest).map (prepend c)
    else .error .controlCharacter
termination_by s => s.length
decreasing_by all_goals simp only [List.length_cons, List.length_drop]; omega

/-- The text up to a tripled single quote. -/
def readLiteralLines : Reader (List Char)
  | [] => .error .unterminatedText
  | '\'' :: '\'' :: '\'' :: rest => .ok (closingQuotes '\'' rest)
  | c :: rest =>
    if isPlain c || startsLine (c :: rest) then (readLiteralLines rest).map (prepend c)
    else .error .controlCharacter

/-- Takes a quoted text off the front, if one stands there. -/
def readQuoted? : List Char → Option (Except SyntaxError (String × List Char))
  | '"' :: '"' :: '"' :: rest => some (finish (readBasicLines (dropLineBreak rest)))
  | '\'' :: '\'' :: '\'' :: rest => some (finish (readLiteralLines (dropLineBreak rest)))
  | '"' :: rest => some (finish (readBasic rest))
  | '\'' :: rest => some (finish (readLiteral rest))
  | _ => none
where
  /-- The characters of a text put together. -/
  finish (r : Except SyntaxError (List Char × List Char)) : Except SyntaxError (String × List Char) :=
    r.map fun (text, rest) => (.ofList text, rest)

end Toml
end DocPortal
