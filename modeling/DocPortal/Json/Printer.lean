import DocPortal.Json.Basic

/-!
# Writing JSON

A value is written with or without insignificant whitespace. A layout says what stands before each item of
an array or object, before its closing bracket, and after a colon; brackets, commas and literals are the
same in every layout. Empty arrays and objects have no inside and so no whitespace.
-/

namespace DocPortal
namespace Json

/-- A digit in base sixteen, lower case. -/
def hexDigit (n : Nat) : Char := Nat.digitChar (n % 16)

/-- A character inside a string literal: quotes, backslashes and control characters are escaped. -/
def escapedChar (c : Char) : List Char :=
  if c = '"' then ['\\', '"']
  else if c = '\\' then ['\\', '\\']
  else if c = '\x08' then ['\\', 'b']
  else if c = '\x0c' then ['\\', 'f']
  else if c = '\n' then ['\\', 'n']
  else if c = '\r' then ['\\', 'r']
  else if c = '\t' then ['\\', 't']
  else if c.toNat < 0x20 then ['\\', 'u', '0', '0', hexDigit (c.toNat / 16), hexDigit c.toNat]
  else [c]

/-- A string literal. -/
def literal (s : String) : List Char := '"' :: s.toList.flatMap escapedChar ++ ['"']

/-- Where whitespace stands. -/
structure Layout where
  /-- Before an item, and before a closing bracket, at a depth. -/
  lineBreak : Nat → List Char
  /-- After the colon of a member. -/
  afterColon : List Char

namespace Layout

/-- No whitespace. -/
def compact : Layout := ⟨fun _ => [], []⟩

/-- A line for each item, indented by two spaces for each depth. -/
def indented : Layout := ⟨fun depth => '\n' :: List.replicate (2 * depth) ' ', [' ']⟩

end Layout

mutual

/-- The text of a value at a depth. -/
def render (l : Layout) (depth : Nat) : Json → List Char
  | .null => "null".toList
  | .boolean true => "true".toList
  | .boolean false => "false".toList
  | .number n => n.spelled
  | .text s => literal s
  | .array [] => ['[', ']']
  | .array (x :: xs) =>
    '[' :: l.lineBreak (depth + 1) ++ render l (depth + 1) x ++ renderItems l (depth + 1) xs ++
      l.lineBreak depth ++ [']']
  | .object [] => ['\x7b', '\x7d']
  | .object ((k, v) :: ms) =>
    '\x7b' :: l.lineBreak (depth + 1) ++ literal k ++ ':' :: l.afterColon ++
      render l (depth + 1) v ++ renderMembers l (depth + 1) ms ++ l.lineBreak depth ++ ['\x7d']

/-- The texts of further items, each after a comma. -/
def renderItems (l : Layout) (depth : Nat) : List Json → List Char
  | [] => []
  | x :: xs => ',' :: l.lineBreak depth ++ render l depth x ++ renderItems l depth xs

/-- The texts of further members, each after a comma. -/
def renderMembers (l : Layout) (depth : Nat) : List (String × Json) → List Char
  | [] => []
  | (k, v) :: ms =>
    ',' :: l.lineBreak depth ++ literal k ++ ':' :: l.afterColon ++ render l depth v ++
      renderMembers l depth ms

end

/-- The text without whitespace. -/
def compact (j : Json) : String := .ofList (j.render .compact 0)

/-- The text with a line for each item. -/
def pretty (j : Json) : String := .ofList (j.render .indented 0)

end Json
end DocPortal
