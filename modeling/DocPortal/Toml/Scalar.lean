import DocPortal.Text.Digit
import DocPortal.Toml.SyntaxError
import DocPortal.Toml.Value

/-!
# Unquoted values

Booleans, integers, floating-point numbers, dates and times are recognised by their whole text. Underscores
stand between digits only, and decimal numbers have no superfluous zero in front. What is recognised as an
integer by its front may still spell no number; it is kept as a numeral that cannot be read.
-/

namespace DocPortal
namespace Toml

open Text (isDigitIn ofDigits splitSign)

/-- Whether a character is a space or a tab. -/
def isBlank (c : Char) : Bool := c = ' ' || c = '\t'

/-- Whether a text starts with a digit. -/
def startsWithDigit (isDigit : Char → Bool) : List Char → Bool
  | c :: _ => isDigit c
  | [] => false

/-- Whether every underscore stands between digits; `follows` tells that a digit stands in front. -/
def spaced (isDigit : Char → Bool) : (follows : Bool) → List Char → Bool
  | _, [] => true
  | follows, c :: rest =>
    if c = '_' then follows && startsWithDigit isDigit rest && spaced isDigit false rest
    else spaced isDigit (isDigit c) rest

/-- A numeral without its underscores. -/
def dropUnderscores (s : List Char) : List Char := s.filter (· ≠ '_')

/-- Whether an integer fits into 128 bits, with or without a sign. -/
def fits (n : Int) : Bool := -(Nat.pow 2 127 : Int) ≤ n && n < (Nat.pow 2 128 : Int)

/-- The integer that digits spell, as far as they do. -/
def integerOf (base : Nat) (negative : Bool) (digits : List Char) : Value :=
  let n : Int := if negative then -(ofDigits base digits : Int) else ofDigits base digits
  if digits ≠ [] ∧ digits.all (isDigitIn base) ∧ fits n then .integer n else .unreadable

/-- An integer in another base than ten, after its mark. The digits may be missing. -/
def basedInteger? (base : Nat) (s : List Char) : Option Value :=
  if s.all (fun c => isDigitIn base c || c = '_') && spaced (isDigitIn 16) false s then
    some (integerOf base false (dropUnderscores s))
  else none

/-- A decimal integer after its sign. -/
def decimalInteger? (negative : Bool) (s : List Char) : Option Value :=
  if s ≠ [] ∧ (s = ['0'] ∨ s.head? ≠ some '0') ∧ spaced (isDigitIn 16) false s then
    some (integerOf 10 negative (dropUnderscores s))
  else none

/-- Takes a run of digits and underscores with a digit in it off the front. -/
def digitRun? (s : List Char) : Option (List Char × List Char) :=
  let (front, rest) := s.span fun c => c.isDigit || c = '_'
  if front.any Char.isDigit then some (front, rest) else none

/-- Whether a character starts the exponent of a number. -/
def isExponentMark (c : Char) : Bool := c = 'e' || c = 'E'

/-- The exponent that is a whole text, sign included. -/
def exponent? (s : List Char) : Option Int :=
  let (negative, body) := splitSign s
  match digitRun? body with
  | some (digits, []) =>
    let n := ofDigits 10 (dropUnderscores digits)
    some (if negative then -(n : Int) else n)
  | _ => none

/-- The decimal that an unsigned floating-point number spells: digits with a fraction, an exponent, or
both. -/
def decimal? (s : List Char) : Option Decimal := do
  let (whole, rest) ← digitRun? s
  guard (whole.head? ≠ some '0' ∨ (dropUnderscores whole).length = 1)
  let (fraction, rest) ← match rest with
    | '.' :: rest => digitRun? rest
    | rest => some ([], rest)
  let exponent ← match rest with
    | [] => some 0
    | c :: rest => if isExponentMark c then exponent? rest else none
  let fraction := dropUnderscores fraction
  return ⟨ofDigits 10 (dropUnderscores whole ++ fraction), exponent - fraction.length⟩

/-- A floating-point number after its sign. -/
def float? (negative : Bool) (s : List Char) : Option Value :=
  if spaced Char.isDigit false s then
    (decimal? s).map fun d => match d.nearest? with
      | some x => .float (.finite negative x)
      | none => .unreadable
  else none

/-- A number of exactly `n` digits, and what follows. -/
def fixedNumber? (n : Nat) (s : List Char) : Option (Nat × List Char) :=
  let digits := s.take n
  if digits.length = n ∧ digits.all Char.isDigit then some (ofDigits 10 digits, s.drop n) else none

/-- The text after a given character. -/
def after? (c : Char) : List Char → Option (List Char)
  | d :: rest => if c = d then some rest else none
  | [] => none

/-- The number of days in a month. -/
def daysIn (year month : Nat) : Nat :=
  if month = 2 then if year % 4 = 0 ∧ (year % 100 ≠ 0 ∨ year % 400 = 0) then 29 else 28
  else if month ∈ [4, 6, 9, 11] then 30
  else 31

/-- A day that is in the calendar, and what follows. -/
def date? (s : List Char) : Option (Date × List Char) := do
  let (year, s) ← fixedNumber? 4 s
  let (month, s) ← fixedNumber? 2 (← after? '-' s)
  let (day, s) ← fixedNumber? 2 (← after? '-' s)
  guard (1 ≤ month ∧ month ≤ 12 ∧ 1 ≤ day ∧ day ≤ daysIn year month)
  return (⟨year, month, day⟩, s)

/-- The nanoseconds of a fraction; digits past the ninth do not count. -/
def nanoseconds (digits : List Char) : Nat :=
  ofDigits 10 ((digits ++ List.replicate 9 '0').take 9)

/-- A time of day, and what follows. Seconds may be left out, and a minute may have a leap second. -/
def time? (s : List Char) : Option (Time × List Char) := do
  let (hour, s) ← fixedNumber? 2 s
  let (minute, s) ← fixedNumber? 2 (← after? ':' s)
  guard (hour ≤ 23 ∧ minute ≤ 59)
  match s with
  | ':' :: s =>
    let (second, s) ← fixedNumber? 2 s
    guard (second ≤ 60)
    match s with
    | '.' :: s =>
      let (digits, s) := s.span Char.isDigit
      guard (digits ≠ [])
      return (⟨hour, minute, some second, some (nanoseconds digits)⟩, s)
    | s => return (⟨hour, minute, some second, none⟩, s)
  | s => return (⟨hour, minute, none, none⟩, s)

/-- An offset that is the whole text. -/
def offset? : List Char → Option Offset
  | ['Z'] | ['z'] => some .utc
  | sign :: s => do
    guard (sign = '+' ∨ sign = '-')
    let (hours, s) ← fixedNumber? 2 s
    let (minutes, s) ← fixedNumber? 2 (← after? ':' s)
    guard (hours ≤ 23 ∧ minutes ≤ 59 ∧ s = [])
    let total : Int := hours * 60 + minutes
    return .minutes (if sign = '-' then -total else total)
  | [] => none

/-- A date, a time, or both with or without an offset. -/
def dateTime? (s : List Char) : Option DateTime :=
  match date? s with
  | some (date, []) => some ⟨some date, none, none⟩
  | some (date, mark :: s) => do
    guard (mark = 'T' ∨ mark = 't' ∨ mark = ' ')
    let (time, s) ← time? s
    if s = [] then return ⟨some date, some time, none⟩
    else return ⟨some date, some time, ← offset? s⟩
  | none => match time? s with
    | some (time, []) => some ⟨none, some time, none⟩
    | _ => none

/-- A date, a time or a number in base ten; what follows the first digits tells which. -/
def decimalValue? (s : List Char) : Option Value :=
  let (negative, body) := splitSign s
  match body.dropWhile Char.isDigit with
  | [] => decimalInteger? negative body
  | c :: rest =>
    if c = '-' ∨ c = ':' then (dateTime? s).map .dateTime
    else if ' ' ∈ c :: rest then none
    else if (c :: rest).any fun c => c = '.' || isExponentMark c then float? negative body
    else if c = '_' then decimalInteger? negative body
    else none

/-- The value that an unquoted text spells. -/
def scalar? : List Char → Option Value
  | [] => none
  | '0' :: 'x' :: s => basedInteger? 16 s
  | '0' :: 'o' :: s => basedInteger? 8 s
  | '0' :: 'b' :: s => basedInteger? 2 s
  | s =>
    let (negative, body) := splitSign s
    if s = "true".toList then some (.boolean true)
    else if s = "false".toList then some (.boolean false)
    else if body = "inf".toList then some (.float (.infinite negative))
    else if body = "nan".toList then some (.float .nan)
    else decimalValue? s

/-- Whether a character ends a word of an unquoted value. -/
def endsWord (c : Char) : Bool := c ∈ " \t\r\n#=,[]\x7b\x7d".toList

/-- Whether a character starts another word of an unquoted value. -/
def startsWord (c : Char) : Bool := !endsWord c && c ∉ ".'\"".toList

/-- Takes the words of an unquoted value off the front of a text, with the blanks between them. -/
def splitWords : List Char → List Char × List Char
  | [] => ([], [])
  | c :: rest =>
    if !endsWord c || isBlank c && (rest.dropWhile isBlank).head?.any startsWord then
      (splitWords rest).map (c :: ·) id
    else ([], c :: rest)

/-- Takes an unquoted value off the front of a text. -/
def readScalar : Reader Value := fun s =>
  let (words, rest) := splitWords s
  match scalar? words with
  | some v => .ok (v, rest)
  | none => .error .expectedValue

end Toml
end DocPortal
