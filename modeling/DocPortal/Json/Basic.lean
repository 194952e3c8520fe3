import DocPortal.Text.Digit

/-!
# JSON values

An object keeps its members in order and keeps members with the same key apart, since attribute lists may
repeat a name. A number is kept as it is spelled.
-/

namespace DocPortal
namespace Json

/-- One digit or more. -/
def isDigits (s : List Char) : Bool := !s.isEmpty && s.all Char.isDigit

/-- Whether a text is a whole number without needless zeros and perhaps a fraction after a point. -/
def isMantissa (s : List Char) : Bool :=
  let whole := s.takeWhile (· ≠ '.')
  let fraction := s.dropWhile (· ≠ '.')
  isDigits whole && (whole = ['0'] || whole.head? ≠ some '0') &&
    (fraction.isEmpty || isDigits fraction.tail)

/-- Whether a character does not begin an exponent. -/
def isBeforeExponent (c : Char) : Bool := c ≠ 'e' && c ≠ 'E'

/-- Whether a text is a numeral: a mantissa, with a minus or not, and perhaps an exponent, with a sign or
not. -/
def isNumeral (s : List Char) : Bool :=
  let unsigned := if s.head? = some '-' then s.tail else s
  let exponent := unsigned.dropWhile isBeforeExponent
  isMantissa (unsigned.takeWhile isBeforeExponent) &&
    (exponent.isEmpty || isDigits (Text.splitSign exponent.tail).2)

/-- A numeral. -/
structure Numeral where
  spelled : List Char
  isNumeral : isNumeral spelled = true
  deriving DecidableEq, Repr

end Json

/-- A JSON value. -/
inductive Json where
  | null
  | boolean (b : Bool)
  | number (n : Json.Numeral)
  | text (s : String)
  | array (items : List Json)
  | object (members : List (String × Json))
  deriving Repr

namespace Json

/-- The array of texts. -/
def texts (ss : List String) : Json := .array (ss.map .text)

end Json
end DocPortal
