import DocPortal.Decimal.Binary64

/-!
# TOML values

The values of a TOML document. A table keeps its keys in the order in which they came to stand in the
document, each once. Numbers and dates are kept as what they mean, not as they were spelled; a numeral that
cannot be read is kept as no more than that, and is a fault only for those who look at it.
-/

namespace DocPortal
namespace Toml

/-- A floating-point number. -/
inductive FloatValue where
  | finite (negative : Bool) (magnitude : Binary64)
  | infinite (negative : Bool)
  | nan
  deriving DecidableEq, Repr

namespace FloatValue

/-- The shortest text with a point that is read back as the number. -/
def text : FloatValue → String
  | finite negative magnitude =>
    (if negative then "-" else "") ++ .ofList magnitude.shortest.positional
  | infinite true => "-inf"
  | infinite false => "inf"
  | nan => "NaN"

end FloatValue

/-- A day of the calendar. -/
structure Date where
  year : Nat
  month : Nat
  day : Nat
  deriving DecidableEq, Repr

/-- A time of day; a fraction is given in nanoseconds. -/
structure Time where
  hour : Nat
  minute : Nat
  second : Option Nat
  nanosecond : Option Nat
  deriving DecidableEq, Repr

/-- A distance from universal time. -/
inductive Offset where
  | utc
  | minutes (n : Int)
  deriving DecidableEq, Repr

/-- A date, a time, or both; an offset comes only with both. -/
structure DateTime where
  date : Option Date
  time : Option Time
  offset : Option Offset
  deriving DecidableEq, Repr

/-- A number with zeros in front to at least `width` digits. -/
def padded (width n : Nat) : String :=
  let digits := Nat.toDigits 10 n
  .ofList (List.replicate (width - digits.length) '0' ++ digits)

namespace DateTime

/-- The text of a date. -/
def dateText (d : Date) : String := s!"{padded 4 d.year}-{padded 2 d.month}-{padded 2 d.day}"

/-- The digits of a fraction of a second, without zeros at the end but with at least one digit. -/
def fractionText (nanosecond : Nat) : String :=
  match ((padded 9 nanosecond).toList.reverse.dropWhile (· = '0')).reverse with
  | [] => "0"
  | digits => .ofList digits

/-- The text of a time. -/
def timeText (t : Time) : String :=
  let second := match t.second with
    | some s => s!":{padded 2 s}"
    | none => ""
  let fraction := match t.nanosecond with
    | some n => s!".{fractionText n}"
    | none => ""
  s!"{padded 2 t.hour}:{padded 2 t.minute}" ++ second ++ fraction

/-- The text of an offset. -/
def offsetText : Offset → String
  | .utc => "Z"
  | .minutes n =>
    let sign := if n < 0 then "-" else "+"
    s!"{sign}{padded 2 (n.natAbs / 60)}:{padded 2 (n.natAbs % 60)}"

/-- The text of a date-time, with a capital T between date and time. -/
def text (d : DateTime) : String :=
  let date := (d.date.map dateText).getD ""
  let between := if d.date.isSome && d.time.isSome then "T" else ""
  let time := (d.time.map timeText).getD ""
  let offset := (d.offset.map offsetText).getD ""
  date ++ between ++ time ++ offset

end DateTime

/-- A value of a document. -/
inductive Value where
  | text (s : String)
  | integer (n : Int)
  | float (x : FloatValue)
  /-- A numeral that cannot be read: it is too large, lacks its digits or mixes others with them. -/
  | unreadable
  | boolean (b : Bool)
  | dateTime (d : DateTime)
  | array (items : List Value)
  | table (entries : List (String × Value))
  deriving Repr

/-- The entries of a table, in document order. -/
abbrev Table := List (String × Value)

end Toml
end DocPortal
