import DocPortal.Command.Outcome
import DocPortal.Environment
import DocPortal.Pattern.Fault

/-!
# Filters of the log

A variable says which parts of the program keep a log. Its value is a list of directives with commas between them.
A directive is a level, or the name of a target; a target, a span in square brackets, or both may be followed by an
equals sign and a level. A span may be described by a field that it has, in braces, with the value of the field after
an equals sign: a number or a pattern. A directive that cannot be read is ignored, and the user is told so.
-/

namespace DocPortal
namespace LogFilter

/-- The variable that holds the directives. -/
def variableName : String := "RUST_LOG"

/-- Why a directive is ignored. -/
inductive Fault where
  | directive
  /-- What follows the equals sign is no level. -/
  | level
  /-- The value of a field is no number, and no automaton is built for it as a pattern. -/
  | field (why : Pattern.Fault)
  deriving DecidableEq, Repr

/-- The message of a fault. -/
def Fault.message : Fault → String
  | directive => "invalid filter directive"
  | level => "error parsing level filter: expected one of \"off\", \"error\", \"warn\", \"info\", \"debug\", "
      ++ "\"trace\", or a number 0-5"
  | field why => s!"invalid field filter: {why.message}"

/-- The names of the levels, from the quietest on; the number of a level is its place. -/
def levelNames : List String := ["off", "error", "warn", "info", "debug", "trace"]

/-- The number that is written with decimal digits, perhaps after a plus sign. -/
def number? (s : List Char) : Option Nat :=
  let digits := if s.head? = some '+' then s.drop 1 else s
  if digits ≠ [] ∧ digits.all Char.isDigit then some (Text.ofDigits 10 digits) else none

/-- Whether a text is a level: the name of one, in letters of either case, or its number. -/
def isLevel (s : List Char) : Bool :=
  (number? s).any (· < levelNames.length) || levelNames.any (·.toList = s.map Char.toLower)

/-- Whether a text is the exponent of a number, or is empty. -/
def isExponent : List Char → Bool
  | [] => true
  | c :: rest =>
    let digits := (Text.splitSign rest).2
    c.toLower = 'e' && digits ≠ [] && digits.all Char.isDigit

/-- Whether a text is a number: an infinity or none, or digits with a point among them or not. -/
def isNumber (s : List Char) : Bool :=
  let body := (Text.splitSign s).2
  let whole := body.takeWhile Char.isDigit
  let rest := body.drop whole.length
  let (fraction, rest) := match rest with
    | '.' :: rest => rest.span Char.isDigit
    | _ => ([], rest)
  (whole ++ fraction ≠ [] && isExponent rest)
    || ["inf", "infinity", "nan"].any (·.toList = body.map Char.toLower)

/-- Checks the field of a span, which has a name and perhaps a value after an equals sign; a second equals sign ends
the value. -/
def checkField (s : List Char) : Except Fault Unit :=
  match s with
  | [] => .error .directive
  | _ =>
    let value := ((s.dropWhile (· ≠ '=')).drop 1).takeWhile (· ≠ '=')
    if isNumber value then .ok ()
    else match Pattern.fault? value with
      | none => .ok ()
      | some why => .error (.field why)

/-- A directive without the blanks at its ends. Each of its characters comes with the one that stands at the same
place in the directive as it is given: the values of fields are made of the latter. -/
abbrev Stripped := List (Char × Char)

/-- The directive without the blanks at its ends. -/
def stripped (directive : List Char) : Stripped := (Text.strip directive).zip directive

/-- Checks what follows an equals sign: a level or nothing. A directive that has blanks at its ends must not have
an equals sign. -/
def checkLevel (padded : Bool) (s : List Char) : Except Fault Unit :=
  if !padded && (s.isEmpty || isLevel s) then .ok () else .error .level

/-- Checks what follows a span. -/
def checkAfterSpan (padded : Bool) : Stripped → Except Fault Unit
  | [] => .ok ()
  | ('=', _) :: level => checkLevel padded (level.map Prod.fst)
  | _ => .error .directive

/-- Checks the field of a span and what follows, from the character after the opening brace on. -/
def checkInBraces (padded : Bool) (s : Stripped) : Except Fault Unit :=
  match s.dropWhile (·.1 ≠ '\x7d') with
  | [] => .error .directive
  | _ :: rest => do
    checkField ((s.takeWhile (·.1 ≠ '\x7d')).map Prod.snd)
    match rest with
    | (']', _) :: rest => checkAfterSpan padded rest
    | _ => .error .directive

/-- Checks a span, from the character after the opening bracket on. -/
def checkSpan (padded : Bool) (s : Stripped) : Except Fault Unit :=
  match s.dropWhile (fun p => p.1 ≠ ']' ∧ p.1 ≠ '\x7b') with
  | [] => .error .directive
  | p :: rest => if p.1 = ']' then checkAfterSpan padded rest else checkInBraces padded rest

/-- Whether the name of a target may start with a character. -/
def startsTarget (c : Char) : Bool := Text.isWord c || c = '-' || c = ':'

/-- Whether the name of a target ends before a character. -/
def endsTarget (c : Char) : Bool := c = '=' || c = '['

/-- Checks a directive that is freed from the blanks at its ends. -/
def checkStripped (padded : Bool) : Stripped → Except Fault Unit
  | [] => .error .directive
  | ('[', _) :: rest => checkSpan padded rest
  | (c, _) :: rest =>
    if !startsTarget c then .error .directive
    else match rest.dropWhile (!endsTarget ·.1) with
      | [] => .ok ()
      | p :: after => if p.1 = '=' then checkLevel padded (after.map Prod.fst) else checkSpan padded after

/-- Checks a directive. -/
def check (s : String) : Except Fault Unit :=
  checkStripped (Text.strip s.toList ≠ s.toList) (stripped s.toList)

/-- The directives that a value lists. Nothing between two commas is no directive. -/
def directives (value : String) : List String := (value.splitOn ",").filter (· ≠ "")

/-- The notice about a directive, if it is ignored. -/
def notice? (directive : String) : Option Notice :=
  match check directive with
  | .ok () => none
  | .error fault => some (.info s!"ignoring `{directive}`: {fault.message}")

/-- The notices about the directives that are ignored. A value that is no text lists none. -/
def notices (env : Environment) : List Notice :=
  match env.text variableName with
  | .ok value => (directives value).filterMap notice?
  | .error _ => []

end LogFilter
end DocPortal
