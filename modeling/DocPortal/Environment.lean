import DocPortal.Text.Utf8

/-!
# Environment variables

Variables have names that are text and values that are bytes. A variable is kept as one assignment, its name
and its value with an equals sign between them, and is looked up by what stands in front of an equals sign, be
it the first one or a later one: where `A` is set to `B=C`, a reader that asks for `A=B` is given `C`. Most
readers need a value that is text.
-/

namespace DocPortal

/-- The variables that are set, with their values. -/
abbrev Environment := List (String × Bytes)

/-- Why a variable has no text for a value. -/
inductive VariableFault where
  | unset (name : String)
  /-- The value is not UTF-8. -/
  | notText (name : String)
  deriving DecidableEq, Repr

/-- The message of a variable fault. -/
def VariableFault.message : VariableFault → String
  | unset name => "$\x7b" ++ name ++ "\x7d not set"
  | notText name => "$\x7b" ++ name ++ "\x7d is not valid UTF-8"

namespace Environment

/-- What stands after a beginning of some bytes, if they begin so. -/
def after? (start bytes : Bytes) : Option Bytes :=
  if start.isPrefixOf bytes then some (bytes.drop start.length) else none

/-- The assignment of a variable in bytes. -/
def assignment (name : String) (value : Bytes) : Bytes := Text.encode name ++ 0x3D :: value

/-- The bytes that a variable is set to. No variable has an empty name or one with a zero character. -/
def bytes? (env : Environment) (name : String) : Option Bytes :=
  if name = "" ∨ '\x00' ∈ name.toList then none
  else env.findSome? fun (key, value) => after? (assignment name []) (assignment key value)

/-- The text that a variable is set to. -/
def text (env : Environment) (name : String) : Except VariableFault String :=
  match env.bytes? name with
  | none => .error (.unset name)
  | some b => match Text.decode? b with
    | none => .error (.notText name)
    | some s => .ok s

end Environment
end DocPortal
