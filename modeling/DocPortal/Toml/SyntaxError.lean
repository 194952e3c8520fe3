/-!
# Why a text is no TOML document
-/

namespace DocPortal
namespace Toml

/-- The first fault of a text that is no TOML document. -/
inductive SyntaxError where
  /-- A key is missing or not closed. -/
  | expectedKey
  /-- The equals sign after a key is missing. -/
  | expectedEquals
  /-- A value is missing, or an unquoted one is none of a boolean, a number or a date. -/
  | expectedValue
  /-- Something other than a comment follows on a line. -/
  | expectedLineEnd
  /-- A comma or a closing bracket is missing. -/
  | expectedSeparator
  /-- The brackets of a table header do not close. -/
  | unclosedHeader
  | unterminatedText
  | invalidEscape
  /-- A control character stands unescaped. -/
  | controlCharacter
  /-- Arrays and inline tables are nested too deeply, or a key has too many parts. -/
  | tooDeep
  /-- A key or a table is given twice. -/
  | duplicateKey (key : String)
  /-- A key leads into something that is no open table. -/
  | closedTable (key : String)
  deriving DecidableEq, Repr

namespace SyntaxError

/-- The message of a syntax error. -/
def message : SyntaxError → String
  | expectedKey => "expected a key"
  | expectedEquals => "expected an equals sign after a key"
  | expectedValue => "expected a value"
  | expectedLineEnd => "expected the end of the line"
  | expectedSeparator => "expected a comma or a closing bracket"
  | unclosedHeader => "unclosed table header"
  | unterminatedText => "unterminated text"
  | invalidEscape => "invalid escape"
  | controlCharacter => "control character in the document"
  | tooDeep => "values or keys are nested too deeply"
  | duplicateKey key => s!"duplicate key {key}"
  | closedTable key => s!"cannot extend {key}"

end SyntaxError

/-- A reader takes a value off the front of a text and gives the rest. -/
abbrev Reader (α : Type) := List Char → Except SyntaxError (α × List Char)

end Toml
end DocPortal
