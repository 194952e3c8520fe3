import DocPortal.Config.Expansion
import DocPortal.Config.Validation
import DocPortal.FileSystem.Failure
import DocPortal.Toml.Shape
import DocPortal.Toml.SyntaxError

/-!
# Why a configuration cannot be loaded
-/

namespace DocPortal

/-- What kept a configuration from being loaded. -/
inductive ConfigError where
  /-- The file that was asked for does not exist. -/
  | notFound (path : Path)
  | unreadable (f : Failure)
  /-- The file is no TOML document. -/
  | notToml (e : Toml.SyntaxError)
  /-- The document does not fit. -/
  | misshapen (e : Toml.ShapeError)
  | invalid (fault : PortalFault)
  | reference (e : ReferenceError)
  deriving Repr

/-- The message of a configuration error. -/
def ConfigError.message : ConfigError → String
  | notFound path => s!"Configuration file not found: {path.display}"
  | unreadable f => s!"I/O error: {f.text}"
  | notToml e => s!"TOML parse error: {e.message}"
  | misshapen e => s!"TOML parse error: {e.message}"
  | invalid fault => s!"Configuration error: {fault.message}"
  | reference e => s!"Environment variable error in {e.field.name}: {e.fault.message}"

end DocPortal
