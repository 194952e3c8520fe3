import DocPortal.Config.Basic
import DocPortal.Config.Error
import DocPortal.Config.Read
import DocPortal.Machine
import DocPortal.Toml.Document

/-!
# Loading a configuration

A configuration comes from the file that is asked for, or from the nearest configuration file in the working
directory and above, or else it is the stock portal. A file is read on top of the stock portal, its references
are expanded, its directories resolved and its portal validated.
-/

namespace DocPortal

/-- The portal that a text describes. -/
def Portal.parse (document : String) : Except ConfigError Portal := do
  let table ← (Toml.Table.read document).mapError .notToml
  (Portal.ofTable table).mapError .misshapen

namespace Config

/-- The configuration that a text describes, before references are expanded and directories resolved. -/
def parse (document : String) : Except ConfigError Config :=
  (Portal.parse document).map fun portal => { default with portal }

/-- Refuses a configuration whose portal is not valid. -/
def check (c : Config) : Except ConfigError Config := do
  c.portal.validate.mapError .invalid
  return c

/-- The directory that a configuration file is in, as it is written. -/
def directory (file : Path) : Path := file.parent?.getD (.ofString ".")

/-- The configuration that a text in a file describes. -/
def ofDocument (env : Environment) (file : Path) (document : String) : Except ConfigError Config := do
  let portal ← Portal.parse document
  let portal ← (portal.expand env).mapError .reference
  check { portal.resolve (directory file) with path? := some file }

/-- The configuration in a file. -/
def ofFile (m : Machine) (file : Path) : Except ConfigError Config := do
  let document ← (m.files.readText m.cwd file).mapError .unreadable
  ofDocument m.env file document

/-- The name of a configuration file. -/
def fileName : Path := .ofString "portico.toml"

/-- The nearest configuration file in the working directory and above. -/
def discover? (m : Machine) : Option Path :=
  (m.cwd.path.ancestors.map (·.join fileName)).find? (m.files.leadsSomewhere m.cwd)

/-- The configuration without overrides. -/
def find (m : Machine) : (file : Option Path) → Except ConfigError Config
  | some file =>
    if m.files.leadsSomewhere m.cwd file then ofFile m file else .error (.notFound file)
  | none => match discover? m with
    | some file => ofFile m file
    | none => .ok (stock m.cwd.path)

/-- Loads a configuration. With overrides it is validated once more. -/
def load (m : Machine) (file : Option Path) (overrides : Option Overrides) :
    Except ConfigError Config := do
  let c ← find m file
  match overrides with
  | some o => check (c.override o)
  | none => return c

end Config
end DocPortal
