/-!
# Fields of a configuration

Messages name the field that a fault was found in. Elements of lists are counted from zero.
-/

namespace DocPortal

/-- A place in a configuration. -/
inductive Field where
  | siteTitle
  | siteBase
  | themeLogo
  | themeRepo
  | sourceDir
  | headTag (i : Nat)
  | headAttr (i : Nat) (key : String)
  | navText (i : Nat)
  | navLink (i : Nat)
  | sectionRoute (i : Nat)
  | sectionTitle (i : Nat)
  | sectionDir (i : Nat)
  | sectionExtensions (i : Nat)
  deriving DecidableEq, Repr

namespace Field

/-- The name of a field in messages. -/
def name : Field → String
  | siteTitle => "site.title"
  | siteBase => "site.base"
  | themeLogo => "theme.logo"
  | themeRepo => "theme.repo"
  | sourceDir => "docs.source_dir"
  | headTag i => s!"head[{i}].tag"
  | headAttr i key => s!"head[{i}].attrs.{key}"
  | navText i => s!"navbar[{i}].text"
  | navLink i => s!"navbar[{i}].link"
  | sectionRoute i => s!"sidebar[{i}].route"
  | sectionTitle i => s!"sidebar[{i}].title"
  | sectionDir i => s!"sidebar[{i}].dir"
  | sectionExtensions i => s!"sidebar[{i}].extensions"

end Field
end DocPortal
