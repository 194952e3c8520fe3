import DocPortal.Config.Field
import DocPortal.Config.Portal
import DocPortal.Config.Template

/-!
# Expanding a portal

Texts of a portal that point at places of a deployment may refer to variables: the base, the logo, the
repository, the source directory, attribute values, link targets and section directories, in this order. All
other texts stay as they were written.
-/

namespace DocPortal

/-- A reference that cannot be expanded, and the field it stands in. -/
structure ReferenceError where
  field : Field
  fault : VariableFault
  deriving DecidableEq, Repr

/-- Expands the text of a field. -/
def expandField (env : Environment) (field : Field) (s : String) : Except ReferenceError String :=
  (Template.expand env s).mapError fun fault => ⟨field, fault⟩

namespace HeadTag

/-- Expands the attribute values of the head tag with a number. -/
def expand (env : Environment) (i : Nat) (t : HeadTag) : Except ReferenceError HeadTag := do
  let attrs ← t.attrs.mapM fun (key, v) => (expandField env (.headAttr i key) v).map (key, ·)
  return { t with attrs }

end HeadTag

namespace NavLink

/-- Expands the target of the link with a number. -/
def expand (env : Environment) (i : Nat) (l : NavLink) : Except ReferenceError NavLink := do
  let link ← expandField env (.navLink i) l.link
  return { l with link }

end NavLink

namespace SectionEntry

/-- Expands the directory of the section with a number. -/
def expand (env : Environment) (i : Nat) (s : SectionEntry String) :
    Except ReferenceError (SectionEntry String) := do
  let dir ← expandField env (.sectionDir i) s.dir
  return s.withDir dir

end SectionEntry

namespace Portal

/-- Expands the source directory, if there is one. -/
def expandSourceDir (env : Environment) : Option String → Except ReferenceError (Option String)
  | none => .ok none
  | some dir => (expandField env .sourceDir dir).map some

/-- Expands all references of a portal; the first field that fails is reported. -/
def expand (env : Environment) (p : Portal) : Except ReferenceError Portal := do
  let base ← expandField env .siteBase p.site.base
  let logo ← expandField env .themeLogo p.theme.logo
  let repo ← expandField env .themeRepo p.theme.repo
  let sourceDir? ← expandSourceDir env p.sourceDir?
  let head ← p.head.zipIdx.mapM fun (tag, i) => tag.expand env i
  let navbar ← p.theme.navbar.zipIdx.mapM fun (link, i) => link.expand env i
  let sections ← p.sections.zipIdx.mapM fun (s, i) => s.expand env i
  return {
    site := { p.site with base }
    head
    theme := { p.theme with logo, repo, navbar }
    sections
    sourceDir? }

end Portal
end DocPortal
