import DocPortal.Config.Field
import DocPortal.Config.Portal

/-!
# Valid portals

A portal is valid if it has no fault. Faults are listed in a fixed order, site first, then head tags, links and
sections; the first one is reported.
-/

namespace DocPortal

/-- What is wrong with a portal. -/
inductive PortalFault where
  | empty (field : Field)
  /-- A route that does not both start and end with a slash. -/
  | notSlashed (field : Field) (value : String)
  | extensions (i : Nat) (e : FilterError)
  deriving DecidableEq, Repr

/-- The message of a fault. -/
def PortalFault.message : PortalFault → String
  | empty field => s!"{field.name} cannot be empty"
  | notSlashed field value =>
    s!"{field.name} must start and end with '/' (got {Text.quoted value})"
  | extensions i e => s!"{(Field.sectionExtensions i).name}: {e.message}"

/-- Whether a text starts and ends with a slash. -/
def isSlashed (s : String) : Bool := s.toList.head? = some '/' && s.toList.getLast? = some '/'

/-- The fault of a field that must not be empty. -/
def emptyFault (field : Field) (s : String) : List PortalFault := if s = "" then [.empty field] else []

/-- The fault of a field that must start and end with a slash. -/
def slashFault (field : Field) (s : String) : List PortalFault :=
  if isSlashed s then [] else [.notSlashed field s]

/-- The faults of a site. -/
def SiteInfo.faults (s : SiteInfo) : List PortalFault :=
  emptyFault .siteTitle s.title ++ slashFault .siteBase s.base

/-- The faults of the link with a number. -/
def NavLink.faults (i : Nat) (l : NavLink) : List PortalFault :=
  emptyFault (.navText i) l.text ++ emptyFault (.navLink i) l.link

/-- The fault of extensions that make no filter. -/
def extensionFault (i : Nat) (extensions : List String) : List PortalFault :=
  match ExtensionFilter.ofList extensions with
  | .ok _ => []
  | .error e => [.extensions i e]

/-- The faults of the section with a number. -/
def SectionEntry.faults (i : Nat) (s : SectionEntry String) : List PortalFault :=
  slashFault (.sectionRoute i) s.route ++ emptyFault (.sectionTitle i) s.title
    ++ emptyFault (.sectionDir i) s.dir ++ extensionFault i s.extensions

namespace Portal

/-- The faults of a portal, in order. -/
def faults (p : Portal) : List PortalFault :=
  p.site.faults ++ p.head.zipIdx.flatMap (fun (tag, i) => emptyFault (.headTag i) tag.tag)
    ++ p.theme.navbar.zipIdx.flatMap (fun (link, i) => link.faults i)
    ++ p.sections.zipIdx.flatMap (fun (s, i) => s.faults i)

/-- Reports the first fault of a portal. -/
def validate (p : Portal) : Except PortalFault Unit :=
  match p.faults with
  | [] => .ok ()
  | fault :: _ => .error fault

theorem validate_eq_ok_iff (p : Portal) : p.validate = .ok () ↔ p.faults = [] := by
  cases h : p.faults <;> simp [validate, h]

end Portal
end DocPortal
