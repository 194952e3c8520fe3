import DocPortal.Sidebar.Section
import DocPortal.Site.Head

/-!
# Settings of a site

The literal inputs of an assembly: what is copied into the configuration, and the sections to scan.
-/

namespace DocPortal

/-- Theme options. -/
structure Theme where
  logo : String := ""
  navbar : List NavLink := []
  repo : String := ""
  repoLabel : String := ""
  contributors : Bool := false
  editLink : Bool := false
  lastUpdated : Bool := false
  deriving DecidableEq, Repr

namespace Theme

/-- The members that the theme options are written as. -/
def members (t : Theme) : List (String × Json) :=
  [("logo", .text t.logo), ("navbar", .array (t.navbar.map NavLink.toJson)), ("repo", .text t.repo),
    ("repoLabel", .text t.repoLabel), ("contributors", .boolean t.contributors),
    ("editLink", .boolean t.editLink), ("lastUpdated", .boolean t.lastUpdated)]

/-- Theme options by themselves. -/
def toJson (t : Theme) : Json := .object t.members

end Theme

/-- The literal inputs of an assembly. -/
structure SiteSettings where
  base : String := ""
  lang : String := ""
  title : String := ""
  description : String := ""
  head : List HeadTag := []
  editLink : Bool := false
  theme : Theme := {}
  sidebar : List Section := []
  deriving DecidableEq, Repr

end DocPortal
