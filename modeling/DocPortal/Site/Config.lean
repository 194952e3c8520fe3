import DocPortal.Json.Printer
import DocPortal.Site.Settings

/-!
# Site configurations

An assembled configuration holds the settings and the groups of the sidebar by route. Routes are kept in
ascending order, each once.
-/

namespace DocPortal

/-- A group is written with a flag that makes it collapsible. -/
def Group.toJson (g : Group) : Json :=
  .object [("text", .text g.text), ("isGroup", .boolean true), ("children", .texts g.children)]

/-- The groups of each route, routes ascending. -/
abbrev SidebarMap := List (String × List Group)

namespace SidebarMap

/-- Adds a group at the end of a route's list. -/
def add (route : String) (g : Group) : SidebarMap → SidebarMap
  | [] => [(route, [g])]
  | (r, gs) :: rest =>
    if Text.precedes route r then (route, [g]) :: (r, gs) :: rest
    else if route = r then (r, gs ++ [g]) :: rest
    else (r, gs) :: add route g rest

/-- The groups under a route. -/
def groups? (m : SidebarMap) (route : String) : Option (List Group) := m.lookup route

/-- The routes. -/
def routes (m : SidebarMap) : List String := m.map (·.1)

/-- The map is written as an object. -/
def toJson (m : SidebarMap) : Json :=
  .object (m.map fun entry => (entry.1, .array (entry.2.map Group.toJson)))

end SidebarMap

/-- An assembled site configuration. -/
structure SiteConfig where
  base : String
  lang : String
  title : String
  description : String
  head : List HeadTag
  editLink : Bool
  theme : Theme
  sidebar : SidebarMap
  deriving DecidableEq, Repr

namespace SiteConfig

/-- The configuration of settings whose sections have been scanned. -/
def ofSettings (s : SiteSettings) (sidebar : SidebarMap) : SiteConfig where
  base := s.base
  lang := s.lang
  title := s.title
  description := s.description
  head := s.head
  editLink := s.editLink
  theme := s.theme
  sidebar := sidebar

/-- A configuration as JSON; the sidebar stands beside the theme options. -/
def toJson (c : SiteConfig) : Json :=
  .object [("base", .text c.base), ("lang", .text c.lang), ("title", .text c.title),
    ("description", .text c.description), ("head", .array (c.head.map HeadTag.toJson)),
    ("editLink", .boolean c.editLink),
    ("themeConfig", .object (c.theme.members ++ [("sidebar", SidebarMap.toJson c.sidebar)]))]

end SiteConfig
end DocPortal
