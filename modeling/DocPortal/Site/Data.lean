import DocPortal.Json.Data
import DocPortal.Site.Config

/-!
# The data of a site

What a site configuration hands over to be written. Theme options are a record of their own, with which the
record of the theme begins.
-/

namespace DocPortal

/-- A tag is a sequence of its name and its attributes. -/
def HeadTag.data (t : HeadTag) : Data :=
  .sequence [.text t.tag, .map (t.attrs.map fun a => (.text a.1, .text a.2))]

/-- A link is a record. -/
def NavLink.data (l : NavLink) : Data := .record [("text", .text l.text), ("link", .text l.link)]

/-- Theme options are a record. -/
def Theme.data (t : Theme) : Data :=
  .record [("logo", .text t.logo), ("navbar", .sequence (t.navbar.map NavLink.data)),
    ("repo", .text t.repo), ("repoLabel", .text t.repoLabel), ("contributors", .boolean t.contributors),
    ("editLink", .boolean t.editLink), ("lastUpdated", .boolean t.lastUpdated)]

/-- A group is a record. -/
def Group.data (g : Group) : Data :=
  .record [("text", .text g.text), ("isGroup", .boolean true),
    ("children", .sequence (g.children.map .text))]

/-- The sidebar is a map from routes to sequences of groups. -/
def SidebarMap.data (m : SidebarMap) : Data :=
  .map (m.map fun entry => (.text entry.1, .sequence (entry.2.map Group.data)))

namespace SiteConfig

/-- The theme is a record that begins with the theme options. -/
def themeData (c : SiteConfig) : Data :=
  .flattened c.theme.data (Data.fields [("sidebar", SidebarMap.data c.sidebar)])

/-- A site is a record. -/
def data (c : SiteConfig) : Data :=
  .record [("base", .text c.base), ("lang", .text c.lang), ("title", .text c.title),
    ("description", .text c.description), ("head", .sequence (c.head.map HeadTag.data)),
    ("editLink", .boolean c.editLink), ("themeConfig", c.themeData)]

end SiteConfig
end DocPortal
