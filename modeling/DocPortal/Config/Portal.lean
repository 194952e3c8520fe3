import DocPortal.Site.Settings

/-!
# Portals

A portal is what a configuration file says. Every part that a file leaves out is that of the stock portal,
which is given here.
-/

namespace DocPortal

/-- What is known about a site as a whole. -/
structure SiteInfo where
  base : String
  lang : String
  title : String
  description : String
  editLink : Bool
  deriving DecidableEq, Repr

/-- A configured sidebar section. Its directory is a text as long as it is only written down, and a path
once it has been resolved. -/
structure SectionEntry (Dir : Type) where
  route : String
  title : String
  dir : Dir
  extensions : List String := [".md"]
  exclude : List String := []
  order : PageOrder := .listing
  deriving DecidableEq, Repr

namespace SectionEntry

variable {Dir Dir' : Type}

/-- The same section with another directory. -/
def withDir (s : SectionEntry Dir) (dir : Dir') : SectionEntry Dir' where
  route := s.route
  title := s.title
  dir := dir
  extensions := s.extensions
  exclude := s.exclude
  order := s.order

end SectionEntry

/-- What a configuration file says, on top of the stock portal. -/
structure Portal where
  site : SiteInfo
  head : List HeadTag
  theme : Theme
  sections : List (SectionEntry String)
  /-- Where the directories of the sections are. -/
  sourceDir? : Option String
  deriving DecidableEq, Repr

namespace Stock

/-- The site of the stock portal. -/
def site : SiteInfo where
  base := "/"
  lang := "en-EN"
  title := "tacoscript"
  description := "Tacoscript library provides functionality for provisioning of remote servers and "
    ++ "local machines running on any OS."
  editLink := false

/-- The link to an icon of the stock portal. -/
def icon (sizes href : String) : HeadTag :=
  .link [("rel", "icon"), ("type", "image/png"), ("sizes", sizes), ("href", href)]

/-- The head tags of the stock portal. -/
def head : List HeadTag := [
  icon "16x16" "/favicon/favicon-16x16.png",
  icon "32x32" "/favicon/favicon-32x32.png",
  .link [("rel", "manifest"), ("href", "/favicon/site.webmanifest")],
  .named "application-name" "docs",
  .named "apple-mobile-web-app-title" "docs",
  .named "apple-mobile-web-app-status-bar-style" "black",
  .link [("rel", "apple-touch-icon"), ("href", "/favicon/apple-touch-icon.png")],
  .named "msapplication-TileColor" "#0473e7",
  .named "theme-color" "#0473e7"]

/-- The navigation bar of the stock portal. -/
def navbar : List NavLink := [
  ⟨"Documentation", "/docs/"⟩,
  ⟨"Download", "https://github.com/cloudradar-monitoring/tacoscript/releases"⟩]

/-- The theme options of the stock portal. -/
def theme : Theme where
  logo := "logo/tacoscript-img-text.svg"
  navbar := navbar
  repo := "cloudradar-monitoring/tacoscript"
  repoLabel := "Github-Repo"

/-- The sidebar sections of the stock portal. -/
def sections : List (SectionEntry String) :=
  [{ route := "/docs/", title := "Documentation", dir := "docs" }]

end Stock

/-- The portal of which a file says nothing. -/
def Portal.stock : Portal where
  site := Stock.site
  head := Stock.head
  theme := Stock.theme
  sections := Stock.sections
  sourceDir? := none

end DocPortal
