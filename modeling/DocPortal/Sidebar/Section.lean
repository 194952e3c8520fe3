import DocPortal.Path.Basic
import DocPortal.Sidebar.Filter

/-!
# Sections and groups

A section says which directory is scanned and what becomes of its pages; a group is the navigation entry
that comes of it.
-/

namespace DocPortal

/-- The order of the pages in a group. -/
inductive PageOrder where
  /-- The order of the listing. -/
  | listing
  /-- Ascending by bytes. -/
  | name
  deriving DecidableEq, Repr

/-- A titled group of pages. -/
structure Group where
  text : String
  children : List String
  deriving DecidableEq, Repr

/-- A content directory to scan, and where its group goes. -/
structure Section where
  route : String
  title : String
  dir : Path
  extensions : ExtensionFilter := .markdown
  exclude : List String := []
  order : PageOrder := .listing
  deriving DecidableEq, Repr

end DocPortal
