import DocPortal.Command.Arguments
import DocPortal.Command.Outcome
import DocPortal.Listing.Disk
import DocPortal.Sidebar.Scan

/-!
# Printing the pages of a directory
-/

namespace DocPortal
namespace Command

/-- The section that the arguments describe. -/
def sidebarSection (dir : Path) (a : SidebarArguments) : Except FilterError Section := do
  let extensions ← ExtensionFilter.ofList a.extensions
  return {
    route := "/"
    title := ""
    dir
    extensions
    exclude := a.exclude
    order := if a.sort then .name else .listing }

/-- The pages of a directory, excluded ones left out. -/
def sidebarPages (m : Machine) (dir : Path) (a : SidebarArguments) :
    Except CommandError (List String) := do
  let s ← (sidebarSection dir a).mapError .filter
  let group ← ((Sidebar.group (Disk.listing m.cwd) s).run m.files).result.mapError .directoryAccess
  return group.children

/-- Prints the pages of a directory, one a line. -/
def sidebar (m : Machine) (dir : Path) (a : SidebarArguments) : Outcome :=
  match sidebarPages m dir a with
  | .error e => .failed m e []
  | .ok pages => .printed m (.join (pages.map (· ++ "\n"))) []

end Command
end DocPortal
