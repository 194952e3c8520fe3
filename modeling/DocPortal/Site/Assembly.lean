import DocPortal.Sidebar.Scan
import DocPortal.Site.Config

/-!
# Assembling a site

Each section is scanned once, in order, and its group is added under its route. The first section whose
directory cannot be listed ends the assembly without a configuration.
-/

namespace DocPortal
namespace Assembly

variable {σ : Type}

/-- Scans sections in turn and adds their groups to a map. -/
def addGroups (l : Listing σ) (m : SidebarMap) : List Section → Scan σ SidebarMap
  | [] => return m
  | s :: rest => do
    let g ← Sidebar.group l s
    Scan.report [.builtGroup s.route s.title g.children.length]
    addGroups l (SidebarMap.add s.route g m) rest

/-- The configuration of a site. -/
def assemble (l : Listing σ) (s : SiteSettings) : Scan σ SiteConfig := do
  let sidebar ← addGroups l [] s.sidebar
  return .ofSettings s sidebar

end Assembly
end DocPortal
