import DocPortal.Command.Sidebar
import DocPortal.Proofs.Build

/-!
# Pages that are printed and pages that are built

The pages of a directory can be printed, and they can be built into a site as the group of a section. Both
ways come to the same: where the section asks for the pages that the arguments ask for, the group has the
pages that are printed, in the same order, or both ways fail with the same error. Whether the extensions make
a filter is asked first, so that the state of the directory does not matter if they do not.

## Main definitions

* `SectionEntry.AsksFor` — a configured section asks for the same pages as some arguments.
* `SectionEntry.group` — the group that a build makes of a configured section.
-/

namespace DocPortal

open Command

namespace SectionEntry

/-- A configured section asks for the pages of a directory that the arguments ask for. Its route and its title
are its own. -/
structure AsksFor (e : SectionEntry Path) (dir : Path) (a : SidebarArguments) : Prop where
  dir : e.dir = dir
  extensions : e.extensions = a.extensions
  exclude : e.exclude = a.exclude
  order : e.order = if a.sort then .name else .listing

/-- The group that a build makes of a configured section: the section becomes one of the settings, and that
is scanned. -/
def group (e : SectionEntry Path) (m : Machine) : Except CommandError Group := do
  let s ← e.toSection.mapError .filter
  ((Sidebar.group (Disk.listing m.cwd) s).run m.files).result.mapError .directoryAccess

variable {m : Machine} {e : SectionEntry Path} {dir : Path} {a : SidebarArguments}

theorem group_ok_iff {g : Group} : e.group m = .ok g ↔ e.Gives m g := by
  rw [group, Result.bind_ok_iff]
  simp only [Result.mapError_ok_iff]
  rfl

/-- The pages are printed from the same section as they are built from, but for its route and its title. -/
theorem toSection_eq (h : e.AsksFor dir a) :
    e.toSection = (sidebarSection dir a).map fun s => { s with route := e.route, title := e.title } := by
  rw [toSection, sidebarSection, h.extensions, h.dir, h.exclude, h.order]
  cases ExtensionFilter.ofList a.extensions <;> rfl

end SectionEntry

/-- The route and the title of a section do not matter for its pages. -/
theorem Sidebar.run_group_of_same_pages {σ : Type} (l : Listing σ) (s : Section) (route title : String)
    (st : σ) :
    ((group l { s with route, title }).run st).result =
      ((group l s).run st).result.map fun g => ⟨title, g.children⟩ := by
  cases h : (l.ask s.dir st).result with
  | error e =>
    rw [run_group_of_error h, run_group_of_error (s := { s with route, title }) h]
    rfl
  | ok entries =>
    rw [run_group_of_ok h, run_group_of_ok (s := { s with route, title }) h]
    rfl

namespace Command

variable {m : Machine} {e : SectionEntry Path} {dir : Path} {a : SidebarArguments} {c : Config}

/-- The group of a section has the pages that are printed, or it is not made for the same reason. -/
theorem group_eq (h : e.AsksFor dir a) :
    e.group m = (sidebarPages m dir a).map fun pages => ⟨e.title, pages⟩ := by
  rw [SectionEntry.group, SectionEntry.toSection_eq h, sidebarPages]
  cases sidebarSection dir a with
  | error f => rfl
  | ok s =>
    have hgroup := Sidebar.run_group_of_same_pages (Disk.listing m.cwd) s e.route e.title m.files
    show ((Sidebar.group (Disk.listing m.cwd) { s with route := e.route, title := e.title }).run
      m.files).result.mapError CommandError.directoryAccess = _
    rw [hgroup]
    show _ = (((Sidebar.group (Disk.listing m.cwd) s).run m.files).result.mapError
      CommandError.directoryAccess >>= fun group => _).map _
    cases ((Sidebar.group (Disk.listing m.cwd) s).run m.files).result <;> rfl

/-! ## The groups of a whole site -/

/-- On disk a section is scanned on the same tree whatever was scanned before. -/
theorem Assembly.groupsFrom_disk_iff {cwd : Location} {fs last : FileSystem} {sections : List Section}
    {groups : List Group} :
    Assembly.GroupsFrom (Disk.listing cwd) fs sections groups last ↔ last = fs ∧
      List.Forall₂ (fun s g => ((Sidebar.group (Disk.listing cwd) s).run fs).result = .ok g)
        sections groups := by
  constructor
  · intro h
    refine ⟨?_, h.forall₂_of_disk⟩
    induction h with
    | nil => rfl
    | cons _ _ ih => exact ih.trans (Disk.state_ask_listing cwd _ _)
  · rintro ⟨rfl, h⟩
    induction h with
    | nil => exact .nil _
    | cons head _ ih =>
      refine .cons head ?_
      rw [Disk.state_ask_listing]
      exact ih

/-- A site is assembled where every section gives a group, and it shows these groups. -/
theorem assembleSite_of_groups {groups : List Group}
    (h : List.Forall₂ (fun e g => e.group m = .ok g) c.sections groups) :
    ∃ site, assembleSite m c = .ok site ∧
      site.sidebar = SidebarMap.addAll [] ((c.sections.map (·.route)).zip groups) := by
  have hsections : ∃ sections, List.Forall₂ (fun e s => SectionEntry.toSection e = .ok s) c.sections sections ∧
      List.Forall₂ (fun s g => ((Sidebar.group (Disk.listing m.cwd) s).run m.files).result = .ok g)
        sections groups := by
    generalize c.sections = entries at h
    induction h with
    | nil => exact ⟨[], .nil, .nil⟩
    | cons head _ ih =>
      obtain ⟨s, hs, hg⟩ := SectionEntry.group_ok_iff.1 head
      obtain ⟨rest, hrest, hgroups⟩ := ih
      exact ⟨s :: rest, .cons hs hrest, .cons hg hgroups⟩
  obtain ⟨sections, hentries, hgroups⟩ := hsections
  have hrun := Assembly.groupsFrom_disk_iff.2 ⟨rfl, hgroups⟩
  rw [assembleSite, Config.settings, Result.mapM_ok_iff.2 hentries]
  dsimp only [Bind.bind, Except.bind, Pure.pure, Except.pure, Except.mapError]
  rw [(Assembly.run_assemble_of_groupsFrom hrun).1]
  refine ⟨_, rfl, ?_⟩
  rw [← map_route_of_toSection hentries]
  rfl

/-- A site that is not assembled fails as the group of one of its sections does. -/
theorem exists_group_error_of_assembleSite {err : CommandError} (h : assembleSite m c = .error err) :
    ∃ e ∈ c.sections, e.group m = .error err := by
  obtain hfilter | ⟨settings, hsettings, haccess⟩ := Result.bind_error_iff.1 h
  · obtain ⟨f, hf, rfl⟩ := Result.mapError_error_iff.1 hfilter
    obtain hmap | ⟨_, -, hpure⟩ := Result.bind_error_iff.1 hf
    · obtain ⟨e, he, hsection⟩ := Result.exists_of_mapM_error hmap
      refine ⟨e, he, ?_⟩
      rw [SectionEntry.group, hsection]
      rfl
    · cases hpure
  · obtain ⟨x, hx, rfl⟩ := Result.mapError_error_iff.1 haccess
    obtain ⟨-, -, -, -, hsections⟩ := Config.settings_ok (Result.mapError_ok_iff.1 hsettings)
    rcases Assembly.groupsFrom_or_first_failure (Disk.listing m.cwd) m.files settings.sidebar with
      ⟨groups, last, hall⟩ | ⟨before, s, after, groups, next, cause, hsplit, hbefore, hcause⟩
    · rw [(Assembly.run_assemble_of_groupsFrom hall).1] at hx
      cases hx
    · rw [(Assembly.run_assemble_of_first_failure hsplit hbefore hcause).1] at hx
      cases hx
      obtain ⟨rfl, -⟩ := Assembly.groupsFrom_disk_iff.1 hbefore
      have hs : s ∈ settings.sidebar := by
        rw [hsplit]
        exact List.mem_append_right before List.mem_cons_self
      obtain ⟨e, he, hsection⟩ := Result.exists_of_forall₂_of_mem hsections hs
      refine ⟨e, he, ?_⟩
      rw [SectionEntry.group, hsection]
      show ((Sidebar.group (Disk.listing m.cwd) s).run m.files).result.mapError _ = _
      rw [Sidebar.run_group_of_error hcause]
      rfl

/-! ## What is printed -/

/-- The extensions are looked at before the directory. -/
theorem sidebarPages_of_filter_error {f : FilterError} (h : ExtensionFilter.ofList a.extensions = .error f) :
    sidebarPages m dir a = .error (.filter f) := by
  rw [sidebarPages, sidebarSection, h]
  rfl

variable {filter : ExtensionFilter}

/-- The section that the arguments describe with a filter. -/
theorem sidebarSection_of_filter (h : ExtensionFilter.ofList a.extensions = .ok filter) :
    sidebarSection dir a = .ok ⟨"/", "", dir, filter, a.exclude, if a.sort then .name else .listing⟩ := by
  rw [sidebarSection, h]
  rfl

/-- With a filter it is only the directory that can make printing fail. -/
theorem sidebarPages_of_listing_error {cause : ListingError}
    (h : ExtensionFilter.ofList a.extensions = .ok filter)
    (hask : ((Disk.listing m.cwd).ask dir m.files).result = .error cause) :
    sidebarPages m dir a = .error (.directoryAccess ⟨dir, cause⟩) := by
  rw [sidebarPages, sidebarSection_of_filter h]
  dsimp only [Bind.bind, Except.bind, Except.mapError]
  rw [Sidebar.run_group_of_error hask]

theorem exists_sidebarPages_of_listing_ok {found : List DirectoryEntry}
    (h : ExtensionFilter.ofList a.extensions = .ok filter)
    (hask : ((Disk.listing m.cwd).ask dir m.files).result = .ok found) :
    ∃ pages, sidebarPages m dir a = .ok pages := by
  rw [sidebarPages, sidebarSection_of_filter h]
  dsimp only [Bind.bind, Except.bind, Except.mapError]
  rw [Sidebar.run_group_of_ok hask]
  exact ⟨_, rfl⟩

/-- Each page is printed on a line of its own, and nothing is printed if there are no pages to be had. -/
theorem sidebar_eq :
    (sidebar m dir a).result = (sidebarPages m dir a).map (fun _ => ()) ∧
      (sidebar m dir a).stdout =
        ((sidebarPages m dir a).toOption.map fun pages => .join (pages.map (· ++ "\n"))).getD "" := by
  rw [sidebar]
  cases sidebarPages m dir a with
  | error e => exact ⟨rfl, rfl⟩
  | ok pages => exact ⟨rfl, rfl⟩

/-! ## Agreement -/

/-- The site of a single section shows the pages that are printed, or it is not assembled for the reason for
which they are not printed. -/
theorem sidebar_assembleSite_single (h : e.AsksFor dir a) (hc : c.sections = [e]) :
    (assembleSite m c).map (·.sidebar) =
      (sidebarPages m dir a).map fun pages => [(e.route, [⟨e.title, pages⟩])] := by
  have hgroup := group_eq (m := m) h
  cases hpages : sidebarPages m dir a with
  | ok pages =>
    rw [hpages] at hgroup
    have hgroups : List.Forall₂ (fun e g => e.group m = .ok g) c.sections [⟨e.title, pages⟩] := by
      rw [hc]
      exact .cons hgroup .nil
    obtain ⟨site, hsite, hsidebar⟩ := assembleSite_of_groups hgroups
    rw [hsite]
    show Except.ok site.sidebar = _
    rw [hsidebar, hc]
    rfl
  | error err =>
    rw [hpages] at hgroup
    cases hsite : assembleSite m c with
    | ok site =>
      obtain ⟨-, groups, -, -, -, hgives⟩ := assembleSite_ok hsite
      rw [hc] at hgives
      cases hgives with
      | cons hhead _ =>
        rw [SectionEntry.group_ok_iff.2 hhead] at hgroup
        cases hgroup
    | error err' =>
      obtain ⟨e', he', herr⟩ := exists_group_error_of_assembleSite hsite
      rw [hc, List.mem_singleton] at he'
      rw [he', hgroup] at herr
      cases herr
      rfl

/-- Any site that a section is part of shows the pages that are printed. -/
theorem exists_pages_of_assembleSite (h : e.AsksFor dir a) {site : SiteConfig} (he : e ∈ c.sections)
    (hsite : assembleSite m c = .ok site) :
    ∃ pages, sidebarPages m dir a = .ok pages ∧
      ∃ groups, (e.route, groups) ∈ site.sidebar ∧ ⟨e.title, pages⟩ ∈ groups := by
  obtain ⟨-, groups, -, -, hshows, hgives⟩ := assembleSite_ok hsite
  rw [← List.map_fst_zip (Nat.le_of_eq hgives.length_eq), List.mem_map] at he
  obtain ⟨⟨e', g⟩, hmem, heq⟩ := he
  obtain rfl : e' = e := heq
  have hgroup := group_eq (m := m) h
  rw [SectionEntry.group_ok_iff.2 (List.forall₂_zip hgives hmem)] at hgroup
  obtain ⟨pages, hpages, rfl⟩ := Result.map_ok_iff.1 hgroup.symm
  refine ⟨pages, hpages, hshows.exists_mem_of_mem_zip ?_⟩
  rw [List.zip_map_left]
  exact List.mem_map.2 ⟨_, hmem, rfl⟩

/-- A way to pages comes to what another way comes to: to pages, if the extensions make a filter and the
directory can be listed, and otherwise to the error of the first of the two that does not hold. -/
theorem pages_or_error (m : Machine) (h : e.AsksFor dir a) :
    (∃ f, ExtensionFilter.ofList a.extensions = .error f ∧
      sidebarPages m dir a = .error (.filter f) ∧ e.group m = .error (.filter f)) ∨
    (∃ filter cause, ExtensionFilter.ofList a.extensions = .ok filter ∧
      ((Disk.listing m.cwd).ask dir m.files).result = .error cause ∧
      sidebarPages m dir a = .error (.directoryAccess ⟨dir, cause⟩) ∧
      e.group m = .error (.directoryAccess ⟨dir, cause⟩)) ∨
    ∃ filter found pages, ExtensionFilter.ofList a.extensions = .ok filter ∧
      ((Disk.listing m.cwd).ask dir m.files).result = .ok found ∧
      sidebarPages m dir a = .ok pages ∧ e.group m = .ok ⟨e.title, pages⟩ := by
  have hgroup := group_eq (m := m) h
  cases hfilter : ExtensionFilter.ofList a.extensions with
  | error f =>
    have hpages : sidebarPages m dir a = .error (.filter f) := sidebarPages_of_filter_error hfilter
    rw [hpages] at hgroup
    exact .inl ⟨f, rfl, hpages, hgroup⟩
  | ok filter =>
    cases hask : ((Disk.listing m.cwd).ask dir m.files).result with
    | error cause =>
      have hpages := sidebarPages_of_listing_error hfilter hask
      rw [hpages] at hgroup
      exact .inr (.inl ⟨filter, cause, rfl, rfl, hpages, hgroup⟩)
    | ok found =>
      obtain ⟨pages, hpages⟩ := exists_sidebarPages_of_listing_ok hfilter hask
      rw [hpages] at hgroup
      exact .inr (.inr ⟨filter, found, pages, rfl, rfl, hpages, hgroup⟩)

/-- **Printing and building agree on pages.**  Arguments and a configured section that asks for the same pages
come to the same pages in the same order, or they fail with the same error: that of the extensions, whatever
there is of the directory, or else that of the directory.  A site of this section alone comes to the same,
and no site with this section shows other pages of it.  What is printed is the pages, one a line. -/
theorem printed_pages_are_built (m : Machine) (dir : Path) (a : SidebarArguments) (e : SectionEntry Path)
    (h : e.AsksFor dir a) :
    ((∃ f, ExtensionFilter.ofList a.extensions = .error f ∧
        sidebarPages m dir a = .error (.filter f) ∧ e.group m = .error (.filter f)) ∨
      (∃ filter cause, ExtensionFilter.ofList a.extensions = .ok filter ∧
        ((Disk.listing m.cwd).ask dir m.files).result = .error cause ∧
        sidebarPages m dir a = .error (.directoryAccess ⟨dir, cause⟩) ∧
        e.group m = .error (.directoryAccess ⟨dir, cause⟩)) ∨
      ∃ filter found pages, ExtensionFilter.ofList a.extensions = .ok filter ∧
        ((Disk.listing m.cwd).ask dir m.files).result = .ok found ∧
        sidebarPages m dir a = .ok pages ∧ e.group m = .ok ⟨e.title, pages⟩) ∧
    (∀ c : Config, c.sections = [e] → (assembleSite m c).map (·.sidebar) =
      (sidebarPages m dir a).map fun pages => [(e.route, [⟨e.title, pages⟩])]) ∧
    (∀ (c : Config) site, e ∈ c.sections → assembleSite m c = .ok site →
      ∃ pages, sidebarPages m dir a = .ok pages ∧
        ∃ groups, (e.route, groups) ∈ site.sidebar ∧ ⟨e.title, pages⟩ ∈ groups) ∧
    (sidebar m dir a).result = (sidebarPages m dir a).map (fun _ => ()) ∧
    (sidebar m dir a).stdout =
      ((sidebarPages m dir a).toOption.map fun pages => .join (pages.map (· ++ "\n"))).getD "" :=
  ⟨pages_or_error m h, fun _ => sidebar_assembleSite_single h,
    fun _ _ he hsite => exists_pages_of_assembleSite h he hsite, sidebar_eq⟩

/-- Arguments for the pages of a guide in the order of names, but for one. -/
def guideArguments : SidebarArguments := { extensions := [".md"], exclude := ["b.md"], sort := true }

/-- A section that asks for the same pages as these arguments. -/
def guideEntry : SectionEntry Path where
  route := "/docs/"
  title := "Guide"
  dir := .ofString "site/guide"
  exclude := ["b.md"]
  order := .name

/-- A configuration of that section alone. -/
def guideConfig : Config where
  portal := .stock
  sourceDir := .ofString "site"
  sections := [guideEntry]
  path? := none

/-- The guide of the handbook has one page left, and without a filter it does not matter that there is no
such directory. -/
theorem printed_pages_are_built_handbook :
    guideEntry.AsksFor (.ofString "site/guide") guideArguments ∧
    sidebarPages handbook (.ofString "site/guide") guideArguments = .ok ["a.v2.md"] ∧
    (assembleSite handbook guideConfig).map (·.sidebar) = .ok [("/docs/", [⟨"Guide", ["a.v2.md"]⟩])] ∧
    (sidebar handbook (.ofString "site/guide") guideArguments).stdout = "a.v2.md\n" ∧
    ∃ f, ExtensionFilter.ofList ["md"] = .error f ∧
      sidebarPages handbook (.ofString "lost") { extensions := ["md"] } = .error (.filter f) ∧
      SectionEntry.group { route := "", title := "", dir := .ofString "lost", extensions := ["md"] } handbook =
        .error (.filter f) := by
  have hasks : guideEntry.AsksFor (.ofString "site/guide") guideArguments := ⟨rfl, rfl, rfl, rfl⟩
  obtain ⟨pages, hpages, heq⟩ : ∃ pages,
      sidebarPages handbook (.ofString "site/guide") guideArguments = .ok pages ∧
        decide (pages = ["a.v2.md"]) = true :=
    Result.exists_ok_of_any (by decide +kernel)
  obtain rfl := of_decide_eq_true heq
  obtain ⟨-, hsite, -, -, hprinted⟩ := printed_pages_are_built handbook _ _ _ hasks
  have halone := hsite guideConfig rfl
  rw [hpages] at halone hprinted
  have hlost : SectionEntry.AsksFor { route := "", title := "", dir := .ofString "lost", extensions := ["md"] }
      (.ofString "lost") { extensions := ["md"] } := ⟨rfl, rfl, rfl, rfl⟩
  have hno : (ExtensionFilter.ofList ["md"]).isOk = false := by decide +kernel
  refine ⟨hasks, hpages, halone, hprinted.trans (by decide +kernel), ?_⟩
  rcases (printed_pages_are_built handbook _ _ _ hlost).1 with ⟨f, hf, hprint, hbuild⟩ |
    ⟨filter, -, hfilter, -⟩ | ⟨filter, -, -, hfilter, -⟩
  · exact ⟨f, hf, hprint, hbuild⟩
  · rw [hfilter] at hno
    cases hno
  · rw [hfilter] at hno
    cases hno

end Command
end DocPortal
