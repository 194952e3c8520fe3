import DocPortal.Listing.Memory
import DocPortal.Proofs.Result
import DocPortal.Proofs.SidebarMap
import DocPortal.Site.Assembly

/-!
# Assembly over any backend

The sections of a site are scanned one after the other, each from the state in which the one before left
the backend. Either all of them give groups, and the sidebar holds exactly those, or one of them is the
first that fails, and its failure is that of the assembly. A backend that writes down what it is asked
shows how far the assembly went.
-/

namespace DocPortal

variable {σ α β : Type}

/-! ## Running one scan after another -/

namespace Scan

theorem run_bind_of_ok {s : Scan σ α} {f : α → Scan σ β} {st : σ} {a : α}
    (h : (s.run st).result = .ok a) :
    (s >>= f).run st = ⟨((f a).run (s.run st).state).result,
      (s.run st).events ++ ((f a).run (s.run st).state).events,
      ((f a).run (s.run st).state).state⟩ := by
  rw [run_bind]
  cases hs : s.run st with
  | mk result events next =>
    rw [hs] at h
    cases h
    rfl

theorem run_bind_of_error {s : Scan σ α} {f : α → Scan σ β} {st : σ} {e : DirectoryAccessError}
    (h : (s.run st).result = .error e) :
    (s >>= f).run st = ⟨.error e, (s.run st).events, (s.run st).state⟩ := by
  rw [run_bind]
  cases hs : s.run st with
  | mk result events next =>
    rw [hs] at h
    cases h
    rfl

end Scan

/-! ## The group of one section -/

/-- The group that entries of its directory make for a section. -/
def Section.groupOf (s : Section) (entries : List DirectoryEntry) : Group :=
  ⟨s.title, Sidebar.children s (Sidebar.pageNames s.extensions entries)⟩

namespace Sidebar

/-- The events of a scan itself: one for each entry that is no page, and then the summary. -/
def scanEvents (dir : Path) (f : ExtensionFilter) (entries : List DirectoryEntry) : List ScanEvent :=
  entries.filterMap (·.skipEvent f) ++ [.scanned dir entries.length (pageNames f entries).length]

section

variable {l : Listing σ} {dir : Path} {s : Section} {st : σ}

theorem run_pages_of_ok {entries : List DirectoryEntry} (h : (l.ask dir st).result = .ok entries)
    (f : ExtensionFilter) :
    (pages l dir f).run st = ⟨.ok (pageNames f entries),
      (l.ask dir st).events.map .listing ++ scanEvents dir f entries, (l.ask dir st).state⟩ := by
  have hlist : ((Scan.list l dir).run st).result = .ok entries := by
    rw [Scan.run_list, h]
    rfl
  rw [pages, Scan.run_bind_of_ok hlist]
  rfl

theorem run_pages_of_error {e : ListingError} (h : (l.ask dir st).result = .error e) (f : ExtensionFilter) :
    (pages l dir f).run st =
      ⟨.error ⟨dir, e⟩, (l.ask dir st).events.map .listing, (l.ask dir st).state⟩ := by
  have hlist : ((Scan.list l dir).run st).result = .error ⟨dir, e⟩ := by
    rw [Scan.run_list, h]
    rfl
  rw [pages, Scan.run_bind_of_error hlist]
  rfl

theorem run_group_of_ok {entries : List DirectoryEntry} (h : (l.ask s.dir st).result = .ok entries) :
    (group l s).run st = ⟨.ok (s.groupOf entries),
      (l.ask s.dir st).events.map .listing ++ scanEvents s.dir s.extensions entries, (l.ask s.dir st).state⟩ := by
  have hpages := run_pages_of_ok h s.extensions
  rw [group, Scan.run_bind_of_ok (by rw [hpages]), hpages]
  simp [Section.groupOf]

theorem run_group_of_error {e : ListingError} (h : (l.ask s.dir st).result = .error e) :
    (group l s).run st =
      ⟨.error ⟨s.dir, e⟩, (l.ask s.dir st).events.map .listing, (l.ask s.dir st).state⟩ := by
  have hpages := run_pages_of_error h s.extensions
  rw [group, Scan.run_bind_of_error (by rw [hpages]), hpages]

end

/-- After a group the backend is in the state in which its one answer left it. -/
theorem state_run_group (l : Listing σ) (s : Section) (st : σ) :
    ((group l s).run st).state = (l.ask s.dir st).state := by
  cases h : (l.ask s.dir st).result with
  | error e => rw [run_group_of_error h]
  | ok entries => rw [run_group_of_ok h]

/-- Backends that give the same answer for the directory of a section give the same group, or fail in the same
way. -/
theorem result_run_group_congr {τ : Type} {l : Listing σ} {l' : Listing τ} {s : Section} {st : σ} {st' : τ}
    (h : (l.ask s.dir st).result = (l'.ask s.dir st').result) :
    ((group l s).run st).result = ((group l' s).run st').result := by
  cases hask : (l.ask s.dir st).result with
  | error e => rw [run_group_of_error hask, run_group_of_error (h.symm.trans hask)]
  | ok entries => rw [run_group_of_ok hask, run_group_of_ok (h.symm.trans hask)]

end Sidebar

/-! ## Backends that write down what they are asked -/

/-- The backend that also writes down, in order, the directories that it is asked for. -/
def Listing.recorded (l : Listing σ) : Listing (σ × List Path) where
  ask p st :=
    let answer := l.ask p st.1
    ⟨answer.result, answer.events, (answer.state, st.2 ++ [p])⟩

@[simp] theorem Listing.state_ask_recorded (l : Listing σ) (p : Path) (st : σ × List Path) :
    (l.recorded.ask p st).state = ((l.ask p st.1).state, st.2 ++ [p]) := rfl

/-! ## Settings -/

/-- A site has every literal setting unchanged. -/
structure SiteConfig.Copies (c : SiteConfig) (settings : SiteSettings) : Prop where
  base : c.base = settings.base
  lang : c.lang = settings.lang
  title : c.title = settings.title
  description : c.description = settings.description
  head : c.head = settings.head
  editLink : c.editLink = settings.editLink
  theme : c.theme = settings.theme

theorem SiteConfig.copies_ofSettings (settings : SiteSettings) (sidebar : SidebarMap) :
    (ofSettings settings sidebar).Copies settings := ⟨rfl, rfl, rfl, rfl, rfl, rfl, rfl⟩

theorem SiteConfig.Copies.eq_ofSettings {c : SiteConfig} {settings : SiteSettings} (h : c.Copies settings) :
    c = .ofSettings settings c.sidebar := by
  cases c
  obtain ⟨rfl, rfl, rfl, rfl, rfl, rfl, rfl⟩ := h
  rfl

namespace Assembly

/-! ## Scanning sections in turn -/

/-- Scanned one after the other from a state, sections give groups and leave the backend in another
state. -/
inductive GroupsFrom (l : Listing σ) : σ → List Section → List Group → σ → Prop
  | nil (st : σ) : GroupsFrom l st [] [] st
  | cons {st last : σ} {s : Section} {rest : List Section} {g : Group} {groups : List Group}
      (head : ((Sidebar.group l s).run st).result = .ok g)
      (tail : GroupsFrom l (l.ask s.dir st).state rest groups last) :
      GroupsFrom l st (s :: rest) (g :: groups) last

theorem GroupsFrom.length_eq {l : Listing σ} {st last : σ} {sections : List Section}
    {groups : List Group} (h : GroupsFrom l st sections groups last) :
    groups.length = sections.length := by
  induction h with
  | nil => rfl
  | cons _ _ ih => rw [List.length_cons, List.length_cons, ih]

/-- Each section has been asked for once, in order. -/
theorem GroupsFrom.recorded {l : Listing σ} {st last : σ} {sections : List Section}
    {groups : List Group} (h : GroupsFrom l st sections groups last) (asked : List Path) :
    GroupsFrom l.recorded (st, asked) sections groups (last, asked ++ sections.map (·.dir)) := by
  induction h generalizing asked with
  | nil st =>
    rw [List.map_nil, List.append_nil]
    exact .nil _
  | @cons st last s rest g groups head _ ih =>
    rw [List.map_cons, List.append_cons]
    refine .cons ?_ ?_
    · rw [← head]
      exact Sidebar.result_run_group_congr rfl
    · exact ih (asked ++ [s.dir])

/-- Either all sections give groups, or one of them is the first that does not. -/
theorem groupsFrom_or_first_failure (l : Listing σ) (st : σ) (sections : List Section) :
    (∃ groups last, GroupsFrom l st sections groups last) ∨
      ∃ before s after groups next e, sections = before ++ s :: after ∧
        GroupsFrom l st before groups next ∧ (l.ask s.dir next).result = .error e := by
  induction sections generalizing st with
  | nil => exact .inl ⟨[], st, .nil st⟩
  | cons s rest ih =>
    cases h : (l.ask s.dir st).result with
    | error e => exact .inr ⟨[], s, rest, [], st, e, rfl, .nil st, h⟩
    | ok found =>
      have head : ((Sidebar.group l s).run st).result = .ok (s.groupOf found) := by
        rw [Sidebar.run_group_of_ok h]
      rcases ih (l.ask s.dir st).state with ⟨groups, last, hall⟩ | hfail
      · exact .inl ⟨_, last, .cons head hall⟩
      · obtain ⟨before, s', after, groups, next, e, rfl, hbefore, he⟩ := hfail
        exact .inr ⟨s :: before, s', after, _, next, e, rfl, .cons head hbefore, he⟩

/-! ## The loop over the sections -/

/-- One round of the loop: a section that gives a group adds it under its route. -/
theorem run_addGroups_cons {l : Listing σ} {m : SidebarMap} {s : Section} {rest : List Section}
    {st : σ} {g : Group} (h : ((Sidebar.group l s).run st).result = .ok g) :
    ((addGroups l m (s :: rest)).run st).result =
        ((addGroups l (m.add s.route g) rest).run (l.ask s.dir st).state).result ∧
      ((addGroups l m (s :: rest)).run st).state =
        ((addGroups l (m.add s.route g) rest).run (l.ask s.dir st).state).state := by
  rw [addGroups, Scan.run_bind_of_ok h, Sidebar.state_run_group]
  exact ⟨rfl, rfl⟩

theorem run_addGroups_of_groupsFrom {l : Listing σ} {st last : σ} {sections : List Section}
    {groups : List Group} (h : GroupsFrom l st sections groups last) (m : SidebarMap)
    (rest : List Section) :
    ((addGroups l m (sections ++ rest)).run st).result =
        ((addGroups l (m.addAll ((sections.map (·.route)).zip groups)) rest).run last).result ∧
      ((addGroups l m (sections ++ rest)).run st).state =
        ((addGroups l (m.addAll ((sections.map (·.route)).zip groups)) rest).run last).state := by
  induction h generalizing m with
  | nil st => exact ⟨rfl, rfl⟩
  | @cons st last s tail g groups head _ ih =>
    obtain ⟨hresult, hstate⟩ := @run_addGroups_cons _ _ m _ (tail ++ rest) _ _ head
    obtain ⟨ihresult, ihstate⟩ := ih (m.add s.route g)
    exact ⟨hresult.trans ihresult, hstate.trans ihstate⟩

/-- The loop ends early with a section that fails. -/
theorem run_addGroups_of_error {l : Listing σ} {m : SidebarMap} {s : Section} {rest : List Section}
    {st : σ} {e : ListingError} (h : (l.ask s.dir st).result = .error e) :
    ((addGroups l m (s :: rest)).run st).result = .error ⟨s.dir, e⟩ ∧
      ((addGroups l m (s :: rest)).run st).state = (l.ask s.dir st).state := by
  have hgroup := Sidebar.run_group_of_error h
  rw [addGroups, Scan.run_bind_of_error (by rw [hgroup]), hgroup]
  exact ⟨rfl, rfl⟩

/-! ## The whole assembly -/

theorem run_assemble_of_groupsFrom {l : Listing σ} {settings : SiteSettings} {st last : σ}
    {groups : List Group} (h : GroupsFrom l st settings.sidebar groups last) :
    ((assemble l settings).run st).result = .ok (.ofSettings settings
        (SidebarMap.addAll [] ((settings.sidebar.map (·.route)).zip groups))) ∧
      ((assemble l settings).run st).state = last := by
  have hloop := run_addGroups_of_groupsFrom h [] []
  rw [List.append_nil] at hloop
  rw [assemble, Scan.run_bind_of_ok hloop.1]
  exact ⟨rfl, hloop.2⟩

theorem run_assemble_of_first_failure {l : Listing σ} {settings : SiteSettings} {st next : σ}
    {before after : List Section} {s : Section} {groups : List Group} {e : ListingError}
    (hs : settings.sidebar = before ++ s :: after) (hb : GroupsFrom l st before groups next)
    (he : (l.ask s.dir next).result = .error e) :
    ((assemble l settings).run st).result = .error ⟨s.dir, e⟩ ∧
      ((assemble l settings).run st).state = (l.ask s.dir next).state := by
  obtain ⟨hresult, hstate⟩ := run_addGroups_of_groupsFrom hb [] (s :: after)
  obtain ⟨eresult, estate⟩ := @run_addGroups_of_error _ _
    (SidebarMap.addAll [] ((before.map (·.route)).zip groups)) _ after _ _ he
  rw [assemble, hs, Scan.run_bind_of_error (hresult.trans eresult)]
  exact ⟨rfl, hstate.trans estate⟩

/-- **Assembly is all or nothing.**  If all sections give groups, the site copies its settings and shows
exactly these groups, and each directory was asked for once, in order.  Otherwise one section is the
first whose directory cannot be listed: its error is that of the assembly, and nothing was asked for
after it.  That the backend writes down what it is asked makes no difference to the result. -/
theorem assemble_all_or_first_failure (l : Listing σ) (settings : SiteSettings) (st : σ) :
    (∀ groups last, GroupsFrom l st settings.sidebar groups last →
      ∃ site, ((assemble l settings).run st).result = .ok site ∧ site.Copies settings ∧
        site.sidebar.Shows (settings.sidebar.map (·.route)) groups ∧
        ((assemble l.recorded settings).run (st, [])).state =
          (last, settings.sidebar.map (·.dir))) ∧
    (∀ before s after groups next e, settings.sidebar = before ++ s :: after →
      GroupsFrom l st before groups next → (l.ask s.dir next).result = .error e →
        ((assemble l settings).run st).result = .error ⟨s.dir, e⟩ ∧
        ((assemble l.recorded settings).run (st, [])).state =
          ((l.ask s.dir next).state, (before ++ [s]).map (·.dir))) ∧
    ((∃ groups last, GroupsFrom l st settings.sidebar groups last) ∨
      ∃ before s after groups next e, settings.sidebar = before ++ s :: after ∧
        GroupsFrom l st before groups next ∧ (l.ask s.dir next).result = .error e) ∧
    ((assemble l.recorded settings).run (st, [])).result = ((assemble l settings).run st).result := by
  have hcases := groupsFrom_or_first_failure l st settings.sidebar
  refine ⟨?_, ?_, hcases, ?_⟩
  · intro groups last h
    refine ⟨_, (run_assemble_of_groupsFrom h).1, SiteConfig.copies_ofSettings _ _, ?_,
      (run_assemble_of_groupsFrom (h.recorded [])).2⟩
    apply SidebarMap.shows_addAll
    rw [List.length_map]
    exact h.length_eq
  · intro before s after groups next e hs hb he
    have hrecorded := run_assemble_of_first_failure (l := l.recorded) hs (hb.recorded []) he
    refine ⟨(run_assemble_of_first_failure hs hb he).1, ?_⟩
    rw [hrecorded.2, Listing.state_ask_recorded, List.map_append]
    rfl
  · rcases hcases with ⟨groups, last, h⟩ | ⟨before, s, after, groups, next, e, hs, hb, he⟩
    · rw [(run_assemble_of_groupsFrom h).1, (run_assemble_of_groupsFrom (h.recorded [])).1]
    · rw [(run_assemble_of_first_failure hs hb he).1,
        (run_assemble_of_first_failure (l := l.recorded) hs (hb.recorded []) he).1]

/-- A backend with two directories, one of them with a file that is no page. -/
def shelf : MemoryListing :=
  ((({} : MemoryListing).withFile (.ofString "a/x.md")).withFile (.ofString "b/y.md")).withFile
    (.ofString "b/z.txt")

/-- Three sections on two routes, the routes not in order. -/
def shelfSections : List Section := [
  { route := "/r/", title := "One", dir := .ofString "a" },
  { route := "/q/", title := "Two", dir := .ofString "b" },
  { route := "/r/", title := "Three", dir := .ofString "b", exclude := ["y.md"], order := .name }]

/-- Settings of which none is empty. -/
def shelfSettings (sections : List Section) : SiteSettings where
  base := "/shelf/"
  lang := "en"
  title := "Shelf"
  description := "Two directories"
  head := [⟨"meta", [("name", "robots"), ("content", "none")]⟩]
  editLink := true
  theme := { logo := "logo.svg", navbar := [⟨"Home", "/"⟩], lastUpdated := true }
  sidebar := sections

/-- The groups of the sections. -/
def shelfGroups : List Group := [⟨"One", ["x.md"]⟩, ⟨"Two", ["y.md"]⟩, ⟨"Three", []⟩]

/-- A section whose directory is not there. -/
def lostSection : Section := { route := "/q/", title := "Lost", dir := .ofString "c" }

theorem groupsFrom_shelf : GroupsFrom MemoryListing.listing shelf shelfSections shelfGroups
    { shelf with calls := 3 } := by
  refine .cons ?_ (.cons ?_ (.cons ?_ (.nil _)))
  · decide +kernel
  · decide +kernel
  · decide +kernel

/-- The sections of the shelf make a site; with a lost section after them, and whatever comes after
that, the fourth question is the last. -/
theorem assemble_shelf :
    (∃ site, ((assemble MemoryListing.listing (shelfSettings shelfSections)).run shelf).result = .ok site ∧
      site.Copies (shelfSettings shelfSections) ∧ site.sidebar.Shows ["/r/", "/q/", "/r/"] shelfGroups ∧
      ((assemble MemoryListing.listing.recorded (shelfSettings shelfSections)).run (shelf, [])).state =
        ({ shelf with calls := 3 }, [.ofString "a", .ofString "b", .ofString "b"])) ∧
    ((assemble MemoryListing.listing (shelfSettings (shelfSections ++ lostSection :: shelfSections))).run
        shelf).result =
      .error ⟨.ofString "c", (ListingError.notFound (.ofString "c")).ofBackend "Mock"⟩ ∧
    ((assemble MemoryListing.listing.recorded
        (shelfSettings (shelfSections ++ lostSection :: shelfSections))).run (shelf, [])).state =
      ({ shelf with calls := 4 }, [.ofString "a", .ofString "b", .ofString "b", .ofString "c"]) := by
  have hall := assemble_all_or_first_failure MemoryListing.listing (shelfSettings shelfSections) shelf
  have hlost := assemble_all_or_first_failure MemoryListing.listing
    (shelfSettings (shelfSections ++ lostSection :: shelfSections)) shelf
  have hnone : (MemoryListing.listing.ask lostSection.dir { shelf with calls := 3 }).result =
      .error ((ListingError.notFound (.ofString "c")).ofBackend "Mock") := by decide +kernel
  exact ⟨hall.1 _ _ groupsFrom_shelf,
    hlost.2.1 shelfSections lostSection shelfSections _ _ _ rfl groupsFrom_shelf hnone⟩

end Assembly
end DocPortal
