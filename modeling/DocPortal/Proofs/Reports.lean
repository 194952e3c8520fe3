import DocPortal.Proofs.Assembly

/-!
# What a scan reports

Of its own a scan reports every entry that is no page, in the order of the listing, and then once how many entries
there were and how many of them are pages. So nothing that is listed is passed over in silence. An assembly reports
this for each section in turn, and after it how many children the section's group has; a section that fails adds
nothing, and nothing comes after it. What the backend reports on the way is left out here.

## Main definitions

* `ScanEvent.ownLines` — the log lines of events that are not the backend's.
* `Sidebar.scanLines`, `Section.lines` — what is reported of a directory and of a section.
* `Assembly.AnswersFrom` — the entries that are found for sections, one after the other.
-/

namespace DocPortal

variable {σ α : Type}

/-! ## Log lines -/

namespace ScanEvent

/-- Whether an event is one of the scan itself, and none of the backend. -/
def isOwn : ScanEvent → Bool
  | listing _ => false
  | _ => true

/-- The log lines of the events of the scan itself. -/
def ownLines (events : List ScanEvent) : List LogLine := (events.filter (·.isOwn)).map (·.logLine)

@[simp] theorem ownLines_append (events later : List ScanEvent) :
    ownLines (events ++ later) = ownLines events ++ ownLines later := by
  simp [ownLines]

@[simp] theorem ownLines_listing (events : List ListingEvent) : ownLines (events.map .listing) = [] := by
  simp [ownLines, isOwn]

end ScanEvent

/-- The log lines of a run, without those of the backend. -/
def ScanResult.ownLines (r : ScanResult σ α) : List LogLine := ScanEvent.ownLines r.events

/-- The line about an entry that is no page: a file among these has an extension that is not recognised. -/
def DirectoryEntry.skipLine (e : DirectoryEntry) : LogLine :=
  ⟨.trace, if e.isFile then "Skipping unrecognized extension" else "Skipping non-file entry",
    [("name", .text e.name)]⟩

/-- The lines about a directory: one for each entry that is no page, and then the summary. -/
def Sidebar.scanLines (dir : Path) (f : ExtensionFilter) (entries : List DirectoryEntry) : List LogLine :=
  (entries.filter fun e => !e.isPage f).map (·.skipLine) ++
    [⟨.debug, "Scanned content directory", [("dir", .text dir.display), ("entries", .count entries.length),
      ("pages", .count (pageNames f entries).length)]⟩]

/-- The lines about a section: those about its directory, and then one about its group. -/
def Section.lines (s : Section) (entries : List DirectoryEntry) : List LogLine :=
  Sidebar.scanLines s.dir s.extensions entries ++
    [⟨.info, "Built sidebar group", [("route", .text s.route), ("title", .text s.title),
      ("pages", .count (s.groupOf entries).children.length)]⟩]

/-! ## Reports on a directory -/

namespace DirectoryEntry

variable {f : ExtensionFilter} {e : DirectoryEntry}

theorem skipEvent_of_isPage (h : e.isPage f = true) : e.skipEvent f = none := by
  obtain ⟨hfile, haccepts⟩ := Bool.and_eq_true_iff.1 h
  simp [skipEvent, hfile, haccepts]

/-- An entry that is no page is reported by one line. -/
theorem exists_skipEvent (h : e.isPage f = false) :
    ∃ event, e.skipEvent f = some event ∧ event.isOwn = true ∧ event.logLine = e.skipLine := by
  obtain ⟨name, isFile⟩ := e
  cases isFile with
  | false => exact ⟨.skippedOther name, rfl, rfl, rfl⟩
  | true =>
    have haccepts : f.accepts (extensionOf name) = false := h
    exact ⟨.skippedExtension name, by simp [skipEvent, haccepts], rfl, rfl⟩

end DirectoryEntry

namespace Sidebar

variable {l : Listing σ} {dir : Path} {st : σ} {entries : List DirectoryEntry}

/-- The entries that are no pages are reported one by one, in their order. -/
theorem ownLines_filterMap_skipEvent (f : ExtensionFilter) (entries : List DirectoryEntry) :
    ScanEvent.ownLines (entries.filterMap (·.skipEvent f)) =
      (entries.filter fun e => !e.isPage f).map (·.skipLine) := by
  induction entries with
  | nil => rfl
  | cons e entries ih =>
    rw [ScanEvent.ownLines] at ih ⊢
    cases hpage : e.isPage f with
    | true =>
      rw [List.filterMap_cons_none (DirectoryEntry.skipEvent_of_isPage hpage), ih,
        List.filter_cons_of_neg (by simp [hpage])]
    | false =>
      obtain ⟨event, hevent, hown, hline⟩ := DirectoryEntry.exists_skipEvent hpage
      rw [List.filterMap_cons_some hevent, List.filter_cons_of_pos hown, List.map_cons, ih, hline,
        List.filter_cons_of_pos (by simp [hpage]), List.map_cons]

theorem ownLines_scanEvents (dir : Path) (f : ExtensionFilter) (entries : List DirectoryEntry) :
    ScanEvent.ownLines (scanEvents dir f entries) = scanLines dir f entries := by
  rw [scanEvents, ScanEvent.ownLines_append, ownLines_filterMap_skipEvent]
  rfl

/-- Every entry is a page or is reported. -/
theorem length_eq_add_countP (dir : Path) (f : ExtensionFilter) (entries : List DirectoryEntry) :
    entries.length =
      (pageNames f entries).length + (scanLines dir f entries).countP (·.level = .trace) := by
  have hskipped : (scanLines dir f entries).countP (·.level = .trace) = entries.countP (!·.isPage f) := by
    rw [scanLines, List.countP_append, List.countP_map, List.countP_filter]
    simp [DirectoryEntry.skipLine]
  rw [hskipped, pageNames, List.length_map, ← List.countP_eq_length_filter,
    List.length_eq_countP_add_countP (·.isPage f)]
  simp

/-- The lines about a directory that is listed. -/
theorem ownLines_pages_of_ok (h : (l.ask dir st).result = .ok entries) (f : ExtensionFilter) :
    ((pages l dir f).run st).result = .ok (pageNames f entries) ∧
      ((pages l dir f).run st).ownLines = scanLines dir f entries := by
  have hrun := run_pages_of_ok h f
  refine ⟨congrArg ScanResult.result hrun, ?_⟩
  rw [ScanResult.ownLines, hrun, ScanEvent.ownLines_append, ScanEvent.ownLines_listing, ownLines_scanEvents]
  rfl

/-- A directory that cannot be listed is not reported on. -/
theorem ownLines_pages_of_error {e : ListingError} (h : (l.ask dir st).result = .error e) (f : ExtensionFilter) :
    ((pages l dir f).run st).result = .error ⟨dir, e⟩ ∧ ((pages l dir f).run st).ownLines = [] := by
  have hrun := run_pages_of_error h f
  refine ⟨congrArg ScanResult.result hrun, ?_⟩
  rw [ScanResult.ownLines, hrun, ScanEvent.ownLines_listing]

end Sidebar

/-! ## Reports on sections -/

namespace Assembly

variable {l : Listing σ} {st last : σ} {s : Section} {sections : List Section}
  {entries : List DirectoryEntry} {answers : List (List DirectoryEntry)}

/-- Asked for the directories of sections in turn, a backend finds entries for each of them. -/
inductive AnswersFrom (l : Listing σ) : σ → List Section → List (List DirectoryEntry) → σ → Prop
  | nil (st : σ) : AnswersFrom l st [] [] st
  | cons {st last : σ} {s : Section} {rest : List Section} {entries : List DirectoryEntry}
      {answers : List (List DirectoryEntry)} (head : (l.ask s.dir st).result = .ok entries)
      (tail : AnswersFrom l (l.ask s.dir st).state rest answers last) :
      AnswersFrom l st (s :: rest) (entries :: answers) last

/-- Entries that are found make groups. -/
theorem AnswersFrom.groupsFrom (h : AnswersFrom l st sections answers last) :
    GroupsFrom l st sections (sections.zipWith Section.groupOf answers) last := by
  induction h with
  | nil st => exact .nil st
  | cons head _ ih => exact .cons (by rw [Sidebar.run_group_of_ok head]) ih

/-- Groups are made of entries that were found. -/
theorem GroupsFrom.exists_answers {groups : List Group} (h : GroupsFrom l st sections groups last) :
    ∃ answers, AnswersFrom l st sections answers last := by
  induction h with
  | nil st => exact ⟨[], .nil st⟩
  | @cons st last s rest g groups head _ ih =>
    obtain ⟨answers, hanswers⟩ := ih
    cases hask : (l.ask s.dir st).result with
    | error e =>
      rw [Sidebar.run_group_of_error hask] at head
      cases head
    | ok entries => exact ⟨entries :: answers, .cons hask hanswers⟩

/-- One round of the loop reports on its section before anything else. -/
theorem ownLines_addGroups_cons (h : (l.ask s.dir st).result = .ok entries) (m : SidebarMap) (rest : List Section) :
    ((addGroups l m (s :: rest)).run st).ownLines = s.lines entries ++
      ((addGroups l (m.add s.route (s.groupOf entries)) rest).run (l.ask s.dir st).state).ownLines := by
  have hgroup := Sidebar.run_group_of_ok h
  rw [addGroups, Scan.run_bind_of_ok (by rw [hgroup]), hgroup, ScanResult.ownLines, ScanEvent.ownLines_append,
    ScanEvent.ownLines_append, ScanEvent.ownLines_listing, Sidebar.ownLines_scanEvents, List.nil_append,
    Section.lines, List.append_assoc]
  rfl

/-- The loop reports on the sections one after the other. -/
theorem AnswersFrom.ownLines_addGroups (h : AnswersFrom l st sections answers last) (m : SidebarMap)
    (rest : List Section) :
    ∃ m', ((addGroups l m (sections ++ rest)).run st).ownLines =
      (sections.zipWith Section.lines answers).flatten ++ ((addGroups l m' rest).run last).ownLines := by
  induction h generalizing m with
  | nil st => exact ⟨m, rfl⟩
  | @cons st last s tail entries answers head _ ih =>
    obtain ⟨m', hm'⟩ := ih (m.add s.route (s.groupOf entries))
    refine ⟨m', ?_⟩
    rw [List.cons_append, ownLines_addGroups_cons head, hm', List.zipWith_cons_cons, List.flatten_cons,
      List.append_assoc]

theorem ownLines_assemble (l : Listing σ) (settings : SiteSettings) (st : σ) :
    ((assemble l settings).run st).ownLines = ((addGroups l [] settings.sidebar).run st).ownLines := by
  rw [assemble]
  cases h : ((addGroups l [] settings.sidebar).run st).result with
  | error e =>
    rw [Scan.run_bind_of_error h]
    rfl
  | ok sidebar =>
    rw [Scan.run_bind_of_ok h, ScanResult.ownLines, ScanEvent.ownLines_append]
    exact List.append_nil _

/-- **Scans account for every entry.**  If a directory is listed, each entry that is no page is reported by one
line, in the order of the listing, with its name and why it is none, and then one line has the number of
entries and the number of pages, which differ by the number of the lines before. If it is not listed, nothing is
reported. An assembly reports on its sections in order: on each this, and then one line with the number of
children in the group that the site has for it. A section that fails is not reported on, and nothing after it. -/
theorem scans_account_for_entries (l : Listing σ) :
    (∀ dir f st,
      (∃ entries, (l.ask dir st).result = .ok entries ∧
        ((Sidebar.pages l dir f).run st).result = .ok (Sidebar.pageNames f entries) ∧
        ((Sidebar.pages l dir f).run st).ownLines = Sidebar.scanLines dir f entries ∧
        entries.length = (Sidebar.pageNames f entries).length +
          ((Sidebar.pages l dir f).run st).ownLines.countP (·.level = .trace)) ∨
      ∃ e, (l.ask dir st).result = .error e ∧
        ((Sidebar.pages l dir f).run st).result = .error ⟨dir, e⟩ ∧
        ((Sidebar.pages l dir f).run st).ownLines = []) ∧
    ∀ settings st,
      (∃ answers last site, AnswersFrom l st settings.sidebar answers last ∧
        ((assemble l settings).run st).result = .ok site ∧ site.Copies settings ∧
        site.sidebar.Shows (settings.sidebar.map (·.route)) (settings.sidebar.zipWith Section.groupOf answers) ∧
        ((assemble l settings).run st).ownLines = (settings.sidebar.zipWith Section.lines answers).flatten) ∨
      ∃ before s after answers next e, settings.sidebar = before ++ s :: after ∧
        AnswersFrom l st before answers next ∧ (l.ask s.dir next).result = .error e ∧
        ((assemble l settings).run st).result = .error ⟨s.dir, e⟩ ∧
        ((assemble l settings).run st).ownLines = (before.zipWith Section.lines answers).flatten := by
  constructor
  · intro dir f st
    cases hask : (l.ask dir st).result with
    | ok entries =>
      obtain ⟨hresult, hlines⟩ := Sidebar.ownLines_pages_of_ok hask f
      refine .inl ⟨entries, rfl, hresult, hlines, ?_⟩
      rw [hlines]
      exact Sidebar.length_eq_add_countP dir f entries
    | error e => exact .inr ⟨e, rfl, Sidebar.ownLines_pages_of_error hask f⟩
  · intro settings st
    rw [ownLines_assemble]
    obtain ⟨groups, last, hgroups⟩ | ⟨before, s, after, groups, next, e, hs, hbefore, he⟩ :=
      groupsFrom_or_first_failure l st settings.sidebar
    · obtain ⟨answers, hanswers⟩ := hgroups.exists_answers
      obtain ⟨m', hlines⟩ := hanswers.ownLines_addGroups [] []
      have hlength := hanswers.groupsFrom.length_eq
      refine .inl ⟨answers, last, _, hanswers, (run_assemble_of_groupsFrom hanswers.groupsFrom).1,
        SiteConfig.copies_ofSettings _ _, ?_, ?_⟩
      · exact SidebarMap.shows_addAll (by rw [hlength, List.length_map])
      · rw [List.append_nil] at hlines
        exact hlines.trans (List.append_nil _)
    · obtain ⟨answers, hanswers⟩ := hbefore.exists_answers
      obtain ⟨m', hlines⟩ := hanswers.ownLines_addGroups [] (s :: after)
      refine .inr ⟨before, s, after, answers, next, e, hs, hanswers, he,
        (run_assemble_of_first_failure hs hbefore he).1, ?_⟩
      have hgroup := Sidebar.run_group_of_error he
      have hnothing : ((addGroups l m' (s :: after)).run next).ownLines = [] := by
        rw [addGroups, Scan.run_bind_of_error (by rw [hgroup]), hgroup]
        exact ScanEvent.ownLines_listing _
      rw [hs, hlines, hnothing, List.append_nil]

end Assembly
end DocPortal
