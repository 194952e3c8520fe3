import DocPortal.Config.Settings
import DocPortal.Listing.Disk
import DocPortal.Machine
import DocPortal.Proofs.Assembly
import DocPortal.Proofs.Tree
import Mathlib.Data.List.Nodup

/-!
# The pages of a directory

What a section shows of a directory on disk: the names of the regular files in it that have one of the
section's extensions and are not excluded, each once, in the order that the section asks for.
-/

namespace DocPortal

/-! ## Putting names into an order -/

namespace Sidebar

theorem arrange_perm (order : PageOrder) (names : List String) : (arrange order names).Perm names := by
  cases order with
  | listing => exact .refl _
  | name => exact List.mergeSort_perm names _

theorem pairwise_atMost_arrange_name (names : List String) :
    (arrange .name names).Pairwise fun n n' => Text.atMost n n' = true :=
  @List.pairwise_mergeSort String Text.atMost (fun _ _ _ => Text.atMost_trans) Text.atMost_total names

/-- Names have one ascending arrangement. -/
theorem eq_arrange_name {sorted names : List String} (hperm : sorted.Perm names)
    (hsorted : sorted.Pairwise fun n n' => Text.atMost n n' = true) : sorted = arrange .name names :=
  (hperm.trans (arrange_perm .name names).symm).eq_of_pairwise (fun _ _ _ _ => Text.atMost_antisymm)
    hsorted (pairwise_atMost_arrange_name names)

/-- Names that differ are strictly ascending when they are put in the order of names. -/
theorem pairwise_arrange_name {names : List String} (h : names.Nodup) :
    (arrange .name names).Pairwise fun n n' => Text.precedes n n' = true := by
  have hnodup : (arrange .name names).Nodup := (arrange_perm .name names).nodup_iff.2 h
  refine ((pairwise_atMost_arrange_name names).and hnodup).imp ?_
  rintro n n' ⟨hle, hne⟩
  rcases Text.precedes_or_eq_or_precedes n n' with hlt | heq | hgt
  · exact hlt
  · exact absurd heq hne
  · rw [Text.atMost_eq_not_precedes, hgt] at hle
    cases hle

theorem mem_children {s : Section} {names : List String} {n : String} :
    n ∈ children s names ↔ n ∈ names ∧ n ∉ s.exclude := by
  rw [children, (arrange_perm _ _).mem_iff]
  simp

theorem nodup_children {s : Section} {names : List String} (h : names.Nodup) :
    (children s names).Nodup :=
  (arrange_perm _ _).nodup_iff.2 (h.sublist List.filter_sublist)

end Sidebar

/-! ## Entries on disk -/

namespace FileSystem

/-- An entry of a directory that is a regular file, or a link at whose path the system finds one. -/
def IsRegularEntry (fs : FileSystem) (cwd : Location) (dir : Path) (name : Bytes) (node : Node) : Prop :=
  (∃ content, node = .file content) ∨
    ∃ target loc content, node = .link target ∧
      fs.resolve cwd (dir.child name) = .ok (loc, .file content)

end FileSystem

namespace Disk

variable {fs : FileSystem} {cwd : Location} {dir : Path}

theorem isRegularFile_iff {name : Bytes} {node : Node} :
    (isRegularFile fs cwd dir name node).1 = true ↔ fs.IsRegularEntry cwd dir name node := by
  cases node with
  | file content => simp [isRegularFile, FileSystem.IsRegularEntry]
  | directory => simp [isRegularFile, FileSystem.IsRegularEntry]
  | closed => simp [isRegularFile, FileSystem.IsRegularEntry]
  | device => simp [isRegularFile, FileSystem.IsRegularEntry]
  | link target =>
    cases h : fs.resolve cwd (dir.child name) with
    | error fault => simp [isRegularFile, FileSystem.IsRegularEntry, h]
    | ok found =>
      obtain ⟨loc, node⟩ := found
      cases node <;> simp [isRegularFile, FileSystem.IsRegularEntry, h]

/-- An entry that tells the name of a child and whether that is a regular file. -/
def Describes (fs : FileSystem) (cwd : Location) (dir : Path) (child : Bytes × Node)
    (e : DirectoryEntry) : Prop :=
  Text.encode e.name = child.1 ∧ (e.isFile = true ↔ fs.IsRegularEntry cwd dir child.1 child.2)

/-- Entries are found for all children, in order, if they are found at all. -/
theorem forall₂_of_entries_ok {kids : List (Bytes × Node)} {found : List DirectoryEntry}
    (h : (entries fs cwd dir kids).1 = .ok found) :
    List.Forall₂ (Describes fs cwd dir) kids found := by
  induction kids generalizing found with
  | nil =>
    cases h
    exact .nil
  | cons kid rest ih =>
    obtain ⟨name, node⟩ := kid
    cases htext : Text.decode? name with
    | none => simp [entries, htext] at h
    | some text =>
      simp only [entries, htext, Result.map_ok_iff] at h
      obtain ⟨later, hlater, rfl⟩ := h
      exact .cons ⟨Text.encode_of_decode? htext, isRegularFile_iff⟩ (ih hlater)

/-- A directory that can be listed is there, and its children are described one by one. -/
theorem forall₂_of_list_ok {found : List DirectoryEntry}
    (h : ((listing cwd).ask dir fs).result = .ok found) :
    ∃ loc, fs.resolve cwd dir = .ok (loc, .directory) ∧
      List.Forall₂ (Describes fs cwd dir) (fs.children loc) found := by
  simp only [listing, list] at h
  split at h
  · cases h
  · rename_i loc hloc
    split at h
    · rename_i entries events hentries
      cases h
      exact ⟨loc, hloc, forall₂_of_entries_ok (by rw [hentries])⟩
    · cases h
  · cases h
  · cases h

variable {kids : List (Bytes × Node)} {found : List DirectoryEntry}

theorem map_encode_name (h : List.Forall₂ (Describes fs cwd dir) kids found) :
    (found.map (·.name)).map Text.encode = kids.map (·.1) := by
  induction h with
  | nil => rfl
  | cons head _ ih => rw [List.map_cons, List.map_cons, List.map_cons, head.1, ih]

/-- The page names among the entries are the names of the regular files with a recognised extension. -/
theorem mem_pageNames (h : List.Forall₂ (Describes fs cwd dir) kids found) {f : ExtensionFilter}
    {n : String} :
    n ∈ Sidebar.pageNames f found ↔
      (∃ node, (Text.encode n, node) ∈ kids ∧ fs.IsRegularEntry cwd dir (Text.encode n) node) ∧
        f.accepts (DirectoryEntry.extensionOf n) = true := by
  induction h with
  | nil => simp [Sidebar.pageNames]
  | @cons kid e kids found head _ ih =>
    obtain ⟨name, node⟩ := kid
    obtain ⟨hname, hfile⟩ := head
    simp only at hname hfile
    have hsplit : n ∈ Sidebar.pageNames f (e :: found) ↔
        (e.isPage f = true ∧ n = e.name) ∨ n ∈ Sidebar.pageNames f found := by
      by_cases hpage : e.isPage f = true
      · simp [Sidebar.pageNames, hpage]
      · simp [Sidebar.pageNames, hpage]
    rw [hsplit, ih, DirectoryEntry.isPage, Bool.and_eq_true, hfile]
    constructor
    · rintro (⟨⟨hreg, hext⟩, rfl⟩ | ⟨⟨node', hmem, hreg⟩, hext⟩)
      · exact ⟨⟨node, by rw [hname]; exact List.mem_cons_self, by rw [hname]; exact hreg⟩, hext⟩
      · exact ⟨⟨node', List.mem_cons_of_mem _ hmem, hreg⟩, hext⟩
    · rintro ⟨⟨node', hmem, hreg⟩, hext⟩
      rcases List.mem_cons.1 hmem with heq | hmem
      · obtain ⟨hn, rfl⟩ := Prod.mk.inj heq
        have hnames : e.name = n := Text.encode_injective (hname.trans hn.symm)
        subst hnames
        exact .inl ⟨⟨hname ▸ hreg, hext⟩, rfl⟩
      · exact .inr ⟨⟨node', hmem, hreg⟩, hext⟩

end Disk

/-! ## The pages that a section shows -/

namespace SectionEntry

/-- A configured section gives a group: its extensions make a filter, and the scan of its directory
succeeds. -/
def Gives (e : SectionEntry Path) (m : Machine) (g : Group) : Prop :=
  ∃ s, e.toSection = .ok s ∧ ((Sidebar.group (Disk.listing m.cwd) s).run m.files).result = .ok g

variable {m : Machine} {e : SectionEntry Path} {g : Group}

/-- The filter that a section gives a group with, and the entries that it makes the group of. -/
theorem Gives.exists_entries (h : e.Gives m g) :
    ∃ f found, ExtensionFilter.ofList e.extensions = .ok f ∧
      ((Disk.listing m.cwd).ask e.dir m.files).result = .ok found ∧
      g = Section.groupOf ⟨e.route, e.title, e.dir, f, e.exclude, e.order⟩ found := by
  obtain ⟨s, hs, hg⟩ := h
  obtain ⟨f, hf, hpure⟩ := Result.bind_ok_iff.1 hs
  obtain rfl := Result.pure_ok_iff.1 hpure
  cases hask : ((Disk.listing m.cwd).ask e.dir m.files).result with
  | error err =>
    rw [Sidebar.run_group_of_error hask] at hg
    cases hg
  | ok found =>
    rw [Sidebar.run_group_of_ok hask] at hg
    cases hg
    exact ⟨f, found, hf, rfl, rfl⟩

/-- A section gives one group. -/
theorem gives_rightUnique (m : Machine) : Relator.RightUnique fun (e : SectionEntry Path) g => e.Gives m g := by
  rintro e g g' ⟨s, hs, hg⟩ ⟨s', hs', hg'⟩
  cases hs.symm.trans hs'
  exact Except.ok.inj (hg.symm.trans hg')

/-- The group of a section has the section's title. -/
theorem Gives.text_eq (h : e.Gives m g) : g.text = e.title := by
  obtain ⟨f, found, -, -, rfl⟩ := h.exists_entries
  rfl

end SectionEntry
end DocPortal
