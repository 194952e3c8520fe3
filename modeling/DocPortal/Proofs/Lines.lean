import DocPortal.Proofs.Agreement

/-!
# Lines that are read back

The pages of a directory are printed one after the other, each with a newline after it. Read line by line, this
gives the pages back exactly if none of their names has a newline in it: a name that has one is read as
several. The names of a directory may have newlines, so that two directories with different pages can be
printed alike.

## Main definitions

* `Text.lines` — the lines of a text, each of which ends with a newline.
-/

namespace DocPortal
namespace Text

/-! ## Lines -/

/-- The lines of a text, each of which ends with a newline. What follows the last newline is no line. -/
def lines (s : String) : List String := (s.toList.splitOn '\n').dropLast.map .ofList

theorem splitOn_toList (s t : String) :
    (s ++ "\n" ++ t).toList.splitOn '\n' = s.toList.splitOn '\n' ++ t.toList.splitOn '\n' := by
  have hchars : (s ++ "\n" ++ t).toList = s.toList ++ '\n' :: t.toList := by simp
  rw [hchars, List.splitOn_append_cons_self]

/-- A newline ends all lines of the text before it. -/
theorem lines_terminated (s : String) : lines (s ++ "\n") = (s.toList.splitOn '\n').map .ofList := by
  have hsplit := splitOn_toList s ""
  rw [String.append_empty] at hsplit
  rw [lines, hsplit]
  exact congrArg _ List.dropLast_concat

/-- Any newline ends a line. -/
theorem lines_append (s t : String) : lines (s ++ "\n" ++ t) = lines (s ++ "\n") ++ lines t := by
  rw [lines_terminated, lines, splitOn_toList,
    List.dropLast_append_of_ne_nil (List.splitOn_ne_nil '\n' t.toList), List.map_append]
  rfl

/-- A text without a newline is one line. -/
theorem lines_of_notMem {s : String} (h : '\n' ∉ s.toList) : lines (s ++ "\n") = [s] := by
  rw [lines_terminated, List.splitOn_eq_singleton h, List.map_singleton, String.ofList_toList]

/-- A text with a newline is several lines. -/
theorem one_lt_length_lines {s : String} (h : '\n' ∈ s.toList) : 1 < (lines (s ++ "\n")).length := by
  obtain ⟨before, after, hs⟩ := List.append_of_mem h
  have hbefore := List.length_pos_iff.2 (List.splitOn_ne_nil '\n' before)
  have hafter := List.length_pos_iff.2 (List.splitOn_ne_nil '\n' after)
  rw [lines_terminated, List.length_map, hs, List.splitOn_append_cons_self, List.length_append]
  omega

/-- Texts that are written one after the other are read one after the other. -/
theorem lines_join (l : List String) :
    lines (.join (l.map (· ++ "\n"))) = l.flatMap fun s => lines (s ++ "\n") := by
  induction l with
  | nil => rfl
  | cons s l ih => rw [List.map_cons, String.join_cons, lines_append, ih, List.flatMap_cons]

theorem length_le_length_flatMap_lines (l : List String) :
    l.length ≤ (l.flatMap fun s => lines (s ++ "\n")).length := by
  induction l with
  | nil => exact Nat.le_refl _
  | cons s l ih =>
    have hs : 1 ≤ (lines (s ++ "\n")).length := by
      by_cases h : '\n' ∈ s.toList
      · exact Nat.le_of_lt (one_lt_length_lines h)
      · rw [lines_of_notMem h]
        exact Nat.le_refl _
    rw [List.flatMap_cons, List.length_append, List.length_cons]
    omega

/-- Texts that are written one a line are read back exactly if none of them has a newline. -/
theorem lines_join_eq_self_iff {l : List String} :
    lines (.join (l.map (· ++ "\n"))) = l ↔ ∀ s ∈ l, '\n' ∉ s.toList := by
  rw [lines_join]
  constructor
  · -- A text with a newline would make more lines than there are texts.
    intro h s hs hnewline
    obtain ⟨before, after, rfl⟩ := List.append_of_mem hs
    have hlength := congrArg List.length h
    have hbefore := length_le_length_flatMap_lines before
    have hafter := length_le_length_flatMap_lines after
    have hs' := one_lt_length_lines hnewline
    simp only [List.flatMap_append, List.flatMap_cons, List.length_append, List.length_cons] at hlength
    omega
  · intro h
    induction l with
    | nil => rfl
    | cons s l ih =>
      obtain ⟨hs, hl⟩ := List.forall_mem_cons.1 h
      rw [List.flatMap_cons, lines_of_notMem hs, ih hl]
      rfl

example : lines "a.md\n\nb" = ["a.md", ""] := by decide +kernel

end Text

namespace Command

/-! ## Pages -/

variable {m : Machine} {dir : Path} {a : SidebarArguments} {pages : List String}

/-- The pages that are printed are names in the directory. -/
theorem mem_children_of_sidebarPages (h : sidebarPages m dir a = .ok pages) :
    ∃ loc, m.files.resolve m.cwd dir = .ok (loc, .directory) ∧
      ∀ p ∈ pages, ∃ node, (Text.encode p, node) ∈ m.files.children loc := by
  let e : SectionEntry Path := ⟨"/", "", dir, a.extensions, a.exclude, if a.sort then .name else .listing⟩
  have hasks : e.AsksFor dir a := ⟨rfl, rfl, rfl, rfl⟩
  have hgroup := group_eq (m := m) hasks
  rw [h] at hgroup
  obtain ⟨f, found, -, hask, hpages⟩ := (SectionEntry.group_ok_iff.1 hgroup).exists_entries
  obtain ⟨loc, hloc, hkids⟩ := Disk.forall₂_of_list_ok hask
  obtain rfl : pages = _ := congrArg Group.children hpages
  refine ⟨loc, hloc, fun p hp => ?_⟩
  rw [Section.groupOf, Sidebar.mem_children, Disk.mem_pageNames hkids] at hp
  obtain ⟨⟨⟨node, hnode, -⟩, -⟩, -⟩ := hp
  exact ⟨node, hnode⟩

theorem sidebar_ok (h : (sidebar m dir a).result = .ok ()) :
    ∃ pages, sidebarPages m dir a = .ok pages ∧
      (sidebar m dir a).stdout = .join (pages.map (· ++ "\n")) := by
  rw [sidebar_eq.1] at h
  obtain ⟨pages, hpages, -⟩ := Result.map_ok_iff.1 h
  refine ⟨pages, hpages, ?_⟩
  rw [sidebar_eq.2, hpages]
  rfl

/-- **Pages are read back line by line exactly if no page has a newline in its name.**  What is printed is read
as the lines of each name in turn, and these are the names themselves where no name has a newline, as when no
name in the directory has one.  Pages without newlines that are printed alike are the same, whatever they
are the pages of. -/
theorem pages_read_back_iff (m : Machine) (dir : Path) (a : SidebarArguments)
    (h : (sidebar m dir a).result = .ok ()) :
    ∃ pages, sidebarPages m dir a = .ok pages ∧
      Text.lines (sidebar m dir a).stdout = pages.flatMap (fun p => Text.lines (p ++ "\n")) ∧
      (Text.lines (sidebar m dir a).stdout = pages ↔ ∀ p ∈ pages, '\n' ∉ p.toList) ∧
      ((∀ loc, m.files.resolve m.cwd dir = .ok (loc, .directory) →
        ∀ e ∈ m.files.children loc, 0x0A ∉ e.1) → Text.lines (sidebar m dir a).stdout = pages) ∧
      ∀ m' dir' a' pages', sidebarPages m' dir' a' = .ok pages' → (∀ p ∈ pages, '\n' ∉ p.toList) →
        (∀ p ∈ pages', '\n' ∉ p.toList) → (sidebar m dir a).stdout = (sidebar m' dir' a').stdout →
        pages = pages' := by
  obtain ⟨pages, hpages, hstdout⟩ := sidebar_ok h
  obtain ⟨loc, hloc, hnames⟩ := mem_children_of_sidebarPages hpages
  rw [hstdout]
  refine ⟨pages, hpages, Text.lines_join pages, Text.lines_join_eq_self_iff, ?_, ?_⟩
  · intro hplain
    refine Text.lines_join_eq_self_iff.2 fun p hp hnewline => ?_
    obtain ⟨node, hnode⟩ := hnames p hp
    exact hplain loc hloc _ hnode (Text.mem_encode_of_mem hnewline (by decide))
  · intro m' dir' a' pages' hpages' hplain hplain' hsame
    have hstdout' : (sidebar m' dir' a').stdout = .join (pages'.map (· ++ "\n")) := by
      rw [sidebar, hpages']
      rfl
    rw [hstdout'] at hsame
    rw [← Text.lines_join_eq_self_iff.2 hplain, hsame, Text.lines_join_eq_self_iff.2 hplain']

/-- A machine whose only page has a newline in its name. -/
def scroll : Machine where
  files := ⟨[
    (.ofNames ["docs"], .directory),
    (.ofNames ["docs", "a.md\nb.md"], .file [])]⟩

/-- A machine with two pages. -/
def leaves : Machine where
  files := ⟨[
    (.ofNames ["docs"], .directory),
    (.ofNames ["docs", "a.md"], .file []),
    (.ofNames ["docs", "b.md"], .file [])]⟩

/-- The arguments that ask for markdown pages. -/
def markdownArguments : SidebarArguments := { extensions := [".md"] }

theorem sidebarPages_scroll :
    sidebarPages scroll (.ofString "docs") markdownArguments = .ok ["a.md\nb.md"] := by
  obtain ⟨pages, hpages, heq⟩ : ∃ pages, sidebarPages scroll (.ofString "docs") markdownArguments = .ok pages ∧
      decide (pages = ["a.md\nb.md"]) = true := Result.exists_ok_of_any (by decide +kernel)
  rw [hpages, of_decide_eq_true heq]

theorem sidebarPages_leaves :
    sidebarPages leaves (.ofString "docs") markdownArguments = .ok ["a.md", "b.md"] := by
  obtain ⟨pages, hpages, heq⟩ : ∃ pages, sidebarPages leaves (.ofString "docs") markdownArguments = .ok pages ∧
      decide (pages = ["a.md", "b.md"]) = true := Result.exists_ok_of_any (by decide +kernel)
  rw [hpages, of_decide_eq_true heq]

/-- Two pages without newlines are read back. -/
theorem pages_read_back_leaves :
    (sidebar leaves (.ofString "docs") markdownArguments).result = .ok () ∧
      Text.lines (sidebar leaves (.ofString "docs") markdownArguments).stdout = ["a.md", "b.md"] := by
  have hok : (sidebar leaves (.ofString "docs") markdownArguments).result = .ok () :=
    Result.eq_ok_of_isOk (by decide +kernel)
  obtain ⟨pages, hpages, -, hiff, -, -⟩ := pages_read_back_iff leaves (.ofString "docs") markdownArguments hok
  rw [sidebarPages_leaves] at hpages
  cases hpages
  exact ⟨hok, hiff.2 (by decide)⟩

/-- One page with a newline is not read back, and it is printed like two pages. -/
theorem not_forall_pages_read_back :
    (¬ ∀ (m : Machine) (dir : Path) (a : SidebarArguments) (pages : List String),
      sidebarPages m dir a = .ok pages → Text.lines (sidebar m dir a).stdout = pages) ∧
    ¬ ∀ (m m' : Machine) (dir dir' : Path) (a a' : SidebarArguments) (pages pages' : List String),
      sidebarPages m dir a = .ok pages → sidebarPages m' dir' a' = .ok pages' → pages ≠ pages' →
        (sidebar m dir a).stdout ≠ (sidebar m' dir' a').stdout := by
  constructor
  · intro h
    have hlines := h scroll _ _ _ sidebarPages_scroll
    rw [sidebar, sidebarPages_scroll] at hlines
    revert hlines
    decide +kernel
  · intro h
    refine h scroll leaves _ _ _ _ _ _ sidebarPages_scroll sidebarPages_leaves (by decide) ?_
    rw [sidebar, sidebar, sidebarPages_scroll, sidebarPages_leaves]
    decide +kernel

end Command
end DocPortal
