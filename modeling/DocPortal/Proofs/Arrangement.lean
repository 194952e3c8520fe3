import DocPortal.Proofs.Pages

/-!
# Groups and the order of a listing

In the order of names, the group of a section does not depend on the order in which its directory is listed:
what is sorted has one arrangement only, whatever way it is found. In the order of the listing, the group is
what the listing has of its pages, as often as it has them. What is excluded is excluded by its whole name.
-/

namespace DocPortal
namespace Sidebar

variable {σ τ : Type} {f : ExtensionFilter} {entries entries' : List DirectoryEntry} {s : Section}
  {names sorted : List String} {n : String}

/-! ## Names in their order -/

theorem arrange_name_eq_of_perm (h : sorted.Perm names) : arrange .name sorted = arrange .name names :=
  eq_arrange_name ((arrange_perm .name sorted).trans h) (pairwise_atMost_arrange_name sorted)

/-! ## Pages that are counted -/

theorem pageNames_perm (h : entries.Perm entries') :
    (pageNames f entries).Perm (pageNames f entries') :=
  (h.filter _).map _

/-- The pages with a name are the files that have it, if its extension is recognised. -/
theorem name_eq_and_isPage_iff {e : DirectoryEntry} :
    e.name = n ∧ e.isPage f = true ↔ e = .file n ∧ f.accepts (DirectoryEntry.extensionOf n) = true := by
  obtain ⟨name, isFile⟩ := e
  constructor
  · rintro ⟨rfl, hpage⟩
    obtain ⟨rfl, haccepts⟩ := Bool.and_eq_true_iff.1 hpage
    exact ⟨rfl, haccepts⟩
  · rintro ⟨heq, haccepts⟩
    cases heq
    exact ⟨rfl, Bool.and_eq_true_iff.2 ⟨rfl, haccepts⟩⟩

/-- A name is a page as often as it is listed as a file, if its extension is recognised. -/
theorem count_pageNames : (pageNames f entries).count n =
    if f.accepts (DirectoryEntry.extensionOf n) = true then entries.count (.file n) else 0 := by
  have hcount : (pageNames f entries).count n = entries.countP fun e => e.name = n ∧ e.isPage f = true := by
    rw [pageNames, List.count, List.countP_map, List.countP_filter]
    exact List.countP_congr fun e _ => by simp
  rw [hcount]
  split
  · rename_i haccepts
    exact List.countP_congr fun e _ => by simp [name_eq_and_isPage_iff, haccepts]
  · rename_i hnot
    rw [List.countP_eq_zero]
    intro e _
    simp [name_eq_and_isPage_iff, hnot]

/-- A name that is not excluded is a child as often as it is a page. -/
theorem count_children :
    (children s names).count n = if n ∈ s.exclude then 0 else names.count n := by
  rw [children, (arrange_perm _ _).count_eq]
  by_cases h : n ∈ s.exclude
  · rw [if_pos h, List.count_eq_zero]
    simp [h]
  · rw [if_neg h, List.count_filter (by simpa using h)]

/-! ## The two orders -/

/-- In the order of names the children of a group do not depend on the order of the listing. -/
theorem children_eq_of_perm (horder : s.order = .name) (h : entries.Perm entries') :
    children s (pageNames f entries) = children s (pageNames f entries') := by
  rw [children, children, horder]
  exact arrange_name_eq_of_perm ((pageNames_perm h).filter _)

/-- In the order of the listing the children of a group are what is left of the listing. -/
theorem children_of_listing (horder : s.order = .listing) : children s (pageNames f entries) =
    (entries.filter fun e => e.isFile && f.accepts e.extension && e.name ∉ s.exclude).map (·.name) := by
  rw [children, horder, arrange, pageNames, List.filter_map, List.filter_filter]
  congr 2
  funext e
  rw [DirectoryEntry.isPage, Function.comp_apply, Bool.and_comm]

/-- **A group keeps the order that its section asks for.**  Of two listings of a directory that have the same
entries, a section in the order of names makes the same group: its children are ascending, strictly if no name
is listed twice, and they are the only ascending arrangement of the pages that are not excluded.  In the order of
the listing the children are the names of the files with a recognised extension that are not excluded, in the
order in which they are listed and as often.  Exclusion takes all of an excluded name and nothing else. -/
theorem group_keeps_order (l : Listing σ) (l' : Listing τ) (s : Section) (st : σ) (st' : τ)
    (h : (l.ask s.dir st).result = .ok entries) (h' : (l'.ask s.dir st').result = .ok entries')
    (hperm : entries.Perm entries') :
    ∃ names g g', ((pages l s.dir s.extensions).run st).result = .ok names ∧
      ((group l s).run st).result = .ok g ∧ ((group l' s).run st').result = .ok g' ∧ g.text = s.title ∧
      (s.order = .name → g = g' ∧ g.children.Perm (names.filter (· ∉ s.exclude)) ∧
        (g.children.Pairwise fun n n' => Text.atMost n n' = true) ∧
        ((entries.map (·.name)).Nodup → g.children.Pairwise fun n n' => Text.precedes n n' = true) ∧
        ∀ sorted, sorted.Perm (names.filter (· ∉ s.exclude)) →
          (sorted.Pairwise fun n n' => Text.atMost n n' = true) → sorted = g.children) ∧
      (s.order = .listing → g.children.Sublist (entries.map (·.name)) ∧
        g.children = (entries.filter fun e =>
          e.isFile && s.extensions.accepts e.extension && e.name ∉ s.exclude).map (·.name) ∧
        ∀ n, g.children.count n =
          if s.extensions.accepts (DirectoryEntry.extensionOf n) = true ∧ n ∉ s.exclude then
            entries.count (.file n) else 0) ∧
      (∀ n ∈ s.exclude, n ∉ g.children) ∧ ∀ n, n ∉ s.exclude → g.children.count n = names.count n := by
  refine ⟨pageNames s.extensions entries, s.groupOf entries, s.groupOf entries',
    by rw [run_pages_of_ok h s.extensions], by rw [run_group_of_ok h], by rw [run_group_of_ok h'],
    rfl, ?_, ?_, ?_, ?_⟩
  · intro horder
    have hchildren : (s.groupOf entries).children =
        arrange .name ((pageNames s.extensions entries).filter (· ∉ s.exclude)) := by
      rw [Section.groupOf, children, horder]
    refine ⟨?_, arrange_perm _ _, ?_, ?_, ?_⟩
    · rw [Section.groupOf, children_eq_of_perm horder hperm]
      rfl
    · rw [hchildren]
      exact pairwise_atMost_arrange_name _
    · intro hnodup
      have hpages : (pageNames s.extensions entries).Nodup := hnodup.sublist (List.filter_sublist.map _)
      rw [hchildren]
      exact pairwise_arrange_name (hpages.sublist List.filter_sublist)
    · intro sorted hsorted hascending
      rw [hchildren]
      exact eq_arrange_name hsorted hascending
  · intro horder
    have hchildren : (s.groupOf entries).children = _ := children_of_listing horder
    refine ⟨?_, hchildren, ?_⟩
    · rw [hchildren]
      exact List.filter_sublist.map _
    · intro n
      rw [Section.groupOf, count_children, count_pageNames]
      by_cases hn : n ∈ s.exclude <;> simp [hn]
  · intro n hn hmem
    exact (mem_children.1 hmem).2 hn
  · intro n hn
    rw [Section.groupOf, count_children, if_neg hn]

/-- A directory with some files, registered one after the other. -/
def bookcase (files : List String) : MemoryListing :=
  files.foldl (fun m file => m.withFile ((Path.ofString "b").join (.ofString file))) {}

/-- A section that shows that directory in an order, but for one page. -/
def bookSection (order : PageOrder) : Section :=
  { route := "/b/", title := "Books", dir := .ofString "b", exclude := ["c.md"], order }

/-- Two registrations of the same four files, three of them pages. -/
theorem group_keeps_order_bookcase :
    (∃ g, ((group MemoryListing.listing (bookSection .name)).run
          (bookcase ["b.md", "z.txt", "c.md", "a.md"])).result = .ok g ∧
        ((group MemoryListing.listing (bookSection .name)).run
          (bookcase ["c.md", "a.md", "b.md", "z.txt"])).result = .ok g ∧ g.children = ["a.md", "b.md"]) ∧
      ∃ g, ((group MemoryListing.listing (bookSection .listing)).run
          (bookcase ["b.md", "z.txt", "c.md", "a.md"])).result = .ok g ∧ g.children = ["b.md", "a.md"] := by
  have hfront (order : PageOrder) :
      (MemoryListing.listing.ask (bookSection order).dir (bookcase ["b.md", "z.txt", "c.md", "a.md"])).result =
        .ok [.file "b.md", .file "z.txt", .file "c.md", .file "a.md"] := by
    cases order <;> decide +kernel
  have hback : (MemoryListing.listing.ask (bookSection .name).dir
      (bookcase ["c.md", "a.md", "b.md", "z.txt"])).result =
        .ok [.file "c.md", .file "a.md", .file "b.md", .file "z.txt"] := by decide +kernel
  obtain ⟨names, g, g', hnames, hg, hg', -, hname, -⟩ := group_keeps_order MemoryListing.listing
    MemoryListing.listing (bookSection .name) _ _ (hfront .name) hback (by decide)
  obtain ⟨heq, -, -, -, hunique⟩ := hname rfl
  obtain ⟨-, kept, -, -, hkept, -, -, -, hlisting, -⟩ := group_keeps_order MemoryListing.listing
    MemoryListing.listing (bookSection .listing) _ _ (hfront .listing) (hfront .listing) (.refl _)
  have hnames' : names = ["b.md", "c.md", "a.md"] := by
    have hrun : ((pages MemoryListing.listing (bookSection .name).dir (bookSection .name).extensions).run
        (bookcase ["b.md", "z.txt", "c.md", "a.md"])).result = .ok ["b.md", "c.md", "a.md"] := by
      decide +kernel
    exact Except.ok.inj (hnames.symm.trans hrun)
  refine ⟨⟨g, hg, heq ▸ hg', ?_⟩, kept, hkept, ?_⟩
  · refine (hunique ["a.md", "b.md"] ?_ (by decide +kernel)).symm
    rw [hnames']
    decide +kernel
  · rw [(hlisting rfl).2.1]
    decide +kernel

end Sidebar
end DocPortal
