import DocPortal.Config.Validation
import DocPortal.Site.Config
import Mathlib.Data.List.Basic

/-!
# Valid portals and valid sites

A portal has no fault exactly if it is valid in the plain sense: routes and the base start and end with
a slash, titles and names are not empty, and the extensions of every section make a filter. A site that
is assembled from valid parts is written as JSON that is valid in the same sense.
-/

namespace DocPortal

/-! ## Slashes -/

/-- A text that starts with a slash and ends with one, which may be the same. -/
def Slashed (s : String) : Prop := (∃ rest, s = "/" ++ rest) ∧ ∃ start, s = start ++ "/"

theorem isSlashed_iff {s : String} : isSlashed s = true ↔ Slashed s := by
  rw [isSlashed, Bool.and_eq_true, decide_eq_true_eq, decide_eq_true_eq, List.head?_eq_some_iff,
    List.getLast?_eq_some_iff]
  refine and_congr ?_ ?_
  · constructor
    · rintro ⟨rest, h⟩
      exact ⟨.ofList rest, String.toList_inj.1 (by rw [h]; simp)⟩
    · rintro ⟨rest, rfl⟩
      exact ⟨rest.toList, by rw [String.toList_append]; rfl⟩
  · constructor
    · rintro ⟨start, h⟩
      exact ⟨.ofList start, String.toList_inj.1 (by rw [h]; simp)⟩
    · rintro ⟨start, rfl⟩
      exact ⟨start.toList, by rw [String.toList_append]; rfl⟩

/-! ## Portals -/

/-- A portal all of whose texts are fit for use. -/
structure Portal.Valid (p : Portal) : Prop where
  title : p.site.title ≠ ""
  base : Slashed p.site.base
  head : ∀ tag ∈ p.head, tag.tag ≠ ""
  navbar : ∀ link ∈ p.theme.navbar, link.text ≠ "" ∧ link.link ≠ ""
  sections : ∀ s ∈ p.sections, Slashed s.route ∧ s.title ≠ "" ∧ s.dir ≠ "" ∧
    ∃ f, ExtensionFilter.ofList s.extensions = .ok f

theorem emptyFault_eq_nil_iff {field : Field} {s : String} : emptyFault field s = [] ↔ s ≠ "" := by
  simp [emptyFault]

theorem slashFault_eq_nil_iff {field : Field} {s : String} :
    slashFault field s = [] ↔ Slashed s := by
  rw [← isSlashed_iff]
  simp [slashFault]

theorem extensionFault_eq_nil_iff {i : Nat} {extensions : List String} :
    extensionFault i extensions = [] ↔ ∃ f, ExtensionFilter.ofList extensions = .ok f := by
  unfold extensionFault
  split
  · rename_i f hf
    simp [hf]
  · rename_i e he
    simp [he]

/-- No element of a list has a fault exactly if each of them is right, wherever it stands. -/
theorem flatMap_zipIdx_eq_nil_iff {α β : Type} {l : List α} {f : α × Nat → List β} {P : α → Prop}
    (h : ∀ a i, f (a, i) = [] ↔ P a) : l.zipIdx.flatMap f = [] ↔ ∀ a ∈ l, P a := by
  rw [List.flatMap_eq_nil_iff]
  constructor
  · intro hnil a ha
    obtain ⟨i, hi, rfl⟩ := List.getElem_of_mem ha
    exact (h _ i).1 (hnil (l[i], i) (List.mk_mem_zipIdx_iff_getElem?.2 (by simp [hi])))
  · rintro hall ⟨a, i⟩ hmem
    exact (h a i).2 (hall a (List.fst_mem_of_mem_zipIdx hmem))

theorem SiteInfo.faults_eq_nil_iff (s : SiteInfo) : s.faults = [] ↔ s.title ≠ "" ∧ Slashed s.base := by
  rw [SiteInfo.faults, List.append_eq_nil_iff, emptyFault_eq_nil_iff, slashFault_eq_nil_iff]

theorem NavLink.faults_eq_nil_iff (i : Nat) (l : NavLink) :
    l.faults i = [] ↔ l.text ≠ "" ∧ l.link ≠ "" := by
  rw [NavLink.faults, List.append_eq_nil_iff, emptyFault_eq_nil_iff, emptyFault_eq_nil_iff]

theorem SectionEntry.faults_eq_nil_iff (i : Nat) (s : SectionEntry String) :
    s.faults i = [] ↔ Slashed s.route ∧ s.title ≠ "" ∧ s.dir ≠ "" ∧
      ∃ f, ExtensionFilter.ofList s.extensions = .ok f := by
  rw [SectionEntry.faults, List.append_eq_nil_iff, List.append_eq_nil_iff, List.append_eq_nil_iff,
    slashFault_eq_nil_iff, emptyFault_eq_nil_iff, emptyFault_eq_nil_iff, extensionFault_eq_nil_iff,
    and_assoc, and_assoc]

/-- A portal has no fault exactly if it is valid. -/
theorem Portal.faults_eq_nil_iff (p : Portal) : p.faults = [] ↔ p.Valid := by
  rw [Portal.faults, List.append_eq_nil_iff, List.append_eq_nil_iff, List.append_eq_nil_iff,
    SiteInfo.faults_eq_nil_iff]
  constructor
  · rintro ⟨⟨⟨⟨htitle, hbase⟩, hhead⟩, hnavbar⟩, hsections⟩
    refine ⟨htitle, hbase, ?_, ?_, ?_⟩
    · refine (flatMap_zipIdx_eq_nil_iff ?_).1 hhead
      exact fun tag i => emptyFault_eq_nil_iff
    · refine (flatMap_zipIdx_eq_nil_iff ?_).1 hnavbar
      exact fun link i => link.faults_eq_nil_iff i
    · refine (flatMap_zipIdx_eq_nil_iff ?_).1 hsections
      exact fun s i => s.faults_eq_nil_iff i
  · intro h
    refine ⟨⟨⟨⟨h.title, h.base⟩, ?_⟩, ?_⟩, ?_⟩
    · refine (flatMap_zipIdx_eq_nil_iff ?_).2 h.head
      exact fun tag i => emptyFault_eq_nil_iff
    · refine (flatMap_zipIdx_eq_nil_iff ?_).2 h.navbar
      exact fun link i => link.faults_eq_nil_iff i
    · refine (flatMap_zipIdx_eq_nil_iff ?_).2 h.sections
      exact fun s i => s.faults_eq_nil_iff i

theorem Portal.validate_ok_iff (p : Portal) {u : Unit} : p.validate = .ok u ↔ p.Valid := by
  rw [← p.faults_eq_nil_iff, ← p.validate_eq_ok_iff]

/-! ## Sites as JSON -/

namespace Json

/-- The value of the first member of an object with a key. -/
def member? (key : String) : Json → Option Json
  | object members => members.lookup key
  | _ => none

/-- A non-empty text as JSON. -/
def IsTitle (j : Json) : Prop := ∃ s, j = .text s ∧ s ≠ ""

/-- A group of pages: it is marked as one, and it has a title. -/
def IsValidGroup (j : Json) : Prop :=
  j.member? "isGroup" = some (.boolean true) ∧ ∃ t, j.member? "text" = some t ∧ t.IsTitle

/-- A tag of the document head: a pair of which the first is the name of the tag. -/
def IsValidTag (j : Json) : Prop := ∃ t attrs, j = .array [t, attrs] ∧ t.IsTitle

/-- An entry of the navigation bar, with a label and a target. -/
def IsValidLink (j : Json) : Prop :=
  (∃ t, j.member? "text" = some t ∧ t.IsTitle) ∧ ∃ t, j.member? "link" = some t ∧ t.IsTitle

/-- A site configuration that is fit for use. -/
structure IsValidSite (j : Json) : Prop where
  base : ∃ s, j.member? "base" = some (.text s) ∧ Slashed s
  title : ∃ t, j.member? "title" = some t ∧ t.IsTitle
  head : ∃ tags, j.member? "head" = some (.array tags) ∧ ∀ t ∈ tags, t.IsValidTag
  theme : ∃ theme, j.member? "themeConfig" = some theme ∧
    (∃ links, theme.member? "navbar" = some (.array links) ∧ ∀ l ∈ links, l.IsValidLink) ∧
    ∃ routes, theme.member? "sidebar" = some (.object routes) ∧
      ∀ key groups, (key, groups) ∈ routes → Slashed key ∧
        ∃ gs, groups = .array gs ∧ gs ≠ [] ∧ ∀ g ∈ gs, g.IsValidGroup

/-- A site as JSON has a sidebar: its routes in order, and under each of them the groups, with their titles and
their pages. -/
def HasSidebar (j : Json) (sidebar : SidebarMap) : Prop :=
  ∃ theme, j.member? "themeConfig" = some theme ∧
    theme.member? "sidebar" = some (.object (sidebar.map fun entry => (entry.1, .array (entry.2.map fun group =>
      .object [("text", .text group.text), ("isGroup", .boolean true),
        ("children", .array (group.children.map .text))]))))

end Json

theorem SiteConfig.hasSidebar_toJson (c : SiteConfig) : c.toJson.HasSidebar c.sidebar := ⟨_, rfl, rfl⟩

theorem Group.isValidGroup_toJson {g : Group} (h : g.text ≠ "") : g.toJson.IsValidGroup :=
  ⟨rfl, _, rfl, g.text, rfl, h⟩

theorem HeadTag.isValidTag_toJson {t : HeadTag} (h : t.tag ≠ "") : t.toJson.IsValidTag :=
  ⟨_, _, rfl, t.tag, rfl, h⟩

theorem NavLink.isValidLink_toJson {l : NavLink} (h : l.text ≠ "" ∧ l.link ≠ "") :
    l.toJson.IsValidLink :=
  ⟨⟨_, rfl, l.text, rfl, h.1⟩, _, rfl, l.link, rfl, h.2⟩

/-- A site with valid parts is valid JSON. -/
theorem SiteConfig.isValidSite_toJson {c : SiteConfig} (hbase : Slashed c.base) (htitle : c.title ≠ "")
    (hhead : ∀ tag ∈ c.head, tag.tag ≠ "")
    (hnavbar : ∀ link ∈ c.theme.navbar, link.text ≠ "" ∧ link.link ≠ "")
    (hroutes : ∀ r gs, (r, gs) ∈ c.sidebar → Slashed r ∧ gs ≠ [] ∧ ∀ g ∈ gs, g.text ≠ "") :
    c.toJson.IsValidSite where
  base := ⟨c.base, rfl, hbase⟩
  title := ⟨_, rfl, c.title, rfl, htitle⟩
  head := by
    refine ⟨_, rfl, ?_⟩
    intro t ht
    obtain ⟨tag, htag, rfl⟩ := List.mem_map.1 ht
    exact HeadTag.isValidTag_toJson (hhead tag htag)
  theme := by
    refine ⟨_, rfl, ⟨_, rfl, ?_⟩, _, rfl, ?_⟩
    · intro l hl
      obtain ⟨link, hlink, rfl⟩ := List.mem_map.1 hl
      exact NavLink.isValidLink_toJson (hnavbar link hlink)
    · intro key groups hmem
      obtain ⟨⟨r, gs⟩, hr, heq⟩ := List.mem_map.1 hmem
      cases heq
      obtain ⟨hslashed, hne, htexts⟩ := hroutes r gs hr
      refine ⟨hslashed, _, rfl, ?_, ?_⟩
      · rw [Ne, List.map_eq_nil_iff]
        exact hne
      · intro g hg
        obtain ⟨group, hgroup, rfl⟩ := List.mem_map.1 hg
        exact Group.isValidGroup_toJson (htexts group hgroup)

end DocPortal
