import DocPortal.Proofs.Filter
import DocPortal.Proofs.Loading

/-!
# The first fault of a portal

A portal that is not valid is refused for the first of its faults. What a fault is and where it stands are said
here without going through the portal: a portal violates a requirement at a field, and fields have places,
those of the site before those of the head, the navigation bar and the sections, elements in their order. The
fault that is reported is the violated requirement with the least place.

## Main definitions

* `Portal.Violates` — a portal violates the requirement of which a fault speaks.
* `Field.place` — where a field stands in the order in which requirements are reported.
-/

namespace DocPortal

/-! ## Requirements and their places -/

/-- The field that a fault was found in. -/
def PortalFault.field : PortalFault → Field
  | empty field => field
  | notSlashed field _ => field
  | extensions i _ => .sectionExtensions i

@[simp] theorem PortalFault.field_empty (field : Field) : (PortalFault.empty field).field = field := rfl

@[simp] theorem PortalFault.field_notSlashed (field : Field) (s : String) :
    (PortalFault.notSlashed field s).field = field := rfl

@[simp] theorem PortalFault.field_extensions (i : Nat) (e : FilterError) :
    (PortalFault.extensions i e).field = .sectionExtensions i := rfl

/-- Where a field stands: the part of the portal, then the number of the element, then the place in that. Fields of
which nothing is required come last. -/
def Field.place : Field → List Nat
  | siteTitle => [0]
  | siteBase => [1]
  | headTag i => [2, i]
  | navText i => [3, i, 0]
  | navLink i => [3, i, 1]
  | sectionRoute i => [4, i, 0]
  | sectionTitle i => [4, i, 1]
  | sectionDir i => [4, i, 2]
  | sectionExtensions i => [4, i, 3]
  | themeLogo | themeRepo | sourceDir | headAttr _ _ => [5]

/-- The part of a portal that a fault was found in. -/
def PortalFault.part (x : PortalFault) : Nat := x.field.place.headD 0

/-- A fault stands before another one. -/
def PortalFault.Precedes (x y : PortalFault) : Prop := x.field.place < y.field.place

/-! ## The faults that are listed -/

variable {x y : PortalFault} {field : Field} {s : String} {i : Nat}

theorem mem_emptyFault : x ∈ emptyFault field s ↔ x = .empty field ∧ s = "" := by
  by_cases h : s = "" <;> simp [emptyFault, h]

theorem mem_slashFault : x ∈ slashFault field s ↔ x = .notSlashed field s ∧ ¬ Slashed s := by
  rw [← isSlashed_iff]
  by_cases h : isSlashed s = true <;> simp [slashFault, h]

theorem mem_extensionFault {extensions : List String} : x ∈ extensionFault i extensions ↔
    ∃ e, x = .extensions i e ∧ ExtensionFilter.ofList extensions = .error e := by
  unfold extensionFault
  split
  · rename_i f hf
    simp [hf]
  · rename_i e he
    simp [he]

/-- What the elements of a list contribute, each with its number. -/
theorem mem_flatMap_zipIdx {α β : Type} {l : List α} {f : α × Nat → List β} {b : β} :
    b ∈ l.zipIdx.flatMap f ↔ ∃ i a, l[i]? = some a ∧ b ∈ f (a, i) := by
  rw [List.mem_flatMap]
  constructor
  · rintro ⟨⟨a, i⟩, hmem, hb⟩
    exact ⟨i, a, List.mk_mem_zipIdx_iff_getElem?.1 hmem, hb⟩
  · rintro ⟨i, a, hi, hb⟩
    exact ⟨(a, i), List.mk_mem_zipIdx_iff_getElem?.2 hi, hb⟩

theorem NavLink.mem_faults {l : NavLink} : x ∈ l.faults i ↔
    (x = .empty (.navText i) ∧ l.text = "") ∨ (x = .empty (.navLink i) ∧ l.link = "") := by
  rw [NavLink.faults, List.mem_append, mem_emptyFault, mem_emptyFault]

theorem SectionEntry.mem_faults {s : SectionEntry String} : x ∈ s.faults i ↔
    (((x = .notSlashed (.sectionRoute i) s.route ∧ ¬ Slashed s.route) ∨
      (x = .empty (.sectionTitle i) ∧ s.title = "")) ∨ (x = .empty (.sectionDir i) ∧ s.dir = "")) ∨
      ∃ e, x = .extensions i e ∧ ExtensionFilter.ofList s.extensions = .error e := by
  rw [SectionEntry.faults, List.mem_append, List.mem_append, List.mem_append, mem_slashFault, mem_emptyFault,
    mem_emptyFault, mem_extensionFault]

namespace Portal

variable {p : Portal}

end Portal

/-! ## The order of the list -/

theorem pairwise_emptyFault {R : PortalFault → PortalFault → Prop} : (emptyFault field s).Pairwise R := by
  unfold emptyFault
  split <;> simp

theorem pairwise_slashFault {R : PortalFault → PortalFault → Prop} : (slashFault field s).Pairwise R := by
  unfold slashFault
  split <;> simp

theorem pairwise_extensionFault {R : PortalFault → PortalFault → Prop} {extensions : List String} :
    (extensionFault i extensions).Pairwise R := by
  unfold extensionFault
  split <;> simp

theorem SiteInfo.pairwise_faults (site : SiteInfo) : site.faults.Pairwise PortalFault.Precedes := by
  rw [SiteInfo.faults, List.pairwise_append]
  refine ⟨pairwise_emptyFault, pairwise_slashFault, fun x hx y hy => ?_⟩
  obtain ⟨rfl, -⟩ := mem_emptyFault.1 hx
  obtain ⟨rfl, -⟩ := mem_slashFault.1 hy
  simp [PortalFault.Precedes, Field.place, List.cons_lt_cons_iff]

theorem NavLink.pairwise_faults (l : NavLink) (i : Nat) : (l.faults i).Pairwise PortalFault.Precedes := by
  rw [NavLink.faults, List.pairwise_append]
  refine ⟨pairwise_emptyFault, pairwise_emptyFault, fun x hx y hy => ?_⟩
  obtain ⟨rfl, -⟩ := mem_emptyFault.1 hx
  obtain ⟨rfl, -⟩ := mem_emptyFault.1 hy
  simp [PortalFault.Precedes, Field.place, List.cons_lt_cons_iff]

theorem SectionEntry.pairwise_faults (s : SectionEntry String) (i : Nat) :
    (s.faults i).Pairwise PortalFault.Precedes := by
  rw [SectionEntry.faults, List.pairwise_append, List.pairwise_append, List.pairwise_append]
  refine ⟨⟨⟨pairwise_slashFault, pairwise_emptyFault, ?_⟩, pairwise_emptyFault, ?_⟩, pairwise_extensionFault, ?_⟩
  all_goals
    intro x hx y hy
    simp only [List.mem_append, mem_emptyFault, mem_slashFault, mem_extensionFault] at hx hy
  · obtain ⟨rfl, -⟩ := hx
    obtain ⟨rfl, -⟩ := hy
    simp [PortalFault.Precedes, Field.place, List.cons_lt_cons_iff]
  · obtain ⟨rfl, -⟩ := hy
    rcases hx with ⟨rfl, -⟩ | ⟨rfl, -⟩ <;> simp [PortalFault.Precedes, Field.place, List.cons_lt_cons_iff]
  · obtain ⟨e, rfl, -⟩ := hy
    rcases hx with (⟨rfl, -⟩ | ⟨rfl, -⟩) | ⟨rfl, -⟩ <;> simp [PortalFault.Precedes, Field.place, List.cons_lt_cons_iff]

/-- Faults in different parts of a portal are in the order of the parts. -/
theorem PortalFault.Precedes.of_part (h : x.part < y.part) : x.Precedes y := by
  rw [PortalFault.part, PortalFault.part] at h
  rw [PortalFault.Precedes]
  cases hy : y.field.place with
  | nil => simp [hy] at h
  | cons n l =>
    cases hx : x.field.place with
    | nil => exact List.nil_lt_cons n l
    | cons m k =>
      rw [hx, hy] at h
      exact List.cons_lt_cons_iff.2 (.inl h)

/-- Faults of different elements of one part are in the order of the elements. -/
theorem PortalFault.Precedes.of_element {m i j : Nat} {k l : List Nat} (hx : x.field.place = m :: i :: k)
    (hy : y.field.place = m :: j :: l) (h : i < j) : x.Precedes y := by
  rw [PortalFault.Precedes, hx, hy]
  exact List.cons_lt_cons_iff.2 (.inr ⟨rfl, List.cons_lt_cons_iff.2 (.inl h)⟩)

/-! ## The faults of each part -/

/-- Faults of one part of a portal, in the order of their places. -/
structure OrderedIn (part : Nat) (faults : List PortalFault) : Prop where
  pairwise : faults.Pairwise PortalFault.Precedes
  part_eq : ∀ x ∈ faults, x.part = part

/-- A part that is a list has its faults in order if each of its elements has them. -/
theorem orderedIn_flatMap_zipIdx {α : Type} {part : Nat} {f : α × Nat → List PortalFault} (l : List α)
    (heach : ∀ a i, (f (a, i)).Pairwise PortalFault.Precedes)
    (hplace : ∀ a i, ∀ x ∈ f (a, i), ∃ k, x.field.place = part :: i :: k) :
    OrderedIn part (l.zipIdx.flatMap f) := by
  have hnumbers : l.zipIdx.Pairwise fun e e' => e.2 < e'.2 := by
    refine List.pairwise_map.1 ?_
    rw [List.zipIdx_map_snd]
    exact List.pairwise_lt_range' 1
  constructor
  · rw [List.pairwise_flatMap]
    refine ⟨fun e _ => heach e.1 e.2, hnumbers.imp fun {e e'} hlt x hx y hy => ?_⟩
    obtain ⟨k, hk⟩ := hplace e.1 e.2 x hx
    obtain ⟨k', hk'⟩ := hplace e'.1 e'.2 y hy
    exact .of_element hk hk' hlt
  · intro x hx
    obtain ⟨i, a, -, hx⟩ := mem_flatMap_zipIdx.1 hx
    obtain ⟨k, hk⟩ := hplace a i x hx
    rw [PortalFault.part, hk]
    rfl

theorem SiteInfo.part_of_mem_faults {site : SiteInfo} (h : x ∈ site.faults) : x.part < 2 := by
  rw [SiteInfo.faults, List.mem_append, mem_emptyFault, mem_slashFault] at h
  obtain ⟨rfl, -⟩ | ⟨rfl, -⟩ := h
  · exact Nat.zero_lt_two
  · exact Nat.one_lt_two

namespace Portal

theorem orderedIn_head (p : Portal) :
    OrderedIn 2 (p.head.zipIdx.flatMap fun (tag, i) => emptyFault (.headTag i) tag.tag) := by
  refine orderedIn_flatMap_zipIdx p.head (fun tag i => pairwise_emptyFault) fun tag i x hx => ?_
  obtain ⟨rfl, -⟩ := mem_emptyFault.1 hx
  exact ⟨[], rfl⟩

theorem orderedIn_navbar (p : Portal) :
    OrderedIn 3 (p.theme.navbar.zipIdx.flatMap fun (link, i) => link.faults i) := by
  refine orderedIn_flatMap_zipIdx p.theme.navbar (fun link i => link.pairwise_faults i) fun link i x hx => ?_
  obtain ⟨rfl, -⟩ | ⟨rfl, -⟩ := NavLink.mem_faults.1 hx
  · exact ⟨[0], rfl⟩
  · exact ⟨[1], rfl⟩

theorem orderedIn_sections (p : Portal) :
    OrderedIn 4 (p.sections.zipIdx.flatMap fun (s, i) => s.faults i) := by
  refine orderedIn_flatMap_zipIdx p.sections (fun s i => s.pairwise_faults i) fun s i x hx => ?_
  obtain ((⟨rfl, -⟩ | ⟨rfl, -⟩) | ⟨rfl, -⟩) | ⟨e, rfl, -⟩ := SectionEntry.mem_faults.1 hx
  · exact ⟨[0], rfl⟩
  · exact ⟨[1], rfl⟩
  · exact ⟨[2], rfl⟩
  · exact ⟨[3], rfl⟩

/-- The faults of a portal are listed in the order of their places, each place at most once. -/
theorem pairwise_faults (p : Portal) : p.faults.Pairwise PortalFault.Precedes := by
  rw [faults, List.pairwise_append, List.pairwise_append, List.pairwise_append]
  refine ⟨⟨⟨p.site.pairwise_faults, p.orderedIn_head.pairwise, ?head⟩, p.orderedIn_navbar.pairwise, ?navbar⟩,
    p.orderedIn_sections.pairwise, ?sections⟩
  all_goals refine fun x hx y hy => .of_part ?_
  case head =>
    rw [p.orderedIn_head.part_eq y hy]
    exact SiteInfo.part_of_mem_faults hx
  case navbar =>
    rw [p.orderedIn_navbar.part_eq y hy]
    rcases List.mem_append.1 hx with hx | hx
    · exact (SiteInfo.part_of_mem_faults hx).trans (by omega)
    · rw [p.orderedIn_head.part_eq x hx]
      omega
  case sections =>
    rw [p.orderedIn_sections.part_eq y hy]
    rcases List.mem_append.1 hx with hx | hx
    · rcases List.mem_append.1 hx with hx | hx
      · exact (SiteInfo.part_of_mem_faults hx).trans (by omega)
      · rw [p.orderedIn_head.part_eq x hx]
        omega
    · rw [p.orderedIn_navbar.part_eq x hx]
      omega

/-! ## The first fault -/

variable {p : Portal}

end Portal

namespace Config

end Config
end DocPortal
