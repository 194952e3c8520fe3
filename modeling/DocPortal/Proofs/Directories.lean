import DocPortal.Listing.Memory

/-!
# Registering a directory in memory

Registering a directory registers those above it. On the way each directory gets an entry for the next one, if that
was not registered before, and an entry of the same name gives way to it; the last one is empty if it is new.
Everything else stays as it was. That holds from the registered directories alone, whatever the paths are that
were registered, as long as with a directory the one above it is there.

## Main definitions

* `MemoryListing.ClosedUpTo` — with a directory on the way to a place the one above it is registered.
* `MemoryListing.Ensures` — what registering a directory makes of a listing.
-/

namespace DocPortal

theorem not_cons_suffix {α : Type} (a : α) (l : List α) : ¬ a :: l <:+ l := fun h => by
  have hlength := h.length_le
  rw [List.length_cons] at hlength
  omega

namespace MemoryListing

variable {m : MemoryListing} {p : Place}

/-! ## Single changes -/

theorem entries?_push (h : m.entries? p = none) (place : Place) :
    entries? { m with dirs := m.dirs ++ [(p, [])] } place =
      if place = p then some [] else m.entries? place := by
  rw [entries?] at h
  simp only [entries?, List.lookup_append]
  split
  · rename_i hplace
    subst hplace
    simp [h]
  · rename_i hplace
    rw [List.lookup_cons, beq_false_of_ne hplace]
    exact Option.or_none

theorem entries?_addEntry (m : MemoryListing) (p : Place) (e : DirectoryEntry) (place : Place) :
    (m.addEntry p e).entries? place =
      if place = p then (m.entries? p).map fun es => es.filter (·.name ≠ e.name) ++ [e]
      else m.entries? place := by
  obtain ⟨dirs⟩ := m
  simp only [addEntry, entries?]
  induction dirs with
  | nil => simp
  | cons d dirs ih =>
    obtain ⟨key, es⟩ := d
    rw [List.map_cons, List.lookup_cons, List.lookup_cons, List.lookup_cons, ih]
    by_cases hkey : key = p
    · subst hkey
      by_cases hplace : place = key
      · simp [hplace]
      · simp [hplace, beq_false_of_ne]
    · by_cases hplace : place = p
      · subst hplace
        simp [hkey, beq_false_of_ne, Ne.symm hkey]
      · simp [hkey, hplace]

@[simp] theorem isSome_entries?_addEntry (m : MemoryListing) (p : Place) (e : DirectoryEntry) (place : Place) :
    ((m.addEntry p e).entries? place).isSome = (m.entries? place).isSome := by
  rw [entries?_addEntry]
  split
  · rename_i hplace
    rw [hplace, Option.isSome_map]
  · rfl

/-- The entry that is added is there with those that have another name. -/
theorem mem_addEntry_cases {e e' : DirectoryEntry} {found : List DirectoryEntry} {place : Place}
    (hfound : (m.addEntry p e).entries? place = some found) (he : e' ∈ found) :
    (place = p ∧ e' = e) ∨ (∃ old, m.entries? place = some old ∧ e' ∈ old) ∧ (place = p → e'.name ≠ e.name) := by
  rw [entries?_addEntry] at hfound
  split at hfound
  · rename_i hplace
    obtain ⟨old, hold, rfl⟩ := Option.map_eq_some_iff.1 hfound
    obtain hmem | hnew := List.mem_append.1 he
    · obtain ⟨hmem, hne⟩ := List.mem_filter.1 hmem
      exact .inr ⟨⟨old, hplace ▸ hold, hmem⟩, fun _ => of_decide_eq_true hne⟩
    · exact .inl ⟨hplace, List.mem_singleton.1 hnew⟩
  · rename_i hplace
    exact .inr ⟨⟨found, hfound, he⟩, fun heq => absurd heq hplace⟩

/-- Registering a directory concerns directories only. -/
theorem exists_ensureDirectory_eq (m : MemoryListing) (p : Place) :
    ∃ dirs, m.ensureDirectory p = { m with dirs := dirs } := by
  induction p generalizing m with
  | nil =>
    rw [ensureDirectory]
    split
    · exact ⟨m.dirs, rfl⟩
    · exact ⟨_, rfl⟩
  | cons c above ih =>
    rw [ensureDirectory]
    split
    · exact ⟨m.dirs, rfl⟩
    · obtain ⟨dirs, hdirs⟩ := ih { m with dirs := m.dirs ++ [(c :: above, [])] }
      simp only [hdirs]
      exact ⟨_, rfl⟩

@[simp] theorem files_ensureDirectory (m : MemoryListing) (p : Place) : (m.ensureDirectory p).files = m.files := by
  obtain ⟨dirs, hdirs⟩ := m.exists_ensureDirectory_eq p
  rw [hdirs]

@[simp] theorem denied_ensureDirectory (m : MemoryListing) (p : Place) :
    (m.ensureDirectory p).denied = m.denied := by
  obtain ⟨dirs, hdirs⟩ := m.exists_ensureDirectory_eq p
  rw [hdirs]

/-! ## All directories on the way -/

/-- With a directory on the way to a place, the one above it is registered. -/
def ClosedUpTo (m : MemoryListing) (p : Place) : Prop :=
  ∀ c q, c :: q <:+ p → (m.entries? (c :: q)).isSome = true → (m.entries? q).isSome = true

theorem ClosedUpTo.isSome (h : m.ClosedUpTo p) (hp : (m.entries? p).isSome = true) {q : Place} (hq : q <:+ p) :
    (m.entries? q).isSome = true := by
  induction p with
  | nil =>
    obtain rfl := List.suffix_nil.1 hq
    exact hp
  | cons c above ih =>
    obtain rfl | hq := List.suffix_cons_iff.1 hq
    · exact hp
    · have habove : m.ClosedUpTo above := fun d q hd => h d q (hd.trans (List.suffix_cons c above))
      exact ih habove (h c above (List.suffix_refl _) hp) hq

/-- A listing has become another one by the registration of a directory. -/
structure Ensures (m : MemoryListing) (p : Place) (m' : MemoryListing) : Prop where
  /-- Where the next directory on the way is new, it gets an entry. -/
  fresh : ∀ c q, c :: q <:+ p → m.entries? (c :: q) = none →
    m'.entries? q = some (((m.entries? q).getD []).filter (·.name ≠ Place.name (c :: q)) ++
      [.other (Place.name (c :: q))])
  /-- Where it is not, or there is none, nothing changes but that the directory is registered. -/
  kept : ∀ q, q <:+ p → (∀ c, c :: q <:+ p → (m.entries? (c :: q)).isSome = true) →
    m'.entries? q = some ((m.entries? q).getD [])
  /-- Other directories stay as they are. -/
  elsewhere : ∀ q, ¬ q <:+ p → m'.entries? q = m.entries? q

namespace Ensures

/-- Where all directories are registered, nothing has to change. -/
theorem of_isSome (h : m.ClosedUpTo p) (hp : (m.entries? p).isSome = true) : m.Ensures p m where
  fresh c q hq hnone := by
    have hsome := h.isSome hp hq
    rw [hnone] at hsome
    cases hsome
  kept q hq _ := by
    obtain ⟨found, hfound⟩ := Option.isSome_iff_exists.1 (h.isSome hp hq)
    rw [hfound]
    rfl
  elsewhere q _ := rfl

/-- One directory more: it is put in empty, those above it are registered, and the next one above it gets an
entry. -/
theorem cons {c : Component UInt8} {pushed m' : MemoryListing} (hnone : m.entries? (c :: p) = none)
    (hpush : ∀ q, pushed.entries? q = if q = c :: p then some [] else m.entries? q) (h : pushed.Ensures p m') :
    m.Ensures (c :: p) (m'.addEntry p (.other (Place.name (c :: p)))) := by
  have hkeep : ∀ q, q <:+ p → pushed.entries? q = m.entries? q := by
    intro q hq
    rw [hpush, if_neg]
    rintro rfl
    exact not_cons_suffix c p hq
  refine ⟨fun d q hd hfresh => ?_, fun q hq hnext => ?_, fun q hq => ?_⟩
  · rw [entries?_addEntry]
    obtain heq | hd := List.suffix_cons_iff.1 hd
    · obtain ⟨rfl, rfl⟩ := List.cons.inj heq
      rw [if_pos rfl, h.kept q (List.suffix_refl q) fun c' hc' => absurd hc' (not_cons_suffix c' q),
        hkeep q (List.suffix_refl q)]
      rfl
    · have hqp : q <:+ p := (List.suffix_cons d q).trans hd
      have hne : q ≠ p := by
        rintro rfl
        exact not_cons_suffix d q hd
      rw [if_neg hne, h.fresh d q hd (by rw [hkeep _ hd, hfresh]), hkeep q hqp]
  · have hne : q ≠ p := by
      rintro rfl
      have hsome := hnext c (List.suffix_refl _)
      rw [hnone] at hsome
      cases hsome
    rw [entries?_addEntry, if_neg hne]
    obtain rfl | hq := List.suffix_cons_iff.1 hq
    · rw [h.elsewhere _ (not_cons_suffix c p), hpush, if_pos rfl, hnone]
      rfl
    · rw [h.kept q hq, hkeep q hq]
      intro d hd
      rw [hkeep _ hd]
      exact hnext d (hd.trans (List.suffix_cons c p))
  · have hqp : ¬ q <:+ p := fun hqp => hq (hqp.trans (List.suffix_cons c p))
    have hne : q ≠ p := fun heq => hqp (heq ▸ List.suffix_refl p)
    have hself : q ≠ c :: p := fun heq => hq (heq ▸ List.suffix_refl _)
    rw [entries?_addEntry, if_neg hne, h.elsewhere q hqp, hpush, if_neg hself]

/-- The directories on the way are registered, and those that were stay so. -/
theorem isSome_iff (h : m.Ensures p m') {q : Place} :
    (m'.entries? q).isSome = true ↔ q <:+ p ∨ (m.entries? q).isSome = true := by
  by_cases hq : q <:+ p
  · rw [iff_true_right (.inl hq)]
    by_cases hfresh : ∃ c, c :: q <:+ p ∧ m.entries? (c :: q) = none
    · obtain ⟨c, hc, hnone⟩ := hfresh
      rw [h.fresh c q hc hnone]
      rfl
    · rw [h.kept q hq fun c hc => Option.isSome_iff_ne_none.2 fun hnone => hfresh ⟨c, hc, hnone⟩]
      rfl
  · rw [h.elsewhere q hq, or_iff_right hq]

/-- An entry is that of a directory that is new, or it was there, under a name that no new directory has. -/
theorem mem_cases (h : m.Ensures p m') {q : Place} {found : List DirectoryEntry} {e : DirectoryEntry}
    (hfound : m'.entries? q = some found) (he : e ∈ found) :
    (∃ c, c :: q <:+ p ∧ m.entries? (c :: q) = none ∧ e = .other (Place.name (c :: q))) ∨
      (∃ old, m.entries? q = some old ∧ e ∈ old) ∧
        ∀ c, c :: q <:+ p → m.entries? (c :: q) = none → e.name ≠ Place.name (c :: q) := by
  have hold : e ∈ (m.entries? q).getD [] → ∃ old, m.entries? q = some old ∧ e ∈ old := by
    intro hmem
    cases hentries : m.entries? q with
    | none =>
      rw [hentries] at hmem
      cases hmem
    | some old =>
      rw [hentries] at hmem
      exact ⟨old, rfl, hmem⟩
  by_cases hfresh : ∃ c, c :: q <:+ p ∧ m.entries? (c :: q) = none
  · obtain ⟨c, hc, hnone⟩ := hfresh
    obtain rfl := Option.some.inj ((h.fresh c q hc hnone).symm.trans hfound)
    obtain hmem | hnew := List.mem_append.1 he
    · obtain ⟨hmem, hne⟩ := List.mem_filter.1 hmem
      refine .inr ⟨hold hmem, fun d hd _ => ?_⟩
      -- Only one directory on the way is in this one.
      have heq : d :: q = c :: q := (List.suffix_of_suffix_length_le hd hc (Nat.le_refl _)).eq_of_length rfl
      rw [heq]
      exact of_decide_eq_true hne
    · exact .inl ⟨c, hc, hnone, List.mem_singleton.1 hnew⟩
  · refine .inr ⟨?_, fun c hc hnone => absurd ⟨c, hc, hnone⟩ hfresh⟩
    by_cases hq : q <:+ p
    · have hkept := h.kept q hq fun c hc => Option.isSome_iff_ne_none.2 fun hnone => hfresh ⟨c, hc, hnone⟩
      obtain rfl := Option.some.inj (hkept.symm.trans hfound)
      exact hold he
    · rw [h.elsewhere q hq] at hfound
      exact ⟨found, hfound, he⟩

end Ensures

/-- **Registering a directory registers those above it**, with an entry for each directory that is new, and does
nothing else. -/
theorem ensures_ensureDirectory (h : m.ClosedUpTo p) : m.Ensures p (m.ensureDirectory p) := by
  induction p generalizing m with
  | nil =>
    rw [ensureDirectory]
    split
    · rename_i hsome
      exact .of_isSome h hsome
    · rename_i hnone
      replace hnone := Option.not_isSome_iff_eq_none.1 hnone
      refine ⟨fun c q hq => absurd hq (by simp), fun q hq _ => ?_, fun q hq => ?_⟩
      · obtain rfl := List.suffix_nil.1 hq
        rw [entries?_push hnone, if_pos rfl, hnone]
        rfl
      · have hne : q ≠ [] := fun hnil => hq (List.suffix_nil.2 hnil)
        rw [entries?_push hnone, if_neg hne]
  | cons c above ih =>
    rw [ensureDirectory]
    split
    · rename_i hsome
      exact .of_isSome h hsome
    · rename_i hnone
      replace hnone := Option.not_isSome_iff_eq_none.1 hnone
      refine .cons hnone (entries?_push hnone) (ih fun d q hd => ?_)
      have hne : ∀ q, q <:+ above → q ≠ c :: above := by
        rintro q hq rfl
        exact not_cons_suffix c above hq
      rw [entries?_push hnone, entries?_push hnone, if_neg (hne _ hd),
        if_neg (hne _ ((List.suffix_cons d q).trans hd))]
      exact h d q (hd.trans (List.suffix_cons c above))

end MemoryListing
end DocPortal
