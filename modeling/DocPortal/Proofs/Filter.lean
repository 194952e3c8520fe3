import DocPortal.Proofs.Extension

/-!
# What makes a filter

Extensions make a filter if there are any and each of them is a dot and a segment. If they make none, the error
is the first extension that is something else, or that there are none. The filter that they make has them in
ascending order, each once, so that neither their order nor their number can be seen in it.
-/

namespace DocPortal
namespace ExtensionFilter

variable {extensions sorted : List String} {e : String}

/-- The first of some extensions that is not a dot and a segment. -/
def FirstMalformed (extensions : List String) (e : String) : Prop :=
  ∃ before after, extensions = before ++ e :: after ∧ (∀ x ∈ before, IsDottedSegment x) ∧
    ¬ IsDottedSegment e

theorem not_isExtension_iff : (!isExtension e) = true ↔ ¬ IsDottedSegment e := by
  rw [← isExtension_iff]
  simp

/-- The malformed extension that is reported is the first one. -/
theorem ofList_malformed_iff : ofList extensions = .error (.malformed e) ↔ FirstMalformed extensions e := by
  have hfind : ofList extensions = .error (.malformed e) ↔
      extensions.find? (! isExtension ·) = some e := by
    unfold ofList
    split
    · rename_i x hx
      simp [hx]
    · rename_i hnone
      split <;> simp [hnone]
  rw [hfind, List.find?_eq_some_iff_append, not_isExtension_iff]
  constructor
  · rintro ⟨he, before, after, heq, hbefore⟩
    exact ⟨before, after, heq, fun x hx => isExtension_iff.1 (by simpa using hbefore x hx), he⟩
  · rintro ⟨before, after, heq, hbefore, he⟩
    exact ⟨he, before, after, heq, fun x hx => by simpa using isExtension_iff.2 (hbefore x hx)⟩

/-- That there is no extension is reported exactly of the empty list. -/
theorem ofList_empty_iff : ofList extensions = .error .empty ↔ extensions = [] := by
  constructor
  · intro h
    unfold ofList at h
    split at h
    · cases h
    · split at h
      · assumption
      · cases h
  · rintro rfl
    rfl

/-- There is a first malformed extension if there is any. -/
theorem exists_malformed_iff :
    (∃ e, ofList extensions = .error (.malformed e)) ↔ ∃ e ∈ extensions, ¬ IsDottedSegment e := by
  constructor
  · rintro ⟨e, he⟩
    obtain ⟨before, after, rfl, -, hnot⟩ := ofList_malformed_iff.1 he
    exact ⟨e, List.mem_append_right _ List.mem_cons_self, hnot⟩
  · rintro ⟨e, he, hnot⟩
    have hsome : (extensions.find? (! isExtension ·)).isSome = true :=
      List.find?_isSome.2 ⟨e, he, not_isExtension_iff.2 hnot⟩
    obtain ⟨x, hx⟩ := Option.isSome_iff_exists.1 hsome
    exact ⟨x, by rw [ofList, hx]⟩

/-- Extensions make a filter if there are any and each of them is a dot and a segment. -/
theorem exists_ofList_ok_iff :
    (∃ f, ofList extensions = .ok f) ↔ extensions ≠ [] ∧ ∀ e ∈ extensions, IsDottedSegment e := by
  constructor
  · rintro ⟨f, hf⟩
    refine ⟨?_, fun e he => isExtension_iff.1 ((of_ofList hf).1 e he)⟩
    rintro rfl
    cases hf
  · rintro ⟨hne, hall⟩
    cases h : ofList extensions with
    | ok f => exact ⟨f, rfl⟩
    | error fault =>
      cases fault with
      | empty => exact absurd (ofList_empty_iff.1 h) hne
      | malformed e =>
        obtain ⟨before, after, rfl, -, he⟩ := ofList_malformed_iff.1 h
        exact absurd (hall e (by simp)) he

/-! ## The filter that extensions make -/

/-- Inserting a text keeps a list in strictly ascending order. -/
theorem pairwise_insertSorted (h : sorted.Pairwise fun x y => Text.precedes x y = true) (e : String) :
    (insertSorted e sorted).Pairwise fun x y => Text.precedes x y = true := by
  induction sorted with
  | nil => exact List.pairwise_singleton _ _
  | cons x xs ih =>
    obtain ⟨hx, hxs⟩ := List.pairwise_cons.1 h
    rw [insertSorted]
    split
    · rename_i hlt
      refine List.pairwise_cons.2 ⟨fun y hy => ?_, h⟩
      obtain rfl | hy := List.mem_cons.1 hy
      · exact hlt
      · exact Text.precedes_trans hlt (hx y hy)
    split
    · exact h
    · rename_i hnlt hne
      refine List.pairwise_cons.2 ⟨fun y hy => ?_, ih hxs⟩
      obtain rfl | hy := (mem_insertSorted e y xs).1 hy
      · obtain hlt | heq | hgt := Text.precedes_or_eq_or_precedes y x
        · exact absurd hlt hnlt
        · exact absurd heq hne
        · exact hgt
      · exact hx y hy

theorem pairwise_foldl_insertSorted (extensions : List String)
    (h : sorted.Pairwise fun x y => Text.precedes x y = true) :
    (extensions.foldl (fun sorted e => insertSorted e sorted) sorted).Pairwise
      fun x y => Text.precedes x y = true := by
  induction extensions generalizing sorted with
  | nil => exact h
  | cons e rest ih => exact ih (pairwise_insertSorted h e)

/-- The extensions of a filter are in strictly ascending order. -/
theorem pairwise_of_ofList {f : ExtensionFilter} (h : ofList extensions = .ok f) :
    f.extensions.Pairwise fun x y => Text.precedes x y = true := by
  unfold ofList at h
  split at h
  · cases h
  split at h
  · cases h
  · cases h
    exact pairwise_foldl_insertSorted extensions .nil

/-- Filters are equal if they are made of the same extensions. -/
theorem eq_iff_of_ofList {others : List String} {f f' : ExtensionFilter} (h : ofList extensions = .ok f)
    (h' : ofList others = .ok f') : f = f' ↔ ∀ x, x ∈ extensions ↔ x ∈ others := by
  have hmem := (of_ofList h).2
  have hmem' := (of_ofList h').2
  constructor
  · rintro rfl x
    rw [← hmem, hmem']
  · intro hsame
    have hextensions : f.extensions = f'.extensions := by
      refine Text.eq_of_pairwise_precedes (pairwise_of_ofList h) (pairwise_of_ofList h') fun x => ?_
      rw [hmem, hmem', hsame]
    exact congrArg ExtensionFilter.mk hextensions

/-- A filter is made again of the extensions that it has. -/
theorem ofList_extensions {f : ExtensionFilter} (h : ofList extensions = .ok f) : ofList f.extensions = .ok f := by
  obtain ⟨hvalid, hmem⟩ := of_ofList h
  obtain ⟨hne, -⟩ := exists_ofList_ok_iff.1 ⟨f, h⟩
  obtain ⟨e, he⟩ := List.exists_mem_of_ne_nil _ hne
  obtain ⟨f', hf'⟩ : ∃ f', ofList f.extensions = .ok f' := by
    refine exists_ofList_ok_iff.2 ⟨List.ne_nil_of_mem ((hmem e).2 he), fun x hx => ?_⟩
    exact isExtension_iff.1 (hvalid x ((hmem x).1 hx))
  rw [hf', (eq_iff_of_ofList hf' h).2 hmem]

/-- **Extensions make one filter, or their first fault is named.**  A malformed extension is reported exactly if
there is one, and it is the first; that there are no extensions is reported exactly of the empty list; and
otherwise there is a filter.  It has the given extensions and no others, in strictly ascending order, it accepts
exactly these, and it is made again of them.  Two lists make the same filter exactly if they have the same
extensions. -/
theorem ofList_canonical_or_first_fault (extensions : List String) :
    (∀ e, ofList extensions = .error (.malformed e) ↔ FirstMalformed extensions e) ∧
      ((∃ e, ofList extensions = .error (.malformed e)) ↔ ∃ e ∈ extensions, ¬ IsDottedSegment e) ∧
      (ofList extensions = .error .empty ↔ extensions = []) ∧
      ((∃ f, ofList extensions = .ok f) ↔ extensions ≠ [] ∧ ∀ e ∈ extensions, IsDottedSegment e) ∧
      ∀ f, ofList extensions = .ok f →
        (f.extensions.Pairwise fun x y => Text.precedes x y = true) ∧
        (∀ x, x ∈ f.extensions ↔ x ∈ extensions) ∧ (∀ x, f.accepts x = true ↔ x ∈ extensions) ∧
        ofList f.extensions = .ok f ∧
        ∀ others f', ofList others = .ok f' → (f = f' ↔ ∀ x, x ∈ extensions ↔ x ∈ others) := by
  refine ⟨fun e => ofList_malformed_iff, exists_malformed_iff, ofList_empty_iff, exists_ofList_ok_iff, ?_⟩
  intro f hf
  exact ⟨pairwise_of_ofList hf, (of_ofList hf).2, accepts_iff_mem hf, ofList_extensions hf,
    fun others f' hf' => eq_iff_of_ofList hf hf'⟩

/-- Extensions that are given in another order and twice make the same filter, the filter for markdown is made again
of its extension, and of three faults the first is named. -/
theorem ofList_canonical_or_first_fault_labels :
    ofList [".rst", ".md", ".rst"] = .ok ⟨[".md", ".rst"]⟩ ∧ ofList [".md", ".rst"] = .ok ⟨[".md", ".rst"]⟩ ∧
      (∀ f, ofList [".md", ".rst", ".md"] = .ok f → f = ⟨[".md", ".rst"]⟩) ∧
      ofList markdown.extensions = .ok markdown ∧
      ofList [".md", "md", "", ".tar.gz"] = .error (.malformed "md") := by
  have hf : ofList [".rst", ".md", ".rst"] = .ok ⟨[".md", ".rst"]⟩ := by decide +kernel
  obtain ⟨-, -, -, -, hmade⟩ := ofList_canonical_or_first_fault [".rst", ".md", ".rst"]
  obtain ⟨-, -, -, hagain, hsame⟩ := hmade _ hf
  have hmarkdown : ofList [".md"] = .ok markdown := by decide +kernel
  obtain ⟨-, -, -, -, hmade⟩ := ofList_canonical_or_first_fault [".md"]
  obtain ⟨-, -, -, hmarkdown, -⟩ := hmade _ hmarkdown
  obtain ⟨hfirst, -⟩ := ofList_canonical_or_first_fault [".md", "md", "", ".tar.gz"]
  refine ⟨hf, hagain, fun f h => ?_, hmarkdown, (hfirst "md").2 ?_⟩
  · refine ((hsame _ f h).2 fun x => ?_).symm
    simp [or_comm, or_left_comm]
  · refine ⟨[".md"], ["", ".tar.gz"], rfl, fun x hx => ?_, ?_⟩
    · obtain rfl := List.mem_singleton.1 hx
      exact isExtension_iff.1 (by decide)
    · rw [← isExtension_iff]
      decide

end ExtensionFilter
end DocPortal
