import DocPortal.Text.Utf8

/-!
# The order of texts

Texts are ordered by their bytes in UTF-8, the first difference deciding. The order is linear.
-/

namespace DocPortal
namespace Text

/-- Whether a text comes before another one. -/
def precedes (s t : String) : Bool := encode s < encode t

/-- Whether a text comes before another one or is the same. -/
def atMost (s t : String) : Bool := encode s ≤ encode t

theorem atMost_eq_not_precedes (s t : String) : atMost s t = !precedes t s := by
  rw [Bool.eq_iff_iff]
  simp [atMost, precedes, List.not_lt]

@[simp] theorem precedes_irrefl (s : String) : precedes s s = false := by
  simp [precedes, List.lt_irrefl]

theorem precedes_trans {s t u : String} (h : precedes s t = true) (k : precedes t u = true) :
    precedes s u = true := by
  simp only [precedes, decide_eq_true_eq] at *
  exact List.lt_trans h k

theorem atMost_trans {s t u : String} (h : atMost s t = true) (k : atMost t u = true) :
    atMost s u = true := by
  simp only [atMost, decide_eq_true_eq] at *
  exact List.le_trans h k

theorem atMost_total (s t : String) : (atMost s t || atMost t s) = true := by
  simp only [atMost, Bool.or_eq_true, decide_eq_true_eq]
  exact List.le_total _ _

theorem atMost_antisymm {s t : String} (h : atMost s t = true) (k : atMost t s = true) : s = t := by
  simp only [atMost, decide_eq_true_eq] at *
  exact encode_injective (List.le_antisymm h k)

/-- Of two texts that differ, one comes before the other. -/
theorem precedes_or_eq_or_precedes (s t : String) :
    precedes s t = true ∨ s = t ∨ precedes t s = true := by
  by_cases h : precedes s t = true
  · exact .inl h
  · by_cases k : precedes t s = true
    · exact .inr (.inr k)
    · refine .inr (.inl (atMost_antisymm ?_ ?_))
      · simpa [atMost_eq_not_precedes] using k
      · simpa [atMost_eq_not_precedes] using h

/-- What is listed in strictly ascending order of texts is known by its members. -/
theorem eq_of_pairwise_precedes {α : Type} {key : α → String} {l l' : List α}
    (h : l.Pairwise fun a b => precedes (key a) (key b) = true)
    (h' : l'.Pairwise fun a b => precedes (key a) (key b) = true) (hmem : ∀ a, a ∈ l ↔ a ∈ l') : l = l' := by
  have hnodup {l : List α} (h : l.Pairwise fun a b => precedes (key a) (key b) = true) : l.Nodup := by
    refine h.imp ?_
    rintro a _ hlt rfl
    rw [precedes_irrefl] at hlt
    cases hlt
  refine ((List.perm_ext_iff_of_nodup (hnodup h) (hnodup h')).2 hmem).eq_of_pairwise ?_ h h'
  intro a b _ _ hlt hgt
  have hself := precedes_trans hlt hgt
  rw [precedes_irrefl] at hself
  cases hself

end Text
end DocPortal
