import DocPortal.Proofs.Location
import DocPortal.Proofs.Names

/-!
# The directories above a path

The parent of a path is a shorter word than the path, so that going from parent to parent comes to an end: the
directories above a path are those above its parent, and the path itself.
-/

namespace DocPortal
namespace Lexical

open PathAlphabet

variable {α : Type} [PathAlphabet α]

/-- With fewer segments at its end a word is a beginning of what it was. -/
theorem unsegment_isPrefix {ss ts : List (List α)} (h : ss <+: ts) : unsegment ss <+: unsegment ts := by
  obtain ⟨rest, rfl⟩ := h
  induction rest using List.reverseRecOn with
  | nil => simp only [List.append_nil, List.prefix_rfl]
  | append_singleton front s ih =>
    rw [← List.append_assoc]
    by_cases hne : ss ++ front = []
    · obtain ⟨rfl, rfl⟩ := List.append_eq_nil_iff.1 hne
      exact List.nil_prefix
    · rw [unsegment_concat hne]
      exact ih.trans (List.prefix_append _ _)

/-- Without its last segment, which is not empty, a word is shorter. -/
theorem length_unsegment_lt {front : List (List α)} {s : List α} (hs : s ≠ []) :
    (unsegment front).length < (unsegment (front ++ [s])).length := by
  have hpos := List.length_pos_of_ne_nil hs
  by_cases hne : front = []
  · subst hne
    simpa [unsegment] using hpos
  · rw [unsegment_concat hne, List.length_append, List.length_cons]
    omega

variable [DecidableEq α]

theorem unsegment_segments (p : List α) : unsegment (segments p) = p := by
  induction p with
  | nil => rfl
  | cons c cs ih =>
    obtain ⟨s, ss, hss⟩ := List.exists_cons_of_ne_nil (segments_ne_nil cs)
    rw [segments, hss]
    rw [hss] at ih
    split
    · rename_i hc
      rw [hc, ← ih]
      simp [unsegment, List.intercalate_cons_cons]
    · rw [← ih]
      cases ss with
      | nil => simp [unsegment]
      | cons t ts => simp [unsegment, List.intercalate_cons_cons]

/-- Without the idle segments at the end there are none, or the last one counts. -/
theorem trimIdle_cases (ss : List (List α)) :
    trimIdle ss = [] ∨ ∃ front s, trimIdle ss = front ++ [s] ∧ isIdle s = false := by
  rw [trimIdle]
  cases hkept : ss.reverse.dropWhile isIdle with
  | nil => exact .inl rfl
  | cons s rest =>
    have hidle := List.dropWhile_get_zero_not isIdle ss.reverse (by simp [hkept])
    simp only [hkept, List.get_eq_getElem, List.getElem_cons_zero] at hidle
    exact .inr ⟨rest.reverse, s, List.reverse_cons, Bool.eq_false_iff.2 hidle⟩

theorem ne_nil_of_isIdle_eq_false {s : List α} (h : isIdle s = false) : s ≠ [] := by
  rintro rfl
  simp [isIdle] at h

/-- A path begins with its start. -/
theorem head_isPrefix (p : List α) : head p <+: p := by
  rw [head]
  split
  · rename_i habs
    obtain ⟨rest, rfl⟩ := List.head?_eq_some_iff.1 (of_decide_eq_true habs)
    exact ⟨rest, rfl⟩
  split
  · rename_i hdot
    obtain ⟨ss, hss⟩ := List.head?_eq_some_iff.1 hdot
    have hword : unsegment [[dot]] <+: unsegment (segments p) := unsegment_isPrefix ⟨ss, hss.symm⟩
    rwa [unsegment_segments, unsegment, List.intercalate_singleton] at hword
  · exact List.nil_prefix

/-- A path is its start and the segments after that. -/
theorem head_append_bodySegments (p : List α) : head p ++ unsegment (bodySegments p) = p := by
  rw [bodySegments, unsegment_segments]
  exact List.prefix_iff_eq_append.1 (head_isPrefix p)

/-- Either nothing counts after the start of a path, and it has a parent only if it starts with a dot, or the parent
is the path up to the last segment that counts. -/
theorem parent?_eq_cases (p : List α) :
    (trimIdle (bodySegments p) = [] ∧ parent? p = if head p = [dot] then some [] else none) ∨
      ∃ front s, trimIdle (bodySegments p) = front ++ [s] ∧ isIdle s = false ∧
        parent? p = some (head p ++ unsegment (trimIdle front)) := by
  obtain htrim | ⟨front, s, htrim, hs⟩ := trimIdle_cases (bodySegments p)
  · rw [parent?, htrim]
    exact .inl ⟨rfl, rfl⟩
  · refine .inr ⟨front, s, htrim, hs, ?_⟩
    rw [parent?]
    split
    · simp_all
    · rename_i t ts hcons
      rw [← hcons, htrim, List.dropLast_concat]

/-- The parent of a path is shorter than the path. -/
theorem length_lt_of_parent? {p q : List α} (h : parent? p = some q) : q.length < p.length := by
  have hbody : (head p).length + (unsegment (bodySegments p)).length = p.length := by
    rw [← List.length_append, head_append_bodySegments]
  -- Either only a dot at the start is cut off, or the last segment that counts, with what follows it.
  obtain ⟨-, hparent⟩ | ⟨front, s, htrim, hs, hparent⟩ := parent?_eq_cases p
  · rw [hparent] at h
    split at h
    · rename_i hdot
      cases h
      rw [hdot] at hbody
      simp only [List.length_singleton] at hbody
      simp only [List.length_nil]
      omega
    · cases h
  · obtain rfl := Option.some.inj (hparent.symm.trans h)
    have hfront := (unsegment_isPrefix (trimIdle_isPrefix front)).length_le
    have hlast : (unsegment front).length < (unsegment (front ++ [s])).length :=
      length_unsegment_lt (ne_nil_of_isIdle_eq_false hs)
    have hkept := (unsegment_isPrefix (htrim ▸ trimIdle_isPrefix (bodySegments p))).length_le
    rw [List.length_append]
    omega

end Lexical

namespace Path

variable {p q : Path}

theorem length_lt_of_parent? (h : p.parent? = some q) : q.bytes.length < p.bytes.length := by
  obtain ⟨bytes, hbytes, rfl⟩ := Option.map_eq_some_iff.1 h
  exact Lexical.length_lt_of_parent? hbytes

/-- However many there may be, there are no more directories above a path than it has bytes. -/
theorem ancestorsUpTo_eq {n : Nat} (h : p.bytes.length ≤ n) : ancestorsUpTo n p = p.ancestors := by
  rw [ancestors]
  -- Any two counts that are large enough give the same, so that the induction can go on to a shorter path.
  generalize hcount : p.bytes.length = count at h
  replace hcount := hcount.le
  induction n generalizing p count with
  | zero => rw [Nat.le_zero.1 h]
  | succ n ih =>
    cases hparent : p.parent? with
    | none => cases count <;> simp only [ancestorsUpTo, hparent]
    | some q =>
      have hlt := length_lt_of_parent? hparent
      cases count with
      | zero => omega
      | succ count =>
        rw [ancestorsUpTo, ancestorsUpTo, hparent]
        exact congrArg (p :: ·) (ih count (by omega) (by omega))

/-- The directories above a path are those above its parent, and the path itself. -/
theorem ancestors_eq (p : Path) : p.ancestors = p :: p.parent?.elim [] ancestors := by
  cases hparent : p.parent? with
  | none =>
    rw [ancestors]
    cases p.bytes.length <;> simp [ancestorsUpTo, hparent]
  | some q =>
    have hlt := length_lt_of_parent? hparent
    obtain ⟨count, hcount⟩ := Nat.exists_eq_succ_of_ne_zero (Nat.ne_zero_of_lt hlt)
    rw [ancestors, hcount, ancestorsUpTo, hparent, Option.elim_some]
    exact congrArg (p :: ·) (ancestorsUpTo_eq (by omega))

end Path

namespace Location

/-- The root is in no directory. -/
theorem parent?_path_nil : (path []).parent? = none := by decide

end Location
end DocPortal
