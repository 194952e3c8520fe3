import DocPortal.Proofs.Ancestors

/-!
# The components of a parent

The parent of a path is cut out of the path as it is written, and still it has the components of the path without
the last one. That holds of paths of any form, with a separator or a dot at the start, with steps up, and with
segments that count as nothing. The root has no parent and no component but itself, so that the empty path, which
is the only one without components, can stand in for its parent.
-/

namespace DocPortal
namespace Lexical

open PathAlphabet

variable {α : Type} [DecidableEq α] [PathAlphabet α] {p : List α} {kept : List (List α)}

/-! ## What counts -/

theorem componentOf_eq_none_iff {s : List α} : componentOf s = none ↔ isIdle s = true := by
  rw [componentOf]
  split
  · rename_i hidle
    exact iff_of_true rfl hidle
  · rename_i hidle
    split
    · exact iff_of_false (Option.some_ne_none _) hidle
    · exact iff_of_false (Option.some_ne_none _) hidle

/-- Segments have the components of those among them that count. -/
theorem filterMap_componentOf_filter (ss : List (List α)) :
    (ss.filter (!isIdle ·)).filterMap componentOf = ss.filterMap componentOf := by
  rw [List.filterMap_filter]
  refine List.filterMap_congr fun s _ => ?_
  split
  · rfl
  · rename_i hidle
    rw [Bool.not_eq_true, Bool.not_eq_false'] at hidle
    exact (componentOf_eq_none_iff.2 hidle).symm

theorem filter_trimIdle (ss : List (List α)) : (trimIdle ss).filter (!isIdle ·) = ss.filter (!isIdle ·) := by
  have hsplit : ss = trimIdle ss ++ (ss.reverse.takeWhile isIdle).reverse := by
    rw [trimIdle, ← List.reverse_append, List.takeWhile_append_dropWhile, List.reverse_reverse]
  have hidle : (ss.reverse.takeWhile isIdle).reverse.filter (!isIdle ·) = [] :=
    List.filter_eq_nil_iff.2 fun s hs => by simp [List.mem_takeWhile_imp (List.mem_reverse.1 hs)]
  conv_rhs => rw [hsplit, List.filter_append, hidle, List.append_nil]

/-- Idle segments at the end have no components. -/
theorem filterMap_trimIdle (ss : List (List α)) : (trimIdle ss).filterMap componentOf = ss.filterMap componentOf := by
  rw [← filterMap_componentOf_filter, filter_trimIdle, filterMap_componentOf_filter]

/-! ## The start of a path -/

/-- A relative path has a first segment, unless it is empty. -/
theorem head?_segments_ne (hne : p ≠ []) (hrel : isAbsolute p = false) :
    (segments p).head? ≠ some [] := by
  cases p with
  | nil => exact absurd rfl hne
  | cons c cs =>
    have hc : c ≠ slash := by
      rintro rfl
      simp [isAbsolute] at hrel
    rw [segments, if_neg hc]
    split <;> simp

/-- A path is absolute if its start is a separator. -/
theorem isAbsolute_iff_head : isAbsolute p = true ↔ head p = [slash] := by
  rw [head]
  split
  · rename_i habs
    exact iff_of_true habs rfl
  · rename_i hrel
    rw [iff_false_left hrel]
    split
    · rename_i hdot
      have hmem : [dot] ∈ segments p := List.mem_of_head? hdot
      exact fun h => slash_notMem_of_mem_segments hmem (h ▸ List.mem_singleton_self slash)
    · exact (List.cons_ne_nil _ _).symm

theorem isAbsolute_eq_false_iff_head : isAbsolute p = false ↔ head p ≠ [slash] := by
  rw [Bool.eq_false_iff, Ne, isAbsolute_iff_head]

/-- A path that is made of the start of another one and of the first of its other segments is absolute if the other
one is. -/
theorem isAbsolute_head_append (hkept : kept <+: bodySegments p) :
    isAbsolute (head p ++ unsegment kept) = isAbsolute p := by
  have hword : head p ++ unsegment kept <+: p := by
    conv_rhs => rw [← head_append_bodySegments p]
    exact (List.prefix_append_right_inj _).2 (unsegment_isPrefix hkept)
  rw [Bool.eq_iff_iff]
  constructor
  · intro habs
    obtain ⟨rest, hrest⟩ := hword
    obtain ⟨word, hcons⟩ := List.head?_eq_some_iff.1 (of_decide_eq_true habs)
    rw [← hrest, hcons]
    exact decide_eq_true rfl
  · intro habs
    rw [isAbsolute_iff_head.1 habs]
    exact decide_eq_true rfl

/-- A path that is made of the start of another one and of the first of its other segments has that start. -/
theorem head_head_append (hkept : kept <+: bodySegments p) : head (head p ++ unsegment kept) = head p := by
  have habs := isAbsolute_head_append hkept
  have hcut : kept ≠ [] → segments (unsegment kept) = kept := fun hne =>
    segments_unsegment hne fun s hs => slash_notMem_of_mem_segments (hkept.subset hs)
  obtain ⟨hhead, hp⟩ | ⟨hhead, -⟩ | ⟨hhead, ss, hp, hbody⟩ := segments_cases p
  · have hrel : isAbsolute p = false := isAbsolute_eq_false_iff_head.2 (by simp [hhead])
    rw [hrel, hhead, List.nil_append] at habs
    rw [hhead, List.nil_append, head, habs, if_neg Bool.false_ne_true, if_neg]
    cases kept with
    | nil => simp [unsegment, segments]
    | cons t ts =>
      obtain ⟨rest, hrest⟩ := hkept
      rw [hcut (List.cons_ne_nil t ts), List.head?_cons]
      intro hdot
      rw [head, hrel, if_neg Bool.false_ne_true, hp, ← hrest, List.cons_append, List.head?_cons, if_pos hdot] at hhead
      cases hhead
  · rw [isAbsolute_iff_head.2 hhead] at habs
    rw [isAbsolute_iff_head.1 habs, hhead]
  · have hdot : slash ∉ [dot] := slash_notMem_of_mem_segments (hp ▸ List.mem_cons_self)
    have hrel : isAbsolute p = false := isAbsolute_eq_false_iff_head.2 fun hslash =>
      hdot (hhead.symm.trans hslash ▸ List.mem_singleton_self slash)
    rw [hrel, hhead] at habs
    rw [hhead, head, habs, if_neg Bool.false_ne_true, if_pos]
    cases kept with
    | nil => rw [unsegment, List.intercalate_nil, List.append_nil, segments_of_slash_notMem hdot, List.head?_cons]
    | cons t ts =>
      rw [hbody] at hkept
      rw [segments_append_of_segments hdot (hcut (List.cons_ne_nil t ts)), (List.cons_prefix_cons.1 hkept).1,
        List.append_nil, List.head?_cons]

/-! ## Components -/

/-- The components of a path that is made of the start of another one and of the first of its other segments. -/
theorem components_head_append (hkept : kept <+: bodySegments p) : components (head p ++ unsegment kept) =
    (if isAbsolute p then [.root] else if head p = [] then [] else [.here]) ++ kept.filterMap componentOf := by
  rw [components_eq, isAbsolute_head_append hkept, head_head_append hkept, ← filterMap_componentOf_filter,
    filter_segments_head_append hkept, filterMap_componentOf_filter]

/-- Only the empty path has no components. -/
theorem components_eq_nil_iff : components p = [] ↔ p = [] := by
  constructor
  · intro h
    by_contra hne
    rw [components_eq, List.append_eq_nil_iff] at h
    obtain ⟨hstart, hsegments⟩ := h
    split at hstart
    · cases hstart
    rename_i hrel
    split at hstart
    · rename_i hhead
      -- The first segment is neither empty nor a dot, so that it is a component.
      obtain ⟨s, ss, hss⟩ := List.exists_cons_of_ne_nil (segments_ne_nil p)
      have hidle := componentOf_eq_none_iff.1 (List.filterMap_eq_nil_iff.1 hsegments s (hss ▸ List.mem_cons_self))
      have hempty := head?_segments_ne hne (Bool.eq_false_iff.2 hrel)
      have hdot : (segments p).head? ≠ some [dot] := by
        intro hdot
        rw [head, if_neg hrel, if_pos hdot] at hhead
        cases hhead
      rw [hss, List.head?_cons] at hempty hdot
      simp only [isIdle, Bool.or_eq_true, decide_eq_true_eq] at hidle
      exact hidle.elim (fun hs => hempty (congrArg some hs)) fun hs => hdot (congrArg some hs)
    · cases hstart
  · rintro rfl
    simp [components, isAbsolute, head, segments, bodySegments, componentOf, isIdle]

/-- **The parent of a path has its components without the last one.**  A path without a parent has none, or the root
for the only one. -/
theorem components_getD_parent? (p : List α) : components ((parent? p).getD []) = (components p).dropLast := by
  obtain ⟨htrim, hparent⟩ | ⟨front, s, htrim, hs, hparent⟩ := parent?_eq_cases p
  · have hbody : (bodySegments p).filterMap componentOf = [] := by rw [← filterMap_trimIdle, htrim, List.filterMap_nil]
    have hnothing : (parent? p).getD [] = [] := by
      rw [hparent]
      split <;> rfl
    rw [hnothing, components_eq_nil_iff.2 rfl, components, hbody, List.append_nil]
    repeat' split
    all_goals rfl
  · obtain ⟨c, hc⟩ := Option.ne_none_iff_exists'.1 (componentOf_eq_none_iff.not.2 (Bool.eq_false_iff.1 hs))
    have hbody : (bodySegments p).filterMap componentOf = front.filterMap componentOf ++ [c] := by
      rw [← filterMap_trimIdle, htrim, List.filterMap_append, List.filterMap_cons_some hc, List.filterMap_nil]
    have hfront : trimIdle front <+: bodySegments p :=
      ((trimIdle_isPrefix front).trans (List.prefix_append front [s])).trans (htrim ▸ trimIdle_isPrefix _)
    rw [hparent, Option.getD_some, components_head_append hfront, filterMap_trimIdle, components, hbody,
      ← List.append_assoc, List.dropLast_concat]

end Lexical

namespace Path

variable {p : Path}

/-- The path above: the parent of a path, or the empty path if it has none. -/
def above (p : Path) : Path := p.parent?.getD ⟨[]⟩

theorem bytes_above (p : Path) : p.above.bytes = (Lexical.parent? p.bytes).getD [] := by
  rw [above, parent?]
  cases Lexical.parent? p.bytes <;> rfl

theorem components_above (p : Path) : p.above.components = p.components.dropLast := by
  rw [components, bytes_above, Lexical.components_getD_parent?]
  rfl

theorem components_eq_nil_iff : p.components = [] ↔ p.bytes = [] := Lexical.components_eq_nil_iff

/-- Going up comes to an end: the path above is shorter. -/
theorem length_above_lt (hne : p.bytes ≠ []) : p.above.bytes.length < p.bytes.length := by
  cases hparent : p.parent? with
  | none =>
    rw [above, hparent]
    exact List.length_pos_of_ne_nil hne
  | some q =>
    rw [above, hparent]
    exact length_lt_of_parent? hparent

/-- The name at the end of a path as text, which is empty if the path ends in a root, a dot or a step up. -/
def lastName (p : Path) : String := (p.fileName?.map Text.lossy).getD ""

theorem lastName_of_components {c : Component UInt8} {front : List (Component UInt8)}
    (h : p.components = front ++ [c]) : p.lastName = (c.name?.map Text.lossy).getD "" := by
  rw [components] at h
  rw [lastName, fileName?, Lexical.fileName?, h, List.getLast?_concat]
  cases c <;> rfl

end Path
end DocPortal
