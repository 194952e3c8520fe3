import DocPortal.Proofs.Growth
import DocPortal.Proofs.Utf8

/-!
# The names on a path

A path goes through the names among its segments. The directories above a path are cut out of it as it is
written, so that they go through names of the path only, and if a path ends in a name, that is its file name. A
path that is text goes through texts.
-/

namespace DocPortal

/-- The name of a component that is one. -/
def Component.name? {α : Type} : Component α → Option (List α)
  | .name n => some n
  | _ => none

/-- The name of a step that is one. -/
def Step.name? : Step → Option Bytes
  | .name n => some n
  | _ => none

namespace Lexical

open PathAlphabet

variable {α : Type} [DecidableEq α] [PathAlphabet α]

theorem slash_notMem_of_mem_segments {p s : List α} (h : s ∈ segments p) : slash ∉ s := by
  induction p generalizing s with
  | nil =>
    obtain rfl := List.mem_singleton.1 h
    exact List.not_mem_nil
  | cons c cs ih =>
    rw [segments] at h
    split at h
    · obtain rfl | h := List.mem_cons.1 h
      · exact List.not_mem_nil
      · exact ih h
    · rename_i hc
      obtain ⟨t, ts, ht⟩ := List.exists_cons_of_ne_nil (segments_ne_nil cs)
      rw [ht] at h ih
      obtain rfl | h := List.mem_cons.1 h
      · rw [List.mem_cons, not_or]
        exact ⟨Ne.symm hc, ih List.mem_cons_self⟩
      · exact ih (List.mem_cons_of_mem t h)

/-- The segments of a path are those after its start, and the start, if there is one, is a segment of its own.
-/
theorem segments_cases (p : List α) :
    (head p = [] ∧ segments p = bodySegments p) ∨
      (head p = [slash] ∧ segments p = [] :: bodySegments p) ∨
      (head p = [dot] ∧ ∃ ss, segments p = [dot] :: ss ∧ bodySegments p = [] :: ss) := by
  rw [bodySegments]
  by_cases habs : isAbsolute p = true
  · obtain ⟨rest, rfl⟩ := List.head?_eq_some_iff.1 (of_decide_eq_true habs)
    have hhead : head (slash :: rest) = [slash] := if_pos habs
    rw [hhead, segments, if_pos rfl]
    exact .inr (.inl ⟨rfl, rfl⟩)
  by_cases hdot : (segments p).head? = some [dot]
  · have hhead : head p = [dot] := by rw [head, if_neg habs, if_pos hdot]
    obtain ⟨ss, hss⟩ := List.head?_eq_some_iff.1 hdot
    rw [hhead, hss]
    refine .inr (.inr ⟨rfl, ss, rfl, ?_⟩)
    cases p with
    | nil => simp [segments] at hdot
    | cons c cs =>
      have hc : c ≠ slash := fun hc => habs (by simp [isAbsolute, hc])
      obtain ⟨t, ts, ht⟩ := List.exists_cons_of_ne_nil (segments_ne_nil cs)
      rw [segments, if_neg hc, ht] at hss
      obtain ⟨hword, rfl⟩ := List.cons.inj hss
      obtain ⟨-, rfl⟩ := List.cons.inj hword
      exact ht
  · have hhead : head p = [] := by rw [head, if_neg habs, if_neg hdot]
    rw [hhead]
    exact .inl ⟨rfl, rfl⟩

/-- The components of a path are its start and its segments that count. -/
theorem components_eq (p : List α) : components p =
    (if isAbsolute p then [.root] else if head p = [] then [] else [.here]) ++ (segments p).filterMap componentOf := by
  rw [components]
  congr 1
  obtain ⟨-, hp⟩ | ⟨-, hp⟩ | ⟨-, ss, hp, hp'⟩ := segments_cases p
  · rw [hp]
  · rw [hp, List.filterMap_cons_none (by simp [componentOf, isIdle])]
  · rw [hp, hp', List.filterMap_cons_none (by simp [componentOf, isIdle]),
      List.filterMap_cons_none (by simp [componentOf, isIdle])]

theorem bodySegments_ne_nil (p : List α) : bodySegments p ≠ [] := segments_ne_nil _

theorem trimIdle_isPrefix (ss : List (List α)) : trimIdle ss <+: ss := by
  have hsuffix := List.dropWhile_suffix isIdle (l := ss.reverse)
  rwa [← List.reverse_prefix, List.reverse_reverse] at hsuffix

/-- A path that is made of the start of another one and of the first of its other segments has no segments that count
but these. -/
theorem filter_segments_head_append {p : List α} {kept : List (List α)} (hkept : kept <+: bodySegments p) :
    (segments (head p ++ unsegment kept)).filter (!isIdle ·) = kept.filter (!isIdle ·) := by
  by_cases hne : kept = []
  · subst hne
    rw [unsegment, List.intercalate_nil, List.append_nil]
    obtain ⟨hhead, -⟩ | ⟨hhead, -⟩ | ⟨hhead, ss, hp, -⟩ := segments_cases p
    · simp [hhead, segments, isIdle]
    · simp [hhead, segments, isIdle]
    · have hdot : slash ∉ [dot] := slash_notMem_of_mem_segments (hp ▸ List.mem_cons_self)
      rw [hhead, segments_of_slash_notMem hdot]
      simp [isIdle]
  · have hslash : ∀ s ∈ kept, slash ∉ s := fun s hs => slash_notMem_of_mem_segments (hkept.subset hs)
    have hcut := segments_unsegment hne hslash
    obtain ⟨hhead, -⟩ | ⟨hhead, -⟩ | ⟨hhead, ss, hp, hbody⟩ := segments_cases p
    · rw [hhead, List.nil_append, hcut]
    · rw [hhead, List.singleton_append, segments, if_pos rfl, hcut]
      simp [isIdle]
    · have hdot : slash ∉ [dot] := slash_notMem_of_mem_segments (hp ▸ List.mem_cons_self)
      obtain ⟨t, ts, rfl⟩ := List.exists_cons_of_ne_nil hne
      obtain rfl : t = [] := by
        rw [hbody] at hkept
        exact (List.cons_prefix_cons.1 hkept).1
      rw [hhead, segments_append_of_segments hdot hcut]
      simp [isIdle]

theorem mem_of_mem_segments_head_append {p s : List α} {kept : List (List α)} (hkept : kept <+: bodySegments p)
    (hs : s ∈ segments (head p ++ unsegment kept)) : isIdle s = true ∨ s ∈ kept := by
  cases hidle : isIdle s with
  | true => exact .inl rfl
  | false =>
    have hmem : s ∈ (segments (head p ++ unsegment kept)).filter (!isIdle ·) :=
      List.mem_filter.2 ⟨hs, by rw [hidle]; rfl⟩
    rw [filter_segments_head_append hkept] at hmem
    exact .inr (List.mem_filter.1 hmem).1

/-- The parent of a path is the start of the path with the first of its other segments, or it is empty if a dot at
the start was all that the path had. -/
theorem parent?_cases {p q : List α} (h : parent? p = some q) :
    (head p = [dot] ∧ q = []) ∨ ∃ kept, kept <+: bodySegments p ∧ q = head p ++ unsegment kept := by
  rw [parent?] at h
  split at h
  · split at h
    · rename_i hhead
      cases h
      exact .inl ⟨hhead, rfl⟩
    · cases h
  · rename_i t ts htrim
    cases h
    refine .inr ⟨_, ?_, rfl⟩
    rw [← htrim]
    exact ((trimIdle_isPrefix _).trans (List.dropLast_prefix _)).trans (trimIdle_isPrefix _)

/-- The parent of a path has no segments but those of the path, and maybe ones that count as nothing. -/
theorem mem_segments_of_parent? {p q s : List α} (h : parent? p = some q) (hs : s ∈ segments q) :
    isIdle s = true ∨ s ∈ segments p := by
  obtain ⟨-, rfl⟩ | ⟨kept, hprefix, rfl⟩ := parent?_cases h
  · obtain rfl := List.mem_singleton.1 hs
    exact .inl (by simp [isIdle])
  obtain hidle | hmem := mem_of_mem_segments_head_append hprefix hs
  · exact .inl hidle
  have hbody := hprefix.subset hmem
  obtain ⟨-, hp⟩ | ⟨-, hp⟩ | ⟨-, ss, hp, hp'⟩ := segments_cases p
  · exact .inr (hp ▸ hbody)
  · exact .inr (hp ▸ List.mem_cons_of_mem _ hbody)
  · rw [hp', List.mem_cons] at hbody
    refine hbody.imp (fun h => by simp [h, isIdle]) fun h => ?_
    rw [hp]
    exact List.mem_cons_of_mem _ h

theorem IsName.componentOf_eq {n : List α} (h : IsName n) : componentOf n = some (.name n) := by
  rw [componentOf, h.isIdle_eq_false, if_neg Bool.false_ne_true, if_neg h.ne_up]

/-- A name at the end of a path is its file name. -/
theorem fileName?_of_getLast?_segments {p n : List α} (h : (segments p).getLast? = some n) (hn : IsName n) :
    fileName? p = some n := by
  have hbody : (bodySegments p).getLast? = some n := by
    obtain ⟨-, hp⟩ | ⟨-, hp⟩ | ⟨-, ss, hp, hp'⟩ := segments_cases p
    · rw [← hp, h]
    · rwa [hp, List.getLast?_cons_of_ne_nil (bodySegments_ne_nil p)] at h
    · have hss : ss ≠ [] := by
        rintro rfl
        rw [hp] at h
        exact hn.ne_here (Option.some.inj h).symm
      rw [hp, List.getLast?_cons_of_ne_nil hss] at h
      rw [hp', List.getLast?_cons_of_ne_nil hss, h]
  obtain ⟨front, hfront⟩ := List.getLast?_eq_some_iff.1 hbody
  rw [fileName?, components, hfront, List.filterMap_append, List.filterMap_cons_some hn.componentOf_eq]
  simp

/-- A path that does not end in a separator ends in a segment. -/
theorem getLast?_segments_ne_nil {p : List α} (hne : p ≠ []) (h : p.getLast? ≠ some slash) :
    (segments p).getLast? ≠ some [] := by
  induction p with
  | nil => exact absurd rfl hne
  | cons c cs ih =>
    by_cases hcs : cs = []
    · subst hcs
      have hc : c ≠ slash := fun hc => h (by simp [hc])
      simp [segments, hc]
    · have hlast : (c :: cs).getLast? = cs.getLast? := List.getLast?_cons_of_ne_nil hcs
      have hrest := ih hcs (hlast ▸ h)
      obtain ⟨t, ts, ht⟩ := List.exists_cons_of_ne_nil (segments_ne_nil cs)
      rw [ht] at hrest
      rw [segments, ht]
      split
      · rwa [List.getLast?_cons_cons]
      · cases ts with
        | nil => simp
        | cons u us => rwa [List.getLast?_cons_cons] at hrest ⊢

end Lexical
namespace Path

variable {p q : Path} {n : Bytes}

theorem stepOf_eq_name_iff {segment : Bytes} :
    stepOf segment = .name n ↔ segment = n ∧ n ≠ [0x2E] ∧ n ≠ [0x2E, 0x2E] := by
  rw [stepOf]
  split
  · rename_i hhere
    rw [iff_false_left Step.noConfusion]
    exact fun h => h.2.1 (h.1 ▸ hhere)
  split
  · rename_i hup
    rw [iff_false_left Step.noConfusion]
    exact fun h => h.2.2 (h.1 ▸ hup)
  · rename_i hhere hup
    exact ⟨fun h => Step.name.inj h ▸ ⟨rfl, hhere, hup⟩, fun h => congrArg Step.name h.1⟩

/-- A path goes through the names among its segments. -/
theorem name_mem_steps_iff : .name n ∈ p.steps ↔ n ∈ Lexical.segments p.bytes ∧ Lexical.IsName n := by
  have hfilter : .name n ∈ p.steps ↔ .name n ∈ p.steps.filter (· ≠ .slash) := by simp
  rw [hfilter, FileSystem.filter_steps, List.mem_map]
  constructor
  · rintro ⟨segment, hsegment, hstep⟩
    obtain ⟨rfl, hhere, hup⟩ := stepOf_eq_name_iff.1 hstep
    obtain ⟨hmem, hne⟩ := List.mem_filter.1 hsegment
    exact ⟨hmem, of_decide_eq_true hne, Lexical.slash_notMem_of_mem_segments hmem, hhere, hup⟩
  · rintro ⟨hmem, hn⟩
    exact ⟨n, List.mem_filter.2 ⟨hmem, decide_eq_true hn.ne_nil⟩,
      stepOf_eq_name_iff.2 ⟨rfl, hn.ne_here, hn.ne_up⟩⟩

/-- The directory of a path goes through names of the path only. -/
theorem name_mem_steps_of_parent? (hq : p.parent? = some q) (hn : .name n ∈ q.steps) : .name n ∈ p.steps := by
  obtain ⟨bytes, hbytes, rfl⟩ := Option.map_eq_some_iff.1 hq
  rw [name_mem_steps_iff] at hn ⊢
  obtain ⟨hmem, hname⟩ := hn
  refine ⟨(Lexical.mem_segments_of_parent? hbytes hmem).resolve_left ?_, hname⟩
  rw [hname.isIdle_eq_false]
  exact Bool.false_ne_true

/-- What holds of a path and goes over to parents holds of the directories above the path. -/
theorem of_mem_ancestors {motive : Path → Prop} (hself : motive p)
    (hparent : ∀ dir above : Path, dir.parent? = some above → motive dir → motive above) (hq : q ∈ p.ancestors) :
    motive q := by
  rw [ancestors] at hq
  generalize p.bytes.length = count at hq
  induction count generalizing p with
  | zero => exact List.mem_singleton.1 hq ▸ hself
  | succ count ih =>
    rw [ancestorsUpTo, List.mem_cons] at hq
    obtain rfl | hq := hq
    · exact hself
    · split at hq
      · cases hq
      · rename_i dir hdir
        exact ih (hparent p dir hdir hself) hq

/-- The directories above a path go through names of the path only. -/
theorem name_mem_steps_of_mem_ancestors (hq : q ∈ p.ancestors) (hn : .name n ∈ q.steps) : .name n ∈ p.steps :=
  of_mem_ancestors (motive := fun dir => .name n ∈ dir.steps → .name n ∈ p.steps) id
    (fun _ _ habove hdir hn => hdir (name_mem_steps_of_parent? habove hn)) hq hn

/-- The names on a path, innermost first: where the path leads, seen from where it starts, if there are no links
and no steps up. -/
def location (p : Path) : Location := p.components.reverse.filterMap Component.name?

/-- The names on a path are those that its steps have. -/
theorem location_eq (p : Path) : p.location = (p.steps.filterMap Step.name?).reverse := by
  have hsegment (s : Bytes) : (Lexical.componentOf s).bind Component.name? =
      if decide (s ≠ []) then (stepOf s).name? else none := by
    rw [Lexical.componentOf, stepOf]
    by_cases hnil : s = []
    · simp [hnil, Lexical.isIdle]
    by_cases hhere : s = [PathAlphabet.dot]
    · subst hhere
      rfl
    by_cases hup : s = [PathAlphabet.dot, PathAlphabet.dot]
    · subst hup
      rfl
    · rw [if_neg (by simp [Lexical.isIdle, hnil, hhere]), if_neg hup, if_pos (decide_eq_true hnil),
        if_neg (c := s = [0x2E]) hhere, if_neg (c := s = [0x2E, 0x2E]) hup]
      rfl
  have hsteps : p.steps.filterMap Step.name? =
      (Lexical.segments p.bytes).filterMap fun s => (Lexical.componentOf s).bind Component.name? := by
    have hslash : p.steps.filterMap Step.name? = (p.steps.filter (· ≠ .slash)).filterMap Step.name? := by
      rw [List.filterMap_filter]
      refine List.filterMap_congr fun step _ => ?_
      cases step <;> rfl
    rw [hslash, FileSystem.filter_steps, List.filterMap_map, List.filterMap_filter]
    exact List.filterMap_congr fun s _ => (hsegment s).symm
  rw [hsteps, location, components, Lexical.components_eq, List.filterMap_reverse, List.filterMap_append,
    List.filterMap_filterMap]
  congr 1
  repeat' split
  all_goals rfl

theorem mem_location_iff : n ∈ p.location ↔ .name n ∈ p.steps := by
  rw [location_eq, List.mem_reverse, List.mem_filterMap]
  constructor
  · rintro ⟨step, hstep, hname⟩
    cases step with
    | name m => exact Option.some.inj hname ▸ hstep
    | here => cases hname
    | up => cases hname
    | slash => cases hname
  · exact fun h => ⟨_, h, rfl⟩

/-- The path of an entry has the components of the path of its directory, and then the entry's name. -/
theorem components_child (hn : Lexical.IsName n) (p : Path) :
    (p.child n).components = p.components ++ [.name n] := by
  by_cases hp : p.bytes = []
  · have hchild : p.child n = ⟨n⟩ := by
      rw [child, join, hp, Lexical.join, if_neg (by simp [hn.isAbsolute_eq_false]), if_pos (.inl rfl)]
      rfl
    have hempty : p.components = [] := by
      rw [components, hp]
      rfl
    rw [hchild, hempty]
    exact hn.components_eq
  obtain ⟨front, hchild, hfront⟩ := exists_bytes_child_eq hn hp
  have hsegments : Lexical.segments (p.child n).bytes = Lexical.segments front ++ [n] := by
    rw [hchild, Lexical.segments_concat front hn.slash_notMem]
  have hsame : (Lexical.segments p.bytes).head? = (Lexical.segments front).head? ∧
      (Lexical.segments p.bytes).filterMap Lexical.componentOf =
        (Lexical.segments front).filterMap Lexical.componentOf := by
    obtain hfront | hfront := hfront
    · rw [hfront]
      exact ⟨rfl, rfl⟩
    · rw [hfront, Lexical.segments_concat front List.not_mem_nil, List.filterMap_append]
      exact ⟨List.head?_append_of_ne_nil _ (Lexical.segments_ne_nil front),
        by simp [Lexical.componentOf, Lexical.isIdle]⟩
  have habs : Lexical.isAbsolute (p.child n).bytes = Lexical.isAbsolute p.bytes := by
    rw [child, bytes_join, Lexical.isAbsolute_join, hn.isAbsolute_eq_false, Bool.or_false]
  have hhead : Lexical.head (p.child n).bytes = Lexical.head p.bytes := by
    rw [Lexical.head, Lexical.head, habs, hsegments, hsame.1,
      List.head?_append_of_ne_nil _ (Lexical.segments_ne_nil front)]
  rw [components, components, Lexical.components_eq, Lexical.components_eq, habs, hhead, hsegments, hsame.2,
    List.filterMap_append, List.append_assoc]
  simp [hn.componentOf_eq]

/-- A path that is text goes through texts. -/
theorem exists_text_of_name_mem_steps {t : String} (hn : .name n ∈ (ofString t).steps) :
    ∃ s, Text.encode s = n := by
  obtain ⟨hmem, -⟩ := name_mem_steps_iff.1 hn
  rw [ofString, Lexical.segments_encode, List.mem_map] at hmem
  obtain ⟨w, -, hw⟩ := hmem
  exact ⟨_, hw⟩

/-- A path without steps is empty or the root. -/
theorem isAbsolute_of_steps_eq_nil (h : p.steps = []) (hne : p.bytes ≠ []) : p.isAbsolute = true := by
  obtain ⟨c, cs, hbytes⟩ := List.exists_cons_of_ne_nil hne
  by_cases hc : c = PathAlphabet.slash
  · simp [isAbsolute, Lexical.isAbsolute, hbytes, hc]
  · obtain ⟨s, ss, hcut⟩ := List.exists_cons_of_ne_nil (Lexical.segments_ne_nil cs)
    have hfilter := FileSystem.filter_steps p
    rw [h, hbytes, Lexical.segments, if_neg hc, hcut] at hfilter
    simp at hfilter

/-- A path ends in its file name. -/
theorem fileName?_of_steps {body : List Step} (h : p.steps = body ++ [.name n]) : p.fileName? = some n := by
  have hn := name_mem_steps_iff.1 (h ▸ List.mem_append_right body (List.mem_singleton_self _))
  refine Lexical.fileName?_of_getLast?_segments ?_ hn.2
  have hnamed : (Lexical.segments p.bytes).filter (· ≠ []) ≠ [] :=
    List.ne_nil_of_mem (List.mem_filter.2 ⟨hn.1, decide_eq_true hn.2.ne_nil⟩)
  have hne : p.bytes ≠ [] := by
    intro hnil
    rw [hnil] at hnamed
    exact hnamed rfl
  rw [steps] at h
  split at h
  · have hlast := congrArg List.getLast? h
    simp at hlast
  · rename_i hslash
    have hword := Lexical.getLast?_segments_ne_nil hne fun hlast => hslash ⟨hnamed, hlast⟩
    obtain ⟨front, w, hfront⟩ :=
      (List.eq_nil_or_concat' (Lexical.segments p.bytes)).resolve_left (Lexical.segments_ne_nil _)
    rw [hfront, List.getLast?_concat] at hword ⊢
    have hkept : [w].filter (· ≠ []) = [w] := by simpa using hword
    have hlast := congrArg List.getLast? h
    rw [hfront, List.filter_append, hkept, List.map_append, List.map_singleton, List.getLast?_concat,
      List.getLast?_concat] at hlast
    exact congrArg some (stepOf_eq_name_iff.1 (Option.some.inj hlast)).1

end Path
end DocPortal
