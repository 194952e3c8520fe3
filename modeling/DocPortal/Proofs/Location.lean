import DocPortal.FileSystem.Basic
import DocPortal.Proofs.Extension
import Mathlib.Data.List.Induction

/-!
# Paths of locations

The path of a location has the names of the location as its segments, so that nothing is lost between the
two: a name that is joined to the path of a directory gives the path of the entry, and the parent of that
path is the path of the directory again.
-/

namespace DocPortal
namespace Lexical

open PathAlphabet

variable {α : Type} [PathAlphabet α]

theorem unsegment_concat {ss : List (List α)} (hne : ss ≠ []) (s : List α) :
    unsegment (ss ++ [s]) = unsegment ss ++ slash :: s := by
  induction ss with
  | nil => exact absurd rfl hne
  | cons t ss ih =>
    cases ss with
    | nil => simp [unsegment]
    | cons u ss =>
      have htail := ih (List.cons_ne_nil u ss)
      simp only [unsegment, List.cons_append, List.intercalate_cons_cons] at htail ⊢
      rw [htail, List.append_assoc, List.append_assoc, List.append_assoc]

/-- A word with several segments ends with the last of them. -/
theorem exists_unsegment_concat_eq (ss : List (List α)) (s : List α) :
    ∃ front, slash :: unsegment (ss ++ [s]) = front ++ s := by
  by_cases hne : ss = []
  · exact ⟨[slash], by simp [hne, unsegment]⟩
  · exact ⟨slash :: unsegment ss ++ [slash], by simp [unsegment_concat hne]⟩

variable [DecidableEq α]

/-- What stands before the first separator is the first segment. -/
theorem segments_append {s rest : List α} (h : slash ∉ s) :
    segments (s ++ slash :: rest) = s :: segments rest := by
  induction s with
  | nil => rw [List.nil_append, segments, if_pos rfl]
  | cons c cs ih =>
    rw [List.mem_cons, not_or] at h
    obtain ⟨hc, hcs⟩ := h
    rw [List.cons_append, segments, if_neg (Ne.symm hc), ih hcs]

/-- Words without separators are the segments of what is put together from them. -/
theorem segments_unsegment {ss : List (List α)} (hne : ss ≠ []) (h : ∀ s ∈ ss, slash ∉ s) :
    segments (unsegment ss) = ss := by
  induction ss with
  | nil => exact absurd rfl hne
  | cons s ss ih =>
    have hs := h s List.mem_cons_self
    cases ss with
    | nil => rw [unsegment, List.intercalate_singleton, segments_of_slash_notMem hs]
    | cons t ss =>
      have hrest := ih (List.cons_ne_nil t ss) fun u hu => h u (List.mem_cons_of_mem s hu)
      rw [unsegment] at hrest
      rw [unsegment, List.intercalate_cons_cons, List.append_assoc, List.singleton_append,
        segments_append hs, hrest]

theorem IsName.isIdle_eq_false {n : List α} (h : IsName n) : isIdle n = false := by
  simp [isIdle, h.ne_nil, h.ne_here]

/-- Names count. -/
theorem trimIdle_of_isName {ss : List (List α)} (h : ∀ s ∈ ss, IsName s) : trimIdle ss = ss := by
  have hkeep : ss.reverse.dropWhile isIdle = ss.reverse := by
    refine List.dropWhile_eq_self_iff.2 fun hpos => ?_
    rw [(h _ (List.mem_reverse.1 (List.getElem_mem hpos))).isIdle_eq_false]
    exact Bool.false_ne_true
  rw [trimIdle, hkeep, List.reverse_reverse]

/-- The parent of an absolute path that is made of names has all of them but the last. -/
theorem parent?_of_isName {ss : List (List α)} {n : List α} (hss : ∀ s ∈ ss, IsName s) (hn : IsName n) :
    parent? (slash :: unsegment (ss ++ [n])) = some (slash :: unsegment ss) := by
  have hnames : ∀ s ∈ ss ++ [n], IsName s := by
    intro s hs
    rcases List.mem_append.1 hs with hs | hs
    · exact hss s hs
    · exact List.mem_singleton.1 hs ▸ hn
  have hne : ss ++ [n] ≠ [] := List.append_ne_nil_of_right_ne_nil ss (List.cons_ne_nil n [])
  have hhead : head (slash :: unsegment (ss ++ [n])) = [slash] := by simp [head, isAbsolute]
  have hbody : bodySegments (slash :: unsegment (ss ++ [n])) = ss ++ [n] := by
    rw [bodySegments, hhead]
    exact segments_unsegment hne fun s hs => (hnames s hs).slash_notMem
  rw [parent?, hbody, trimIdle_of_isName hnames]
  split
  · rename_i hnil
    exact absurd hnil hne
  · rename_i s rest heq
    rw [← heq, List.dropLast_concat, trimIdle_of_isName hss, hhead]
    rfl

/-- A name that is joined to an absolute path of names comes to stand after them. -/
theorem join_of_isName {ss : List (List α)} {n : List α} (hss : ∀ s ∈ ss, IsName s) (hn : IsName n) :
    join (slash :: unsegment ss) n = slash :: unsegment (ss ++ [n]) := by
  have habs : ¬ isAbsolute n = true := by simp [hn.isAbsolute_eq_false]
  rw [join, if_neg habs]
  induction ss using List.reverseRecOn with
  | nil => simp [unsegment]
  | append_singleton front s _ =>
    have hs := hss s (by simp)
    obtain ⟨word, hword⟩ := exists_unsegment_concat_eq front s
    have hlast : (slash :: unsegment (front ++ [s])).getLast? ≠ some slash := by
      rw [hword, List.getLast?_append, List.getLast?_eq_some_getLast hs.ne_nil, Option.some_or]
      exact fun h => hs.slash_notMem (Option.some.inj h ▸ List.getLast_mem hs.ne_nil)
    have hcut : ¬(slash :: unsegment (front ++ [s]) = [] ∨
        (slash :: unsegment (front ++ [s])).getLast? = some slash) :=
      not_or.2 ⟨List.cons_ne_nil _ _, hlast⟩
    rw [if_neg hcut, unsegment_concat (List.append_ne_nil_of_right_ne_nil front (List.cons_ne_nil s []))]
    rfl

end Lexical

namespace Location

variable {loc : Location} {n : Bytes}

theorem path_cons (n : Bytes) (loc : Location) :
    (path (n :: loc)).bytes = PathAlphabet.slash :: Lexical.unsegment (loc.reverse ++ [n]) := by
  rw [path, List.reverse_cons]
  rfl

/-- The path of an entry is the path of its directory joined with its name. -/
theorem path_join (hloc : ∀ d ∈ loc, Lexical.IsName d) (hn : Lexical.IsName n) :
    loc.path.join ⟨n⟩ = path (n :: loc) := by
  have hnames : ∀ d ∈ loc.reverse, Lexical.IsName d := fun d hd => hloc d (List.mem_reverse.1 hd)
  have hbytes : (loc.path.join ⟨n⟩).bytes = (path (n :: loc)).bytes := by
    rw [path_cons]
    exact Lexical.join_of_isName hnames hn
  exact congrArg Path.mk hbytes

/-- The parent of the path of an entry is the path of its directory. -/
theorem parent?_path_cons (hloc : ∀ d ∈ loc, Lexical.IsName d) (hn : Lexical.IsName n) :
    (path (n :: loc)).parent? = some loc.path := by
  have hnames : ∀ d ∈ loc.reverse, Lexical.IsName d := fun d hd => hloc d (List.mem_reverse.1 hd)
  rw [Path.parent?, path_cons, Lexical.parent?_of_isName hnames hn]
  rfl

end Location
end DocPortal
