import DocPortal.Config.Template

/-!
# Reading a template

What the parts of a template begin with, one lemma for each kind of beginning, and how the text between two
braces is taken apart into the name of a variable and its fallback.

## Main definitions

* `Template.IsVariableName` — a name of letters, digits and underscores that does not start with a digit.
-/

namespace DocPortal
namespace Template

/-! ## Parts one by one -/

theorem isWord_dollar : Text.isWord '$' = false := rfl

theorem isWord_brace : Text.isWord '\x7b' = false := rfl

theorem parts_end : parts ['$'] = [.literal '$'] := by
  rw [parts, parts_nil]
  all_goals
    intros
    contradiction

section

variable {c : Char} {rest body after : List Char}

theorem parts_cons_of_ne (h : c ≠ '$') : parts (c :: rest) = .literal c :: parts rest := by
  rw [parts]
  · exact fun _ hc _ => h hc
  · exact fun _ hc _ => h hc
  · exact fun _ _ hc _ => h hc

theorem parts_dollars : parts ('$' :: '$' :: rest) = .literal '$' :: parts rest := by rw [parts]

theorem parts_brace (h : splitBrace? rest = some (body, after)) :
    parts ('$' :: '\x7b' :: rest) = reference body :: parts after := by
  rw [parts]
  split
  · rename_i hsplit
    rw [h] at hsplit
    cases hsplit
    rfl
  · rename_i hsplit
    rw [h] at hsplit
    cases hsplit

theorem parts_word (h : Text.isWord c = true) :
    parts ('$' :: c :: rest) = .bare (.ofList (c :: (splitWord rest).1)) :: parts (splitWord rest).2 := by
  rw [parts, if_pos h]
  · rintro rfl
    rw [isWord_dollar] at h
    cases h
  · rintro rfl
    rw [isWord_brace] at h
    cases h

/-- A dollar sign that starts nothing stands for itself. -/
theorem parts_lone (hdollar : c ≠ '$') (hbrace : c ≠ '\x7b') (hword : Text.isWord c = false) :
    parts ('$' :: c :: rest) = .literal '$' :: parts (c :: rest) := by
  rw [parts, if_neg]
  · simp [hword]
  · exact hdollar
  · exact hbrace

end

/-- Text without a dollar sign is read as it is. -/
theorem parts_append_of_notMem {s : List Char} (h : '$' ∉ s) (rest : List Char) :
    parts (s ++ rest) = s.map .literal ++ parts rest := by
  induction s with
  | nil => rfl
  | cons c s ih =>
    rw [List.mem_cons, not_or] at h
    rw [List.cons_append, parts_cons_of_ne (Ne.symm h.1), ih h.2, List.map_cons, List.cons_append]

theorem splitWord_append {t : List Char} (h : ∀ c ∈ t.head?, Text.isWord c = false) (s : List Char) :
    splitWord (s ++ t) = ((splitWord s).1, (splitWord s).2 ++ t) := by
  induction s with
  | nil =>
    cases t with
    | nil => rfl
    | cons c t => simp [splitWord, h c rfl]
  | cons d s ih =>
    rw [List.cons_append, splitWord, splitWord, ih]
    split <;> rfl

theorem splitWord_append_self (s : List Char) : (splitWord s).1 ++ (splitWord s).2 = s := by
  induction s with
  | nil => rfl
  | cons c s ih =>
    rw [splitWord]
    split
    · exact congrArg (c :: ·) ih
    · rfl

theorem splitWord_isSuffix (s : List Char) : (splitWord s).2 <:+ s := ⟨_, splitWord_append_self s⟩

theorem splitBrace?_append {body : List Char} (h : '\x7d' ∉ body) (rest : List Char) :
    splitBrace? (body ++ '\x7d' :: rest) = some (body, rest) := by
  induction body with
  | nil => simp [splitBrace?]
  | cons c body ih =>
    rw [List.mem_cons, not_or] at h
    simp [splitBrace?, Ne.symm h.1, ih h.2]

/-- The text between two braces is read as a reference, whatever follows. -/
theorem parts_reference {body : List Char} (h : '\x7d' ∉ body) (rest : List Char) :
    parts ('$' :: '\x7b' :: (body ++ '\x7d' :: rest)) = reference body :: parts rest :=
  parts_brace (splitBrace?_append h rest)

/-! ## References as they are written -/

/-- A name of letters, digits and underscores that does not start with a digit. -/
def IsVariableName (name : String) : Prop :=
  ∃ c rest, name.toList = c :: rest ∧ (c.isAlpha = true ∨ c = '_') ∧
    ∀ d ∈ rest, d.isAlphanum = true ∨ d = '_'

instance (name : String) : Decidable (IsVariableName name) :=
  match h : name.toList with
  | [] => .isFalse fun ⟨_, _, hname, _⟩ => by simp [hname] at h
  | c :: rest =>
    -- Named here because `Char` is finite: with more imports the search could run over all characters.
    haveI : Decidable (∀ d ∈ rest, d.isAlphanum = true ∨ d = '_') := List.decidableBAll _ rest
    decidable_of_iff ((c.isAlpha = true ∨ c = '_') ∧ ∀ d ∈ rest, d.isAlphanum = true ∨ d = '_')
      ⟨fun ⟨hc, hrest⟩ => ⟨c, rest, h, hc, hrest⟩, fun ⟨_, _, hname, hc, hrest⟩ => by
        obtain ⟨rfl, rfl⟩ := List.cons.inj (h.symm.trans hname)
        exact ⟨hc, hrest⟩⟩

theorem IsVariableName.forall_mem {name : String} (h : IsVariableName name) :
    ∀ c ∈ name.toList, c.isAlphanum = true ∨ c = '_' := by
  obtain ⟨c, rest, hname, hc, hrest⟩ := h
  rw [hname]
  refine List.forall_mem_cons.2 ⟨hc.imp_left fun halpha => ?_, hrest⟩
  rw [Char.isAlphanum, halpha, Bool.true_or]

/-- A mark is no part of a name. -/
theorem IsVariableName.notMem {name : String} (h : IsVariableName name) (mark : Char)
    (hmark : mark.isAlphanum = false ∧ mark ≠ '_') : mark ∉ name.toList := by
  intro hmem
  obtain halpha | hunder := h.forall_mem mark hmem
  · rw [hmark.1] at halpha
    cases halpha
  · exact hmark.2 hunder

theorem splitFallback_of_notMem {name : List Char} (h : ':' ∉ name) : splitFallback name = (name, none) := by
  induction name with
  | nil => rfl
  | cons c name ih =>
    rw [List.mem_cons, not_or] at h
    rw [splitFallback, ih h.2]
    · rfl
    · exact fun _ hc _ => h.1 hc.symm

theorem splitFallback_append {name : List Char} (h : ':' ∉ name) (fallback : List Char) :
    splitFallback (name ++ ':' :: '-' :: fallback) = (name, some fallback) := by
  induction name with
  | nil => rfl
  | cons c name ih =>
    rw [List.mem_cons, not_or] at h
    rw [List.cons_append, splitFallback, ih h.2]
    · rfl
    · exact fun _ hc _ => h.1 hc.symm

theorem reference_name {name : String} (h : IsVariableName name) :
    reference name.toList = .braced name none := by
  rw [reference, splitFallback_of_notMem (h.notMem ':' (by decide))]
  simp

theorem reference_fallback {name : String} (h : IsVariableName name) (fallback : String) :
    reference (name.toList ++ ':' :: '-' :: fallback.toList) = .braced name (some fallback) := by
  have hsplit := splitFallback_append (h.notMem ':' (by decide)) fallback.toList
  obtain ⟨c, rest, hname, -⟩ := h
  rw [hname] at hsplit ⊢
  rw [reference, hsplit]
  simp [← hname]

end Template
end DocPortal
