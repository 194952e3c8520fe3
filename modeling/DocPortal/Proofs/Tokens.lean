import DocPortal.Json.Grammar
import DocPortal.Proofs.Result
import Mathlib.Data.List.TakeWhile

/-!
# Reading tokens

Blanks, words and text literals are read as the grammar has it. A literal ends with its quote, so that it is
read wherever it is spelled. A word ends where no character follows that would belong to it: what is spelled
as a word is read only if the text does not go on with the word.

## Main definitions

* `Json.Ends` — what is left of a text does not go on with the word before it.
-/

namespace DocPortal
namespace Json

/-! ## Blanks -/

theorem blanks_skipBlanks (s : List Char) : Blanks s (skipBlanks s) :=
  ⟨s.takeWhile isBlank, List.takeWhile_append_dropWhile.symm, fun _ hc => List.mem_takeWhile_imp hc⟩

theorem Blanks.skipBlanks_eq {s t : List Char} (h : Blanks s t)
    (ht : ∀ c ∈ t.head?, isBlank c = false) : skipBlanks s = t := by
  obtain ⟨blanks, rfl, hblanks⟩ := h
  rw [skipBlanks, List.dropWhile_append_of_pos hblanks]
  cases t with
  | nil => rfl
  | cons c t => exact List.dropWhile_cons_of_neg (by simp [ht c rfl])

theorem Blanks.length_le {s t : List Char} (h : Blanks s t) : t.length ≤ s.length := by
  obtain ⟨blanks, rfl, -⟩ := h
  simp

theorem Blanks.length_lt {s t : List Char} {c : Char} (h : Blanks s (c :: t)) : t.length < s.length :=
  Nat.lt_of_succ_le h.length_le

/-- What is left of a text does not go on with the word before it. -/
def Ends (t : List Char) : Prop := ∀ c ∈ t.head?, isWordChar c = false

theorem isWordChar_of_isBlank {c : Char} (h : isBlank c = true) : isWordChar c = false := by
  simp only [isBlank, Bool.or_eq_true, decide_eq_true_eq] at h
  obtain ((rfl | rfl) | rfl) | rfl := h <;> decide

theorem Blanks.ends {s t : List Char} (h : Blanks s t) (ht : Ends t) : Ends s := by
  obtain ⟨blanks, rfl, hblanks⟩ := h
  cases blanks with
  | nil => exact ht
  | cons b blanks =>
    rintro c hc
    cases hc
    exact isWordChar_of_isBlank (hblanks b List.mem_cons_self)

/-! ## Words -/

theorem isWordChar_of_isDigits {s : List Char} (h : isDigits s = true) : ∀ c ∈ s, isWordChar c = true := by
  simp only [isDigits, Bool.and_eq_true, List.all_eq_true] at h
  intro c hc
  simp [isWordChar, Char.isAlphanum, h.2 c hc]

/-- What begins with a mark at which a part of a numeral ends is made of word characters if the rest is. -/
theorem isWordChar_of_mem_dropWhile {p : Char → Bool} {l : List Char}
    (hmark : ∀ c, p c = false → isWordChar c = true)
    (htail : (l.dropWhile p).isEmpty = true ∨ ∀ c ∈ (l.dropWhile p).tail, isWordChar c = true) :
    ∀ c ∈ l.dropWhile p, isWordChar c = true := by
  have hhead := List.head?_dropWhile_not p l
  cases hrest : l.dropWhile p with
  | nil => simp
  | cons mark rest =>
    rw [hrest] at hhead htail
    rw [List.forall_mem_cons]
    refine ⟨hmark mark (by simpa using hhead), ?_⟩
    simpa using htail

theorem isWordChar_of_isMantissa {s : List Char} (h : isMantissa s = true) :
    ∀ c ∈ s, isWordChar c = true := by
  simp only [isMantissa, Bool.and_eq_true, Bool.or_eq_true] at h
  obtain ⟨⟨hwhole, -⟩, hfraction⟩ := h
  intro c hc
  rw [← List.takeWhile_append_dropWhile (p := (· ≠ '.')) (l := s), List.mem_append] at hc
  rcases hc with hc | hc
  · exact isWordChar_of_isDigits hwhole c hc
  · refine isWordChar_of_mem_dropWhile ?_ (hfraction.imp_right isWordChar_of_isDigits) c hc
    intro c hc
    obtain rfl : c = '.' := by simpa using hc
    decide

theorem isWordChar_of_splitSign {s : List Char} (h : isDigits (Text.splitSign s).2 = true) :
    ∀ c ∈ s, isWordChar c = true := by
  rw [Text.splitSign.eq_def] at h
  split at h
  · exact List.forall_mem_cons.2 ⟨by decide, isWordChar_of_isDigits h⟩
  · exact List.forall_mem_cons.2 ⟨by decide, isWordChar_of_isDigits h⟩
  · exact isWordChar_of_isDigits h

/-- A numeral is a word. -/
theorem isWordChar_of_isNumeral {s : List Char} (h : isNumeral s = true) :
    s ≠ [] ∧ ∀ c ∈ s, isWordChar c = true := by
  simp only [isNumeral, Bool.and_eq_true, Bool.or_eq_true] at h
  obtain ⟨hmantissa, hexponent⟩ := h
  have hunsigned : ∀ c ∈ (if s.head? = some '-' then s.tail else s), isWordChar c = true := by
    generalize (if s.head? = some '-' then s.tail else s) = unsigned at *
    intro c hc
    rw [← List.takeWhile_append_dropWhile (p := isBeforeExponent) (l := unsigned), List.mem_append] at hc
    rcases hc with hc | hc
    · exact isWordChar_of_isMantissa hmantissa c hc
    · refine isWordChar_of_mem_dropWhile ?_ (hexponent.imp_right isWordChar_of_splitSign) c hc
      intro c hc
      simp only [isBeforeExponent, Bool.and_eq_false_iff, decide_eq_false_iff_not, not_not] at hc
      rcases hc with rfl | rfl <;> decide
  cases s with
  | nil => cases hmantissa
  | cons c rest =>
    refine ⟨List.cons_ne_nil c rest, ?_⟩
    split at hunsigned
    · rename_i hminus
      cases hminus
      exact List.forall_mem_cons.2 ⟨by decide, hunsigned⟩
    · exact hunsigned

theorem ofWord?_spelled (n : Numeral) : ofWord? n.spelled = some (.number n) := by
  have hne : ∀ w, isNumeral w = false → n.spelled ≠ w := by
    rintro w hw rfl
    rw [n.isNumeral] at hw
    cases hw
  rw [ofWord?, if_neg (hne _ (by decide)), if_neg (hne _ (by decide)), if_neg (hne _ (by decide)),
    dif_pos n.isNumeral]

theorem readWord_append {w t : List Char} (hw : ∀ c ∈ w, isWordChar c = true) (ht : Ends t) :
    readWord (w ++ t) = (ofWord? w).map (·, t) := by
  have hstop : t.takeWhile isWordChar = [] ∧ t.dropWhile isWordChar = t := by
    cases t with
    | nil => exact ⟨rfl, rfl⟩
    | cons c t => simp [ht c rfl]
  rw [readWord, List.takeWhile_append_of_pos hw, List.dropWhile_append_of_pos hw, hstop.1, hstop.2,
    List.append_nil]

theorem spelled_of_ofWord? {w t : List Char} {j : Json} (h : ofWord? w = some j) :
    Spelled (w ++ t) j t := by
  rw [ofWord?] at h
  split at h
  · rename_i hw
    cases h
    rw [hw]
    exact .null
  split at h
  · rename_i hw
    cases h
    rw [hw]
    exact .yes
  split at h
  · rename_i hw
    cases h
    rw [hw]
    exact .no
  split at h
  · rename_i hw
    cases h
    show Spelled ((⟨w, hw⟩ : Numeral).spelled ++ t) _ t
    exact .number
  · cases h

theorem spelled_of_readWord {s t : List Char} {j : Json} (h : readWord s = some (j, t)) :
    Spelled s j t := by
  obtain ⟨j', hj, heq⟩ := Option.map_eq_some_iff.1 h
  cases heq
  have hspelled := spelled_of_ofWord? (t := s.dropWhile isWordChar) hj
  rwa [List.takeWhile_append_dropWhile] at hspelled

theorem readWord_of_ofWord? {w t : List Char} {j : Json} (hw : ∀ c ∈ w, isWordChar c = true)
    (hj : ofWord? w = some j) (ht : Ends t) : readWord (w ++ t) = some (j, t) := by
  rw [readWord_append hw ht, hj]
  rfl

/-! ## Text literals -/

theorem readUnit_eq_some_iff {s t : List Char} {n : Nat} :
    readUnit s = some (n, t) ↔ UnitSpelled s n t := by
  constructor
  · intro h
    rw [readUnit.eq_def] at h
    split at h
    · split at h
      · rename_i hdigits
        cases h
        exact .mk (List.all_eq_true.1 hdigits)
      · cases h
    · cases h
  · rintro ⟨hdigits⟩
    rw [readUnit, if_pos (List.all_eq_true.2 hdigits)]

theorem scalar_units (c : Char) : scalar (units c) = c.toNat := by
  by_cases hsmall : c.toNat < 0x10000
  · rw [units, if_pos hsmall, scalar]
  · rw [units, if_neg hsmall, scalar]
    omega

/-- The units of a character stand for it, and for no other. -/
theorem ofUnits?_eq_some_iff {ns : List Nat} {c : Char} : ofUnits? ns = some c ↔ units c = ns := by
  rw [ofUnits?]
  constructor
  · intro h
    split at h
    · rename_i hunits
      cases h
      exact hunits
    · cases h
  · rintro rfl
    rw [scalar_units, Char.ofNat_toNat, if_pos rfl]

/-- The first of two units stands for no character by itself. -/
theorem ofUnits?_eq_none_of_pair {c : Char} {n m : Nat} (h : units c = [n, m]) : ofUnits? [n] = none := by
  rw [Option.eq_none_iff_forall_not_mem]
  intro c' hc'
  have hsingle := ofUnits?_eq_some_iff.1 hc'
  by_cases hsmall' : c'.toNat < 0x10000
  · rw [units, if_pos hsmall', List.cons.injEq] at hsingle
    by_cases hsmall : c.toNat < 0x10000
    · rw [units, if_pos hsmall] at h
      cases h
    · rw [units, if_neg hsmall, List.cons.injEq] at h
      have hvalid : c.toNat.isValidChar := c.valid
      have hvalid' : c'.toNat.isValidChar := c'.valid
      simp only [Nat.isValidChar] at hvalid hvalid'
      omega
  · rw [units, if_neg hsmall'] at hsingle
    cases hsingle

theorem lookup_of_mem_escapes : ∀ p ∈ escapes, escapes.lookup p.1 = some p.2 := by decide

theorem readPlain_eq_some_iff {s t : List Char} {c : Char} (hs : readUnit s = none) :
    readPlain s = some (c, t) ↔ CharSpelled s c t := by
  constructor
  · intro h
    rw [readPlain.eq_def] at h
    split at h
    · obtain ⟨c', hc, heq⟩ := Option.map_eq_some_iff.1 h
      cases heq
      exact .escaped (Result.mem_of_lookup_eq_some hc)
    · split at h
      · rename_i hplain
        cases h
        exact .plain hplain
      · cases h
    · cases h
  · intro h
    cases h with
    | plain hplain =>
      have hne : c ≠ '\\' := by
        rintro rfl
        cases hplain
      rw [readPlain, if_pos hplain]
      rintro e s' heq -
      exact hne heq
    | escaped hescape =>
      rw [readPlain, lookup_of_mem_escapes _ hescape]
      rfl
    | unit _ hn =>
      rw [readUnit_eq_some_iff.2 hn] at hs
      cases hs
    | pair _ hn _ =>
      rw [readUnit_eq_some_iff.2 hn] at hs
      cases hs

/-- A unit is neither a character that stands for itself nor an escape of one letter. -/
theorem CharSpelled.cases_of_unit {s s' t : List Char} {c : Char} {n : Nat} (h : CharSpelled s c t)
    (hn : UnitSpelled s n s') :
    units c = [n] ∧ s' = t ∨ ∃ m, units c = [n, m] ∧ UnitSpelled s' m t := by
  have hread := readUnit_eq_some_iff.2 hn
  cases h with
  | plain hplain =>
    cases hn
    cases hplain
  | escaped hescape =>
    cases hn
    have hnot : ∀ p ∈ escapes, p.1 ≠ 'u' := by decide
    exact absurd rfl (hnot _ hescape)
  | unit hunits hn' =>
    rw [readUnit_eq_some_iff.2 hn'] at hread
    cases hread
    exact .inl ⟨hunits, rfl⟩
  | pair hunits hn' hm =>
    rw [readUnit_eq_some_iff.2 hn'] at hread
    cases hread
    exact .inr ⟨_, hunits, hm⟩

theorem readChar_eq_some_iff {s t : List Char} {c : Char} :
    readChar s = some (c, t) ↔ CharSpelled s c t := by
  rw [readChar]
  cases hread : readUnit s with
  | none => exact readPlain_eq_some_iff hread
  | some p =>
    obtain ⟨n, s'⟩ := p
    have hn := readUnit_eq_some_iff.1 hread
    dsimp only
    cases hsingle : ofUnits? [n] with
    | some c' =>
      constructor
      · intro h
        cases h
        exact .unit (ofUnits?_eq_some_iff.1 hsingle) hn
      · intro h
        rcases h.cases_of_unit hn with ⟨hunits, rfl⟩ | ⟨m, hunits, -⟩
        · rw [ofUnits?_eq_some_iff.2 hunits] at hsingle
          cases hsingle
          rfl
        · rw [ofUnits?_eq_none_of_pair hunits] at hsingle
          cases hsingle
    | none =>
      constructor
      · intro h
        obtain ⟨⟨m, s''⟩, hm, h⟩ := Option.bind_eq_some_iff.1 h
        obtain ⟨c', hc', h⟩ := Option.bind_eq_some_iff.1 h
        cases h
        exact .pair (ofUnits?_eq_some_iff.1 hc') hn (readUnit_eq_some_iff.1 hm)
      · intro h
        rcases h.cases_of_unit hn with ⟨hunits, -⟩ | ⟨m, hunits, hm⟩
        · rw [ofUnits?_eq_some_iff.2 hunits] at hsingle
          cases hsingle
        · show (readUnit s').bind _ = _
          rw [readUnit_eq_some_iff.2 hm, Option.bind_some]
          dsimp only
          rw [ofUnits?_eq_some_iff.2 hunits]
          rfl

theorem UnitSpelled.length_lt {s t : List Char} {n : Nat} (h : UnitSpelled s n t) :
    t.length < s.length := by
  cases h
  simp only [List.length_cons]
  omega

theorem CharSpelled.length_lt {s t : List Char} {c : Char} (h : CharSpelled s c t) :
    t.length < s.length := by
  cases h with
  | plain _ => simp
  | escaped _ =>
    simp only [List.length_cons]
    omega
  | unit _ hn => exact hn.length_lt
  | pair _ hn hm => exact hm.length_lt.trans hn.length_lt

theorem CharsSpelled.length_lt {s t cs : List Char} (h : CharsSpelled s cs t) :
    t.length < s.length := by
  induction h with
  | close => simp
  | char hc _ ih => exact ih.trans hc.length_lt

theorem charsSpelled_of_readChars {n : Nat} {s t cs : List Char} (h : readChars n s = some (cs, t)) :
    CharsSpelled s cs t := by
  induction n generalizing s cs with
  | zero => cases h
  | succ n ih =>
    rw [readChars.eq_def] at h
    split at h
    · cases h
    · cases h
      exact .close
    · rename_i n' heq _
      cases heq
      obtain ⟨⟨c, s'⟩, hc, h⟩ := Option.bind_eq_some_iff.1 h
      obtain ⟨⟨cs', s''⟩, hcs, h⟩ := Option.bind_eq_some_iff.1 h
      cases h
      exact .char (readChar_eq_some_iff.1 hc) (ih hcs)

/-- There are no more characters in a text literal than there are in the text. -/
theorem CharsSpelled.readChars_eq {s t cs : List Char} (h : CharsSpelled s cs t) :
    ∀ {n : Nat}, s.length ≤ n → readChars n s = some (cs, t) := by
  induction h with
  | close =>
    intro n hn
    cases n with
    | zero => cases hn
    | succ n => rfl
  | @char c cs s s' t hc _ ih =>
    intro n hn
    have hlength := hc.length_lt
    cases n with
    | zero => omega
    | succ n =>
      have hne : ∀ rest, s ≠ '"' :: rest := by
        rintro rest rfl
        cases hc with
        | plain hplain => cases hplain
        | unit _ hn => cases hn
        | pair _ hn _ => cases hn
      rw [readChars, readChar_eq_some_iff.2 hc]
      · show readChars n s' >>= _ = _
        rw [ih (by omega)]
        rfl
      · exact hne

theorem readLiteral_eq_some_iff {s t : List Char} {x : String} :
    readLiteral s = some (x, t) ↔ LiteralSpelled s x t := by
  constructor
  · intro h
    rw [readLiteral.eq_def] at h
    split at h
    · obtain ⟨⟨cs, s'⟩, hcs, h⟩ := Option.bind_eq_some_iff.1 h
      cases h
      exact .mk (charsSpelled_of_readChars hcs)
    · cases h
  · rintro ⟨hcs⟩
    rw [readLiteral, hcs.readChars_eq (Nat.le_refl _)]
    rfl

theorem LiteralSpelled.length_lt {s t : List Char} {x : String} (h : LiteralSpelled s x t) :
    t.length < s.length := by
  obtain ⟨hcs⟩ := h
  exact hcs.length_lt.trans (by simp)

end Json
end DocPortal
