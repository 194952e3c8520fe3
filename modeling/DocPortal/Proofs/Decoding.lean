import DocPortal.Proofs.Tokens

/-!
# Reading follows the grammar

A text is decoded exactly if it is in the grammar, and then to the value that it spells. What is read off
the front of a text is spelled there, and what is spelled there is read, since what follows an item is never
part of a word.

## Main definitions

* `Json.Sound` — what a reader takes off the front of a text is spelled there.
* `Json.Complete` — what is spelled at the front of a text is read.
* `Json.Opens` — items that can be told from blanks and from a closing bracket.
* `Json.IsWord` — a value is spelled as a word.
-/

namespace DocPortal
namespace Json

section

variable {α : Type}

/-- What the reader takes off the front of a text is spelled there. -/
structure Sound (read : Reader α) (item : Spelling α) : Prop where
  spelled : ∀ {s x t}, read s = some (x, t) → item s x t

/-- What is spelled at the front of a text of at most `n` characters is read, unless the text goes on with
its last word. -/
structure Complete (n : Nat) (read : Reader α) (item : Spelling α) : Prop where
  read_eq : ∀ {s x t}, s.length ≤ n → item s x t → Ends t → read s = some (x, t)

/-- What is spelled at the front of a text of at most `n` characters is not empty. -/
structure Shortens (n : Nat) (item : Spelling α) : Prop where
  length_lt : ∀ {s x t}, s.length ≤ n → item s x t → t.length < s.length

/-- Items that can be told from blanks and from the closing bracket. -/
structure Opens (item : Spelling α) (close : Char) : Prop where
  start : ∀ {s x t}, item s x t → ∃ c rest, s = c :: rest ∧ isBlank c = false ∧ c ≠ close
  length_lt : ∀ {s x t}, item s x t → t.length < s.length

end

/-! ## Items between brackets -/

/-- A closing bracket: neither a blank nor part of a word nor a comma. -/
structure IsBracket (close : Char) : Prop where
  isBlank : isBlank close = false
  isWordChar : isWordChar close = false
  ne_comma : close ≠ ','

theorem isBracket_square : IsBracket ']' := ⟨by decide, by decide, by decide⟩

theorem isBracket_curly : IsBracket '\x7d' := ⟨by decide, by decide, by decide⟩

section

variable {α : Type} {item : Spelling α} {read : Reader α} {close : Char} {s t : List Char} {xs : List α}
  {n : Nat}

theorem Opens.skipBlanks_eq (hitem : Opens item close) {x : α} {s' : List Char} (h : Blanks s s')
    (hx : item s' x t) : skipBlanks s = s' := by
  obtain ⟨c, rest, rfl, hc, -⟩ := hitem.start hx
  refine h.skipBlanks_eq fun c' hc' => ?_
  cases hc'
  exact hc

theorem IsBracket.skipBlanks_eq (hclose : IsBracket close) (h : Blanks s (close :: t)) :
    skipBlanks s = close :: t := by
  refine h.skipBlanks_eq fun c hc => ?_
  cases hc
  exact hclose.isBlank

theorem ends_cons {c : Char} (h : isWordChar c = false) : Ends (c :: t) := by
  rintro c' hc'
  cases hc'
  exact h

/-- What follows an item does not go on with its last word. -/
theorem FurtherSpelled.ends (hclose : IsBracket close) (h : FurtherSpelled item close s xs t) :
    Ends s := by
  cases h with
  | close hs => exact hs.ends (ends_cons hclose.isWordChar)
  | item hs _ _ _ => exact hs.ends (ends_cons (by decide))

theorem FurtherSpelled.length_lt (hitem : Shortens n item) (h : FurtherSpelled item close s xs t)
    (hs : s.length ≤ n) : t.length < s.length := by
  induction h with
  | close hblanks => exact hblanks.length_lt
  | item hcomma hblanks hx _ ih =>
    have hs₁ := hcomma.length_lt
    have hs₂ := hblanks.length_le
    have hs₃ := hitem.length_lt (by omega) hx
    have ht := ih (by omega)
    omega

theorem Shortens.listed (hitem : Shortens n item) : Shortens n (ListedSpelled item close) where
  length_lt hs h := by
    cases h with
    | empty hblanks => exact hblanks.length_lt
    | items hblanks hx hfurther =>
      have hs₁ := hblanks.length_le
      have hs₂ := hitem.length_lt (by omega) hx
      have ht := hfurther.length_lt hitem (by omega)
      omega

theorem furtherSpelled_of_readFurther (hread : Sound read item)
    (h : readFurther read close n s = some (xs, t)) : FurtherSpelled item close s xs t := by
  induction n generalizing s xs with
  | zero => cases h
  | succ n ih =>
    have hblanks := blanks_skipBlanks s
    rw [readFurther] at h
    split at h
    · cases h
    · rename_i c s' heq
      rw [heq] at hblanks
      split at h
      · rename_i hc
        cases h
        cases hc
        exact .close hblanks
      split at h
      · rename_i hc
        cases hc
        obtain ⟨⟨x, s₁⟩, hx, h⟩ := Option.bind_eq_some_iff.1 h
        obtain ⟨⟨xs', s₂⟩, hxs, h⟩ := Option.bind_eq_some_iff.1 h
        cases h
        exact .item hblanks (blanks_skipBlanks s') (hread.spelled hx) (ih hxs)
      · cases h

theorem Sound.listed (hread : Sound read item) :
    Sound (readListed read close) (ListedSpelled item close) where
  spelled {s xs t} h := by
    have hblanks := blanks_skipBlanks s
    rw [readListed] at h
    split at h
    · rename_i hhead
      obtain ⟨rest, hrest⟩ := List.head?_eq_some_iff.1 hhead
      rw [hrest] at h hblanks
      cases h
      exact .empty hblanks
    · obtain ⟨⟨x, s₁⟩, hx, h⟩ := Option.bind_eq_some_iff.1 h
      obtain ⟨⟨xs', s₂⟩, hxs, h⟩ := Option.bind_eq_some_iff.1 h
      cases h
      exact .items hblanks (hread.spelled hx) (furtherSpelled_of_readFurther hread hxs)

/-- There are no more items than there are characters in the text. -/
theorem FurtherSpelled.readFurther_eq (hclose : IsBracket close) (hopens : Opens item close)
    (hread : Complete n read item) (h : FurtherSpelled item close s xs t) (hs : s.length ≤ n) :
    ∀ {m : Nat}, s.length ≤ m → readFurther read close m s = some (xs, t) := by
  induction h with
  | close hblanks =>
    intro m hm
    have hlength := hblanks.length_lt
    cases m with
    | zero => omega
    | succ m =>
      rw [readFurther, hclose.skipBlanks_eq hblanks]
      exact if_pos rfl
  | @item x xs s s₁ s₂ s₃ t hcomma hblanks hx hfurther ih =>
    intro m hm
    have hs₁ := hcomma.length_lt
    have hs₂ := hblanks.length_le
    have hs₃ := hopens.length_lt hx
    cases m with
    | zero => omega
    | succ m =>
      have hskip : skipBlanks s = ',' :: s₁ := hcomma.skipBlanks_eq (by simp [isBlank])
      rw [readFurther, hskip]
      dsimp only
      rw [if_neg (Ne.symm hclose.ne_comma), if_pos rfl, hopens.skipBlanks_eq hblanks hx,
        hread.read_eq (by omega) hx (hfurther.ends hclose)]
      show readFurther read close m s₃ >>= _ = _
      rw [ih (by omega) (by omega)]
      rfl

theorem Complete.listed (hclose : IsBracket close) (hopens : Opens item close)
    (hread : Complete n read item) : Complete n (readListed read close) (ListedSpelled item close) where
  read_eq {s xs t} hs h _ := by
    cases h with
    | empty hblanks =>
      rw [readListed, hclose.skipBlanks_eq hblanks]
      exact if_pos rfl
    | @items x xs _ s₁ s₂ _ hblanks hx hfurther =>
      obtain ⟨c, rest, heq, -, hc⟩ := hopens.start hx
      have hhead : s₁.head? ≠ some close := by
        rw [heq]
        exact fun h => hc (Option.some.inj h)
      have hs₁ := hblanks.length_le
      have hs₂ := hopens.length_lt hx
      rw [readListed, hopens.skipBlanks_eq hblanks hx]
      dsimp only
      rw [if_neg hhead, hread.read_eq (by omega) hx (hfurther.ends hclose)]
      show readFurther read close s₂.length s₂ >>= _ = _
      rw [hfurther.readFurther_eq hclose hopens hread (by omega) (Nat.le_refl _)]
      rfl

/-! ## Members of objects -/

theorem Shortens.member (hitem : Shortens n item) : Shortens n (MemberSpelled item) where
  length_lt hs h := by
    obtain ⟨hkey, hcolon, hblanks, hvalue⟩ := h
    have hs₁ := hkey.length_lt
    have hs₂ := hcolon.length_lt
    have hs₃ := hblanks.length_le
    have ht := hitem.length_lt (by omega) hvalue
    omega

theorem Sound.member (hread : Sound read item) : Sound (readMember read) (MemberSpelled item) where
  spelled {s m t} h := by
    obtain ⟨⟨key, s₁⟩, hkey, h⟩ := Option.bind_eq_some_iff.1 h
    have hblanks := blanks_skipBlanks s₁
    dsimp only at h
    split at h
    · rename_i s₂ heq
      rw [heq] at hblanks
      obtain ⟨⟨value, s₃⟩, hvalue, h⟩ := Option.bind_eq_some_iff.1 h
      cases h
      exact .mk (readLiteral_eq_some_iff.1 hkey) hblanks (blanks_skipBlanks s₂) (hread.spelled hvalue)
    · cases h

theorem Complete.member (hopens : Opens item close) (hread : Complete n read item) :
    Complete n (readMember read) (MemberSpelled item) where
  read_eq hs h ht := by
    obtain ⟨hkey, hcolon, hblanks, hvalue⟩ := h
    rename_i s t key value s₁ s₂ s₃
    have hs₁ := hkey.length_lt
    have hs₂ := hcolon.length_lt
    have hs₃ := hblanks.length_le
    have hskip : skipBlanks s₁ = ':' :: s₂ := hcolon.skipBlanks_eq (by simp [isBlank])
    rw [readMember, readLiteral_eq_some_iff.2 hkey, Option.bind_eq_bind, Option.bind_some]
    dsimp only
    rw [hskip]
    show read (skipBlanks s₂) >>= _ = _
    rw [hopens.skipBlanks_eq hblanks hvalue, hread.read_eq (by omega) hvalue ht]
    rfl

end

/-! ## Values -/

/-- A value is spelled as a word. -/
structure IsWord (w : List Char) (j : Json) : Prop where
  ne_nil : w ≠ []
  wordChar : ∀ c ∈ w, isWordChar c = true
  value : ofWord? w = some j

theorem IsWord.exists_cons {w : List Char} {j : Json} (h : IsWord w j) (t : List Char) :
    ∃ c rest, w ++ t = c :: rest ∧ isWordChar c = true := by
  cases w with
  | nil => exact absurd rfl h.ne_nil
  | cons c w => exact ⟨c, w ++ t, rfl, h.wordChar c List.mem_cons_self⟩

/-- A value is spelled as a word, as a text literal, or between brackets. -/
theorem Spelled.cases_spelling {s t : List Char} {j : Json} (h : Spelled s j t) :
    (∃ w, IsWord w j ∧ s = w ++ t) ∨ (∃ x, LiteralSpelled s x t ∧ j = .text x) ∨
      (∃ s' xs, ListedSpelled Spelled ']' s' xs t ∧ s = '[' :: s' ∧ j = .array xs) ∨
      ∃ s' ms, ListedSpelled (MemberSpelled Spelled) '\x7d' s' ms t ∧ s = '\x7b' :: s' ∧ j = .object ms := by
  cases h with
  | null => exact .inl ⟨_, ⟨by decide, List.all_eq_true.1 (by decide), rfl⟩, rfl⟩
  | yes => exact .inl ⟨_, ⟨by decide, List.all_eq_true.1 (by decide), rfl⟩, rfl⟩
  | no => exact .inl ⟨_, ⟨by decide, List.all_eq_true.1 (by decide), rfl⟩, rfl⟩
  | @number n =>
    obtain ⟨hne, hw⟩ := isWordChar_of_isNumeral n.isNumeral
    exact .inl ⟨_, ⟨hne, hw, ofWord?_spelled n⟩, rfl⟩
  | text hliteral => exact .inr (.inl ⟨_, hliteral, rfl⟩)
  | array hlisted => exact .inr (.inr (.inl ⟨_, _, hlisted, rfl, rfl⟩))
  | object hlisted => exact .inr (.inr (.inr ⟨_, _, hlisted, rfl, rfl⟩))

/-- What a value begins with: a mark of its own, or a character of words. -/
theorem Spelled.start {s t : List Char} {j : Json} (h : Spelled s j t) :
    ∃ c rest, s = c :: rest ∧ (c = '"' ∨ c = '[' ∨ c = '\x7b' ∨ isWordChar c = true) := by
  obtain ⟨w, hw, rfl⟩ | ⟨x, ⟨_⟩, -⟩ | ⟨s', xs, -, rfl, -⟩ | ⟨s', ms, -, rfl, -⟩ := h.cases_spelling
  · obtain ⟨c, rest, heq, hc⟩ := hw.exists_cons t
    exact ⟨c, rest, heq, .inr (.inr (.inr hc))⟩
  · exact ⟨_, _, rfl, .inl rfl⟩
  · exact ⟨_, _, rfl, .inr (.inl rfl)⟩
  · exact ⟨_, _, rfl, .inr (.inr (.inl rfl))⟩

/-- A value is not empty. Its items are spelled in shorter texts, so the induction is on a bound for the
length. -/
theorem shortens_spelled (n : Nat) : Shortens n Spelled := by
  induction n with
  | zero =>
    refine ⟨fun hs h => ?_⟩
    obtain ⟨c, rest, rfl, -⟩ := h.start
    simp at hs
  | succ n ih =>
    refine ⟨fun hs h => ?_⟩
    obtain ⟨w, hw, rfl⟩ | ⟨x, hliteral, -⟩ | ⟨s', xs, hlisted, rfl, -⟩ | ⟨s', ms, hlisted, rfl, -⟩ :=
      h.cases_spelling
    · have hlength := List.length_pos_iff.2 hw.ne_nil
      rw [List.length_append]
      omega
    · exact hliteral.length_lt
    · exact Nat.lt_succ_of_lt (ih.listed.length_lt (Nat.le_of_succ_le_succ hs) hlisted)
    · exact Nat.lt_succ_of_lt (ih.member.listed.length_lt (Nat.le_of_succ_le_succ hs) hlisted)

theorem isBlank_of_isWordChar {c : Char} (h : isWordChar c = true) : isBlank c = false := by
  by_contra hblank
  rw [Bool.not_eq_false] at hblank
  rw [isWordChar_of_isBlank hblank] at h
  cases h

/-- Values can be told from blanks and from closing brackets. -/
theorem opens_spelled {close : Char} (hclose : close = ']' ∨ close = '\x7d') : Opens Spelled close where
  start {s j t} h := by
    obtain ⟨c, rest, heq, hc⟩ := h.start
    refine ⟨c, rest, heq, ?_⟩
    obtain rfl | rfl | rfl | hword := hc
    · rcases hclose with rfl | rfl <;> decide
    · rcases hclose with rfl | rfl <;> decide
    · rcases hclose with rfl | rfl <;> decide
    · refine ⟨isBlank_of_isWordChar hword, ?_⟩
      rintro rfl
      rcases hclose with rfl | rfl <;> cases hword
  length_lt h := (shortens_spelled _).length_lt (Nat.le_refl _) h

/-- Members can be told from blanks and from closing brackets. -/
theorem opens_memberSpelled : Opens (MemberSpelled Spelled) '\x7d' where
  start h := by
    obtain ⟨⟨_⟩, _, _, _⟩ := h
    exact ⟨_, _, rfl, by decide, by decide⟩
  length_lt h := (shortens_spelled _).member.length_lt (Nat.le_refl _) h

theorem readValue_cons_of_isWordChar {depth : Nat} {c : Char} {s : List Char}
    (hc : isWordChar c = true) : readValue (depth + 1) (c :: s) = readWord (c :: s) := by
  rw [readValue]
  all_goals
    intro rest heq
    cases heq
    cases hc

theorem IsWord.readValue_eq {depth : Nat} {w t : List Char} {j : Json} (hw : IsWord w j) (ht : Ends t) :
    readValue (depth + 1) (w ++ t) = some (j, t) := by
  obtain ⟨c, rest, heq, hc⟩ := hw.exists_cons t
  rw [heq, readValue_cons_of_isWordChar hc, ← heq]
  exact readWord_of_ofWord? hw.wordChar hw.value ht

/-- What is read is spelled. -/
theorem sound_readValue (depth : Nat) : Sound (readValue depth) Spelled := by
  induction depth with
  | zero => exact ⟨fun h => by cases h⟩
  | succ depth ih =>
    refine ⟨fun h => ?_⟩
    rw [readValue.eq_def] at h
    dsimp only at h
    split at h
    · obtain ⟨⟨x, t'⟩, hx, heq⟩ := Option.map_eq_some_iff.1 h
      cases heq
      exact .text (readLiteral_eq_some_iff.1 hx)
    · obtain ⟨⟨xs, t'⟩, hxs, heq⟩ := Option.map_eq_some_iff.1 h
      cases heq
      exact .array (ih.listed.spelled hxs)
    · obtain ⟨⟨ms, t'⟩, hms, heq⟩ := Option.map_eq_some_iff.1 h
      cases heq
      exact .object (ih.member.listed.spelled hms)
    · exact spelled_of_readWord h

/-- What is spelled is read: a value is nested no deeper than its text is long. -/
theorem complete_readValue (depth : Nat) : Complete depth (readValue depth) Spelled := by
  induction depth with
  | zero =>
    refine ⟨fun hs h _ => ?_⟩
    obtain ⟨c, rest, rfl, -⟩ := h.start
    simp at hs
  | succ depth ih =>
    refine ⟨fun hs h ht => ?_⟩
    obtain ⟨w, hw, rfl⟩ | ⟨x, hliteral, rfl⟩ | ⟨s', xs, hlisted, rfl, rfl⟩ | ⟨s', ms, hlisted, rfl, rfl⟩ :=
      h.cases_spelling
    · exact hw.readValue_eq ht
    · have hread := readLiteral_eq_some_iff.2 hliteral
      obtain ⟨_⟩ := hliteral
      rw [readValue, hread]
      rfl
    · have hitems := Complete.listed isBracket_square (opens_spelled (.inl rfl)) ih
      rw [readValue, hitems.read_eq (Nat.le_of_succ_le_succ hs) hlisted ht]
      rfl
    · have hmembers := Complete.listed isBracket_curly opens_memberSpelled
        (Complete.member (opens_spelled (.inr rfl)) ih)
      rw [readValue, hmembers.read_eq (Nat.le_of_succ_le_succ hs) hlisted ht]
      rfl

/-- **Decoding follows the grammar.**  A text is decoded to a value exactly if it spells that value, with
blanks around it and nothing else. -/
theorem decode_eq_some_iff {s : String} {j : Json} : decode s = some j ↔ IsText s.toList j := by
  constructor
  · intro h
    rw [decode] at h
    split at h
    · rename_i j' rest hread
      split at h
      · rename_i hrest
        cases h
        have hend := blanks_skipBlanks rest
        rw [hrest] at hend
        exact ⟨_, rest, blanks_skipBlanks s.toList, (sound_readValue _).spelled hread, hend⟩
      · cases h
    · cases h
  · rintro ⟨s₁, s₂, hbefore, hvalue, hafter⟩
    have hskip : skipBlanks s.toList = s₁ := (opens_spelled (.inl rfl)).skipBlanks_eq hbefore hvalue
    have hends : Ends s₂ := hafter.ends fun c hc => by cases hc
    have hrest : skipBlanks s₂ = [] := hafter.skipBlanks_eq fun c hc => by cases hc
    rw [decode, hskip, (complete_readValue _).read_eq hbefore.length_le hvalue hends]
    exact if_pos hrest

example : decode "[null, \"\\ud83d\\ude00\"]" = some (.array [.null, .text "😀"]) := by rfl

end Json
end DocPortal
