import DocPortal.Proofs.Descent
import Mathlib.Data.List.Forall2

/-!
# Text in bytes

The bytes of a text are those of its characters, and cutting bytes into pieces finds these characters again:
text is shown as it is. Where all characters have bytes of their own, as separators, dots and dollar signs
have, a byte and its character are found in the same places, so a path that is text has text between its
separators.
-/

namespace DocPortal
namespace Text

open ByteRange

theorem encode_eq_flatMap (s : String) : encode s = s.toList.flatMap String.utf8EncodeChar := by
  obtain ⟨l, rfl⟩ := s.exists_eq_ofList
  rw [encode, String.toUTF8_eq_toByteArray, String.toByteArray_ofList, String.toList_ofList, List.utf8Encode]
  simp

/-! ## The bytes of a character -/

section

variable {c : Char}

theorem utf8EncodeChar_one (h : c.toNat ≤ 0x7F) : String.utf8EncodeChar c = [.ofNat c.toNat] := if_pos h

theorem utf8EncodeChar_two (hlow : 0x7F < c.toNat) (hhigh : c.toNat ≤ 0x7FF) :
    String.utf8EncodeChar c = [.ofNat (c.toNat / 64 % 32 + 0xC0), .ofNat (c.toNat % 64 + 0x80)] :=
  (if_neg (Nat.not_le_of_lt hlow)).trans (if_pos hhigh)

theorem utf8EncodeChar_three (hlow : 0x7FF < c.toNat) (hhigh : c.toNat ≤ 0xFFFF) :
    String.utf8EncodeChar c =
      [.ofNat (c.toNat / 4096 % 16 + 0xE0), .ofNat (c.toNat / 64 % 64 + 0x80), .ofNat (c.toNat % 64 + 0x80)] :=
  (if_neg (show ¬ c.toNat ≤ 0x7F by omega)).trans
    ((if_neg (Nat.not_le_of_lt hlow)).trans (if_pos hhigh))

theorem utf8EncodeChar_four (h : 0xFFFF < c.toNat) :
    String.utf8EncodeChar c =
      [.ofNat (c.toNat / 262144 % 8 + 0xF0), .ofNat (c.toNat / 4096 % 64 + 0x80),
        .ofNat (c.toNat / 64 % 64 + 0x80), .ofNat (c.toNat % 64 + 0x80)] :=
  (if_neg (show ¬ c.toNat ≤ 0x7F by omega)).trans
    ((if_neg (show ¬ c.toNat ≤ 0x7FF by omega)).trans (if_neg (Nat.not_le_of_lt h)))

end

/-- A byte of the lower half belongs to one character only. -/
theorem mem_utf8EncodeChar {b : UInt8} (hb : b.toNat < 0x80) {c : Char} :
    b ∈ String.utf8EncodeChar c ↔ c.toNat = b.toNat := by
  have hvalid : c.toNat < 0xD800 ∨ 0xDFFF < c.toNat ∧ c.toNat < 0x110000 := c.valid
  by_cases hone : c.toNat ≤ 0x7F
  · rw [utf8EncodeChar_one hone, List.mem_singleton, ← UInt8.toNat_inj, UInt8.toNat_ofNat']
    omega
  by_cases htwo : c.toNat ≤ 0x7FF
  · rw [utf8EncodeChar_two (by omega) htwo]
    simp only [List.mem_cons, List.not_mem_nil, or_false, ← UInt8.toNat_inj, UInt8.toNat_ofNat']
    omega
  by_cases hthree : c.toNat ≤ 0xFFFF
  · rw [utf8EncodeChar_three (by omega) hthree]
    simp only [List.mem_cons, List.not_mem_nil, or_false, ← UInt8.toNat_inj, UInt8.toNat_ofNat']
    omega
  · rw [utf8EncodeChar_four (by omega)]
    simp only [List.mem_cons, List.not_mem_nil, or_false, ← UInt8.toNat_inj, UInt8.toNat_ofNat']
    omega

theorem mem_encode_iff {mark : Char} (hmark : mark.toNat < 0x80) {s : String} :
    UInt8.ofNat mark.toNat ∈ encode s ↔ mark ∈ s.toList := by
  have hbyte : (UInt8.ofNat mark.toNat).toNat = mark.toNat := by
    rw [UInt8.toNat_ofNat']
    omega
  rw [encode_eq_flatMap, List.mem_flatMap]
  constructor
  · rintro ⟨c, hc, hmem⟩
    rw [mem_utf8EncodeChar (by omega), hbyte] at hmem
    obtain rfl : c = mark := Char.toNat_inj.1 hmem
    exact hc
  · intro h
    exact ⟨mark, h, (mem_utf8EncodeChar (by omega)).2 hbyte.symm⟩

/-! ## Reading the characters -/

theorem splitTail_append {ranges : List ByteRange} {tail : Bytes}
    (h : List.Forall₂ (fun r b => r.contains b = true) ranges tail) (rest : Bytes) :
    splitTail ranges (tail ++ rest) = (tail, rest) := by
  induction h with
  | nil => rw [List.nil_append, splitTail]; simp
  | cons hb _ ih => rw [List.cons_append, splitTail, if_pos hb, ih]

theorem pieces_of_tail {first : UInt8} {ranges : List ByteRange} {tail : Bytes}
    (hfirst : tailRanges first = some ranges)
    (htail : List.Forall₂ (fun r b => r.contains b = true) ranges tail) (rest : Bytes) :
    pieces (first :: (tail ++ rest)) = .char (.ofNat (codePoint first tail)) :: pieces rest := by
  rw [pieces, hfirst]
  simp only [splitTail_append htail, htail.length_eq, if_true]

theorem contains_iff {r : ByteRange} {b : UInt8} :
    r.contains b = true ↔ r.low.toNat ≤ b.toNat ∧ b.toNat ≤ r.high.toNat := by
  simp [contains, UInt8.le_iff_toNat_le]

theorem continuation_contains (n : Nat) : continuation.contains (.ofNat (n % 64 + 0x80)) = true := by
  have hlow : continuation.low.toNat = 0x80 := rfl
  have hhigh : continuation.high.toNat = 0xBF := rfl
  rw [contains_iff, UInt8.toNat_ofNat']
  omega

section

variable {b : UInt8}

theorem tailRanges_one (h : b.toNat ≤ 0x7F) : tailRanges b = some [] := by
  rw [tailRanges, if_pos (UInt8.le_iff_toNat_le.2 h)]

theorem tailRanges_two (hlow : 0xC2 ≤ b.toNat) (hhigh : b.toNat ≤ 0xDF) :
    tailRanges b = some [continuation] := by
  simp only [tailRanges, UInt8.le_iff_toNat_le, Bool.and_eq_true, decide_eq_true_eq]
  rw [if_neg (by simp; omega), if_pos (by simp; omega)]

/-- The first of two further bytes is held to the characters that are not written shorter and are no
surrogates. -/
theorem tailRanges_three (hlow : 0xE0 ≤ b.toNat) (hhigh : b.toNat ≤ 0xEF) :
    tailRanges b = some [⟨if b.toNat = 0xE0 then 0xA0 else 0x80, if b.toNat = 0xED then 0x9F else 0xBF⟩,
      continuation] := by
  have h7F : UInt8.toNat 0x7F = 0x7F := rfl
  have hDF : UInt8.toNat 0xDF = 0xDF := rfl
  have hE0 : UInt8.toNat 0xE0 = 0xE0 := rfl
  have hE1 : UInt8.toNat 0xE1 = 0xE1 := rfl
  have hED : UInt8.toNat 0xED = 0xED := rfl
  have hEF : UInt8.toNat 0xEF = 0xEF := rfl
  simp only [tailRanges, UInt8.le_iff_toNat_le, Bool.and_eq_true, decide_eq_true_eq, ← UInt8.toNat_inj]
  split_ifs <;> first | rfl | omega

/-- The first of three further bytes is held to the characters that are not written shorter and are not past
the last. -/
theorem tailRanges_four (hlow : 0xF0 ≤ b.toNat) (hhigh : b.toNat ≤ 0xF4) :
    tailRanges b = some [⟨if b.toNat = 0xF0 then 0x90 else 0x80, if b.toNat = 0xF4 then 0x8F else 0xBF⟩,
      continuation, continuation] := by
  have hb : b = .ofNat b.toNat := UInt8.ofNat_toNat.symm
  have hcases : b.toNat = 0xF0 ∨ b.toNat = 0xF1 ∨ b.toNat = 0xF2 ∨ b.toNat = 0xF3 ∨ b.toNat = 0xF4 := by omega
  obtain h | h | h | h | h := hcases <;> rw [h] at hb <;> subst hb <;> rfl

end

/-- The bytes of a character are a first byte and the further ones that this byte asks for. -/
def IsRead (c : Char) : Prop :=
  ∃ first tail ranges, String.utf8EncodeChar c = first :: tail ∧ tailRanges first = some ranges ∧
    List.Forall₂ (fun r b => r.contains b = true) ranges tail ∧ codePoint first tail = c.toNat

namespace IsRead

variable {c : Char}

theorem one (h : c.toNat ≤ 0x7F) : IsRead c := by
  have hfirst : (UInt8.ofNat c.toNat).toNat = c.toNat := by
    rw [UInt8.toNat_ofNat']
    omega
  refine ⟨_, _, _, utf8EncodeChar_one h, tailRanges_one ?_, .nil, ?_⟩
  · rwa [hfirst]
  · simp [codePoint]
    omega

theorem two (hlow : 0x7F < c.toNat) (hhigh : c.toNat ≤ 0x7FF) : IsRead c := by
  have hfirst : (UInt8.ofNat (c.toNat / 64 % 32 + 0xC0)).toNat = c.toNat / 64 + 0xC0 := by
    rw [UInt8.toNat_ofNat']
    omega
  refine ⟨_, _, _, utf8EncodeChar_two hlow hhigh, tailRanges_two ?_ ?_, .cons (continuation_contains _) .nil, ?_⟩
  · omega
  · omega
  · simp [codePoint]
    omega

theorem three (hlow : 0x7FF < c.toNat) (hhigh : c.toNat ≤ 0xFFFF) : IsRead c := by
  have hvalid : c.toNat < 0xD800 ∨ 0xDFFF < c.toNat ∧ c.toNat < 0x110000 := c.valid
  have hfirst : (UInt8.ofNat (c.toNat / 4096 % 16 + 0xE0)).toNat = c.toNat / 4096 + 0xE0 := by
    rw [UInt8.toNat_ofNat']
    omega
  refine ⟨_, _, _, utf8EncodeChar_three hlow hhigh, tailRanges_three ?_ ?_,
    .cons ?_ (.cons (continuation_contains _) .nil), ?_⟩
  · omega
  · omega
  · have h80 : UInt8.toNat 0x80 = 0x80 := rfl
    have h9F : UInt8.toNat 0x9F = 0x9F := rfl
    have hA0 : UInt8.toNat 0xA0 = 0xA0 := rfl
    have hBF : UInt8.toNat 0xBF = 0xBF := rfl
    rw [contains_iff, hfirst, UInt8.toNat_ofNat']
    dsimp only
    split_ifs <;> omega
  · simp [codePoint]
    omega

theorem four (h : 0xFFFF < c.toNat) : IsRead c := by
  have hvalid : c.toNat < 0xD800 ∨ 0xDFFF < c.toNat ∧ c.toNat < 0x110000 := c.valid
  have hfirst : (UInt8.ofNat (c.toNat / 262144 % 8 + 0xF0)).toNat = c.toNat / 262144 + 0xF0 := by
    rw [UInt8.toNat_ofNat']
    omega
  refine ⟨_, _, _, utf8EncodeChar_four h, tailRanges_four ?_ ?_,
    .cons ?_ (.cons (continuation_contains _) (.cons (continuation_contains _) .nil)), ?_⟩
  · omega
  · omega
  · have h80 : UInt8.toNat 0x80 = 0x80 := rfl
    have h8F : UInt8.toNat 0x8F = 0x8F := rfl
    have h90 : UInt8.toNat 0x90 = 0x90 := rfl
    have hBF : UInt8.toNat 0xBF = 0xBF := rfl
    rw [contains_iff, hfirst, UInt8.toNat_ofNat']
    dsimp only
    split_ifs <;> omega
  · simp [codePoint]
    omega

end IsRead

theorem isRead (c : Char) : IsRead c := by
  by_cases hone : c.toNat ≤ 0x7F
  · exact .one hone
  by_cases htwo : c.toNat ≤ 0x7FF
  · exact .two (Nat.lt_of_not_le hone) htwo
  by_cases hthree : c.toNat ≤ 0xFFFF
  · exact .three (Nat.lt_of_not_le htwo) hthree
  · exact .four (Nat.lt_of_not_le hthree)

/-- The bytes of a character are read as this character, whatever follows. -/
theorem pieces_utf8EncodeChar (c : Char) (rest : Bytes) :
    pieces (String.utf8EncodeChar c ++ rest) = .char c :: pieces rest := by
  obtain ⟨first, tail, ranges, hbytes, hfirst, htail, hcode⟩ := isRead c
  rw [hbytes, List.cons_append, pieces_of_tail hfirst htail, hcode, Char.ofNat_toNat]

/-- Text is shown as it is. -/
@[simp] theorem lossy_encode (s : String) : lossy (encode s) = s := by
  have hpieces (l : List Char) : pieces (l.flatMap String.utf8EncodeChar) = l.map .char := by
    induction l with
    | nil => rw [List.flatMap_nil, pieces, List.map_nil]
    | cons c l ih => rw [List.flatMap_cons, pieces_utf8EncodeChar, ih, List.map_cons]
  rw [lossy, encode_eq_flatMap, hpieces, List.map_map]
  exact (congrArg String.ofList (List.map_id _)).trans String.ofList_toList

end Text

namespace Lexical

open PathAlphabet

theorem segments_append_of_segments {α : Type} [DecidableEq α] [PathAlphabet α] {w rest s : List α}
    {ss : List (List α)} (hw : slash ∉ w) (hrest : segments rest = s :: ss) :
    segments (w ++ rest) = (w ++ s) :: ss := by
  induction w with
  | nil => exact hrest
  | cons c w ih =>
    rw [List.mem_cons, not_or] at hw
    rw [List.cons_append, segments, if_neg (Ne.symm hw.1), ih hw.2]
    rfl

/-- The bytes of a text are cut where the text is. -/
theorem segments_encode (t : String) :
    segments (Text.encode t) = (segments t.toList).map fun w => Text.encode (.ofList w) := by
  have hchars (l : List Char) : segments (l.flatMap String.utf8EncodeChar) =
      (segments l).map (·.flatMap String.utf8EncodeChar) := by
    induction l with
    | nil => rfl
    | cons c l ih =>
      obtain ⟨s, ss, hl⟩ := List.exists_cons_of_ne_nil (segments_ne_nil l)
      by_cases hc : c = slash
      · have hbytes : String.utf8EncodeChar slash = [slash] := by decide
        have hcut : segments (c :: l) = [] :: segments l := by rw [segments, if_pos hc]
        rw [hcut, List.flatMap_cons, hc, hbytes, List.map_cons, ← ih]
        exact segments_append List.not_mem_nil
      · have hbytes : slash ∉ String.utf8EncodeChar c := by
          intro h
          exact hc (Char.toNat_inj.1 ((Text.mem_utf8EncodeChar (by decide)).1 h))
        rw [hl] at ih
        rw [List.flatMap_cons, segments, if_neg hc, hl, segments_append_of_segments hbytes ih]
        rfl
  simp only [Text.encode_eq_flatMap, hchars, String.toList_ofList]

end Lexical
end DocPortal
