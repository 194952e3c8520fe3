import DocPortal.Json.Printer
import DocPortal.Proofs.Decoding

/-!
# Written values are read back

Whatever layout a value is written in, as long as it adds no more than blanks, the text spells the value,
and so decoding gives the value back. In particular a text that was written determines what was written.

## Main definitions

* `Json.Layout.IsBlank` — a layout adds no more than blanks.
-/

namespace DocPortal
namespace Json

/-- A layout adds no more than blanks. -/
structure Layout.IsBlank (l : Layout) : Prop where
  lineBreak : ∀ depth, ∀ c ∈ l.lineBreak depth, isBlank c = true
  afterColon : ∀ c ∈ l.afterColon, isBlank c = true

theorem Layout.isBlank_compact : compact.IsBlank where
  lineBreak _ _ hc := absurd hc List.not_mem_nil
  afterColon _ hc := absurd hc List.not_mem_nil

theorem Layout.isBlank_indented : indented.IsBlank where
  lineBreak depth c hc := by
    rcases List.mem_cons.1 hc with rfl | hc
    · decide
    · rw [List.eq_of_mem_replicate hc]
      decide
  afterColon c hc := by
    rw [List.mem_singleton.1 hc]
    decide

/-! ## Text literals -/

theorem isDigitIn_hexDigit : ∀ n < 0x20,
    ['0', '0', hexDigit (n / 16), hexDigit n].all (Text.isDigitIn 16) = true ∧
      Text.ofDigits 16 ['0', '0', hexDigit (n / 16), hexDigit n] = n := by
  decide

/-- A character is written as itself, as an escape with a letter, or as an escape with its number. -/
theorem cases_escapedChar (c : Char) :
    (isPlain c = true ∧ escapedChar c = [c]) ∨
      (∃ e, (e, c) ∈ escapes ∧ escapedChar c = ['\\', e]) ∨
      c.toNat < 0x20 ∧
        escapedChar c = ['\\', 'u', '0', '0', hexDigit (c.toNat / 16), hexDigit c.toNat] := by
  rw [escapedChar]
  split
  · rename_i h
    exact .inr (.inl ⟨_, by rw [h]; decide, rfl⟩)
  rename_i hquote
  split
  · rename_i h
    exact .inr (.inl ⟨_, by rw [h]; decide, rfl⟩)
  rename_i hbackslash
  split
  · rename_i h
    exact .inr (.inl ⟨_, by rw [h]; decide, rfl⟩)
  split
  · rename_i h
    exact .inr (.inl ⟨_, by rw [h]; decide, rfl⟩)
  split
  · rename_i h
    exact .inr (.inl ⟨_, by rw [h]; decide, rfl⟩)
  split
  · rename_i h
    exact .inr (.inl ⟨_, by rw [h]; decide, rfl⟩)
  split
  · rename_i h
    exact .inr (.inl ⟨_, by rw [h]; decide, rfl⟩)
  split
  · rename_i hcontrol
    exact .inr (.inr ⟨hcontrol, rfl⟩)
  · rename_i hcontrol
    rw [Nat.not_lt] at hcontrol
    exact .inl ⟨by simp [isPlain, hquote, hbackslash, hcontrol], rfl⟩

/-- A character is spelled by what it is written as. -/
theorem charSpelled_escapedChar (c : Char) (t : List Char) : CharSpelled (escapedChar c ++ t) c t := by
  obtain ⟨hplain, heq⟩ | ⟨e, he, heq⟩ | ⟨hcontrol, heq⟩ := cases_escapedChar c
  · rw [heq]
    exact .plain hplain
  · rw [heq]
    exact .escaped he
  · obtain ⟨hdigits, hvalue⟩ := isDigitIn_hexDigit c.toNat hcontrol
    have hunit := UnitSpelled.mk (t := t) (List.all_eq_true.1 hdigits)
    rw [hvalue] at hunit
    have hunits : units c = [c.toNat] := if_pos (by omega)
    rw [heq]
    exact .unit hunits hunit

theorem charsSpelled_flatMap_escapedChar (cs t : List Char) :
    CharsSpelled (cs.flatMap escapedChar ++ '"' :: t) cs t := by
  induction cs with
  | nil => exact .close
  | cons c cs ih =>
    rw [List.flatMap_cons, List.append_assoc]
    exact .char (charSpelled_escapedChar c _) ih

theorem literalSpelled_literal (s : String) (t : List Char) : LiteralSpelled (literal s ++ t) s t := by
  have hspelled := LiteralSpelled.mk (charsSpelled_flatMap_escapedChar s.toList t)
  rw [String.ofList_toList] at hspelled
  simpa [literal] using hspelled

/-! ## Values -/

section

variable {l : Layout}

theorem Layout.IsBlank.blanks_lineBreak (hl : l.IsBlank) (depth : Nat) (t : List Char) :
    Blanks (l.lineBreak depth ++ t) t :=
  ⟨_, rfl, hl.lineBreak depth⟩

theorem Layout.IsBlank.blanks_afterColon (hl : l.IsBlank) (t : List Char) : Blanks (l.afterColon ++ t) t :=
  ⟨_, rfl, hl.afterColon⟩

theorem Blanks.refl (t : List Char) : Blanks t t := ⟨[], rfl, fun _ hc => absurd hc List.not_mem_nil⟩

theorem Layout.IsBlank.memberSpelled (hl : l.IsBlank) (key : String) {value : Json} {s t : List Char}
    (hvalue : Spelled s value t) :
    MemberSpelled Spelled (literal key ++ ':' :: (l.afterColon ++ s)) (key, value) t :=
  .mk (literalSpelled_literal key _) (.refl _) (hl.blanks_afterColon _) hvalue

mutual

/-- A value is spelled by what it is written as. -/
theorem spelled_render (hl : l.IsBlank) (depth : Nat) (t : List Char) :
    ∀ j : Json, Spelled (render l depth j ++ t) j t
  | .null => .null
  | .boolean true => .yes
  | .boolean false => .no
  | .number _ => .number
  | .text s => .text (literalSpelled_literal s t)
  | .array [] => .array (.empty (.refl _))
  | .array (x :: xs) => by
    have hitems := furtherSpelled_renderItems hl (depth + 1) (hl.blanks_lineBreak depth (']' :: t)) xs
    have harray := Spelled.array (.items (hl.blanks_lineBreak (depth + 1) _)
      (spelled_render hl (depth + 1) _ x) hitems)
    simpa [render] using harray
  | .object [] => .object (.empty (.refl _))
  | .object ((k, v) :: ms) => by
    have hmembers := furtherSpelled_renderMembers hl (depth + 1) (hl.blanks_lineBreak depth ('\x7d' :: t)) ms
    have hobject := Spelled.object (.items (hl.blanks_lineBreak (depth + 1) _)
      (hl.memberSpelled k (spelled_render hl (depth + 1) _ v)) hmembers)
    simpa [render] using hobject

/-- Further items are spelled by what they are written as. -/
theorem furtherSpelled_renderItems (hl : l.IsBlank) (depth : Nat) {s t : List Char}
    (hend : Blanks s (']' :: t)) : ∀ xs : List Json,
    FurtherSpelled Spelled ']' (renderItems l depth xs ++ s) xs t
  | [] => .close hend
  | x :: xs => by
    have hitems := furtherSpelled_renderItems hl depth hend xs
    have hcons := FurtherSpelled.item (.refl _) (hl.blanks_lineBreak depth _)
      (spelled_render hl depth _ x) hitems
    simpa [renderItems] using hcons

/-- Further members are spelled by what they are written as. -/
theorem furtherSpelled_renderMembers (hl : l.IsBlank) (depth : Nat) {s t : List Char}
    (hend : Blanks s ('\x7d' :: t)) : ∀ ms : List (String × Json),
    FurtherSpelled (MemberSpelled Spelled) '\x7d' (renderMembers l depth ms ++ s) ms t
  | [] => .close hend
  | (k, v) :: ms => by
    have hmembers := furtherSpelled_renderMembers hl depth hend ms
    have hcons := FurtherSpelled.item (.refl _) (hl.blanks_lineBreak depth _)
      (hl.memberSpelled k (spelled_render hl depth _ v)) hmembers
    simpa [renderMembers] using hcons

end

/-- **What was written is read back**, in any layout that adds no more than blanks, and with blanks after
it. -/
theorem decode_render (hl : l.IsBlank) (depth : Nat) (j : Json) {blanks : List Char}
    (hblanks : ∀ c ∈ blanks, isBlank c = true) :
    decode (.ofList (j.render l depth ++ blanks)) = some j := by
  refine decode_eq_some_iff.2 ⟨_, blanks, .refl _, ?_, blanks, by rw [List.append_nil], hblanks⟩
  rw [String.toList_ofList]
  exact spelled_render hl depth blanks j

end

theorem decode_compact (j : Json) : decode j.compact = some j := by
  have hdecode := decode_render Layout.isBlank_compact 0 j (List.forall_mem_nil _)
  rwa [List.append_nil] at hdecode

theorem decode_pretty (j : Json) : decode j.pretty = some j := by
  have hdecode := decode_render Layout.isBlank_indented 0 j (List.forall_mem_nil _)
  rwa [List.append_nil] at hdecode

example : (Json.object [("é\"", .text "\u0001\n"), ("é\"", .null)]).compact =
    "\x7b\"é\\\"\":\"\\u0001\\n\",\"é\\\"\":null\x7d" := by decide +kernel

/-- A text without blanks is that of one value. -/
theorem compact_injective {j j' : Json} (h : j.compact = j'.compact) : j = j' := by
  have hj := decode_compact j
  rw [h, decode_compact] at hj
  exact (Option.some.inj hj).symm

end Json
end DocPortal
