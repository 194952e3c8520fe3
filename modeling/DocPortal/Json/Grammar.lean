import DocPortal.Json.Reader

/-!
# The grammar of JSON

All ways in which values are spelled, said apart from how they are read: every kind of value, every escape,
and any blanks between tokens. A spelling relates a text, the value that is spelled at its front, and what is
left of the text after that. A text literal spells a text of characters, so escaped units that stand for no
character are not in the grammar.

## Main definitions

* `Json.Spelled` — a value is spelled at the front of a text.
* `Json.IsText` — a text spells a value, and nothing else.
-/

namespace DocPortal
namespace Json

/-- What is spelled at the front of a text, with what is left of the text. -/
abbrev Spelling (α : Type) := List Char → α → List Char → Prop

/-- Blanks and no more are left out. -/
def Blanks (s t : List Char) : Prop := ∃ blanks, s = blanks ++ t ∧ ∀ c ∈ blanks, isBlank c = true

/-- A unit of sixteen bits is spelled with four digits in base sixteen. -/
inductive UnitSpelled : Spelling Nat
  | mk {a b c d : Char} {t : List Char} : (∀ x ∈ [a, b, c, d], Text.isDigitIn 16 x = true) →
      UnitSpelled ('\\' :: 'u' :: a :: b :: c :: d :: t) (Text.ofDigits 16 [a, b, c, d]) t

/-- A character of a text literal stands for itself, or it is escaped. -/
inductive CharSpelled : Spelling Char
  | plain {c : Char} {t : List Char} : isPlain c = true → CharSpelled (c :: t) c t
  | escaped {e c : Char} {t : List Char} : (e, c) ∈ escapes → CharSpelled ('\\' :: e :: t) c t
  | unit {c : Char} {n : Nat} {s t : List Char} :
      units c = [n] → UnitSpelled s n t → CharSpelled s c t
  | pair {c : Char} {n m : Nat} {s s' t : List Char} :
      units c = [n, m] → UnitSpelled s n s' → UnitSpelled s' m t → CharSpelled s c t

/-- The characters of a text literal and its closing quote. -/
inductive CharsSpelled : Spelling (List Char)
  | close {t : List Char} : CharsSpelled ('"' :: t) [] t
  | char {c : Char} {cs s s' t : List Char} :
      CharSpelled s c s' → CharsSpelled s' cs t → CharsSpelled s (c :: cs) t

/-- A text literal. -/
inductive LiteralSpelled : Spelling String
  | mk {cs s t : List Char} : CharsSpelled s cs t → LiteralSpelled ('"' :: s) (.ofList cs) t

section

variable {α : Type} (item : Spelling α) (close : Char)

/-- Further items, each after a comma, and the closing bracket. -/
inductive FurtherSpelled : Spelling (List α)
  | close {s t : List Char} : Blanks s (close :: t) → FurtherSpelled s [] t
  | item {x : α} {xs : List α} {s s₁ s₂ s₃ t : List Char} : Blanks s (',' :: s₁) → Blanks s₁ s₂ →
      item s₂ x s₃ → FurtherSpelled s₃ xs t → FurtherSpelled s (x :: xs) t

/-- Items with commas between them, and the closing bracket. -/
inductive ListedSpelled : Spelling (List α)
  | empty {s t : List Char} : Blanks s (close :: t) → ListedSpelled s [] t
  | items {x : α} {xs : List α} {s s₁ s₂ t : List Char} : Blanks s s₁ → item s₁ x s₂ →
      FurtherSpelled item close s₂ xs t → ListedSpelled s (x :: xs) t

/-- A member of an object: a key, a colon and a value. -/
inductive MemberSpelled : Spelling (String × α)
  | mk {key : String} {value : α} {s s₁ s₂ s₃ t : List Char} : LiteralSpelled s key s₁ →
      Blanks s₁ (':' :: s₂) → Blanks s₂ s₃ → item s₃ value t → MemberSpelled s (key, value) t

end

/-- A value. -/
inductive Spelled : Spelling Json
  | null {t : List Char} : Spelled ("null".toList ++ t) .null t
  | yes {t : List Char} : Spelled ("true".toList ++ t) (.boolean true) t
  | no {t : List Char} : Spelled ("false".toList ++ t) (.boolean false) t
  | number {n : Numeral} {t : List Char} : Spelled (n.spelled ++ t) (.number n) t
  | text {x : String} {s t : List Char} : LiteralSpelled s x t → Spelled s (.text x) t
  | array {xs : List Json} {s t : List Char} :
      ListedSpelled Spelled ']' s xs t → Spelled ('[' :: s) (.array xs) t
  | object {ms : List (String × Json)} {s t : List Char} :
      ListedSpelled (MemberSpelled Spelled) '\x7d' s ms t → Spelled ('\x7b' :: s) (.object ms) t

/-- A JSON text for a value: the value with blanks around it. -/
def IsText (s : List Char) (j : Json) : Prop :=
  ∃ s₁ s₂, Blanks s s₁ ∧ Spelled s₁ j s₂ ∧ Blanks s₂ []

end Json
end DocPortal
