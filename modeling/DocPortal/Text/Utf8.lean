/-!
# Bytes and text

File names, paths and file contents are bytes; identifiers and messages are text. A byte string that is
not UTF-8 is still shown: it is cut into pieces, a piece being a character or a longest run of bytes that
starts like a character and does not become one.
-/

namespace DocPortal

/-- A byte string, as file systems keep names and contents. -/
abbrev Bytes := List UInt8

namespace Text

/-- The bytes of a text in UTF-8. -/
def encode (s : String) : Bytes := s.toUTF8.data.toList

/-- The text that bytes spell, if they are UTF-8. -/
def decode? (b : Bytes) : Option String := String.fromUTF8? ⟨b.toArray⟩

@[simp] theorem decode?_encode (s : String) : decode? (encode s) = some s := by
  simp only [decode?, encode, String.fromUTF8?]
  exact dif_pos s.isValidUTF8

theorem encode_of_decode? {b : Bytes} {s : String} (h : decode? b = some s) : encode s = b := by
  simp only [decode?, String.fromUTF8?, Option.dite_none_right_eq_some, Option.some.injEq] at h
  obtain ⟨_, rfl⟩ := h
  rfl

theorem encode_injective {s t : String} (h : encode s = encode t) : s = t := by
  have hs := decode?_encode s
  rw [h, decode?_encode t] at hs
  exact (Option.some.inj hs).symm

@[simp] theorem encode_append (s t : String) : encode (s ++ t) = encode s ++ encode t := by
  simp [encode]

/-- A range of bytes, both ends included. -/
structure ByteRange where
  low : UInt8
  high : UInt8

namespace ByteRange

/-- The bytes that continue a character. -/
def continuation : ByteRange := ⟨0x80, 0xBF⟩

/-- Membership in a range. -/
def contains (r : ByteRange) (b : UInt8) : Bool := r.low ≤ b && b ≤ r.high

end ByteRange

open ByteRange in
/-- The ranges that the bytes after a first byte have to fall into, or none where no character starts with
it. Overlong forms, surrogates and numbers past the last code point are left out. -/
def tailRanges (first : UInt8) : Option (List ByteRange) :=
  if first ≤ 0x7F then some []
  else if 0xC2 ≤ first && first ≤ 0xDF then some [continuation]
  else if first = 0xE0 then some [⟨0xA0, 0xBF⟩, continuation]
  else if first = 0xED then some [⟨0x80, 0x9F⟩, continuation]
  else if 0xE1 ≤ first && first ≤ 0xEF then some [continuation, continuation]
  else if first = 0xF0 then some [⟨0x90, 0xBF⟩, continuation, continuation]
  else if 0xF1 ≤ first && first ≤ 0xF3 then some [continuation, continuation, continuation]
  else if first = 0xF4 then some [⟨0x80, 0x8F⟩, continuation, continuation]
  else none

/-- Cuts off the longest start whose bytes fall into the ranges in turn. -/
def splitTail : List ByteRange → Bytes → Bytes × Bytes
  | r :: rs, b :: bs =>
    if r.contains b then
      let (matched, rest) := splitTail rs bs
      (b :: matched, rest)
    else ([], b :: bs)
  | _, bs => ([], bs)

theorem length_splitTail_le (rs : List ByteRange) (bs : Bytes) :
    (splitTail rs bs).2.length ≤ bs.length := by
  fun_induction splitTail rs bs with
  | case1 r rs b bs _ matched rest h ih =>
    simp only [h] at ih
    simp only [List.length_cons]
    omega
  | case2 => simp
  | case3 => simp

/-- The code point of a character's first byte and tail. -/
def codePoint (first : UInt8) (tail : Bytes) : Nat :=
  let lead := match tail.length with
    | 0 => first.toNat
    | 1 => first.toNat % 0x20
    | 2 => first.toNat % 0x10
    | _ => first.toNat % 0x08
  tail.foldl (fun n b => n * 0x40 + b.toNat % 0x40) lead

/-- A piece of a byte string. -/
inductive Piece where
  /-- Bytes that spell a character. -/
  | char (c : Char)
  /-- A longest run of bytes that starts like a character and does not become one. -/
  | broken (bytes : Bytes)

/-- The pieces of a byte string, in order. -/
def pieces : Bytes → List Piece
  | [] => []
  | first :: rest =>
    match tailRanges first with
    | none => .broken [first] :: pieces rest
    | some ranges =>
      have := length_splitTail_le ranges rest
      let tail := (splitTail ranges rest).1
      let next := pieces (splitTail ranges rest).2
      if tail.length = ranges.length then .char (.ofNat (codePoint first tail)) :: next
      else .broken (first :: tail) :: next
termination_by b => b.length
decreasing_by all_goals simp only [List.length_cons]; omega

/-- The bytes as text, with the replacement character for each broken piece. -/
def lossy (b : Bytes) : String :=
  .ofList ((pieces b).map fun
    | .char c => c
    | .broken _ => '\uFFFD')

end Text
end DocPortal
