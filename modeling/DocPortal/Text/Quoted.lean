import DocPortal.Text.Hidden
import DocPortal.Text.Utf8

/-!
# Quoted text

Messages show a text or a file name between double quotes, with an escape for each character that would
end the quotes or not show. Bytes that spell no character are shown as two hexadecimal digits each.
-/

namespace DocPortal.Text

/-- The digits of a number in base sixteen, lower case and without leading zeros. -/
def hexDigits (n : Nat) : List Char := Nat.toDigits 16 n

/-- A character as it stands between quotes. -/
def quotedChar (c : Char) : List Char :=
  if c = '\x00' then ['\\', '0']
  else if c = '\t' then ['\\', 't']
  else if c = '\n' then ['\\', 'n']
  else if c = '\r' then ['\\', 'r']
  else if c = '"' ∨ c = '\\' then ['\\', c]
  else if isHidden c then ['\\', 'u', '\x7b'] ++ hexDigits c.toNat ++ ['\x7d']
  else [c]

/-- A byte that spells no character, as it stands between quotes. -/
def quotedByte (b : UInt8) : List Char :=
  ['\\', 'x'] ++ [b.toNat / 16, b.toNat % 16].map fun d => (Nat.digitChar d).toUpper

/-- A text between double quotes. -/
def quoted (s : String) : String :=
  .ofList ('"' :: s.toList.flatMap quotedChar ++ ['"'])

/-- A byte string between double quotes. -/
def quotedBytes (b : Bytes) : String :=
  .ofList ('"' :: (pieces b).flatMap quotedPiece ++ ['"'])
where
  /-- A piece as it stands between quotes. -/
  quotedPiece : Piece → List Char
    | .char c => quotedChar c
    | .broken bytes => bytes.flatMap quotedByte

end DocPortal.Text
