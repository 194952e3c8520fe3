/-!
# The written form of paths

A path is a word over an alphabet with a separator and a dot. The rules here read the word alone: no tree
is asked. Empty segments never count, and a dot segment counts only at the very start of a relative path,
so `a//b`, `a/./b` and `a/b/` have the same components. The parent of a path is cut out of the word as it
was written.
-/

namespace DocPortal

/-- An alphabet in which paths are written. -/
class PathAlphabet (α : Type) where
  /-- The symbol between two segments. -/
  slash : α
  /-- The symbol of the segments `.` and `..`, and the one that starts an extension. -/
  dot : α

/-- Paths of file systems are written in bytes. -/
instance : PathAlphabet UInt8 := ⟨0x2F, 0x2E⟩

/-- Paths in text are written in characters. -/
instance : PathAlphabet Char := ⟨'/', '.'⟩

/-- A component of a path. -/
inductive Component (α : Type) where
  /-- The root directory, at the start of an absolute path. -/
  | root
  /-- A dot at the start of a relative path. -/
  | here
  /-- Two dots. -/
  | up
  /-- Any other segment. -/
  | name (n : List α)
  deriving DecidableEq, Repr

namespace Lexical

open PathAlphabet

variable {α : Type} [DecidableEq α] [PathAlphabet α]

/-- The stretches between separators; a word without a separator is one segment. -/
def segments : List α → List (List α)
  | [] => [[]]
  | c :: cs =>
    if c = slash then [] :: segments cs
    else match segments cs with
      | [] => [[c]]
      | s :: ss => (c :: s) :: ss

/-- The word with the given segments. -/
def unsegment (ss : List (List α)) : List α := [slash].intercalate ss

/-- Whether a path starts at the root. -/
def isAbsolute (p : List α) : Bool := p.head? = some slash

/-- Whether a segment counts as nothing: it is empty, or one dot. -/
def isIdle (s : List α) : Bool := s = [] || s = [dot]

/-- The segments without the idle ones at the end. -/
def trimIdle (ss : List (List α)) : List (List α) := (ss.reverse.dropWhile isIdle).reverse

/-- The start of a path that is no segment of its body: the root's separator, or a leading dot. -/
def head (p : List α) : List α :=
  if isAbsolute p then [slash]
  else if (segments p).head? = some [dot] then [dot]
  else []

/-- The segments after the start of a path. -/
def bodySegments (p : List α) : List (List α) := segments (p.drop (head p).length)

/-- The component of a body segment. -/
def componentOf (s : List α) : Option (Component α) :=
  if isIdle s then none
  else if s = [dot, dot] then some .up
  else some (.name s)

/-- The components of a path. Two paths with the same components name the same place. -/
def components (p : List α) : List (Component α) :=
  let start := if isAbsolute p then [.root] else if head p = [] then [] else [.here]
  start ++ (bodySegments p).filterMap componentOf

/-- The path up to its last component, as written; the root and the empty path have none. -/
def parent? (p : List α) : Option (List α) :=
  match trimIdle (bodySegments p) with
  | [] => if head p = [dot] then some [] else none
  | s :: ss => some (head p ++ unsegment (trimIdle (s :: ss).dropLast))

/-- The last component, if it is a name. -/
def fileName? (p : List α) : Option (List α) :=
  match (components p).getLast? with
  | some (.name n) => some n
  | _ => none

/-- Splits a file name at its last dot; a name whose only dot starts it is not split. -/
def splitExtension? (n : List α) : Option (List α × List α) :=
  let extension := (n.reverse.takeWhile (· ≠ dot)).reverse
  match (n.reverse.dropWhile (· ≠ dot)).reverse.dropLast with
  | [] => none
  | stem => some (stem, extension)

/-- What follows the last dot of the file name. -/
def extension? (p : List α) : Option (List α) :=
  ((fileName? p).bind splitExtension?).map (·.2)

/-- The path `q` seen from `p`: an absolute `q` stands alone, any other follows `p` and a separator. -/
def join (p q : List α) : List α :=
  if isAbsolute q then q
  else if p = [] ∨ p.getLast? = some slash then p ++ q
  else p ++ slash :: q

/-- A path that is seen from another one is absolute if one of the two is. -/
theorem isAbsolute_join (p q : List α) : isAbsolute (join p q) = (isAbsolute p || isAbsolute q) := by
  rw [join]
  split
  · rename_i hq
    rw [hq, Bool.or_true]
  · rename_i hq
    cases p with
    | nil => simp [isAbsolute]
    | cons c cs =>
      rw [Bool.not_eq_true] at hq
      rw [hq, Bool.or_false]
      split <;> rfl

end Lexical
end DocPortal
