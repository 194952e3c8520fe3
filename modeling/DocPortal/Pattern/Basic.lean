/-!
# Patterns

A pattern describes a set of texts. It is a tree of leaves, each of which stands for one character or for a place
in a text, under repetitions, groups, sequences and choices. Flags change the modes in which the leaves after them
are taken, up to the end of the group that the flags stand in.
-/

namespace DocPortal

/-- A part of a set of characters. -/
inductive SetPart where
  /-- The characters between two, both included. -/
  | range (first last : Char)
  /-- A class of ASCII characters, or all other characters. -/
  | named (negated : Bool)
  /-- A class that has an escape: digits, blanks or word characters, or all others. -/
  | shorthand (negated : Bool)
  /-- All characters that are not in some set. -/
  | complement
  deriving DecidableEq, Repr

/-- A set of characters. -/
inductive CharSet where
  | part (p : SetPart)
  | union (sets : List CharSet)
  /-- An intersection or a difference. -/
  | operation (left right : CharSet)
  /-- A set in brackets, or its complement. -/
  | bracket (negated : Bool) (inner : CharSet)
  deriving Repr

namespace CharSet

/-- The union of sets; one set stands for itself. -/
def ofList : List CharSet → CharSet
  | [set] => set
  | sets => union sets

mutual

/-- The parts of a set, at every depth. -/
def parts : CharSet → List SetPart
  | part p => [p]
  | union sets => partsOfAll sets
  | operation left right => left.parts ++ right.parts
  | bracket negated inner => if negated then .complement :: inner.parts else inner.parts

/-- The parts of several sets. -/
def partsOfAll : List CharSet → List SetPart
  | [] => []
  | set :: rest => set.parts ++ partsOfAll rest

end

mutual

/-- How deep a set is nested. -/
def depth : CharSet → Nat
  | part _ => 0
  | union [] => 0
  | union (set :: rest) => 1 + max set.depth (depthOfAll rest)
  | operation left right => 1 + max left.depth right.depth
  | bracket _ inner => 1 + inner.depth

/-- How deep the deepest of several sets is nested. -/
def depthOfAll : List CharSet → Nat
  | [] => 0
  | set :: rest => max set.depth (depthOfAll rest)

end

end CharSet

namespace Pattern

/-- How the leaves of a pattern are taken. -/
structure Modes where
  /-- Whether letters stand for both of their cases. -/
  caseless : Bool := false
  /-- Whether characters are those of Unicode, or else bytes. -/
  unicode : Bool := true
  deriving DecidableEq, Repr

/-- What flags change. -/
structure Change where
  /-- Whether blanks and comments in the pattern count for nothing. -/
  spaced? : Option Bool := none
  caseless? : Option Bool := none
  unicode? : Option Bool := none
  deriving DecidableEq, Repr

/-- The modes after a change. -/
def Modes.apply (m : Modes) (change : Change) : Modes :=
  ⟨change.caseless?.getD m.caseless, change.unicode?.getD m.unicode⟩

/-- A part of a pattern that has no patterns inside. -/
inductive Leaf where
  /-- One character, which may be given as the number of a byte. -/
  | character (c : Char) (asByte : Bool)
  | any
  /-- The beginning or the end of a text or of a line. -/
  | anchor
  /-- A place where a word begins or ends, or does not. -/
  | boundary
  | shorthand (negated : Bool)
  | set (negated : Bool) (inner : CharSet)
  deriving Repr

end Pattern

/-- A pattern. -/
inductive Pattern where
  | leaf (l : Pattern.Leaf)
  | flags (change : Pattern.Change)
  | repeated (p : Pattern)
  | group (change : Pattern.Change) (name? : Option String) (body : Pattern)
  | sequence (ps : List Pattern)
  | choice (ps : List Pattern)
  deriving Repr

namespace Pattern

/-- Patterns one after the other; one pattern stands for itself. -/
def ofList : List Pattern → Pattern
  | [p] => p
  | ps => sequence ps

/-- How deep a leaf is nested. -/
def Leaf.depth : Leaf → Nat
  | set _ inner => 1 + inner.depth
  | _ => 0

mutual

/-- How deep a pattern is nested. -/
def depth : Pattern → Nat
  | leaf l => l.depth
  | flags _ => 0
  | repeated p => 1 + p.depth
  | group _ _ body => 1 + body.depth
  | sequence [] => 0
  | sequence (p :: rest) => 1 + max p.depth (depthOfAll rest)
  | choice ps => 1 + depthOfAll ps

/-- How deep the deepest of several patterns is nested. -/
def depthOfAll : List Pattern → Nat
  | [] => 0
  | p :: rest => max p.depth (depthOfAll rest)

end

mutual

/-- The names of the groups in a pattern, from left to right. -/
def names : Pattern → List String
  | leaf _ => []
  | flags _ => []
  | repeated p => p.names
  | group _ name? body => name?.toList ++ body.names
  | sequence ps => namesOfAll ps
  | choice ps => namesOfAll ps

/-- The names of the groups in several patterns. -/
def namesOfAll : List Pattern → List String
  | [] => []
  | p :: rest => p.names ++ namesOfAll rest

end

mutual

/-- The leaves of a pattern, each with the modes in which it is taken, and the modes after the pattern. -/
def leaves (m : Modes) : Pattern → List (Modes × Leaf) × Modes
  | leaf l => ([(m, l)], m)
  | flags change => ([], m.apply change)
  | repeated p => p.leaves m
  | group change _ body => ((body.leaves (m.apply change)).1, m)
  | sequence ps => leavesOfAll m ps
  | choice ps => leavesOfAll m ps

/-- The leaves of several patterns one after the other. -/
def leavesOfAll (m : Modes) : List Pattern → List (Modes × Leaf) × Modes
  | [] => ([], m)
  | p :: rest =>
    let first := p.leaves m
    let others := leavesOfAll first.2 rest
    (first.1 ++ others.1, others.2)

end

end Pattern
end DocPortal
