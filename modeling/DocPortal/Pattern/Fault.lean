import DocPortal.Pattern.Read

/-!
# Faults of patterns

A text is searched for a pattern by an automaton, which cannot be built for every pattern. The program has no
tables of Unicode for it: where characters are those of Unicode, neither letters of either case nor the shorthands
for classes can be told. Where characters are bytes, no leaf may stand for a part of an encoded character. Word
boundaries among the characters of Unicode need more than an automaton.
-/

namespace DocPortal

/-- Whether a part of a set keeps to ASCII. -/
def SetPart.isAscii : SetPart → Bool
  | range first last => first.toNat < 0x80 && last.toNat < 0x80
  | named negated => !negated
  | shorthand negated => !negated
  | complement => false

/-- Whether a part of a set needs no table of Unicode. -/
def SetPart.isPlain : SetPart → Bool
  | shorthand _ => false
  | _ => true

namespace Pattern

/-- Whether a leaf can be told in some modes. -/
def Leaf.fits (m : Modes) : Leaf → Bool
  | character c asByte => if m.unicode then !m.caseless else !asByte || c.toNat < 0x80
  | any => m.unicode
  | anchor => true
  | boundary => true
  | shorthand negated => !m.unicode && !negated
  | set negated inner =>
    if m.unicode then inner.parts.all SetPart.isPlain && (!m.caseless || inner.parts.isEmpty)
    else !negated && inner.parts.all SetPart.isAscii

/-- Whether a leaf is a word boundary among the characters of Unicode. -/
def Leaf.isWide (m : Modes) : Leaf → Bool
  | boundary => m.unicode
  | _ => false

/-- Why no automaton is built for a pattern. -/
inductive Fault where
  /-- The text spells no pattern, or one of its leaves cannot be told. -/
  | malformed
  /-- There is a word boundary among the characters of Unicode. -/
  | boundary
  deriving DecidableEq, Repr

/-- The message of a fault. -/
def Fault.message : Fault → String
  | malformed => "error building NFA"
  | boundary => "unsupported regex feature for DFAs: cannot build DFAs for regexes with Unicode word boundaries; "
      ++ "switch to ASCII word boundaries, or heuristically enable Unicode word boundaries or use a different "
      ++ "regex engine"

/-- How deep a pattern may be nested. -/
def depthLimit : Nat := 250

/-- Whether all leaves of a pattern can be told, its groups have different names and it is not nested too deep. -/
def isSound (p : Pattern) : Bool :=
  p.depth ≤ depthLimit && p.names.Nodup && (p.leaves {}).1.all fun (m, l) => l.fits m

/-- Why no automaton is built for the pattern that a text spells, if none is. -/
def fault? (s : List Char) : Option Fault :=
  match read? s with
  | none => some .malformed
  | some p =>
    if !p.isSound then some .malformed
    else if (p.leaves {}).1.any fun (m, l) => l.isWide m then some .boundary
    else none

end Pattern
end DocPortal
