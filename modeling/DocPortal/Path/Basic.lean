import DocPortal.Path.Lexical
import DocPortal.Text.Utf8

/-!
# Paths

A path is the byte string that was written for it. It is joined and cut by the rules for written paths and
is never normalised; where a message shows one, bytes that are not text are replaced.
-/

namespace DocPortal

/-- A path of a file system, as written. -/
structure Path where
  bytes : Bytes
  deriving DecidableEq, Repr

namespace Path

/-- The path that a text spells. -/
def ofString (s : String) : Path := ⟨Text.encode s⟩

/-- The path as messages show it. -/
def display (p : Path) : String := Text.lossy p.bytes

/-- The components of a path. -/
def components (p : Path) : List (Component UInt8) := Lexical.components p.bytes

/-- Whether two paths have the same components. -/
def same (p q : Path) : Bool := p.components = q.components

/-- Whether a path starts at the root. -/
def isAbsolute (p : Path) : Bool := Lexical.isAbsolute p.bytes

/-- The path without its last component. -/
def parent? (p : Path) : Option Path := (Lexical.parent? p.bytes).map Path.mk

/-- The last component, if it is a name. -/
def fileName? (p : Path) : Option Bytes := Lexical.fileName? p.bytes

/-- The path `q` seen from the directory `p`. -/
def join (p q : Path) : Path := ⟨Lexical.join p.bytes q.bytes⟩

/-- The entry of a directory with the given name. -/
def child (p : Path) (name : Bytes) : Path := p.join ⟨name⟩

@[simp] theorem bytes_join (p q : Path) : (p.join q).bytes = Lexical.join p.bytes q.bytes := rfl

@[simp] theorem isAbsolute_join (p q : Path) : (p.join q).isAbsolute = (p.isAbsolute || q.isAbsolute) :=
  Lexical.isAbsolute_join p.bytes q.bytes

theorem join_of_isAbsolute {p q : Path} (h : q.isAbsolute = true) : p.join q = q := by
  cases q
  simp_all [join, isAbsolute, Lexical.join]

end Path
end DocPortal
