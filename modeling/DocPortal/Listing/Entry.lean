import DocPortal.Path.Lexical

/-!
# Directory entries

An entry is the name of an immediate child of a directory and whether it is a regular file. The extension
is read off the name: the dot-prefixed last segment of a name that does not start with that dot.
-/

namespace DocPortal

/-- An immediate child of a directory. -/
structure DirectoryEntry where
  name : String
  isFile : Bool
  deriving DecidableEq, Repr

namespace DirectoryEntry

/-- The extension of a name with its dot, or the empty text. A dot at the end gives the extension `.`. -/
def extensionOf (name : String) : String :=
  match Lexical.extension? name.toList with
  | some e => .ofList ('.' :: e)
  | none => ""

/-- The extension of an entry. -/
def extension (e : DirectoryEntry) : String := extensionOf e.name

/-- A regular file. -/
def file (name : String) : DirectoryEntry := ⟨name, true⟩

/-- A directory, a link that leads to no regular file, a device. -/
def other (name : String) : DirectoryEntry := ⟨name, false⟩

@[simp] theorem extension_mk (name : String) (isFile : Bool) :
    (mk name isFile).extension = extensionOf name := rfl

end DirectoryEntry
end DocPortal
