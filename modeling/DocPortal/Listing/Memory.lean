import DocPortal.Listing.Basic

/-!
# A listing kept in memory

Directories, files and forbidden places are registered one by one and listed in the order of registration.
Registering a place registers the directories above it. Paths with the same components are the same place.
-/

namespace DocPortal

/-- A place in memory: the components of a path, innermost first. -/
abbrev Place := List (Component UInt8)

namespace Place

/-- The place of a path. -/
def ofPath (p : Path) : Place := p.components.reverse

/-- The directory of a place; the empty path has no other. -/
def parent (p : Place) : Place := p.tail

/-- The name under which a place stands in its directory. -/
def name : Place → String
  | .name n :: _ => Text.lossy n
  | _ => ""

end Place

/-- The registered places, and how often a listing was asked for. -/
structure MemoryListing where
  dirs : List (Place × List DirectoryEntry) := []
  files : List Place := []
  denied : List Place := []
  calls : Nat := 0

namespace MemoryListing

/-- The name of the backend. -/
def backend : String := "Mock"

/-- The entries of a registered directory. -/
def entries? (m : MemoryListing) (p : Place) : Option (List DirectoryEntry) := m.dirs.lookup p

/-- Adds an entry at the end of a registered directory, in the stead of one with its name. -/
def addEntry (m : MemoryListing) (p : Place) (e : DirectoryEntry) : MemoryListing :=
  { m with dirs := m.dirs.map fun d =>
      if d.1 = p then (p, d.2.filter (·.name ≠ e.name) ++ [e]) else d }

/-- Registers a directory and those above it. -/
def ensureDirectory (m : MemoryListing) : Place → MemoryListing
  | [] => if (m.entries? []).isSome then m else { m with dirs := m.dirs ++ [([], [])] }
  | c :: above =>
    if (m.entries? (c :: above)).isSome then m
    else
      let registered := { m with dirs := m.dirs ++ [(c :: above, [])] }
      (registered.ensureDirectory above).addEntry above (.other (Place.name (c :: above)))

/-- Registers a directory. -/
def withDirectory (m : MemoryListing) (p : Path) : MemoryListing :=
  m.ensureDirectory (.ofPath p)

/-- Registers a regular file. -/
def withFile (m : MemoryListing) (p : Path) : MemoryListing :=
  let place := Place.ofPath p
  let added := (m.ensureDirectory place.parent).addEntry place.parent (.file place.name)
  { added with files := place :: added.files }

/-- Registers a directory that may not be listed. -/
def withDenied (m : MemoryListing) (p : Path) : MemoryListing :=
  let added := m.withDirectory p
  { added with denied := .ofPath p :: added.denied }

/-- What is known of a path. -/
def find (m : MemoryListing) (p : Path) : Except ListingError (List DirectoryEntry) :=
  let place := Place.ofPath p
  if place ∈ m.denied then
    .error { kind := .permissionDenied, path := some p, backend := some backend }
  else if place ∈ m.files then .error ((ListingError.notADirectory p).ofBackend backend)
  else match m.entries? place with
    | some entries => .ok entries
    | none => .error ((ListingError.notFound p).ofBackend backend)

/-- The backend that lists what is registered and counts its questions. -/
def listing : Listing MemoryListing :=
  ⟨fun p m => ⟨m.find p, [], { m with calls := m.calls + 1 }⟩⟩

end MemoryListing
end DocPortal
