import DocPortal.Sidebar.Event
import DocPortal.Sidebar.Section

/-!
# Scanning content directories

A scan asks a backend, reports events and may fail; the first failure ends it. The pages of a directory are
the names of its regular files with a recognised extension, in the order of the listing. A section's group
leaves out the excluded names and puts the rest into the section's order.
-/

namespace DocPortal

/-- What a scan leaves behind. -/
structure ScanResult (σ α : Type) where
  result : Except DirectoryAccessError α
  events : List ScanEvent
  state : σ

/-- A computation over a backend with states of type `σ`. -/
def Scan (σ α : Type) := σ → ScanResult σ α

namespace Scan

variable {σ α β : Type}

/-- Runs a scan from a state of the backend. -/
def run (s : Scan σ α) (state : σ) : ScanResult σ α := s state

/-- The scan that asks nothing. -/
def pure (a : α) : Scan σ α := fun state => ⟨.ok a, [], state⟩

/-- One scan and then another, unless the first fails. -/
def bind (s : Scan σ α) (f : α → Scan σ β) : Scan σ β := fun state =>
  match s.run state with
  | ⟨.error e, events, next⟩ => ⟨.error e, events, next⟩
  | ⟨.ok a, events, next⟩ =>
    let later := (f a).run next
    ⟨later.result, events ++ later.events, later.state⟩

instance : Monad (Scan σ) where
  pure := pure
  bind := bind

/-- Reports events. -/
def report (events : List ScanEvent) : Scan σ Unit := fun state => ⟨.ok (), events, state⟩

/-- Asks a backend for the entries of a directory. -/
def list (l : Listing σ) (dir : Path) : Scan σ (List DirectoryEntry) := fun state =>
  let answer := l.ask dir state
  ⟨answer.result.mapError (⟨dir, ·⟩), answer.events.map .listing, answer.state⟩

@[simp] theorem run_pure (a : α) (state : σ) :
    (Pure.pure a : Scan σ α).run state = ⟨.ok a, [], state⟩ := rfl

theorem run_bind (s : Scan σ α) (f : α → Scan σ β) (state : σ) :
    (s >>= f).run state = match s.run state with
      | ⟨.error e, events, next⟩ => ⟨.error e, events, next⟩
      | ⟨.ok a, events, next⟩ =>
        let later := (f a).run next
        ⟨later.result, events ++ later.events, later.state⟩ := rfl

@[simp] theorem run_report (events : List ScanEvent) (state : σ) :
    (report events).run state = ⟨.ok (), events, state⟩ := rfl

theorem run_list (l : Listing σ) (dir : Path) (state : σ) :
    (list l dir).run state =
      ⟨(l.ask dir state).result.mapError (⟨dir, ·⟩), (l.ask dir state).events.map .listing,
        (l.ask dir state).state⟩ := rfl

end Scan

namespace DirectoryEntry

/-- Whether an entry is a page for a filter. -/
def isPage (f : ExtensionFilter) (e : DirectoryEntry) : Bool := e.isFile && f.accepts e.extension

/-- The report on an entry that is no page. -/
def skipEvent (f : ExtensionFilter) (e : DirectoryEntry) : Option ScanEvent :=
  if !e.isFile then some (.skippedOther e.name)
  else if !f.accepts e.extension then some (.skippedExtension e.name)
  else none

end DirectoryEntry

namespace Sidebar

variable {σ : Type}

/-- The page names among entries, in their order. -/
def pageNames (f : ExtensionFilter) (entries : List DirectoryEntry) : List String :=
  (entries.filter (·.isPage f)).map (·.name)

/-- The pages directly inside a directory. -/
def pages (l : Listing σ) (dir : Path) (f : ExtensionFilter) : Scan σ (List String) := do
  let entries ← Scan.list l dir
  let names := pageNames f entries
  Scan.report (entries.filterMap (·.skipEvent f))
  Scan.report [.scanned dir entries.length names.length]
  return names

/-- Page names in an order. -/
def arrange (order : PageOrder) (names : List String) : List String :=
  match order with
  | .listing => names
  | .name => names.mergeSort Text.atMost

/-- The children of a section's group, from the pages of its directory. -/
def children (s : Section) (names : List String) : List String :=
  arrange s.order (names.filter (· ∉ s.exclude))

/-- The group of a section. -/
def group (l : Listing σ) (s : Section) : Scan σ Group := do
  let names ← pages l s.dir s.extensions
  return ⟨s.title, children s names⟩

end Sidebar
end DocPortal
