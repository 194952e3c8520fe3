import DocPortal.FileSystem.Walk
import DocPortal.Listing.Basic
import DocPortal.Text.Quoted

/-!
# Listing a file system

The entries of a directory are its immediate children in the tree's order. Links are followed to tell
regular files from the rest; a link that leads nowhere is no file and is reported. A name that is not text
fails the listing, whether or not it would have been a page, and so does a directory that may not be listed.
-/

namespace DocPortal
namespace Disk

/-- The name of the backend. -/
def backend : String := "Fs"

/-- Whether the child of `dir` with a name is a regular file, and what is reported on the way. -/
def isRegularFile (fs : FileSystem) (cwd : Location) (dir : Path) (name : Bytes) :
    Node → Bool × List ListingEvent
  | .file _ => (true, [])
  | .link _ =>
    match fs.resolve cwd (dir.child name) with
    | .ok (_, .file _) => (true, [])
    | .ok _ => (false, [])
    | .error fault => (false, [.danglingLink (dir.child name) fault.failure])
  | _ => (false, [])

/-- The error for a child whose name is not text. -/
def nameError (dir : Path) (name : Bytes) : ListingError :=
  (ListingError.ofFailure (.nameNotText (Text.quotedBytes name)) (some (dir.child name))).ofBackend
    backend

/-- The entries for the children of `dir`, up to the first name that is not text. -/
def entries (fs : FileSystem) (cwd : Location) (dir : Path) :
    List (Bytes × Node) → Except ListingError (List DirectoryEntry) × List ListingEvent
  | [] => (.ok [], [])
  | (name, node) :: rest =>
    let (isFile, events) := isRegularFile fs cwd dir name node
    match Text.decode? name with
    | none => (.error (nameError dir name), events)
    | some text =>
      let (later, more) := entries fs cwd dir rest
      (later.map (⟨text, isFile⟩ :: ·), events ++ more)

/-- The error for a fault that is met at the directory itself or on the way to it. -/
def faultError (dir : Path) (fault : PathFault) : ListingError :=
  (ListingError.ofFailure fault.failure (some dir)).ofBackend backend

/-- The answer for a directory: its entries, or why there are none. -/
def list (cwd : Location) (dir : Path) (fs : FileSystem) : ListingAnswer FileSystem :=
  match fs.resolve cwd dir with
  | .error fault => ⟨.error (faultError dir fault), [], fs⟩
  | .ok (loc, .directory) =>
    match entries fs cwd dir (fs.children loc) with
    | (.ok found, events) => ⟨.ok found, events ++ [.listed dir found.length], fs⟩
    | (.error e, events) => ⟨.error e, events, fs⟩
  | .ok (_, .closed) => ⟨.error (faultError dir .permissionDenied), [], fs⟩
  | .ok _ => ⟨.error ((ListingError.notADirectory dir).ofBackend backend), [], fs⟩

/-- The backend that lists a tree from a working directory. -/
def listing (cwd : Location) : Listing FileSystem := ⟨list cwd⟩

/-- Listing leaves the tree as it is. -/
@[simp] theorem state_ask_listing (cwd : Location) (dir : Path) (fs : FileSystem) :
    ((listing cwd).ask dir fs).state = fs := by
  simp only [listing, list]
  repeat' split
  all_goals rfl

end Disk
end DocPortal
