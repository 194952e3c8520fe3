import DocPortal.Path.Basic

/-!
# File systems

A file system maps locations to nodes. A location is the list of names that leads to a node, innermost name
first, so that the head is the node's own name and the tail its directory. Links are nodes of their own;
following them is a matter of paths, not of locations. Nodes keep the order in which they were made, and a
directory is listed in that order.
-/

namespace DocPortal

/-- The names on the way from the root, innermost first; the root is the empty list. -/
abbrev Location := List Bytes

/-- What a location holds. -/
inductive Node where
  /-- A regular file. -/
  | file (content : Bytes)
  | directory
  /-- A directory that may be neither listed nor searched, so that nothing is to be known of what it holds. -/
  | closed
  /-- A symbolic link, which holds a path. -/
  | link (target : Path)
  /-- A device that reads as empty and forgets what is written to it. -/
  | device
  deriving DecidableEq, Repr

/-- The nodes of a tree, oldest first. The root directory is not listed: it is always there. -/
structure FileSystem where
  nodes : List (Location × Node)
  deriving DecidableEq, Repr

namespace FileSystem

/-- The tree that has only its root. -/
def empty : FileSystem := ⟨[]⟩

/-- The node at a location. -/
def find? (fs : FileSystem) : Location → Option Node
  | [] => some .directory
  | loc => (fs.nodes.find? (·.1 = loc)).map (·.2)

@[simp] theorem find?_root (fs : FileSystem) : fs.find? [] = some .directory := rfl

theorem find?_of_ne (fs : FileSystem) {loc : Location} (h : loc ≠ []) :
    fs.find? loc = (fs.nodes.find? (·.1 = loc)).map (·.2) := by
  cases loc with
  | nil => exact absurd rfl h
  | cons => rfl

/-- The names in a directory, oldest first, each with its node. -/
def children (fs : FileSystem) (dir : Location) : List (Bytes × Node) :=
  fs.nodes.filterMap fun
    | (name :: parent, node) => if parent = dir then some (name, node) else none
    | ([], _) => none

/-- Puts a node at a location, in the place of the one that is there. -/
def put (fs : FileSystem) (loc : Location) (node : Node) : FileSystem :=
  if fs.nodes.any (·.1 = loc) then ⟨fs.nodes.map fun e => if e.1 = loc then (loc, node) else e⟩
  else ⟨fs.nodes ++ [(loc, node)]⟩

/-- The node that was put at a location is found there. -/
theorem find?_put_self (fs : FileSystem) {loc : Location} (h : loc ≠ []) (node : Node) :
    (fs.put loc node).find? loc = some node := by
  rw [find?_of_ne _ h]
  obtain ⟨nodes⟩ := fs
  simp only [put]
  split
  · rename_i hany
    simp only
    induction nodes with
    | nil => simp at hany
    | cons e rest ih =>
      by_cases he : e.1 = loc
      · simp [he]
      · simp only [List.any_cons, he, decide_false, Bool.false_or] at hany
        simpa [he] using ih hany
  · rename_i hany
    have hnone : nodes.find? (·.1 = loc) = none := by
      simp only [List.any_eq_true, decide_eq_true_eq] at hany
      simp only [List.find?_eq_none, decide_eq_true_eq]
      exact fun e he hat => hany ⟨e, he, hat⟩
    simp [List.find?_append, hnone]

/-- Other locations keep their nodes. -/
theorem find?_put_of_ne (fs : FileSystem) {loc other : Location} (h : other ≠ loc) (node : Node) :
    (fs.put loc node).find? other = fs.find? other := by
  by_cases hroot : other = []
  · simp [hroot]
  rw [find?_of_ne _ hroot, find?_of_ne _ hroot]
  obtain ⟨nodes⟩ := fs
  simp only [put]
  split
  · rename_i hany
    clear hany
    suffices h' : (nodes.map fun e => if e.1 = loc then (loc, node) else e).find? (·.1 = other)
        = nodes.find? (·.1 = other) by simp only [h']
    induction nodes with
    | nil => rfl
    | cons e rest ih =>
      by_cases he : e.1 = loc
      · simpa [he, Ne.symm h] using ih
      · by_cases ho : e.1 = other
        · simp [ho, h]
        · simpa [he, ho] using ih
  · simp [List.find?_append, Ne.symm h]

/-- Takes away a location and all that lies below it. -/
def erase (fs : FileSystem) (loc : Location) : FileSystem :=
  ⟨fs.nodes.filter fun e => !loc.isSuffixOf e.1⟩

end FileSystem

namespace Location

/-- The absolute path of a location. -/
def path (loc : Location) : Path := ⟨0x2F :: [(0x2F : UInt8)].intercalate loc.reverse⟩

end Location
end DocPortal
