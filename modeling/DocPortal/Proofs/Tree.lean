import DocPortal.FileSystem.Basic
import DocPortal.Proofs.Extension

/-!
# Well-formed trees

A tree as a file system keeps it: each location is held once, under a proper name, in a directory. A
directory of such a tree lists each of its names once. Whether a tree is well-formed can be decided.
-/

namespace DocPortal

/-- The location to which some names lead from the root. -/
def Location.ofNames (names : List String) : Location := (names.map Text.encode).reverse

namespace FileSystem

/-- A location that a node can be held at: a name in a directory. -/
def IsPlace (fs : FileSystem) : Location → Prop
  | [] => False
  | n :: dir => Lexical.IsName n ∧ fs.find? dir = some .directory

instance (fs : FileSystem) : DecidablePred fs.IsPlace
  | [] => .isFalse id
  | n :: dir => inferInstanceAs (Decidable (Lexical.IsName n ∧ fs.find? dir = some .directory))

/-- Every location is held once, under a name, in a directory. -/
structure WellFormed (fs : FileSystem) : Prop where
  distinct : (fs.nodes.map (·.1)).Nodup
  placed : ∀ e ∈ fs.nodes, fs.IsPlace e.1

instance (fs : FileSystem) : Decidable fs.WellFormed :=
  decidable_of_iff ((fs.nodes.map (·.1)).Nodup ∧ ∀ e ∈ fs.nodes, fs.IsPlace e.1)
    ⟨fun ⟨hdistinct, hplaced⟩ => ⟨hdistinct, hplaced⟩, fun h => ⟨h.distinct, h.placed⟩⟩

/-! ## Directories -/

theorem mem_children {fs : FileSystem} {dir : Location} {n : Bytes} {node : Node} :
    (n, node) ∈ fs.children dir ↔ (n :: dir, node) ∈ fs.nodes := by
  rw [children, List.mem_filterMap]
  constructor
  · rintro ⟨⟨loc, node'⟩, hmem, h⟩
    cases loc with
    | nil => cases h
    | cons n' dir' =>
      simp only at h
      split at h
      · rename_i hdir
        cases h
        rwa [← hdir]
      · cases h
  · intro h
    exact ⟨_, h, by simp⟩

/-- A directory has each of its names once. -/
theorem WellFormed.nodup_children {fs : FileSystem} (h : fs.WellFormed) (dir : Location) :
    ((fs.children dir).map (·.1)).Nodup := by
  have hlocs : fs.nodes.Pairwise fun e e' => e.1 ≠ e'.1 := List.pairwise_map.1 h.distinct
  refine List.pairwise_map.2 (hlocs.filterMap _ ?_)
  -- Two children with one name would be two nodes at one location.
  rintro ⟨loc, node⟩ ⟨loc', node'⟩ hne ⟨n, a⟩ hn ⟨n', a'⟩ hn' heq
  cases loc with
  | nil => cases hn
  | cons x parent =>
    cases loc' with
    | nil => cases hn'
    | cons x' parent' =>
      simp only [Option.ite_none_right_eq_some, Option.some.injEq, Prod.mk.injEq] at hn hn'
      obtain ⟨hparent, hx, -⟩ := hn
      obtain ⟨hparent', hx', -⟩ := hn'
      apply hne
      rw [hparent, hparent', hx, hx']
      exact congrArg (· :: dir) heq

/-- The names in a directory are names. -/
theorem WellFormed.isName_of_mem_children {fs : FileSystem} (h : fs.WellFormed) {dir : Location}
    {n : Bytes} {node : Node} (hn : (n, node) ∈ fs.children dir) : Lexical.IsName n :=
  (h.placed _ (mem_children.1 hn)).1

end FileSystem
end DocPortal
