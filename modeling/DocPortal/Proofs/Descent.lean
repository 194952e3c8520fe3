import DocPortal.Proofs.Growth
import DocPortal.Proofs.Location
import DocPortal.Proofs.Pages

/-!
# From a directory to its entries

The path of an entry has the steps of the path of its directory and then the entry's name. If the one leads to
the directory, the other leads to what the directory holds under that name, so that what an entry is can be
seen from the tree and from the path of the entry alike.
-/

namespace DocPortal

/-! ## The steps of the path of an entry -/

namespace Lexical

open PathAlphabet

variable {α : Type} [DecidableEq α] [PathAlphabet α]

theorem segments_ne_nil (p : List α) : segments p ≠ [] := by
  cases p with
  | nil => exact List.cons_ne_nil _ _
  | cons c cs =>
    rw [segments]
    split
    · exact List.cons_ne_nil _ _
    · split <;> exact List.cons_ne_nil _ _

/-- What stands after the last separator is the last segment. -/
theorem segments_concat (p : List α) {n : List α} (h : slash ∉ n) :
    segments (p ++ slash :: n) = segments p ++ [n] := by
  induction p with
  | nil =>
    have hn : segments ([] ++ slash :: n) = [] :: segments n := segments_append List.not_mem_nil
    rw [hn, segments_of_slash_notMem h]
    rfl
  | cons c cs ih =>
    rw [List.cons_append, segments, ih, segments]
    split
    · rfl
    · obtain ⟨s, ss, hs⟩ := List.exists_cons_of_ne_nil (segments_ne_nil cs)
      rw [hs]
      rfl

end Lexical

namespace Path

open PathAlphabet

variable {p : Path} {n : Bytes}

/-- The path of an entry is the path of the directory, a separator and the name. -/
theorem exists_bytes_child_eq (hn : Lexical.IsName n) (hp : p.bytes ≠ []) :
    ∃ front, (p.child n).bytes = front ++ slash :: n ∧ (p.bytes = front ∨ p.bytes = front ++ [slash]) := by
  rw [child, bytes_join, Lexical.join, if_neg (by simp [hn.isAbsolute_eq_false])]
  split
  · rename_i hends
    obtain ⟨front, hfront⟩ := List.getLast?_eq_some_iff.1 (hends.resolve_left hp)
    exact ⟨front, by simp [hfront], .inr hfront⟩
  · exact ⟨p.bytes, rfl, .inl rfl⟩

/-- The steps of the path of an entry are those of the directory and the entry's name. -/
theorem steps_child (hn : Lexical.IsName n) (hp : p.bytes ≠ []) :
    (p.child n).steps = p.steps.filter (· ≠ .slash) ++ [.name n] := by
  obtain ⟨front, hchild, hfront⟩ := exists_bytes_child_eq hn hp
  have hsegments : (Lexical.segments p.bytes).filter (· ≠ []) =
      (Lexical.segments front).filter (· ≠ []) := by
    obtain rfl | hfront := hfront
    · rfl
    · rw [hfront, Lexical.segments_concat front List.not_mem_nil, List.filter_append]
      simp
  have hlast : (p.child n).bytes.getLast? ≠ some slash := by
    rw [hchild, List.getLast?_append_of_ne_nil _ (List.cons_ne_nil _ _),
      List.getLast?_cons_of_ne_nil hn.ne_nil, List.getLast?_eq_some_getLast hn.ne_nil]
    exact fun h => hn.slash_notMem (Option.some.inj h ▸ List.getLast_mem hn.ne_nil)
  have hstep : stepOf n = .name n := by
    have hhere : n ≠ [0x2E] := hn.ne_here
    have hup : n ≠ [0x2E, 0x2E] := hn.ne_up
    rw [stepOf, if_neg hhere, if_neg hup]
  rw [FileSystem.filter_steps, hsegments, steps, if_neg (fun h => hlast h.2), hchild,
    Lexical.segments_concat front hn.slash_notMem, List.filter_append, List.map_append]
  simp [hn.ne_nil, hstep]

/-- The path of an entry starts where the path of the directory does. -/
theorem startsAt_child (hn : Lexical.IsName n) (p : Path) (cwd : Location) :
    (p.child n).startsAt cwd = p.startsAt cwd := by
  have hname : isAbsolute ⟨n⟩ = false := hn.isAbsolute_eq_false
  rw [startsAt, startsAt, child, isAbsolute_join, hname, Bool.or_false]

end Path

/-! ## What the path of an entry leads to -/

namespace FileSystem

variable {fs : FileSystem} {cwd dir loc : Location} {p : Path} {n : Bytes} {node : Node}

/-- What is held in a well-formed tree is found where it is held. -/
theorem WellFormed.find?_of_mem (h : fs.WellFormed) (hmem : (loc, node) ∈ fs.nodes) :
    fs.find? loc = some node := by
  have hroot : loc ≠ [] := by
    rintro rfl
    exact h.placed _ hmem
  rw [find?_of_ne fs hroot]
  cases hfind : fs.nodes.find? (·.1 = loc) with
  | none =>
    have hnone := List.find?_eq_none.1 hfind _ hmem
    exact absurd (decide_eq_true rfl) hnone
  | some e =>
    have hkey : e.1 = loc := by simpa using List.find?_some hfind
    obtain rfl := List.inj_on_of_nodup_map h.distinct (List.mem_of_find?_eq_some hfind) hmem hkey
    rfl

/-- The path of an entry that is no link leads to the entry. -/
theorem WellFormed.resolve_child (h : fs.WellFormed) (hdir : fs.resolve cwd p = .ok (dir, .directory))
    (hmem : (n, node) ∈ fs.children dir) (hsolid : node.IsSolid) (hcheck : checkPath (p.child n) = .ok ())
    (hshort : n.length ≤ nameLimit) : fs.resolve cwd (p.child n) = .ok (n :: dir, node) := by
  have hn := h.isName_of_mem_children hmem
  have hfound := h.find?_of_mem (mem_children.1 hmem)
  rw [resolve_ok_iff, reach_ok_iff] at hdir ⊢
  obtain ⟨⟨hfit, hleads⟩, hdirectory⟩ := hdir
  have hp : p.bytes ≠ [] := by
    intro hnil
    simp [checkPath, hnil] at hfit
  obtain ⟨tail, htail, hsteps⟩ := exists_steps_eq p
  rw [hsteps] at hleads
  refine ⟨⟨hcheck, ?_⟩, hfound⟩
  rw [Path.steps_child hn hp, Path.startsAt_child hn]
  have hstay : ∀ step ∈ tail, step = .here ∨ step = .slash := by
    obtain rfl | rfl := htail <;> simp
  exact hleads.onward hstay hdirectory fun links =>
    .enter hdirectory hshort (by simp) hfound hsolid (.arrived _)

/-- **An entry is a regular file exactly if its path leads to one.**  The directory tells the kind of an entry
without following anything, and only links are looked up. That comes to the same as looking up every entry by
its path, if the path is one for the system. -/
theorem WellFormed.isRegularEntry_iff (h : fs.WellFormed)
    (hdir : fs.resolve cwd p = .ok (dir, .directory)) (hmem : (n, node) ∈ fs.children dir)
    (hcheck : checkPath (p.child n) = .ok ()) (hshort : n.length ≤ nameLimit) :
    fs.IsRegularEntry cwd p n node ↔
      ∃ loc content, fs.resolve cwd (p.child n) = .ok (loc, .file content) := by
  have hchild : node.IsSolid → fs.resolve cwd (p.child n) = .ok (n :: dir, node) := fun hsolid =>
    h.resolve_child hdir hmem hsolid hcheck hshort
  constructor
  · rintro (⟨content, rfl⟩ | ⟨target, loc, content, rfl, hloc⟩)
    · exact ⟨_, content, hchild fun target heq => by cases heq⟩
    · exact ⟨loc, content, hloc⟩
  · rintro ⟨loc, content, hloc⟩
    obtain hsolid | ⟨target, rfl⟩ := node.isSolid_or_link
    · rw [hchild hsolid] at hloc
      cases hloc
      exact .inl ⟨content, rfl⟩
    · exact .inr ⟨target, loc, content, rfl, hloc⟩

end FileSystem
end DocPortal
