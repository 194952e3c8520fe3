import DocPortal.Proofs.Names

/-!
# Making again what is there

A directory that is there is not made again, and neither are those above it, so that making a directory and its
ancestors a second time changes nothing; nor does writing to a file what the file holds. Making directories and
writing a file only adds to a well-formed tree, which stays well-formed.

## Main definitions

* `FileSystem.SameNodes` — two trees hold the same in the same places.
* `FileSystem.Extends` — a tree holds what another one does, in the same order, and maybe more.
-/

namespace DocPortal
namespace FileSystem

variable {fs fs' fs'' : FileSystem} {cwd loc dir : Location} {p : Path} {above : List Path} {n : Bytes}
  {node : Node}

/-! ## Making directories that are there -/

/-- A walk that comes to something by its last name has gone on from a directory, in which that is a name. -/
theorem Leads.cases_concat {links : Nat} {start : Location} {steps : List Step}
    (h : fs.Leads .lookUp links start (steps ++ [.name n]) loc) (hloc : fs.find? loc ≠ none) :
    ∃ dir, fs.Leads .lookUp links start (steps ++ [.here]) dir ∧ n.length ≤ nameLimit ∧
      (fs.find? (n :: dir)).isSome = true := by
  obtain ⟨links', mid, hmid, hname⟩ := h.split
  have hstay (hdir : fs.find? mid = some .directory) :
      fs.Leads .lookUp links start (steps ++ [.here]) mid :=
    hmid.append hdir fun links => .move hdir rfl (.arrived mid)
  cases hname with
  | move _ hplain _ => cases hplain
  | vacant _ _ hnone => exact absurd hnone hloc
  | enter hdir hshort _ hfound _ _ => exact ⟨mid, hstay hdir, hshort, by rw [hfound]; rfl⟩
  | follow hdir hshort _ hfound _ => exact ⟨mid, hstay hdir, hshort, by rw [hfound]; rfl⟩

/-- Where a path leads to something, nothing is made. -/
theorem makeDirectory_of_resolve (h : fs.resolve cwd p = .ok (loc, node)) :
    fs.makeDirectory cwd p = .error .alreadyExists := by
  obtain ⟨hreach, hnode⟩ := resolve_ok_iff.1 h
  obtain ⟨hcheck, hleads⟩ := reach_ok_iff.1 hreach
  obtain ⟨tail, htail, hsteps⟩ := exists_steps_eq p
  rw [hsteps] at hleads
  obtain ⟨links, mid, hmid, hend⟩ := hleads.split
  have hfound : fs.find? mid ≠ none := by
    obtain rfl | rfl := htail
    · cases hend
      rw [hnode]
      exact Option.some_ne_none node
    · cases hend with
      | move hdir _ _ => simp [hdir]
      | outside hshut _ => simp [hshut]
  have hslot : (∃ place, fs.slot cwd p = .ok place ∧ (fs.find? place).isSome = true) ∨
      fs.slot cwd p = .error .alreadyExists := by
    rw [slot, hcheck]
    dsimp only [Bind.bind, Except.bind]
    split
    · rename_i n hlast
      rw [← List.dropLast_append_getLast? _ hlast] at hmid
      obtain ⟨dir, hdir, hshort, hsome⟩ := hmid.cases_concat hfound
      rw [walk_ok_iff.2 hdir]
      exact .inl ⟨n :: dir, if_neg (Nat.not_lt.2 hshort), hsome⟩
    · rw [walk_ok_iff.2 hmid]
      exact .inr rfl
  rw [makeDirectory, make]
  obtain ⟨place, hplace, hsome⟩ | hplace := hslot
  · rw [hplace]
    exact if_pos hsome
  · rw [hplace]
    rfl

/-- Making a directory that is there, and its ancestors, changes nothing. -/
theorem makeMissing_of_isDirectory (h : fs.isDirectory cwd p = true) (above : List Path) :
    fs.makeMissing cwd (p :: above) = (fs, .ok ()) := by
  have hexists : fs.makeDirectory cwd p = .error .alreadyExists := by
    rw [isDirectory] at h
    split at h
    · rename_i hresolve
      exact makeDirectory_of_resolve hresolve
    · rename_i hresolve
      exact makeDirectory_of_resolve hresolve
    · cases h
  rw [makeMissing]
  split
  · rfl
  · rw [hexists]

/-- A directory that was made with its ancestors is there. -/
theorem isDirectory_of_makeMissing (h : fs.makeMissing cwd (p :: above) = (fs', .ok ())) (hp : p.bytes ≠ []) :
    fs'.isDirectory cwd p = true := by
  have hmade {fs fs' : FileSystem} (h : fs.makeDirectory cwd p = .ok fs') : fs'.isDirectory cwd p = true := by
    obtain ⟨loc, hslot, hnone, rfl⟩ := makeDirectory_ok h
    rw [isDirectory, resolve_put_directory hslot hnone]
  rw [makeMissing, if_neg hp] at h
  split at h
  · rename_i made hmake
    cases h
    exact hmade hmake
  · split at h
    · cases h
    · split at h
      · rename_i made hmake
        cases h
        exact hmade hmake
      · obtain ⟨rfl, hdir⟩ := Prod.mk.inj h
        split at hdir
        · assumption
        · cases hdir
  · obtain ⟨rfl, hdir⟩ := Prod.mk.inj h
    split at hdir
    · assumption
    · cases hdir

/-- What is a directory is one in every tree that keeps the kinds of what was there. -/
theorem KeepsKinds.isDirectory (hkinds : KeepsKinds fs fs') (h : fs.isDirectory cwd p = true) :
    fs'.isDirectory cwd p = true := by
  have hstays {loc : Location} {node : Node} (hresolve : fs.resolve cwd p = .ok (loc, node))
      (hfile : ∀ content, node ≠ .file content) : fs'.resolve cwd p = .ok (loc, node) := by
    obtain ⟨node', hresolve', rfl | ⟨content, -, rfl, -⟩⟩ := hkinds.resolve hresolve
    · exact hresolve'
    · exact absurd rfl (hfile content)
  rw [FileSystem.isDirectory] at h
  split at h
  · rename_i hresolve
    rw [FileSystem.isDirectory, hstays hresolve nofun]
  · rename_i hresolve
    rw [FileSystem.isDirectory, hstays hresolve nofun]
  · cases h

/-! ## Well-formed trees -/

theorem mem_nodes_of_find? (h : fs.find? loc = some node) (hroot : loc ≠ []) : (loc, node) ∈ fs.nodes := by
  rw [find?_of_ne fs hroot, Option.map_eq_some_iff] at h
  obtain ⟨⟨key, node'⟩, hfind, rfl⟩ := h
  obtain rfl : key = loc := by simpa using List.find?_some hfind
  exact List.mem_of_find?_eq_some hfind

theorem WellFormed.place (hfs : fs.WellFormed) (h : fs.find? (n :: dir) = some node) :
    Lexical.IsName n ∧ fs.find? dir = some .directory :=
  hfs.placed _ (mem_nodes_of_find? h (List.cons_ne_nil n dir))

theorem WellFormed.mem_children_iff (hfs : fs.WellFormed) :
    (n, node) ∈ fs.children dir ↔ fs.find? (n :: dir) = some node :=
  mem_children.trans ⟨hfs.find?_of_mem, fun h => mem_nodes_of_find? h (List.cons_ne_nil n dir)⟩

/-- The directory above a directory is one. -/
theorem WellFormed.directory_tail (hfs : fs.WellFormed) (h : fs.find? loc = some .directory) :
    fs.find? loc.tail = some .directory := by
  cases loc with
  | nil => exact h
  | cons n dir => exact (hfs.place h).2

/-- The locations at which a tree holds something stay in their order when a node is put. -/
theorem map_fst_nodes_put (fs : FileSystem) (loc : Location) (node : Node) :
    (fs.put loc node).nodes.map (·.1) =
      if loc ∈ fs.nodes.map (·.1) then fs.nodes.map (·.1) else fs.nodes.map (·.1) ++ [loc] := by
  have hany : fs.nodes.any (·.1 = loc) = true ↔ loc ∈ fs.nodes.map (·.1) := by
    simp
  rw [put]
  split
  · rename_i h
    rw [if_pos (hany.1 h), List.map_map]
    refine List.map_congr_left fun e _ => ?_
    by_cases he : e.1 = loc
    · simp [he]
    · simp [he]
  · rename_i h
    rw [if_neg fun hmem => h (hany.2 hmem), List.map_append]
    rfl

/-- A tree stays well-formed when a node is put into a directory, and not in the place of one. -/
theorem WellFormed.put (hfs : fs.WellFormed) (hn : Lexical.IsName n) (hdir : fs.find? dir = some .directory)
    (hplace : fs.find? (n :: dir) ≠ some .directory) (node : Node) : (fs.put (n :: dir) node).WellFormed := by
  have hkeep {other : Location} (hother : fs.find? other = some .directory) :
      (fs.put (n :: dir) node).find? other = some .directory := by
    rw [find?_put_of_ne, hother]
    rintro rfl
    exact hplace hother
  have hkeys := map_fst_nodes_put fs (n :: dir) node
  constructor
  · rw [hkeys]
    split
    · exact hfs.distinct
    · rename_i hnew
      rw [← List.concat_eq_append]
      exact hfs.distinct.concat hnew
  · intro e he
    have hkey : e.1 ∈ fs.nodes.map (·.1) ∨ e.1 = n :: dir := by
      have hmem := List.mem_map_of_mem (f := (·.1)) he
      rw [hkeys] at hmem
      split at hmem
      · exact .inl hmem
      · exact (List.mem_append.1 hmem).imp_right List.mem_singleton.1
    obtain hold | hnew := hkey
    · obtain ⟨e', he', hsame⟩ := List.mem_map.1 hold
      have hplaced := hfs.placed e' he'
      rw [← hsame]
      cases hloc : e'.1 with
      | nil =>
        rw [hloc] at hplaced
        exact hplaced
      | cons m parent =>
        rw [hloc] at hplaced
        exact ⟨hplaced.1, hkeep hplaced.2⟩
    · rw [hnew]
      exact ⟨hn, hkeep hdir⟩

/-- Putting a node where it is changes nothing. -/
theorem WellFormed.put_self (hfs : fs.WellFormed) (h : fs.find? loc = some node) (hroot : loc ≠ []) :
    fs.put loc node = fs := by
  have hmem := mem_nodes_of_find? h hroot
  rw [FileSystem.put, if_pos (List.any_eq_true.2 ⟨_, hmem, decide_eq_true rfl⟩)]
  congr 1
  refine (List.map_congr_left fun e he => ?_).trans (List.map_id _)
  by_cases hloc : e.1 = loc
  · obtain rfl := List.inj_on_of_nodup_map hfs.distinct he hmem hloc
    simp
  · simp [hloc]

/-- The name of a location in a directory. -/
def nameIn? (dir : Location) : Location → Option Bytes
  | n :: parent => if parent = dir then some n else none
  | [] => none

theorem map_fst_children (fs : FileSystem) (dir : Location) :
    (fs.children dir).map (·.1) = (fs.nodes.map (·.1)).filterMap (nameIn? dir) := by
  rw [children, List.map_filterMap, List.filterMap_map]
  refine List.filterMap_congr fun e _ => ?_
  obtain ⟨loc, node⟩ := e
  cases loc with
  | nil => rfl
  | cons n parent =>
    simp only [Function.comp_apply, nameIn?]
    split <;> rfl

/-- If a tree holds its locations in the order of another one, it lists its directories in that order. -/
theorem sublist_children (h : (fs.nodes.map (·.1)).Sublist (fs'.nodes.map (·.1))) (dir : Location) :
    ((fs.children dir).map (·.1)).Sublist ((fs'.children dir).map (·.1)) := by
  rw [map_fst_children, map_fst_children]
  exact h.filterMap _

/-! ## Trees that hold the same -/

/-- Two trees hold the same in the same places. -/
def SameNodes (fs fs' : FileSystem) : Prop := ∀ loc, fs.find? loc = fs'.find? loc

theorem SameNodes.keeps (h : SameNodes fs fs') : Keeps fs fs' := fun loc _ hloc => (h loc) ▸ hloc

namespace SameNodes

theorem advance_eq (h : SameNodes fs fs') (purpose : Purpose) (start : Location) (steps : List Step) :
    fs.advance purpose start steps = fs'.advance purpose start steps := by
  induction steps generalizing start with
  | nil => rw [advance, advance]
  | cons step rest ih => simp only [advance.eq_def _ _ _ (step :: rest), h start, h (_ :: start), ih]

theorem walk_eq (h : SameNodes fs fs') (purpose : Purpose) (links : Nat) (start : Location) (steps : List Step) :
    fs.walk purpose links start steps = fs'.walk purpose links start steps := by
  induction links generalizing start steps with
  | zero => rw [walk, walk, h.advance_eq]
  | succ links ih => simp only [walk.eq_def _ _ (links + 1), h.advance_eq, ih]

theorem reach_eq (h : SameNodes fs fs') (cwd : Location) (purpose : Purpose) (p : Path) :
    fs.reach cwd purpose p = fs'.reach cwd purpose p := by
  simp only [reach, h.walk_eq]

theorem resolve_eq (h : SameNodes fs fs') (cwd : Location) (p : Path) :
    fs.resolve cwd p = fs'.resolve cwd p := by
  simp only [resolve, h.reach_eq, h _]

theorem read_eq (h : SameNodes fs fs') (cwd : Location) (p : Path) : fs.read cwd p = fs'.read cwd p := by
  simp only [read, h.resolve_eq]

end SameNodes

/-! ## Trees that hold more -/

/-- A tree holds the like of what another one holds, in the same order, and what else it holds is of some kind.
-/
structure Extends (added : Bytes → Node → Prop) (fs fs' : FileSystem) : Prop where
  kinds : KeepsKinds fs fs'
  added : ∀ n dir node, fs.find? (n :: dir) = none → fs'.find? (n :: dir) = some node → added n node
  order : ∀ dir, ((fs.children dir).map (·.1)).Sublist ((fs'.children dir).map (·.1))

namespace Extends

variable {added : Bytes → Node → Prop}

theorem refl (fs : FileSystem) : Extends added fs fs where
  kinds := (Keeps.refl fs).kinds
  added n dir node hnone hnode := by
    rw [hnone] at hnode
    cases hnode
  order dir := .refl _

theorem trans (hadded : ∀ n node node', node.Alike node' → added n node → added n node')
    (h : Extends added fs fs') (h' : Extends added fs' fs'') : Extends added fs fs'' where
  kinds := h.kinds.trans h'.kinds
  added n dir node hnone hnode := by
    cases hmid : fs'.find? (n :: dir) with
    | none => exact h'.added n dir node hmid hnode
    | some node' =>
      obtain ⟨node'', hnode'', halike⟩ := h'.kinds _ _ hmid
      obtain rfl : node'' = node := Option.some.inj (hnode''.symm.trans hnode)
      exact hadded n node' node'' halike (h.added n dir node' hnone hmid)
  order dir := (h.order dir).trans (h'.order dir)

theorem of_put_vacant (hnone : fs.find? (n :: dir) = none) (hadded : added n node) :
    Extends added fs (fs.put (n :: dir) node) where
  kinds := (keeps_put_of_vacant hnone node).kinds
  added m parent other hvacant hother := by
    by_cases hloc : m :: parent = n :: dir
    · obtain ⟨rfl, rfl⟩ := List.cons.inj hloc
      rw [find?_put_self fs (List.cons_ne_nil m parent)] at hother
      cases hother
      exact hadded
    · rw [find?_put_of_ne fs hloc, hvacant] at hother
      cases hother
  order := sublist_children <| by
    rw [nodes_put_of_vacant hnone, List.map_append]
    exact List.sublist_append_left _ _

theorem of_put_file {content : Bytes} (hfile : fs.find? loc = some (.file content)) (content' : Bytes) :
    Extends added fs (fs.put loc (.file content')) where
  kinds other node hother := by
    by_cases hloc : other = loc
    · subst hloc
      rw [hfile] at hother
      cases hother
      exact ⟨_, find?_put_self fs (by rintro rfl; cases hfile) _, .inr ⟨_, _, rfl, rfl⟩⟩
    · exact ⟨node, (find?_put_of_ne fs hloc _).trans hother, .refl node⟩
  added m parent other hvacant hother := by
    rw [find?_put_of_ne, hvacant] at hother
    · cases hother
    · rintro rfl
      rw [hfile] at hvacant
      cases hvacant
  order := sublist_children <| by
    rw [map_fst_nodes_put]
    split
    · exact .refl _
    · exact List.sublist_append_left _ _

end Extends

/-! ## Where files are made -/

/-- Without links, a walk that is to make a file ends in the name of the file, in a directory. -/
theorem WellFormed.cases_of_create (hfs : fs.WellFormed)
    (hlinks : ∀ loc target, fs.find? loc ≠ some (.link target)) {links : Nat} {start : Location}
    {steps : List Step} (h : fs.Leads .create links start steps loc) (hdir : fs.find? loc ≠ some .directory)
    (hshut : fs.find? loc ≠ some .closed) :
    (steps = [] ∧ loc = start) ∨
      ∃ n dir body, steps = body ++ [.name n] ∧ loc = n :: dir ∧ fs.find? dir = some .directory := by
  induction h with
  | arrived start => exact .inl ⟨rfl, rfl⟩
  | @move links start next loc step rest hstart hplain _ ih =>
    obtain ⟨rfl, rfl⟩ | ⟨n, dir, body, rfl, hloc, hparent⟩ := ih hdir hshut
    · -- A walk that stays or goes up ends in a directory.
      refine absurd ?_ hdir
      cases step with
      | here =>
        cases hplain
        exact hstart
      | slash =>
        cases hplain
        exact hstart
      | up =>
        cases hplain
        exact hfs.directory_tail hstart
      | name n => cases hplain
    · exact .inr ⟨n, dir, step :: body, rfl, hloc, hparent⟩
  | outside hclosed _ ih =>
    obtain ⟨rfl, rfl⟩ | ⟨n, dir, body, rfl, hloc, hparent⟩ := ih hdir hshut
    · exact absurd hclosed hshut
    · exact .inr ⟨n, dir, .slash :: body, rfl, hloc, hparent⟩
  | @vacant links start n hstart _ _ => exact .inr ⟨n, start, [], rfl, rfl, hstart⟩
  | @enter links start loc n rest node hstart _ _ _ _ _ ih =>
    obtain ⟨rfl, rfl⟩ | ⟨m, dir, body, rfl, hloc, hparent⟩ := ih hdir hshut
    · exact .inr ⟨n, start, [], rfl, rfl, hstart⟩
    · exact .inr ⟨m, dir, .name n :: body, rfl, hloc, hparent⟩
  | follow _ _ _ hfound _ _ => exact absurd hfound (hlinks _ _)

end FileSystem
end DocPortal
