import DocPortal.Proofs.Walk

/-!
# Trees that grow

Making directories only adds to a tree, and what it adds are directories on the way to the one that is
wanted, whether or not that one is reached. Writing a file then puts its content in one place, where it
is read back, and changes no other place; only a device forgets what is written to it.
-/

namespace DocPortal
namespace FileSystem

/-- A tree that has grown, if at all, by directories to which some of the given paths lead. The nodes
that were there come first, so that directories list them as before. -/
structure Grows (fs : FileSystem) (cwd : Location) (paths : List Path) (fs' : FileSystem) : Prop where
  keeps : Keeps fs fs'
  added : ∀ loc node, fs.find? loc = none → fs'.find? loc = some node →
    node = .directory ∧ ∃ q ∈ paths, fs'.resolve cwd q = .ok (loc, .directory)
  order : fs.nodes <+: fs'.nodes

variable {fs fs' fs'' : FileSystem} {cwd loc : Location} {p : Path} {paths more : List Path}
  {node : Node}

namespace Grows

theorem refl (fs : FileSystem) (cwd : Location) (paths : List Path) : Grows fs cwd paths fs where
  keeps := .refl fs
  added loc node hnone hnode := by
    rw [hnone] at hnode
    cases hnode
  order := List.prefix_refl _

theorem trans (h : Grows fs cwd paths fs') (h' : Grows fs' cwd paths fs'') :
    Grows fs cwd paths fs'' where
  keeps := h.keeps.trans h'.keeps
  added loc node hnone hnode := by
    cases hmid : fs'.find? loc with
    | none => exact h'.added loc node hmid hnode
    | some node' =>
      obtain ⟨rfl, q, hq, hresolve⟩ := h.added loc node' hnone hmid
      rw [h'.keeps loc _ hmid] at hnode
      exact ⟨(Option.some.inj hnode).symm, q, hq, h'.keeps.resolve hresolve⟩
  order := h.order.trans h'.order

/-- More paths allow for more. -/
theorem mono (h : Grows fs cwd paths fs') (hsub : paths ⊆ more) : Grows fs cwd more fs' where
  keeps := h.keeps
  added loc node hnone hnode := by
    obtain ⟨hdir, q, hq, hresolve⟩ := h.added loc node hnone hnode
    exact ⟨hdir, q, hsub hq, hresolve⟩
  order := h.order

end Grows

/-! ## Nodes in vacant places -/

theorem nodes_put_of_vacant (hnone : fs.find? loc = none) (node : Node) :
    (fs.put loc node).nodes = fs.nodes ++ [(loc, node)] := by
  have hroot : loc ≠ [] := by
    rintro rfl
    cases hnone
  rw [find?_of_ne _ hroot, Option.map_eq_none_iff, List.find?_eq_none] at hnone
  have hany : fs.nodes.any (·.1 = loc) = false := by
    rw [List.any_eq_false]
    exact hnone
  rw [put, hany]
  rfl

theorem keeps_put_of_vacant (hnone : fs.find? loc = none) (node : Node) :
    Keeps fs (fs.put loc node) := by
  intro other found hfound
  rw [find?_put_of_ne, hfound]
  rintro rfl
  rw [hnone] at hfound
  cases hfound

/-! ## Making one directory -/

theorem stepOf_ne_slash (segment : Bytes) : Path.stepOf segment ≠ .slash := by
  rw [Path.stepOf]
  split
  · exact Step.noConfusion
  · split <;> exact Step.noConfusion

/-- The steps of a path but for a separator at the end are those of its segments. -/
theorem filter_steps (p : Path) :
    p.steps.filter (· ≠ .slash) = ((Lexical.segments p.bytes).filter (· ≠ [])).map Path.stepOf := by
  have hnamed : ∀ segments : List Bytes,
      (segments.map Path.stepOf).filter (· ≠ .slash) = segments.map Path.stepOf := by
    intro segments
    rw [List.filter_eq_self]
    intro step hstep
    obtain ⟨segment, -, rfl⟩ := List.mem_map.1 hstep
    exact decide_eq_true (stepOf_ne_slash segment)
  rw [Path.steps]
  split
  · rw [List.filter_append, hnamed]
    simp
  · exact hnamed _

/-- Only the last step of a path can be a separator. -/
theorem exists_steps_eq (p : Path) :
    ∃ tail, (tail = [] ∨ tail = [.slash]) ∧ p.steps = p.steps.filter (· ≠ .slash) ++ tail := by
  rw [filter_steps, Path.steps]
  split
  · exact ⟨[.slash], .inr rfl, rfl⟩
  · exact ⟨[], .inl rfl, by rw [List.append_nil]⟩

/-- A slot is a name in a directory to which all of the path but that name leads. -/
theorem slot_ok (h : fs.slot cwd p = .ok loc) :
    ∃ n dir body tail, loc = n :: dir ∧ n.length ≤ nameLimit ∧ checkPath p = .ok () ∧
      p.steps = body ++ .name n :: tail ∧ (tail = [] ∨ tail = [.slash]) ∧
      fs.Leads .lookUp linkLimit (p.startsAt cwd) (body ++ [.here]) dir := by
  obtain ⟨⟨⟩, hcheck, h⟩ := Result.bind_ok_iff.1 h
  dsimp only at h
  split at h
  · rename_i n hlast
    obtain ⟨dir, hwalk, h⟩ := Result.bind_ok_iff.1 h
    split at h
    · cases h
    · rename_i hshort
      cases h
      obtain ⟨tail, htail, hsteps⟩ := exists_steps_eq p
      refine ⟨n, dir, _, tail, rfl, Nat.not_lt.1 hshort, hcheck, ?_, htail, walk_ok_iff.1 hwalk⟩
      rw [List.append_cons, List.dropLast_append_getLast? _ hlast]
      exact hsteps
  · obtain ⟨_, _, h⟩ := Result.bind_ok_iff.1 h
    cases h

/-- A directory that was put into the slot of a path is what the path leads to. -/
theorem resolve_put_directory (h : fs.slot cwd p = .ok loc) (hnone : fs.find? loc = none) :
    (fs.put loc .directory).resolve cwd p = .ok (loc, .directory) := by
  obtain ⟨n, dir, body, tail, rfl, hshort, hcheck, hsteps, htail, hleads⟩ := slot_ok h
  have hself := fs.find?_put_self (List.cons_ne_nil n dir) .directory
  have hkeeps := keeps_put_of_vacant hnone .directory
  have hdir := hleads.directory_of_here
  have hwalk := hleads.mono hkeeps (by rw [hdir]; exact Option.some_ne_none _)
  rw [resolve_ok_iff, reach_ok_iff, hsteps]
  refine ⟨⟨hcheck, hwalk.onward (by simp) (hkeeps _ _ hdir) fun links => ?_⟩, hself⟩
  refine .enter (hkeeps _ _ hdir) hshort (by simp) hself (fun target heq => by cases heq) ?_
  rcases htail with rfl | rfl
  · exact .arrived _
  · exact .move hself rfl (.arrived _)

/-- A directory is made in a slot where nothing is. -/
theorem makeDirectory_ok (h : fs.makeDirectory cwd p = .ok fs') :
    ∃ loc, fs.slot cwd p = .ok loc ∧ fs.find? loc = none ∧ fs' = fs.put loc .directory := by
  obtain ⟨loc, hslot, h⟩ := Result.bind_ok_iff.1 h
  split at h
  · cases h
  rename_i hsome
  rw [Bool.not_eq_true, Option.isSome_eq_false_iff, Option.isNone_iff_eq_none] at hsome
  cases h
  exact ⟨loc, hslot, hsome, rfl⟩

theorem grows_of_makeDirectory (h : fs.makeDirectory cwd p = .ok fs') : Grows fs cwd [p] fs' := by
  obtain ⟨loc, hslot, hnone, rfl⟩ := makeDirectory_ok h
  refine ⟨keeps_put_of_vacant hnone _, ?_, ?_⟩
  · intro other node hvacant hnode
    by_cases hother : other = loc
    · subst hother
      have hresolve := resolve_put_directory hslot hnone
      rw [(resolve_ok_iff.1 hresolve).2] at hnode
      cases hnode
      exact ⟨rfl, p, List.mem_singleton_self p, hresolve⟩
    · rw [find?_put_of_ne _ hother, hvacant] at hnode
      cases hnode
  · rw [nodes_put_of_vacant hnone]
    exact List.prefix_append _ _

/-! ## Making several directories -/

/-- What making one directory does not destroy, making a directory and its ancestors does not. -/
theorem makeMissing_induction {P : FileSystem → Prop} {paths : List Path}
    (hstep : ∀ q ∈ paths, ∀ fs fs', P fs → fs.makeDirectory cwd q = .ok fs' → P fs') (h : P fs) :
    P (fs.makeMissing cwd paths).1 := by
  induction paths with
  | nil => exact h
  | cons p above ih =>
    have hhead := hstep p List.mem_cons_self
    have htail := ih fun q hq => hstep q (List.mem_cons_of_mem p hq)
    rw [makeMissing]
    split
    · exact h
    split
    · rename_i made hmake
      exact hhead _ _ h hmake
    · split
      · rename_i partly fault hpartly
        rwa [hpartly] at htail
      · rename_i ready hready
        rw [hready] at htail
        split
        · rename_i made hmake
          exact hhead _ _ htail hmake
        · exact htail
    · exact h

/-- However far it gets, making a directory and its ancestors adds nothing but directories among them.
-/
theorem grows_makeMissing (fs : FileSystem) (cwd : Location) (paths : List Path) :
    Grows fs cwd paths (fs.makeMissing cwd paths).1 := by
  refine makeMissing_induction (fun q hq fs' fs'' h hmake => ?_) (.refl fs cwd paths)
  exact h.trans ((grows_of_makeDirectory hmake).mono (List.cons_subset.2 ⟨hq, List.nil_subset _⟩))

theorem grows_makeDirectories (fs : FileSystem) (cwd : Location) (p : Path) :
    Grows fs cwd p.ancestors (fs.makeDirectories cwd p).1 :=
  grows_makeMissing fs cwd p.ancestors

/-! ## Writing a file -/

/-- A text is written to the place that its path leads to, and a device forgets it. -/
theorem write_ok {content : Bytes} (h : fs.write cwd p content = .ok fs') :
    ∃ loc, fs.reach cwd .create p = .ok loc ∧
      ((fs.find? loc = some .device ∧ fs' = fs) ∨
        (fs.find? loc ≠ some .device ∧ fs.find? loc ≠ some .directory ∧ fs.find? loc ≠ some .closed ∧
          fs' = fs.put loc (.file content) ∧ fs'.read cwd p = .ok content)) := by
  obtain ⟨loc, hreach, h⟩ := Result.bind_ok_iff.1 h
  refine ⟨loc, hreach, ?_⟩
  split at h
  · cases h
  · cases h
  · rename_i hdevice
    cases h
    exact .inl ⟨hdevice, rfl⟩
  · rename_i hdirectory hclosed hdevice
    cases h
    refine .inr ⟨hdevice, hdirectory, hclosed, rfl, ?_⟩
    have hroot : loc ≠ [] := by
      rintro rfl
      exact hdirectory rfl
    obtain ⟨hcheck, hleads⟩ := reach_ok_iff.1 hreach
    have hresolve : (fs.put loc (.file content)).resolve cwd p = .ok (loc, .file content) := by
      rw [resolve_ok_iff, reach_ok_iff]
      exact ⟨⟨hcheck, (hleads.put_file content hroot hdirectory hclosed).lookUp⟩, fs.find?_put_self hroot _⟩
    rw [read, hresolve]
    rfl

/-- What is written to a path is read back from it, unless the path leads to a device. -/
theorem read_or_device_of_write {content : Bytes} (h : fs.write cwd p content = .ok fs') :
    fs'.read cwd p = .ok content ∨ ∃ loc, fs'.resolve cwd p = .ok (loc, .device) := by
  obtain ⟨loc, hreach, ⟨hdevice, rfl⟩ | ⟨-, -, -, -, hread⟩⟩ := write_ok h
  · obtain ⟨hcheck, hleads⟩ := reach_ok_iff.1 hreach
    exact .inr ⟨loc, resolve_ok_iff.2 ⟨reach_ok_iff.2 ⟨hcheck, hleads.lookUp⟩, hdevice⟩⟩
  · exact .inl hread

end FileSystem
end DocPortal
