import DocPortal.Proofs.Walk

/-!
# Where a look-up ends early

A look-up that does not come to a node has met an obstacle, and it is the obstacle that decides the fault: a
name that is missing, something in the way that is no directory, a directory that may not be searched, a name
that is too long, a link too many. Up to there it has got on by the rules of a walk. Whatever the tree holds,
with links in chains and in circles, a look-up either comes to a node or meets an obstacle.

## Main definitions

* `FileSystem.Stops` — a look-up meets an obstacle.
* `FileSystem.ArrivesAt` — a path leads to a node.
* `FileSystem.StopsAt` — a path leads to no node, for a reason.
-/

namespace DocPortal
namespace FileSystem

/-- From `start`, with some steps to go and at most `links` links to follow, a look-up meets an obstacle. -/
inductive Stops (fs : FileSystem) : Nat → Location → List Step → PathFault → Prop
  /-- There is nothing at the end. -/
  | lost {links : Nat} {start : Location} (nothing : fs.find? start = none) :
      Stops fs links start [] .noSuchEntry
  | missing {links : Nat} {start : Location} {n : Bytes} {rest : List Step}
      (dir : fs.find? start = some .directory) (short : n.length ≤ nameLimit)
      (nothing : fs.find? (n :: start) = none) : Stops fs links start (.name n :: rest) .noSuchEntry
  | elsewhere {links : Nat} {start : Location} {step : Step} {rest : List Step}
      (dir : fs.find? start ≠ some .directory) (shut : fs.find? start ≠ some .closed) :
      Stops fs links start (step :: rest) .notADirectory
  | barred {links : Nat} {start : Location} {step : Step} {rest : List Step}
      (shut : fs.find? start = some .closed) (inside : step ≠ .slash) :
      Stops fs links start (step :: rest) .permissionDenied
  | long {links : Nat} {start : Location} {n : Bytes} {rest : List Step}
      (dir : fs.find? start = some .directory) (long : nameLimit < n.length) :
      Stops fs links start (.name n :: rest) .nameTooLong
  | exhausted {start : Location} {n : Bytes} {rest : List Step} {target : Path}
      (dir : fs.find? start = some .directory) (short : n.length ≤ nameLimit)
      (found : fs.find? (n :: start) = some (.link target)) :
      Stops fs 0 start (.name n :: rest) .tooManyLinks
  | move {links : Nat} {start next : Location} {step : Step} {rest : List Step} {fault : PathFault}
      (dir : fs.find? start = some .directory) (goes : step.plain? start = some next)
      (tail : Stops fs links next rest fault) : Stops fs links start (step :: rest) fault
  | outside {links : Nat} {start : Location} {rest : List Step} {fault : PathFault}
      (shut : fs.find? start = some .closed) (tail : Stops fs links start rest fault) :
      Stops fs links start (.slash :: rest) fault
  | enter {links : Nat} {start : Location} {n : Bytes} {rest : List Step} {node : Node}
      {fault : PathFault} (dir : fs.find? start = some .directory) (short : n.length ≤ nameLimit)
      (found : fs.find? (n :: start) = some node) (solid : node.IsSolid)
      (tail : Stops fs links (n :: start) rest fault) : Stops fs links start (.name n :: rest) fault
  | follow {links : Nat} {start : Location} {n : Bytes} {rest : List Step} {target : Path}
      {fault : PathFault} (dir : fs.find? start = some .directory) (short : n.length ≤ nameLimit)
      (found : fs.find? (n :: start) = some (.link target))
      (tail : Stops fs links (target.startsAt start) (target.steps ++ rest) fault) :
      Stops fs (links + 1) start (.name n :: rest) fault

section

variable {fs : FileSystem} {links : Nat} {start : Location} {steps rest : List Step} {n : Bytes}
  {fault : PathFault}

/-! ## Obstacles are met -/

theorem advance_missing (hdir : fs.find? start = some .directory) (hshort : n.length ≤ nameLimit)
    (hnone : fs.find? (n :: start) = none) (hrest : rest ≠ []) :
    fs.advance .lookUp start (.name n :: rest) = .error .noSuchEntry := by
  simp [advance_name hdir, Nat.not_lt.2 hshort, hnone, hrest]

theorem advance_long (hdir : fs.find? start = some .directory) (hlong : nameLimit < n.length) :
    fs.advance .lookUp start (.name n :: rest) = .error .nameTooLong := by
  simp [advance_name hdir, hlong]

/-- A walk does not get beyond the obstacle. It may have come to its end where there is nothing. -/
theorem Stops.walk_eq (h : fs.Stops links start steps fault) :
    fs.walk .lookUp links start steps = .error fault ∨
      fault = .noSuchEntry ∧ ∃ loc, fs.walk .lookUp links start steps = .ok loc ∧ fs.find? loc = none := by
  induction h with
  | lost hnone => exact .inr ⟨rfl, _, by rw [walk, advance], hnone⟩
  | @missing links start n rest hdir hshort hnone =>
    by_cases hrest : rest = []
    · subst hrest
      exact .inr ⟨rfl, _, by rw [walk, advance_vacant hdir hshort hnone], hnone⟩
    · exact .inl (by rw [walk, advance_missing hdir hshort hnone hrest])
  | elsewhere hdir hshut => exact .inl (by rw [walk, advance_elsewhere hdir hshut])
  | barred hshut hinside => exact .inl (by rw [walk, advance_barred hshut hinside])
  | long hdir hlong => exact .inl (by rw [walk, advance_long hdir hlong])
  | exhausted hdir hshort hfound => exact .inl (by rw [walk, advance_link hdir hshort (by simp) hfound])
  | move hdir hplain _ ih =>
    rw [walk_of_advance_eq (advance_plain hdir hplain)]
    exact ih
  | outside hshut _ ih =>
    rw [walk_of_advance_eq (advance_outside hshut)]
    exact ih
  | enter hdir hshort hfound hsolid _ ih =>
    rw [walk_of_advance_eq (advance_enter hdir hshort (by simp) hfound hsolid)]
    exact ih
  | follow hdir hshort hfound _ ih =>
    rw [walk, advance_link hdir hshort (by simp) hfound]
    exact ih

/-- A look-up comes to a node or meets an obstacle: for every number of links that may still be followed, step
by step. -/
theorem leads_or_stops (fs : FileSystem) (links : Nat) (start : Location) (steps : List Step) :
    (∃ loc node, fs.Leads .lookUp links start steps loc ∧ fs.find? loc = some node) ∨
      ∃ fault, fs.Stops links start steps fault := by
  induction links using Nat.strongRecOn generalizing start steps with
  | ind links hlinks =>
    induction steps generalizing start with
    | nil =>
      cases hnode : fs.find? start with
      | none => exact .inr ⟨_, .lost hnode⟩
      | some node => exact .inl ⟨start, node, .arrived start, hnode⟩
    | cons step rest ih =>
      by_cases hshut : fs.find? start = some .closed
      · by_cases hstep : step = .slash
        · subst hstep
          obtain ⟨loc, node, hleads, hnode⟩ | ⟨fault, hstops⟩ := ih start
          · exact .inl ⟨loc, node, .outside hshut hleads, hnode⟩
          · exact .inr ⟨fault, .outside hshut hstops⟩
        · exact .inr ⟨_, .barred hshut hstep⟩
      by_cases hdir : fs.find? start = some .directory
      case neg => exact .inr ⟨_, .elsewhere hdir hshut⟩
      cases hplain : step.plain? start with
      | some next =>
        obtain ⟨loc, node, hleads, hnode⟩ | ⟨fault, hstops⟩ := ih next
        · exact .inl ⟨loc, node, .move hdir hplain hleads, hnode⟩
        · exact .inr ⟨fault, .move hdir hplain hstops⟩
      | none =>
        obtain ⟨n, rfl⟩ : ∃ n, step = .name n := by
          cases step with
          | name n => exact ⟨n, rfl⟩
          | _ => cases hplain
        by_cases hlong : nameLimit < n.length
        · exact .inr ⟨_, .long hdir hlong⟩
        have hshort : n.length ≤ nameLimit := Nat.not_lt.1 hlong
        cases hfound : fs.find? (n :: start) with
        | none => exact .inr ⟨_, .missing hdir hshort hfound⟩
        | some node =>
          obtain hsolid | ⟨target, rfl⟩ := node.isSolid_or_link
          · obtain ⟨loc, node', hleads, hnode⟩ | ⟨fault, hstops⟩ := ih (n :: start)
            · exact .inl ⟨loc, node', .enter hdir hshort (by simp) hfound hsolid hleads, hnode⟩
            · exact .inr ⟨fault, .enter hdir hshort hfound hsolid hstops⟩
          · cases links with
            | zero => exact .inr ⟨_, .exhausted hdir hshort hfound⟩
            | succ links =>
              obtain ⟨loc, node', hleads, hnode⟩ | ⟨fault, hstops⟩ :=
                hlinks links (Nat.lt_succ_self links) (target.startsAt start) (target.steps ++ rest)
              · exact .inl ⟨loc, node', .follow hdir hshort (by simp) hfound hleads, hnode⟩
              · exact .inr ⟨fault, .follow hdir hshort hfound hstops⟩

/-- The faults of obstacles. -/
theorem Stops.cases_fault (h : fs.Stops links start steps fault) :
    fault = .noSuchEntry ∨ fault = .notADirectory ∨ fault = .permissionDenied ∨
      fault = .nameTooLong ∨ fault = .tooManyLinks := by
  induction h with
  | lost | missing | elsewhere | barred | long | exhausted => simp
  | move _ _ _ ih | outside _ _ ih | enter _ _ _ _ _ ih | follow _ _ _ _ ih => exact ih

end

/-! ## Paths -/

/-- What is no path for the system holds a zero byte, is empty or is too long. -/
theorem cases_of_checkPath_error {p : Path} {fault : PathFault} (h : checkPath p = .error fault) :
    (fault = .zeroByte ∧ 0 ∈ p.bytes) ∨ (fault = .noSuchEntry ∧ p.bytes = []) ∨
      (fault = .nameTooLong ∧ pathLimit < p.bytes.length) := by
  rw [checkPath] at h
  split at h
  · rename_i hzero
    cases h
    exact .inl ⟨rfl, hzero⟩
  split at h
  · rename_i hnil
    cases h
    exact .inr (.inl ⟨rfl, hnil⟩)
  split at h
  · rename_i hlong
    cases h
    exact .inr (.inr ⟨rfl, hlong⟩)
  · cases h

/-- A look-up of a path comes to a node where the steps of the path lead. -/
def ArrivesAt (fs : FileSystem) (cwd : Location) (p : Path) (loc : Location) (node : Node) : Prop :=
  checkPath p = .ok () ∧ fs.Leads .lookUp linkLimit (p.startsAt cwd) p.steps loc ∧ fs.find? loc = some node

/-- A look-up of a path ends early where the steps of the path do. -/
def StopsAt (fs : FileSystem) (cwd : Location) (p : Path) (fault : PathFault) : Prop :=
  checkPath p = .ok () ∧ fs.Stops linkLimit (p.startsAt cwd) p.steps fault

variable {fs : FileSystem} {cwd loc : Location} {p : Path} {node : Node} {fault : PathFault}

theorem arrivesAt_iff : fs.ArrivesAt cwd p loc node ↔ fs.resolve cwd p = .ok (loc, node) := by
  rw [resolve_ok_iff, reach_ok_iff, and_assoc]
  rfl

theorem resolve_of_checkPath_error (h : checkPath p = .error fault) : fs.resolve cwd p = .error fault := by
  rw [resolve, reach, h]
  rfl

theorem resolve_of_zero_mem (h : 0 ∈ p.bytes) : fs.resolve cwd p = .error .zeroByte :=
  resolve_of_checkPath_error (if_pos h)

theorem resolve_of_bytes_nil (h : p.bytes = []) : fs.resolve cwd p = .error .noSuchEntry :=
  resolve_of_checkPath_error (by simp [checkPath, h])

theorem resolve_of_long (hzero : 0 ∉ p.bytes) (h : pathLimit < p.bytes.length) :
    fs.resolve cwd p = .error .nameTooLong := by
  have hnil : p.bytes ≠ [] := fun hnil => by simp [hnil] at h
  exact resolve_of_checkPath_error (by simp [checkPath, hzero, hnil, h])

theorem StopsAt.resolve_eq (h : fs.StopsAt cwd p fault) : fs.resolve cwd p = .error fault := by
  obtain ⟨hcheck, hstops⟩ := h
  rw [resolve, reach, hcheck]
  obtain hwalk | ⟨rfl, loc, hwalk, hnone⟩ := hstops.walk_eq
  · simp [Bind.bind, Except.bind, hwalk]
  · simp [Bind.bind, Except.bind, hwalk, hnone]

/-- **A look-up fails exactly where it meets an obstacle.**  It fails with the fault of the obstacle, if the
path is one for the system at all. -/
theorem resolve_error_iff :
    fs.resolve cwd p = .error fault ↔ checkPath p = .error fault ∨ fs.StopsAt cwd p fault := by
  constructor
  · intro h
    cases hcheck : checkPath p with
    | error fault' =>
      rw [resolve_of_checkPath_error hcheck] at h
      cases h
      exact .inl rfl
    | ok u =>
      obtain ⟨loc, node, hleads, hnode⟩ | ⟨fault', hstops⟩ :=
        leads_or_stops fs linkLimit (p.startsAt cwd) p.steps
      · have harrives : fs.ArrivesAt cwd p loc node := ⟨hcheck, hleads, hnode⟩
        rw [arrivesAt_iff.1 harrives] at h
        cases h
      · have hstop : fs.StopsAt cwd p fault' := ⟨hcheck, hstops⟩
        rw [hstop.resolve_eq] at h
        cases h
        exact .inr hstop
  · rintro (h | h)
    · exact resolve_of_checkPath_error h
    · exact h.resolve_eq

end FileSystem
end DocPortal
