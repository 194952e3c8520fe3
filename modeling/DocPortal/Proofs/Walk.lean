import DocPortal.FileSystem.Operations
import DocPortal.Proofs.Result

/-!
# Walks as derivations

A walk that comes to its end is a derivation, one rule for each kind of step, and walking a tree
computes exactly what can be derived. With the rules at hand it is seen what changes to a tree do to a
walk: it arrives where it did if nothing that it met was taken away, and a walk that is to make a file
arrives at that file once the file is there.

## Main definitions

* `FileSystem.Leads` — some steps lead from one location to another.
* `FileSystem.Keeps` — whatever a tree holds, another one holds there, too.
* `FileSystem.KeepsKinds` — the same, but for the contents of files.
-/

namespace DocPortal

/-- Where a step goes that names nothing. -/
def Step.plain? (loc : Location) : Step → Option Location
  | .here | .slash => some loc
  | .up => some loc.tail
  | .name _ => none

/-- A node that a walk does not follow. -/
def Node.IsSolid (node : Node) : Prop := ∀ target, node ≠ .link target

theorem Node.isSolid_or_link (node : Node) : node.IsSolid ∨ ∃ target, node = .link target := by
  cases node with
  | link target => exact .inr ⟨target, rfl⟩
  | _ => exact .inl fun target heq => by cases heq

/-- Two nodes differ in nothing but the content of a file. -/
def Node.Alike (node node' : Node) : Prop :=
  node = node' ∨ ∃ content content', node = .file content ∧ node' = .file content'

namespace Node.Alike

variable {node node' node'' : Node}

theorem refl (node : Node) : Alike node node := .inl rfl

theorem trans (h : Alike node node') (h' : Alike node' node'') : Alike node node'' := by
  obtain rfl | ⟨content, content', rfl, rfl⟩ := h
  · exact h'
  · obtain rfl | ⟨-, content'', -, rfl⟩ := h'
    · exact .inr ⟨_, _, rfl, rfl⟩
    · exact .inr ⟨_, _, rfl, rfl⟩

theorem isSolid (h : Alike node node') (hsolid : node.IsSolid) : node'.IsSolid := by
  obtain rfl | ⟨-, content', -, rfl⟩ := h
  · exact hsolid
  · exact fun target heq => by cases heq

end Node.Alike

/-- A path is looked up from outside every place that the directory it stands in is outside of. -/
theorem Path.not_suffix_startsAt {place start : Location} (hplace : place ≠ []) (hstart : ¬ place <:+ start)
    (p : Path) : ¬ place <:+ p.startsAt start := by
  rw [Path.startsAt]
  split
  · rwa [List.suffix_nil]
  · exact hstart

namespace FileSystem

/-- From `start`, some steps lead to `loc`, and at most `links` links are followed. -/
inductive Leads (fs : FileSystem) (purpose : Purpose) : Nat → Location → List Step → Location → Prop
  | arrived {links : Nat} (start : Location) : Leads fs purpose links start [] start
  | move {links : Nat} {start next loc : Location} {step : Step} {rest : List Step}
      (dir : fs.find? start = some .directory) (goes : step.plain? start = some next)
      (tail : Leads fs purpose links next rest loc) : Leads fs purpose links start (step :: rest) loc
  /-- A directory is one, whether or not it may be searched. -/
  | outside {links : Nat} {start loc : Location} {rest : List Step}
      (shut : fs.find? start = some .closed) (tail : Leads fs purpose links start rest loc) :
      Leads fs purpose links start (.slash :: rest) loc
  /-- The last name of a walk may be that of nothing. -/
  | vacant {links : Nat} {start : Location} {n : Bytes} (dir : fs.find? start = some .directory)
      (short : n.length ≤ nameLimit) (nothing : fs.find? (n :: start) = none) :
      Leads fs purpose links start [.name n] (n :: start)
  | enter {links : Nat} {start loc : Location} {n : Bytes} {rest : List Step} {node : Node}
      (dir : fs.find? start = some .directory) (short : n.length ≤ nameLimit)
      (file : ¬(purpose = .create ∧ rest = [.slash])) (found : fs.find? (n :: start) = some node)
      (solid : node.IsSolid) (tail : Leads fs purpose links (n :: start) rest loc) :
      Leads fs purpose links start (.name n :: rest) loc
  | follow {links : Nat} {start loc : Location} {n : Bytes} {rest : List Step} {target : Path}
      (dir : fs.find? start = some .directory) (short : n.length ≤ nameLimit)
      (file : ¬(purpose = .create ∧ rest = [.slash]))
      (found : fs.find? (n :: start) = some (.link target))
      (tail : Leads fs purpose links (target.startsAt start) (target.steps ++ rest) loc) :
      Leads fs purpose (links + 1) start (.name n :: rest) loc

section

variable {fs : FileSystem} {purpose : Purpose} {links : Nat} {start next loc : Location}
  {step : Step} {rest steps : List Step} {n : Bytes}

/-! ## Steps of a walk -/

theorem advance_plain (hdir : fs.find? start = some .directory)
    (hstep : step.plain? start = some next) :
    fs.advance purpose start (step :: rest) = fs.advance purpose next rest := by
  cases step <;> simp_all [advance, Step.plain?]

theorem advance_outside (hshut : fs.find? start = some .closed) :
    fs.advance purpose start (.slash :: rest) = fs.advance purpose start rest := by
  simp [advance, hshut]

theorem advance_barred (hshut : fs.find? start = some .closed) (hstep : step ≠ .slash) :
    fs.advance purpose start (step :: rest) = .error .permissionDenied := by
  simp [advance, hshut, hstep]

theorem advance_elsewhere (hdir : fs.find? start ≠ some .directory)
    (hshut : fs.find? start ≠ some .closed) :
    fs.advance purpose start (step :: rest) = .error .notADirectory := by
  rw [advance.eq_def]
  dsimp only
  split
  · rename_i h
    exact absurd h hdir
  · rename_i h
    exact absurd h hshut
  · rfl

/-- A walk that gets on from a place does so in a directory, or it stays outside one. -/
theorem cases_of_advance_cons {p : Progress} (h : fs.advance purpose start (step :: rest) = .ok p) :
    fs.find? start = some .directory ∨
      (fs.find? start = some .closed ∧ step = .slash ∧ fs.advance purpose start rest = .ok p) := by
  by_cases hdir : fs.find? start = some .directory
  · exact .inl hdir
  by_cases hshut : fs.find? start = some .closed
  · by_cases hstep : step = .slash
    · subst hstep
      rw [advance_outside hshut] at h
      exact .inr ⟨hshut, rfl, h⟩
    · rw [advance_barred hshut hstep] at h
      cases h
  · rw [advance_elsewhere hdir hshut] at h
    cases h

theorem advance_name (hdir : fs.find? start = some .directory) :
    fs.advance purpose start (.name n :: rest) =
      if purpose = .create ∧ rest = [.slash] then .error .isADirectory
      else if n.length > nameLimit then .error .nameTooLong
      else match fs.find? (n :: start) with
        | none => if rest = [] then .ok (.arrived (n :: start)) else .error .noSuchEntry
        | some (.link target) => .ok (.met start target rest)
        | some _ => fs.advance purpose (n :: start) rest := by
  have hunfold := advance.eq_def fs purpose start (.name n :: rest)
  simp only [hdir] at hunfold
  exact hunfold

theorem advance_vacant (hdir : fs.find? start = some .directory) (hshort : n.length ≤ nameLimit)
    (hnone : fs.find? (n :: start) = none) :
    fs.advance purpose start [.name n] = .ok (.arrived (n :: start)) := by
  simp [advance_name hdir, Nat.not_lt.2 hshort, hnone]

theorem advance_enter {node : Node} (hdir : fs.find? start = some .directory)
    (hshort : n.length ≤ nameLimit) (hfile : ¬(purpose = .create ∧ rest = [.slash]))
    (hfound : fs.find? (n :: start) = some node) (hsolid : node.IsSolid) :
    fs.advance purpose start (.name n :: rest) = fs.advance purpose (n :: start) rest := by
  rw [advance_name hdir, if_neg hfile, if_neg (Nat.not_lt.2 hshort), hfound]
  cases node with
  | link target => exact absurd rfl (hsolid target)
  | _ => rfl

theorem advance_link {target : Path} (hdir : fs.find? start = some .directory)
    (hshort : n.length ≤ nameLimit) (hfile : ¬(purpose = .create ∧ rest = [.slash]))
    (hfound : fs.find? (n :: start) = some (.link target)) :
    fs.advance purpose start (.name n :: rest) = .ok (.met start target rest) := by
  rw [advance_name hdir, if_neg hfile, if_neg (Nat.not_lt.2 hshort), hfound]

/-- What a walk that gets on with a name has found under it. -/
theorem cases_of_advance_name {p : Progress} (hdir : fs.find? start = some .directory)
    (h : fs.advance purpose start (.name n :: rest) = .ok p) :
    n.length ≤ nameLimit ∧
      ((fs.find? (n :: start) = none ∧ rest = [] ∧ p = .arrived (n :: start)) ∨
        (¬(purpose = .create ∧ rest = [.slash]) ∧
          ((∃ target, fs.find? (n :: start) = some (.link target) ∧ p = .met start target rest) ∨
            ∃ node, fs.find? (n :: start) = some node ∧ node.IsSolid ∧
              fs.advance purpose (n :: start) rest = .ok p))) := by
  rw [advance_name hdir] at h
  split at h
  · cases h
  rename_i hfile
  split at h
  · cases h
  rename_i hshort
  refine ⟨Nat.not_lt.1 hshort, ?_⟩
  split at h
  · rename_i hnone
    split at h
    · rename_i hrest
      cases h
      exact .inl ⟨hnone, hrest, rfl⟩
    · cases h
  · rename_i target hlink
    cases h
    exact .inr ⟨hfile, .inl ⟨target, hlink, rfl⟩⟩
  · rename_i node hsolid hfound
    exact .inr ⟨hfile, .inr ⟨node, hfound, fun target heq => hsolid target (heq ▸ rfl), h⟩⟩

/-! ## Walks compute what can be derived -/

/-- Getting as far as the end is a derivation, and getting as far as a link is the first part of one. -/
theorem leads_of_advance {p : Progress} (h : fs.advance purpose start steps = .ok p) :
    match p with
    | .arrived loc => ∀ links, fs.Leads purpose links start steps loc
    | .met dir target later => ∀ links loc,
        fs.Leads purpose links (target.startsAt dir) (target.steps ++ later) loc →
          fs.Leads purpose (links + 1) start steps loc := by
  induction steps generalizing start with
  | nil =>
    cases h
    exact fun _ => .arrived start
  | cons step rest ih =>
    obtain hdir | ⟨hshut, rfl, hrest⟩ := cases_of_advance_cons h
    case inr =>
      have htail := ih hrest
      cases p with
      | arrived loc => exact fun links => .outside hshut (htail links)
      | met dir target later => exact fun links loc k => .outside hshut (htail links loc k)
    cases hplain : step.plain? start with
    | some next =>
      rw [advance_plain hdir hplain] at h
      have htail := ih h
      cases p with
      | arrived loc => exact fun links => .move hdir hplain (htail links)
      | met dir target later => exact fun links loc k => .move hdir hplain (htail links loc k)
    | none =>
      cases step with
      | here => cases hplain
      | slash => cases hplain
      | up => cases hplain
      | name n =>
        obtain ⟨hshort, ⟨hnone, rfl, rfl⟩ | ⟨hfile, ⟨target, hlink, rfl⟩ | ⟨node, hfound, hsolid, h⟩⟩⟩ :=
          cases_of_advance_name hdir h
        · exact fun links => .vacant hdir hshort hnone
        · exact fun links loc k => .follow hdir hshort hfile hlink k
        · have htail := ih h
          cases p with
          | arrived loc => exact fun links => .enter hdir hshort hfile hfound hsolid (htail links)
          | met dir target later =>
            exact fun links loc k => .enter hdir hshort hfile hfound hsolid (htail links loc k)

theorem walk_of_advance_eq {steps' : List Step} {start' : Location}
    (h : fs.advance purpose start steps = fs.advance purpose start' steps') :
    fs.walk purpose links start steps = fs.walk purpose links start' steps' := by
  rw [walk, walk, h]

/-- A walk succeeds exactly where its steps lead. -/
theorem walk_ok_iff :
    fs.walk purpose links start steps = .ok loc ↔ fs.Leads purpose links start steps loc := by
  constructor
  · intro h
    induction links generalizing start steps with
    | zero =>
      rw [walk] at h
      split at h
      · cases h
      · rename_i l hadvance
        cases h
        exact leads_of_advance hadvance 0
      · cases h
    | succ links ih =>
      rw [walk] at h
      split at h
      · cases h
      · rename_i l hadvance
        cases h
        exact leads_of_advance hadvance (links + 1)
      · rename_i dir target rest hadvance
        exact leads_of_advance hadvance links loc (ih h)
  · intro h
    induction h with
    | arrived start => rw [walk, advance]
    | move hdir hplain _ ih => rw [walk_of_advance_eq (advance_plain hdir hplain), ih]
    | outside hshut _ ih => rw [walk_of_advance_eq (advance_outside hshut), ih]
    | vacant hdir hshort hnone => rw [walk, advance_vacant hdir hshort hnone]
    | enter hdir hshort hfile hfound hsolid _ ih =>
      rw [walk_of_advance_eq (advance_enter hdir hshort hfile hfound hsolid), ih]
    | follow hdir hshort hfile hfound _ ih =>
      rw [walk, advance_link hdir hshort hfile hfound]
      exact ih

end

/-- A path reaches a location if it is fit for the system and its steps lead there. -/
theorem reach_ok_iff {fs : FileSystem} {cwd loc : Location} {purpose : Purpose} {p : Path} :
    fs.reach cwd purpose p = .ok loc ↔
      checkPath p = .ok () ∧ fs.Leads purpose linkLimit (p.startsAt cwd) p.steps loc := by
  rw [reach, Result.bind_ok_iff]
  constructor
  · rintro ⟨⟨⟩, hcheck, hwalk⟩
    exact ⟨hcheck, walk_ok_iff.1 hwalk⟩
  · rintro ⟨hcheck, hleads⟩
    exact ⟨(), hcheck, walk_ok_iff.2 hleads⟩

theorem resolve_ok_iff {fs : FileSystem} {cwd loc : Location} {p : Path} {node : Node} :
    fs.resolve cwd p = .ok (loc, node) ↔
      fs.reach cwd .lookUp p = .ok loc ∧ fs.find? loc = some node := by
  rw [resolve, Result.bind_ok_iff]
  constructor
  · rintro ⟨l, hl, h⟩
    split at h
    · rename_i found hfound
      cases h
      exact ⟨hl, hfound⟩
    · cases h
  · rintro ⟨hl, hnode⟩
    exact ⟨loc, hl, by rw [hnode]⟩

/-! ## Trees that keep what another tree holds -/

/-- Whatever the first tree holds, the second holds it in the same place. -/
def Keeps (fs fs' : FileSystem) : Prop :=
  ∀ loc node, fs.find? loc = some node → fs'.find? loc = some node

theorem Keeps.refl (fs : FileSystem) : Keeps fs fs := fun _ _ h => h

theorem Keeps.trans {fs fs' fs'' : FileSystem} (h : Keeps fs fs') (h' : Keeps fs' fs'') :
    Keeps fs fs'' :=
  fun loc node hloc => h' loc node (h loc node hloc)

/-- Whatever the first tree holds, the second holds the like of it in the same place. -/
def KeepsKinds (fs fs' : FileSystem) : Prop :=
  ∀ loc node, fs.find? loc = some node → ∃ node', fs'.find? loc = some node' ∧ node.Alike node'

theorem Keeps.kinds {fs fs' : FileSystem} (h : Keeps fs fs') : KeepsKinds fs fs' :=
  fun loc node hloc => ⟨node, h loc node hloc, .refl node⟩

theorem KeepsKinds.trans {fs fs' fs'' : FileSystem} (h : KeepsKinds fs fs') (h' : KeepsKinds fs' fs'') :
    KeepsKinds fs fs'' := by
  intro loc node hloc
  obtain ⟨node', hloc', halike⟩ := h loc node hloc
  obtain ⟨node'', hloc'', halike'⟩ := h' loc node' hloc'
  exact ⟨node'', hloc'', halike.trans halike'⟩

theorem KeepsKinds.find?_eq {fs fs' : FileSystem} (h : KeepsKinds fs fs') {loc : Location} {node : Node}
    (hloc : fs.find? loc = some node) (hfile : ∀ content, node ≠ .file content) : fs'.find? loc = some node := by
  obtain ⟨node', hloc', rfl | ⟨content, -, rfl, -⟩⟩ := h loc node hloc
  · exact hloc'
  · exact absurd rfl (hfile content)

section

variable {fs fs' : FileSystem} {purpose : Purpose} {links : Nat} {start loc : Location}
  {steps : List Step}

/-- A walk that arrives at a node arrives in every tree that keeps the kinds of what was there. -/
theorem Leads.mono_of_kinds (hkinds : KeepsKinds fs fs') (h : fs.Leads purpose links start steps loc)
    (hloc : fs.find? loc ≠ none) : fs'.Leads purpose links start steps loc := by
  have hdir : ∀ {loc}, fs.find? loc = some .directory → fs'.find? loc = some .directory :=
    fun hfound => hkinds.find?_eq hfound nofun
  induction h with
  | arrived start => exact .arrived start
  | move hstart hplain _ ih => exact .move (hdir hstart) hplain (ih hloc)
  | outside hshut _ ih => exact .outside (hkinds.find?_eq hshut nofun) (ih hloc)
  | vacant hstart hshort hnone => exact absurd hnone hloc
  | enter hstart hshort hfile hfound hsolid _ ih =>
    obtain ⟨node', hfound', halike⟩ := hkinds _ _ hfound
    exact .enter (hdir hstart) hshort hfile hfound' (halike.isSolid hsolid) (ih hloc)
  | follow hstart hshort hfile hfound _ ih =>
    exact .follow (hdir hstart) hshort hfile (hkinds.find?_eq hfound nofun) (ih hloc)

/-- A walk that arrives at a node arrives at it in every tree that keeps what was there. -/
theorem Leads.mono (hkeeps : Keeps fs fs') (h : fs.Leads purpose links start steps loc)
    (hloc : fs.find? loc ≠ none) : fs'.Leads purpose links start steps loc :=
  h.mono_of_kinds hkeeps.kinds hloc

/-- Steps that lead somewhere to make a file lead there to look what is there, too. -/
theorem Leads.lookUp (h : fs.Leads purpose links start steps loc) :
    fs.Leads .lookUp links start steps loc := by
  induction h with
  | arrived start => exact .arrived start
  | move hdir hplain _ ih => exact .move hdir hplain ih
  | outside hshut _ ih => exact .outside hshut ih
  | vacant hdir hshort hnone => exact .vacant hdir hshort hnone
  | enter hdir hshort _ hfound hsolid _ ih => exact .enter hdir hshort (by simp) hfound hsolid ih
  | follow hdir hshort _ hfound _ ih => exact .follow hdir hshort (by simp) hfound ih

/-- What a path leads to stays where it is. -/
theorem KeepsKinds.resolve (hkinds : KeepsKinds fs fs') {cwd : Location} {p : Path} {node : Node}
    (h : fs.resolve cwd p = .ok (loc, node)) :
    ∃ node', fs'.resolve cwd p = .ok (loc, node') ∧ node.Alike node' := by
  obtain ⟨hreach, hnode⟩ := resolve_ok_iff.1 h
  obtain ⟨hcheck, hleads⟩ := reach_ok_iff.1 hreach
  obtain ⟨node', hnode', halike⟩ := hkinds loc node hnode
  have hleads' := hleads.mono_of_kinds hkinds (by rw [hnode]; exact Option.some_ne_none node)
  exact ⟨node', resolve_ok_iff.2 ⟨reach_ok_iff.2 ⟨hcheck, hleads'⟩, hnode'⟩, halike⟩

/-- What a path leads to stays what it leads to. -/
theorem Keeps.resolve (hkeeps : Keeps fs fs') {cwd : Location} {p : Path} {node : Node}
    (h : fs.resolve cwd p = .ok (loc, node)) : fs'.resolve cwd p = .ok (loc, node) := by
  rw [resolve_ok_iff, reach_ok_iff] at h ⊢
  obtain ⟨⟨hcheck, hleads⟩, hnode⟩ := h
  have hloc : fs.find? loc ≠ none := by
    rw [hnode]
    exact Option.some_ne_none node
  exact ⟨⟨hcheck, hleads.mono hkeeps hloc⟩, hkeeps _ _ hnode⟩

/-! ## Going on from a directory -/

/-- A walk comes by where its first steps lead. -/
theorem Leads.split {further : List Step} (h : fs.Leads .lookUp links start (steps ++ further) loc) :
    ∃ links' mid, fs.Leads .lookUp links start steps mid ∧ fs.Leads .lookUp links' mid further loc := by
  -- A link puts steps of its own before the rest, so that only the links get fewer.
  induction links using Nat.strongRecOn generalizing start steps with
  | ind links hlinks =>
    induction steps generalizing start with
    | nil => exact ⟨links, start, .arrived start, h⟩
    | cons step steps ih =>
      rw [List.cons_append] at h
      generalize hrest : steps ++ further = rest at h
      cases h with
      | move hdir hplain htail =>
        obtain ⟨links', mid, hmid, hfurther⟩ := ih (hrest ▸ htail)
        exact ⟨links', mid, .move hdir hplain hmid, hfurther⟩
      | outside hshut htail =>
        obtain ⟨links', mid, hmid, hfurther⟩ := ih (hrest ▸ htail)
        exact ⟨links', mid, .outside hshut hmid, hfurther⟩
      | @vacant _ _ n hdir hshort hnone =>
        obtain ⟨rfl, rfl⟩ := List.append_eq_nil_iff.1 hrest
        exact ⟨links, n :: start, .vacant hdir hshort hnone, .arrived _⟩
      | enter hdir hshort _ hfound hsolid htail =>
        obtain ⟨links', mid, hmid, hfurther⟩ := ih (hrest ▸ htail)
        exact ⟨links', mid, .enter hdir hshort (by simp) hfound hsolid hmid, hfurther⟩
      | @follow links _ _ _ _ target hdir hshort _ hfound htail =>
        rw [← hrest, ← List.append_assoc] at htail
        obtain ⟨links', mid, hmid, hfurther⟩ := hlinks links (Nat.lt_succ_self links) htail
        exact ⟨links', mid, .follow hdir hshort (by simp) hfound hmid, hfurther⟩

/-- A walk that stays where it has come to has come to a directory. -/
theorem Leads.directory_of_here {dir : Location} (h : fs.Leads .lookUp links start (steps ++ [.here]) dir) :
    fs.find? dir = some .directory := by
  obtain ⟨links', mid, -, hlast⟩ := h.split
  cases hlast with
  | move hdir hplain hend =>
    cases hplain
    cases hend
    exact hdir

/-- Steps that stay where they are lead nowhere else. -/
theorem Leads.eq_of_stay (hstay : ∀ step ∈ steps, step = .here ∨ step = .slash)
    (h : fs.Leads .lookUp links start steps loc) : loc = start := by
  induction h with
  | arrived start => rfl
  | move _ hplain _ ih =>
    obtain ⟨hstep, hrest⟩ := List.forall_mem_cons.1 hstay
    rw [ih hrest]
    rcases hstep with rfl | rfl <;> exact (Option.some.inj hplain).symm
  | outside _ _ ih => exact ih (List.forall_mem_cons.1 hstay).2
  | vacant | enter | follow => simp at hstay

/-- A walk to a directory and one that starts there, however many links it may follow, are a walk. -/
theorem Leads.append {dir : Location} {further : List Step} (h : fs.Leads .lookUp links start steps dir)
    (hdir : fs.find? dir = some .directory) (hfurther : ∀ links, fs.Leads .lookUp links dir further loc) :
    fs.Leads .lookUp links start (steps ++ further) loc := by
  induction h with
  | arrived start => exact hfurther _
  | move hstart hplain _ ih => exact .move hstart hplain (ih hdir hfurther)
  | outside hshut _ ih => exact .outside hshut (ih hdir hfurther)
  | vacant _ _ hnone =>
    rw [hnone] at hdir
    cases hdir
  | enter hstart hshort _ hfound hsolid _ ih =>
    exact .enter hstart hshort (by simp) hfound hsolid (ih hdir hfurther)
  | follow hstart hshort _ hfound _ ih =>
    have hrest := ih hdir hfurther
    rw [List.append_assoc] at hrest
    exact .follow hstart hshort (by simp) hfound hrest

/-- A walk that has come to a directory goes on from there. Steps at the end that stay there do not count. -/
theorem Leads.onward {dir : Location} {tail further : List Step}
    (hstay : ∀ step ∈ tail, step = .here ∨ step = .slash)
    (h : fs.Leads .lookUp links start (steps ++ tail) dir) (hdir : fs.find? dir = some .directory)
    (hfurther : ∀ links, fs.Leads .lookUp links dir further loc) :
    fs.Leads .lookUp links start (steps ++ further) loc := by
  obtain ⟨links', mid, hmid, htail⟩ := h.split
  obtain rfl := htail.eq_of_stay hstay
  exact hmid.append hdir hfurther

/-! ## Files that take the place of what was there -/

/-- From outside the place of a link no walk comes into that place. -/
theorem Leads.not_suffix {place : Location} {target : Path}
    (hlink : fs.find? place = some (.link target)) (h : fs.Leads purpose links start steps loc)
    (hstart : ¬ place <:+ start) : ¬ place <:+ loc := by
  have hplace : place ≠ [] := by
    rintro rfl
    cases hlink
  induction h with
  | arrived start => exact hstart
  | @move links start next loc step rest hdir hplain _ ih =>
    refine ih ?_
    cases step with
    | here =>
      cases hplain
      exact hstart
    | slash =>
      cases hplain
      exact hstart
    | up =>
      cases hplain
      exact fun hsuffix => hstart (hsuffix.trans (List.tail_suffix start))
    | name n => cases hplain
  | outside hshut _ ih => exact ih hstart
  | vacant hdir hshort hnone =>
    rw [List.suffix_cons_iff, not_or]
    refine ⟨?_, hstart⟩
    rintro rfl
    rw [hlink] at hnone
    cases hnone
  | enter hdir hshort hfile hfound hsolid _ ih =>
    refine ih ?_
    rw [List.suffix_cons_iff, not_or]
    refine ⟨?_, hstart⟩
    rintro rfl
    rw [hlink] at hfound
    exact hsolid target (Option.some.inj hfound).symm
  | @follow links start loc n rest next hdir hshort hfile hfound _ ih =>
    exact ih (next.not_suffix_startsAt hplace hstart)

/-- A walk that is to make a file where there is no directory arrives at the file when it is there. -/
theorem Leads.put_file (content : Bytes) (h : fs.Leads .create links start steps loc)
    (hroot : loc ≠ []) (hloc : fs.find? loc ≠ some .directory) (hshut : fs.find? loc ≠ some .closed) :
    (fs.put loc (.file content)).Leads .create links start steps loc := by
  have hdirs : ∀ dir node, node = .directory ∨ node = .closed → fs.find? dir = some node →
      (fs.put loc (.file content)).find? dir = some node := by
    intro dir node hnode hdir
    rw [find?_put_of_ne, hdir]
    rintro rfl
    rcases hnode with rfl | rfl
    · exact hloc hdir
    · exact hshut hdir
  have hself := fs.find?_put_self hroot (.file content)
  have hsolid' : (Node.file content).IsSolid := fun target heq => by cases heq
  induction h with
  | arrived start => exact .arrived start
  | move hdir hplain _ ih =>
    exact .move (hdirs _ _ (.inl rfl) hdir) hplain (ih hroot hloc hshut hdirs hself)
  | outside hclosed _ ih =>
    exact .outside (hdirs _ _ (.inr rfl) hclosed) (ih hroot hloc hshut hdirs hself)
  | vacant hdir hshort hnone =>
    exact .enter (hdirs _ _ (.inl rfl) hdir) hshort (by simp) hself hsolid' (.arrived _)
  | @enter links start loc n rest node hdir hshort hfile hfound hsolid _ ih =>
    have htail := ih hroot hloc hshut hdirs hself
    by_cases heq : n :: start = loc
    · subst heq
      exact .enter (hdirs _ _ (.inl rfl) hdir) hshort hfile hself hsolid' htail
    · refine .enter (hdirs _ _ (.inl rfl) hdir) hshort hfile ?_ hsolid htail
      rw [find?_put_of_ne _ heq, hfound]
  | @follow links start loc n rest target hdir hshort hfile hfound tail ih =>
    refine .follow (hdirs _ _ (.inl rfl) hdir) hshort hfile ?_ (ih hroot hloc hshut hdirs hself)
    rw [find?_put_of_ne, hfound]
    -- The walk does not end where it has followed a link: it went on from outside that place.
    rintro rfl
    have hstart : ¬ n :: start <:+ start := fun hsuffix =>
      Nat.not_succ_le_self start.length hsuffix.length_le
    exact tail.not_suffix hfound (target.not_suffix_startsAt hroot hstart) (List.suffix_refl _)

end

end FileSystem
end DocPortal
