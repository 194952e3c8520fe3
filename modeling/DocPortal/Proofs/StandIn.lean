import DocPortal.Proofs.Exactness
import DocPortal.Proofs.Memory
import DocPortal.Proofs.Repetition
import Mathlib.Data.List.Infix

/-!
# Memory in the stead of a disk

If a tree holds the files and the directories that were registered in memory and nothing else, the listing in
memory and that of the tree answer alike: with the same entries, or with failures of the same kind at the same
path. That is so for the paths that the system takes, and for no others, since memory does not ask how long a
name is. A path through a file is left out: in memory there is nothing, and a tree says that the file is no
directory.

## Main definitions

* `FileSystem.Mirrors` — a tree holds what was registered.
* `FileSystem.Takes` — a path is one that the system looks up.
* `AnswersAlike` — two answers to a path say the same.
-/

namespace DocPortal

/-! ## Where names lead -/

namespace Location

/-- Where steps lead if names go down and all others stay. -/
def along (start : Location) (steps : List Step) : Location := (steps.filterMap Step.name?).reverse ++ start

@[simp] theorem along_nil (start : Location) : along start [] = start := rfl

@[simp] theorem along_name (start : Location) (n : Bytes) (steps : List Step) :
    along start (.name n :: steps) = along (n :: start) steps := by
  simp [along, Step.name?]

theorem suffix_along (start : Location) (steps : List Step) : start <:+ along start steps :=
  List.suffix_append _ _

end Location

namespace FileSystem

variable {fs : FileSystem} {links : Nat} {start loc dir : Location} {steps : List Step} {n : Bytes} {node : Node}

/-- What lies above something is a directory. -/
theorem WellFormed.directory_of_suffix (hfs : fs.WellFormed) (h : fs.find? loc = some node) (hdir : dir <:+ loc)
    (hne : dir ≠ loc) : fs.find? dir = some .directory := by
  induction loc generalizing node with
  | nil => exact absurd (List.suffix_nil.1 hdir) hne
  | cons n parent ih =>
    have hparent := (hfs.place h).2
    obtain rfl | hne' := eq_or_ne dir parent
    · exact hparent
    · exact ih hparent ((List.suffix_cons_iff.1 hdir).resolve_left hne) hne'

/-- Names that are looked up in directories on the way have a length that the system takes. -/
def FitsAlong (fs : FileSystem) (start : Location) (steps : List Step) : Prop :=
  ∀ n dir, start <:+ dir → n :: dir <:+ start.along steps → fs.find? dir = some .directory → n.length ≤ nameLimit

theorem FitsAlong.enter (h : fs.FitsAlong start (.name n :: steps)) : fs.FitsAlong (n :: start) steps :=
  fun m dir hdir hm => h m dir ((List.suffix_cons n start).trans hdir) (by rwa [Location.along_name])

theorem FitsAlong.length_le (h : fs.FitsAlong start (.name n :: steps)) (hdir : fs.find? start = some .directory) :
    n.length ≤ nameLimit := by
  refine h n start (List.suffix_refl _) ?_ hdir
  rw [Location.along_name]
  exact Location.suffix_along _ _

/-- Names lead to what is where they lead, but not through a file that is to be a directory. -/
theorem WellFormed.leads_along (hfs : fs.WellFormed) (links : Nat) (hup : .up ∉ steps)
    (hfits : fs.FitsAlong start steps) (hnode : fs.find? (start.along steps) = some node)
    (hsolid : node.IsSolid) (hshut : node ≠ .closed) :
    fs.Leads .lookUp links start steps (start.along steps) ∨
      (node ≠ .directory ∧ fs.Stops links start steps .notADirectory) := by
  induction steps generalizing start with
  | nil => exact .inl (.arrived start)
  | cons step rest ih =>
    have hrest := List.not_mem_of_not_mem_cons hup
    have hsuffix := Location.suffix_along start (step :: rest)
    by_cases hend : start = start.along (step :: rest) ∧ node ≠ .directory
    · obtain ⟨hend, hdir⟩ := hend
      rw [← hend] at hnode
      refine .inr ⟨hdir, .elsewhere ?_ ?_⟩
      · rw [hnode]
        exact fun heq => hdir (Option.some.inj heq)
      · rw [hnode]
        exact fun heq => hshut (Option.some.inj heq)
    have hdir : fs.find? start = some .directory := by
      by_cases heq : start = start.along (step :: rest)
      · obtain rfl : node = .directory := by
          by_contra hne
          exact hend ⟨heq, hne⟩
        rwa [← heq] at hnode
      · exact hfs.directory_of_suffix hnode hsuffix heq
    cases step with
    | up => exact absurd List.mem_cons_self hup
    | here => exact (ih hrest hfits hnode).imp (.move hdir rfl) fun ⟨hne, h⟩ => ⟨hne, .move hdir rfl h⟩
    | slash => exact (ih hrest hfits hnode).imp (.move hdir rfl) fun ⟨hne, h⟩ => ⟨hne, .move hdir rfl h⟩
    | name n =>
      have hshort := hfits.length_le hdir
      rw [Location.along_name] at hnode ⊢
      obtain ⟨found, hfound, hfoundSolid⟩ : ∃ found, fs.find? (n :: start) = some found ∧ found.IsSolid := by
        by_cases heq : n :: start = Location.along (n :: start) rest
        · rw [← heq] at hnode
          exact ⟨node, hnode, hsolid⟩
        · exact ⟨_, hfs.directory_of_suffix hnode (Location.suffix_along _ _) heq, nofun⟩
      exact (ih hrest hfits.enter hnode).imp (.enter hdir hshort (by simp) hfound hfoundSolid)
        fun ⟨hne, h⟩ => ⟨hne, .enter hdir hshort hfound hfoundSolid h⟩

/-- Where nothing is and only directories are in between, the first name that is missing is an obstacle. -/
theorem stops_along (hup : .up ∉ steps) (hfits : fs.FitsAlong start steps) (hstart : fs.find? start = some .directory)
    (hnone : fs.find? (start.along steps) = none)
    (hbetween : ∀ dir, dir <:+ start.along steps → fs.find? dir = none ∨ fs.find? dir = some .directory) :
    fs.Stops links start steps .noSuchEntry := by
  induction steps generalizing start with
  | nil =>
    rw [Location.along_nil, hstart] at hnone
    cases hnone
  | cons step rest ih =>
    have hrest := List.not_mem_of_not_mem_cons hup
    cases step with
    | up => exact absurd List.mem_cons_self hup
    | here => exact .move hstart rfl (ih hrest hfits hstart hnone hbetween)
    | slash => exact .move hstart rfl (ih hrest hfits hstart hnone hbetween)
    | name n =>
      have hshort := hfits.length_le hstart
      rw [Location.along_name] at hnone hbetween
      obtain hmissing | hdir := hbetween (n :: start) (Location.suffix_along _ _)
      · exact .missing hstart hshort hmissing
      · exact .enter hstart hshort hdir nofun (ih hrest hfits.enter hdir hnone hbetween)

/-- A name that is too long for the system is an obstacle. -/
theorem WellFormed.stops_of_long (hfs : fs.WellFormed) (hup : .up ∉ steps)
    (hstart : fs.find? start = some .directory) (hdir : fs.find? dir = some .directory)
    (hn : n :: dir <:+ start.along steps) (hsuffix : start <:+ dir) (hlong : nameLimit < n.length) :
    fs.Stops links start steps .nameTooLong := by
  induction steps generalizing start with
  | nil => exact absurd (hn.trans hsuffix) (not_cons_suffix n dir)
  | cons step rest ih =>
    have hrest := List.not_mem_of_not_mem_cons hup
    cases step with
    | up => exact absurd List.mem_cons_self hup
    | here => exact .move hstart rfl (ih hrest hstart hn hsuffix)
    | slash => exact .move hstart rfl (ih hrest hstart hn hsuffix)
    | name m =>
      by_cases hm : nameLimit < m.length
      · exact .long hstart hm
      rw [Location.along_name] at hn
      have hnext : m :: start <:+ dir := by
        have hlength : (m :: start).length ≤ (n :: dir).length := by
          have := hsuffix.length_le
          simpa using this
        have hboth := List.suffix_of_suffix_length_le (Location.suffix_along (m :: start) rest) hn hlength
        refine (List.suffix_cons_iff.1 hboth).resolve_left fun heq => hm ?_
        rwa [(List.cons.inj heq).1]
      have hfound : fs.find? (m :: start) = some .directory := by
        by_cases heq : m :: start = dir
        · rwa [heq]
        · exact hfs.directory_of_suffix hdir hnext heq
      exact .enter hstart (Nat.not_lt.1 hm) hfound nofun (ih hrest hfound hn hnext)

end FileSystem

/-! ## Paths of names -/

namespace Path
namespace IsPlain

variable {q : Path}

theorem isAbsolute_eq_false (h : q.IsPlain) : q.isAbsolute = false := by
  cases habs : q.isAbsolute with
  | false => rfl
  | true =>
    have hroot : .root ∈ q.components := by
      rw [isAbsolute] at habs
      simp [components, Lexical.components, habs]
    exact absurd rfl (h _ hroot).1

theorem head_eq_nil (h : q.IsPlain) : Lexical.head q.bytes = [] := by
  by_contra hhead
  have hhere : .here ∈ q.components := by
    have habs := h.isAbsolute_eq_false
    rw [isAbsolute] at habs
    simp [components, Lexical.components, habs, hhead]
  exact absurd rfl (h _ hhere).2.1

theorem mem_components (h : q.IsPlain) {s : Bytes} (hs : s ∈ Lexical.segments q.bytes) {c : Component UInt8}
    (hc : Lexical.componentOf s = some c) : c ∈ q.components := by
  have hbody : Lexical.bodySegments q.bytes = Lexical.segments q.bytes := by
    rw [Lexical.bodySegments, h.head_eq_nil]
    rfl
  exact List.mem_append_right _ (List.mem_filterMap.2 ⟨s, hbody ▸ hs, hc⟩)

theorem segment_ne_up (h : q.IsPlain) {s : Bytes} (hs : s ∈ Lexical.segments q.bytes) : s ≠ [0x2E, 0x2E] := by
  rintro rfl
  exact absurd rfl (h _ (h.mem_components hs rfl)).2.2

theorem up_notMem_steps (h : q.IsPlain) : .up ∉ q.steps := by
  intro hup
  have hfilter : .up ∈ q.steps.filter (· ≠ .slash) := by simpa using hup
  rw [FileSystem.filter_steps] at hfilter
  obtain ⟨s, hs, hstep⟩ := List.mem_map.1 hfilter
  refine h.segment_ne_up (List.mem_filter.1 hs).1 ?_
  rw [stepOf] at hstep
  split at hstep
  · cases hstep
  split at hstep
  · assumption
  · cases hstep

/-- A path that is not empty has a name. -/
theorem location_ne_nil (h : q.IsPlain) (hq : q.bytes ≠ []) : q.location ≠ [] := by
  obtain ⟨c, cs, hbytes⟩ := List.exists_cons_of_ne_nil hq
  have hc : c ≠ PathAlphabet.slash := by
    rintro rfl
    have habs := h.isAbsolute_eq_false
    simp [isAbsolute, Lexical.isAbsolute, hbytes] at habs
  obtain ⟨t, ts, hcut⟩ := List.exists_cons_of_ne_nil (Lexical.segments_ne_nil cs)
  have hsegments : Lexical.segments q.bytes = (c :: t) :: ts := by
    rw [hbytes, Lexical.segments, if_neg hc, hcut]
  have hmem : c :: t ∈ Lexical.segments q.bytes := by
    rw [hsegments]
    exact List.mem_cons_self
  have hhere : c :: t ≠ [PathAlphabet.dot] := by
    intro hdot
    have hhead := h.head_eq_nil
    have habs := h.isAbsolute_eq_false
    rw [isAbsolute] at habs
    simp [Lexical.head, habs, hsegments, hdot] at hhead
  have hname : Lexical.IsName (c :: t) :=
    ⟨List.cons_ne_nil c t, Lexical.slash_notMem_of_mem_segments hmem, hhere, h.segment_ne_up hmem⟩
  exact List.ne_nil_of_mem (mem_location_iff.2 (name_mem_steps_iff.2 ⟨hmem, hname⟩))

theorem startsAt_eq (h : q.IsPlain) (cwd : Location) : q.startsAt cwd = cwd := by
  rw [startsAt, h.isAbsolute_eq_false, if_neg Bool.false_ne_true]

end IsPlain

theorem along_steps (q : Path) (cwd : Location) : cwd.along q.steps = q.location ++ cwd := by
  rw [location_eq, Location.along]

end Path

/-! ## Trees that hold what was registered -/

namespace FileSystem

open Registration

/-- Below a directory a tree holds what was registered, with the directories above it, and nothing else. -/
structure Mirrors (fs : FileSystem) (root : Location) (rs : List Registration) : Prop where
  wellFormed : fs.WellFormed
  top : fs.find? root = some .directory
  file : ∀ r ∈ rs, r.isFile = true → ∃ content, fs.find? (r.location ++ root) = some (.file content)
  folder : ∀ r ∈ rs, ∀ dir, dir <:+ r.folder → fs.find? (dir ++ root) = some .directory
  nothingElse : ∀ n dir, fs.find? (n :: dir ++ root) ≠ none → ∃ r ∈ rs, n :: dir <:+ r.location

/-- A path is one that the system looks up: it holds no zero byte and is not too long, and neither is a name on it
that is looked for in a directory. -/
structure Takes (fs : FileSystem) (root : Location) (q : Path) : Prop where
  zero : 0 ∉ q.bytes
  length : q.bytes.length ≤ pathLimit
  names : ∀ n dir, n :: dir <:+ q.location → fs.find? (dir ++ root) = some .directory → n.length ≤ nameLimit

namespace Mirrors

variable {fs : FileSystem} {root loc dir : Location} {rs : List Registration} {n : Bytes} {node : Node}

theorem location_ne_nil (h : fs.Mirrors root rs) : ∀ r ∈ rs, r.isFile = true → r.location ≠ [] := by
  intro r hr hfile hnil
  obtain ⟨content, hcontent⟩ := h.file r hr hfile
  rw [hnil, List.nil_append, h.top] at hcontent
  cases hcontent

theorem directory_of_isFolder (h : fs.Mirrors root rs) (hdir : IsFolder rs dir) :
    fs.find? (dir ++ root) = some .directory := by
  obtain ⟨r, hr, hfolder⟩ := hdir
  exact h.folder r hr dir hfolder

theorem exists_file (h : fs.Mirrors root rs) (hfile : isFileAt rs loc = true) :
    ∃ content, fs.find? (loc ++ root) = some (.file content) := by
  obtain ⟨r, hr, hr', rfl⟩ := isFileAt_iff.1 hfile
  exact h.file r hr hr'

theorem find?_eq_none_iff (h : fs.Mirrors root rs) (hloc : loc ≠ []) :
    fs.find? (loc ++ root) = none ↔ ¬ Known rs loc := by
  constructor
  · intro hnone hknown
    obtain hfolder | hfile := known_iff.1 hknown
    · rw [h.directory_of_isFolder hfolder] at hnone
      cases hnone
    · obtain ⟨content, hcontent⟩ := h.exists_file hfile
      rw [hcontent] at hnone
      cases hnone
  · intro hunknown
    obtain ⟨n, dir, rfl⟩ := List.exists_cons_of_ne_nil hloc
    by_contra hsome
    exact hunknown (h.nothingElse n dir hsome)

/-- What is found below the root was registered, as what it is. -/
theorem cases_of_find? (h : fs.Mirrors root rs) (hnode : fs.find? (n :: dir ++ root) = some node) :
    (node = .directory ∧ IsFolder rs (n :: dir) ∧ isFileAt rs (n :: dir) = false) ∨
      (∃ content, node = .file content) ∧ isFileAt rs (n :: dir) = true := by
  have hknown : Known rs (n :: dir) := by
    by_contra hunknown
    rw [(h.find?_eq_none_iff (List.cons_ne_nil n dir)).2 hunknown] at hnode
    cases hnode
  cases hfile : isFileAt rs (n :: dir) with
  | true =>
    obtain ⟨content, hcontent⟩ := h.exists_file hfile
    rw [hnode] at hcontent
    exact .inr ⟨⟨content, Option.some.inj hcontent⟩, rfl⟩
  | false =>
    have hfolder : IsFolder rs (n :: dir) := (known_iff.1 hknown).resolve_right (by simp [hfile])
    rw [h.directory_of_isFolder hfolder] at hnode
    exact .inl ⟨(Option.some.inj hnode).symm, hfolder, rfl⟩

/-- A directory has the names that were registered in it. -/
theorem perm_childNames (h : fs.Mirrors root rs) (dir : Location) :
    (childNames rs dir).Perm ((fs.children (dir ++ root)).map (·.1)) := by
  refine (List.perm_ext_iff_of_nodup (nodup_childNames rs dir) (h.wellFormed.nodup_children _)).2 fun n => ?_
  rw [mem_childNames_iff, ← (h.find?_eq_none_iff (List.cons_ne_nil n dir)).not_left, ← ne_eq,
    Option.ne_none_iff_exists', List.mem_map]
  constructor
  · rintro ⟨node, hnode⟩
    exact ⟨(n, node), h.wellFormed.mem_children_iff.2 hnode, rfl⟩
  · rintro ⟨⟨n, node⟩, hkid, rfl⟩
    exact ⟨node, h.wellFormed.mem_children_iff.1 hkid⟩

/-- A directory is listed with the entries that it has in memory. -/
theorem exists_found (h : fs.Mirrors root rs) (hrs : Orderly rs) (q : Path) (dir : Location) :
    ∃ found, List.Forall₂ (Disk.Describes fs root q) (fs.children (dir ++ root)) found ∧
      (listed rs dir).Perm found := by
  refine ⟨(fs.children (dir ++ root)).map fun kid => ⟨Text.lossy kid.1, isFileAt rs (kid.1 :: dir)⟩, ?_, ?_⟩
  · refine List.forall₂_map_right_iff.2 (List.forall₂_same.2 fun kid hkid => ?_)
    obtain ⟨n, node⟩ := kid
    have hnode : fs.find? (n :: dir ++ root) = some node := h.wellFormed.mem_children_iff.1 hkid
    have hcases := h.cases_of_find? hnode
    have hknown : Known rs (n :: dir) := known_iff.2 (hcases.imp (·.2.1) (·.2))
    refine ⟨encode_lossy hrs.text hknown, ?_⟩
    obtain ⟨rfl, -, hfile⟩ | ⟨⟨content, rfl⟩, hfile⟩ := hcases
    · simp [hfile, IsRegularEntry]
    · simp [hfile, IsRegularEntry]
  · have hperm := (h.perm_childNames dir).map fun n => (⟨Text.lossy n, isFileAt rs (n :: dir)⟩ : DirectoryEntry)
    rwa [List.map_map] at hperm

end Mirrors

/-! ## What the tree answers -/

theorem suffix_of_append_suffix {a b root : Location} (h : a ++ root <:+ b ++ root) : a <:+ b := by
  obtain ⟨front, hfront⟩ := h
  rw [← List.append_assoc] at hfront
  exact ⟨front, List.append_cancel_right hfront⟩

section

variable {fs : FileSystem} {root : Location} {rs : List Registration} {q : Path}

theorem Takes.checkPath_eq (h : fs.Takes root q) (hq : q.bytes ≠ []) : checkPath q = .ok () := by
  rw [checkPath, if_neg h.zero, if_neg hq, if_neg (Nat.not_lt.2 h.length)]

theorem Takes.fitsAlong (h : fs.Takes root q) : fs.FitsAlong root q.steps := by
  rintro n - ⟨dir, rfl⟩ hn hdir
  rw [Path.along_steps] at hn
  exact h.names n dir (suffix_of_append_suffix hn) hdir

namespace Mirrors

/-- On the way to where nothing is, and through no file, there are directories only. -/
theorem nothing_or_directory (h : fs.Mirrors root rs) {loc : Location} (hunknown : ¬ Known rs loc)
    (hbelow : ∀ r ∈ rs, r.isFile = true → r.location <:+ loc → r.location = loc) {dir : Location}
    (hdir : dir <:+ loc ++ root) : fs.find? dir = none ∨ fs.find? dir = some .directory := by
  obtain habove | ⟨place, rfl⟩ := List.suffix_or_suffix_of_suffix hdir (List.suffix_append loc root)
  · obtain rfl | hne := eq_or_ne dir root
    · exact .inr h.top
    · exact .inr (h.wellFormed.directory_of_suffix h.top habove hne)
  have hplace : place <:+ loc := suffix_of_append_suffix hdir
  cases place with
  | nil => exact .inr h.top
  | cons n parent =>
    cases hnode : fs.find? (n :: parent ++ root) with
    | none => exact .inl rfl
    | some node =>
      obtain ⟨rfl, -, -⟩ | ⟨-, hfile⟩ := h.cases_of_find? hnode
      · exact .inr rfl
      · obtain ⟨r, hr, hr', hlocation⟩ := isFileAt_iff.1 hfile
        refine absurd ?_ hunknown
        rw [← hlocation] at hplace
        exact ⟨r, hr, hbelow r hr hr' hplace ▸ List.suffix_refl _⟩

theorem ask_of_folder (h : fs.Mirrors root rs) (hrs : Orderly rs) (hq : q.bytes ≠ []) (hplain : q.IsPlain)
    (htakes : fs.Takes root q) (hfolder : IsFolder rs q.location) :
    ∃ found, ((Disk.listing root).ask q fs).result = .ok found ∧ (listed rs q.location).Perm found := by
  have hnode := h.directory_of_isFolder hfolder
  rw [← Path.along_steps] at hnode
  obtain hleads | ⟨hne, -⟩ := h.wellFormed.leads_along linkLimit hplain.up_notMem_steps
    htakes.fitsAlong hnode nofun nofun
  · have harrives : fs.ArrivesAt root q (root.along q.steps) .directory :=
      ⟨htakes.checkPath_eq hq, (hplain.startsAt_eq root).symm ▸ hleads, hnode⟩
    rw [Path.along_steps] at harrives
    obtain ⟨found, hfound, hperm⟩ := h.exists_found hrs q q.location
    exact ⟨found, Disk.ask_ok_iff.2 ⟨_, harrives, hfound⟩, hperm⟩
  · exact absurd rfl hne

theorem ask_of_file (h : fs.Mirrors root rs) (hq : q.bytes ≠ []) (hplain : q.IsPlain)
    (htakes : fs.Takes root q) (hfile : isFileAt rs q.location = true) :
    ∃ e, ((Disk.listing root).ask q fs).result = .error e ∧ e.kind = .notADirectory ∧ e.path = some q := by
  obtain ⟨content, hnode⟩ := h.exists_file hfile
  rw [← Path.along_steps] at hnode
  have hrefuses : Disk.Refuses fs root q .notADirectory q := by
    obtain hleads | ⟨-, hstops⟩ := h.wellFormed.leads_along linkLimit hplain.up_notMem_steps
      htakes.fitsAlong hnode nofun nofun
    · exact .ending ⟨htakes.checkPath_eq hq, (hplain.startsAt_eq root).symm ▸ hleads, hnode⟩ nofun nofun
    · exact .through ⟨htakes.checkPath_eq hq, (hplain.startsAt_eq root).symm ▸ hstops⟩
  obtain ⟨e, he, -, hkind, hpath⟩ := hrefuses.exists_error
  exact ⟨e, he, hkind, hpath⟩

theorem ask_of_unknown (h : fs.Mirrors root rs) (hq : q.bytes ≠ []) (hplain : q.IsPlain)
    (htakes : fs.Takes root q) (hunknown : ¬ Known rs q.location)
    (hbelow : ∀ r ∈ rs, r.isFile = true → r.location <:+ q.location → r.location = q.location) :
    ∃ e, ((Disk.listing root).ask q fs).result = .error e ∧ e.kind = .notFound ∧ e.path = some q := by
  have hnone := (h.find?_eq_none_iff (hplain.location_ne_nil hq)).2 hunknown
  have hstops : fs.Stops linkLimit root q.steps .noSuchEntry := by
    refine stops_along hplain.up_notMem_steps htakes.fitsAlong h.top ?_ fun dir hdir => ?_
    · rwa [Path.along_steps]
    · rw [Path.along_steps] at hdir
      exact h.nothing_or_directory hunknown hbelow hdir
  have hrefuses : Disk.Refuses fs root q .notFound q :=
    .missing ⟨htakes.checkPath_eq hq, (hplain.startsAt_eq root).symm ▸ hstops⟩
  obtain ⟨e, he, -, hkind, hpath⟩ := hrefuses.exists_error
  exact ⟨e, he, hkind, hpath⟩

/-- A path that the system does not take is refused with a failure of another kind. -/
theorem ask_of_not_takes (h : fs.Mirrors root rs) (hq : q.bytes ≠ []) (hplain : q.IsPlain)
    (hnot : ¬ fs.Takes root q) : ∃ e, ((Disk.listing root).ask q fs).result = .error e ∧ e.kind = .other := by
  have hrefuses : Disk.Refuses fs root q .other q := by
    by_cases hzero : 0 ∈ q.bytes
    · exact .zeroByte hzero
    by_cases hlength : pathLimit < q.bytes.length
    · exact .tooLong hlength
    have hcheck : checkPath q = .ok () := by
      rw [checkPath, if_neg hzero, if_neg hq, if_neg hlength]
    obtain ⟨n, dir, hn, hdir, hlong⟩ : ∃ n dir, n :: dir <:+ q.location ∧
        fs.find? (dir ++ root) = some .directory ∧ nameLimit < n.length := by
      by_contra hnone
      simp only [not_exists, not_and, Nat.not_lt] at hnone
      exact hnot ⟨hzero, Nat.not_lt.1 hlength, hnone⟩
    have hstops : fs.Stops linkLimit root q.steps .nameTooLong := by
      refine h.wellFormed.stops_of_long hplain.up_notMem_steps h.top hdir ?_ (List.suffix_append dir root) hlong
      rw [Path.along_steps]
      obtain ⟨front, hfront⟩ := hn
      exact ⟨front, by rw [← hfront, List.append_assoc, List.cons_append]⟩
    exact .nameTooLong ⟨hcheck, (hplain.startsAt_eq root).symm ▸ hstops⟩
  obtain ⟨e, he, -, hkind, -⟩ := hrefuses.exists_error
  exact ⟨e, he, hkind⟩

end Mirrors
end
end FileSystem

/-! ## Both answers -/

open Registration

/-- Two backends answer alike if they find the same entries, in whatever order, or if they fail in the same way,
because there is nothing or no directory at the path that they were asked for. -/
def AnswersAlike (q : Path) (answer answer' : Except ListingError (List DirectoryEntry)) : Prop :=
  (∃ found found', answer = .ok found ∧ answer' = .ok found' ∧ found.Perm found') ∨
    ∃ e e', answer = .error e ∧ answer' = .error e' ∧ e.kind = e'.kind ∧
      (e.kind = .notFound ∨ e.kind = .notADirectory) ∧ e.path = some q ∧ e'.path = some q

variable {fs : FileSystem} {root : Location} {rs : List Registration} {q : Path}

namespace FileSystem.Mirrors

theorem represents (h : fs.Mirrors root rs) (hrs : Orderly rs) : (MemoryListing.ofRegistrations rs).Represents rs :=
  .ofRegistrations hrs h.location_ne_nil

/-- A place is not registered as a directory and as a file. -/
theorem isFileAt_of_isFolder (h : fs.Mirrors root rs) {loc : Location} (hfolder : IsFolder rs loc) :
    isFileAt rs loc ≠ true := by
  intro hfile
  obtain ⟨content, hcontent⟩ := h.exists_file hfile
  rw [h.directory_of_isFolder hfolder] at hcontent
  cases hcontent

/-- What the system takes is answered alike. -/
theorem answersAlike (h : fs.Mirrors root rs) (hrs : Orderly rs) (hq : q.bytes ≠ []) (hplain : q.IsPlain)
    (hbelow : ∀ r ∈ rs, r.isFile = true → r.location <:+ q.location → r.location = q.location)
    (htakes : fs.Takes root q) :
    AnswersAlike q (MemoryListing.listing.ask q (.ofRegistrations rs)).result
      ((Disk.listing root).ask q fs).result := by
  have hmemory := h.represents hrs
  by_cases hknown : Known rs q.location
  · obtain hfolder | hfile := known_iff.1 hknown
    · obtain ⟨found, hfound, hperm⟩ := h.ask_of_folder hrs hq hplain htakes hfolder
      exact .inl ⟨_, found, hmemory.ask_of_folder hplain (h.isFileAt_of_isFolder hfolder) hfolder, hfound, hperm⟩
    · obtain ⟨e, he, hkind, hpath⟩ := h.ask_of_file hq hplain htakes hfile
      exact .inr ⟨_, e, hmemory.ask_of_file hplain hfile, he, hkind.symm, .inr rfl, rfl, hpath⟩
  · obtain ⟨e, he, hkind, hpath⟩ := h.ask_of_unknown hq hplain htakes hknown hbelow
    exact .inr ⟨_, e, hmemory.ask_of_unknown hplain hknown, he, hkind.symm, .inl rfl, rfl, hpath⟩

/-- What the system does not take fails in a way that is not one of memory. -/
theorem not_answersAlike (h : fs.Mirrors root rs) (hq : q.bytes ≠ []) (hplain : q.IsPlain)
    (hnot : ¬ fs.Takes root q) (answer : Except ListingError (List DirectoryEntry)) :
    ¬ AnswersAlike q answer ((Disk.listing root).ask q fs).result := by
  obtain ⟨e, he, hother⟩ := h.ask_of_not_takes hq hplain hnot
  rintro (⟨-, found, -, hfound, -⟩ | ⟨e', e'', -, he', hkind, hcase, -, -⟩)
  · rw [he] at hfound
    cases hfound
  · rw [he] at he'
    cases he'
    rw [hkind, hother] at hcase
    obtain hcase | hcase := hcase <;> cases hcase

end FileSystem.Mirrors

/-- **Memory stands in for a disk.**  Register files and directories in any order, so that no file is in the way of
another path, and let a tree hold what was registered and nothing else. A path of names that does not go on from a
file is answered alike by both exactly if it is one that the system takes. In memory the entries of a directory
stand in the order of the first registration that came by them. -/
theorem MemoryListing.stands_in_for_disk (fs : FileSystem) (root : Location) (rs : List Registration) (q : Path)
    (hrs : Orderly rs) (hfs : fs.Mirrors root rs) (hq : q.bytes ≠ []) (hplain : q.IsPlain)
    (hbelow : ∀ r ∈ rs, r.isFile = true → r.location <:+ q.location → r.location = q.location) :
    (AnswersAlike q (listing.ask q (.ofRegistrations rs)).result ((Disk.listing root).ask q fs).result ↔
      fs.Takes root q) ∧
    ∀ kept, (listing.ask q (.ofRegistrations rs)).result = .ok kept → kept = listed rs q.location := by
  refine ⟨⟨fun halike => ?_, hfs.answersAlike hrs hq hplain hbelow⟩, fun kept hkept => ?_⟩
  · by_contra hnot
    exact hfs.not_answersAlike hq hplain hnot _ halike
  · have hmemory := hfs.represents hrs
    by_cases hknown : Known rs q.location
    · obtain hfolder | hfile := known_iff.1 hknown
      · rw [hmemory.ask_of_folder hplain (hfs.isFileAt_of_isFolder hfolder) hfolder] at hkept
        exact (Except.ok.inj hkept).symm
      · rw [hmemory.ask_of_file hplain hfile] at hkept
        cases hkept
    · rw [hmemory.ask_of_unknown hplain hknown] at hkept
      cases hkept

/-- The registrations of a workshop, where a directory is registered after what it holds. -/
def workshop : List Registration :=
  [.file "guide/intro.md", .directory "guide/assets", .directory "guide", .file "notes.txt",
    .file "guide/assets/a.png"]

/-- The tree of the workshop, made in another order. -/
def workshopTree : FileSystem := ⟨[
  (.ofNames ["srv"], .directory),
  (.ofNames ["srv", "guide"], .directory),
  (.ofNames ["srv", "guide", "assets"], .directory),
  (.ofNames ["srv", "guide", "assets", "a.png"], .file []),
  (.ofNames ["srv", "guide", "intro.md"], .file []),
  (.ofNames ["srv", "notes.txt"], .file [])]⟩

theorem orderly_workshop : Orderly workshop where
  plain := by decide +kernel
  text r hr := by
    simp only [workshop, List.mem_cons, List.not_mem_nil, or_false] at hr
    obtain rfl | rfl | rfl | rfl | rfl := hr <;> exact ⟨_, rfl⟩
  apart := by decide +kernel

theorem mirrors_workshop : workshopTree.Mirrors (.ofNames ["srv"]) workshop where
  wellFormed := by decide +kernel
  top := by decide +kernel
  file := by
    have hfile : ∀ r ∈ workshop, r.isFile = true →
        workshopTree.find? (r.location ++ .ofNames ["srv"]) = some (.file []) := by
      decide +kernel
    exact fun r hr hr' => ⟨[], hfile r hr hr'⟩
  folder := by
    have hfolder : ∀ r ∈ workshop, ∀ dir ∈ r.folder.tails,
        workshopTree.find? (dir ++ .ofNames ["srv"]) = some .directory := by
      decide +kernel
    exact fun r hr dir hdir => hfolder r hr dir ((List.mem_tails dir r.folder).2 hdir)
  nothingElse n dir hsome := by
    have hnodes : ∀ e ∈ workshopTree.nodes,
        e.1 <:+ Location.ofNames ["srv"] ∨ ∃ r ∈ workshop, e.1 <:+ r.location ++ Location.ofNames ["srv"] := by
      decide +kernel
    obtain ⟨node, hnode⟩ := Option.ne_none_iff_exists'.1 hsome
    obtain htop | ⟨r, hr, hsuffix⟩ := hnodes _ (FileSystem.mem_nodes_of_find? hnode (List.cons_ne_nil _ _))
    · exact absurd (htop.trans (List.suffix_append dir _)) (not_cons_suffix n _)
    · exact ⟨r, hr, FileSystem.suffix_of_append_suffix hsuffix⟩

/-- The guide is listed with the page and the directory in it, in memory in the order of their registration. -/
theorem MemoryListing.stands_in_for_disk_workshop :
    Orderly workshop ∧ workshopTree.Mirrors (.ofNames ["srv"]) workshop ∧
    AnswersAlike (.ofString "guide/") (listing.ask (.ofString "guide/") (.ofRegistrations workshop)).result
      ((Disk.listing (.ofNames ["srv"])).ask (.ofString "guide/") workshopTree).result ∧
    ∀ kept, (listing.ask (.ofString "guide/") (.ofRegistrations workshop)).result = .ok kept →
      kept = [.file "intro.md", .other "assets"] := by
  have hbelow : ∀ r ∈ workshop, r.isFile = true → r.location <:+ (Path.ofString "guide/").location →
      r.location = (Path.ofString "guide/").location := by
    decide +kernel
  have htakes : workshopTree.Takes (.ofNames ["srv"]) (.ofString "guide/") := by
    have hshort : ∀ n ∈ (Path.ofString "guide/").location, n.length ≤ FileSystem.nameLimit := by decide +kernel
    exact ⟨by decide, by decide +kernel, fun n dir hn _ => hshort n (hn.subset List.mem_cons_self)⟩
  obtain ⟨halike, horder⟩ := stands_in_for_disk workshopTree (.ofNames ["srv"]) workshop (.ofString "guide/")
    orderly_workshop mirrors_workshop (by decide) (by decide +kernel) hbelow
  refine ⟨orderly_workshop, mirrors_workshop, halike.2 htakes, fun kept hkept => ?_⟩
  rw [horder kept hkept]
  decide +kernel

/-- Memory does not stand in for a disk where a name is too long for the system. -/
theorem MemoryListing.not_forall_answersAlike :
    ¬ ∀ (fs : FileSystem) (root : Location) (rs : List Registration) (q : Path), Orderly rs → fs.Mirrors root rs →
      q.bytes ≠ [] → q.IsPlain →
      (∀ r ∈ rs, r.isFile = true → r.location <:+ q.location → r.location = q.location) →
      AnswersAlike q (listing.ask q (.ofRegistrations rs)).result ((Disk.listing root).ask q fs).result := by
  intro h
  have hempty : FileSystem.empty.Mirrors [] [] := by
    refine ⟨by decide, rfl, ?_, ?_, fun n dir hsome => absurd rfl hsome⟩
    · exact fun r hr => absurd hr List.not_mem_nil
    · exact fun r hr => absurd hr List.not_mem_nil
  have hlong : ¬ FileSystem.empty.Takes [] ⟨List.replicate 256 0x61⟩ := by
    intro htakes
    have hshort := htakes.names (List.replicate 256 0x61) [] (by decide +kernel) rfl
    rw [List.length_replicate] at hshort
    exact absurd hshort (by decide)
  have hq : (⟨List.replicate 256 0x61⟩ : Path).bytes ≠ [] := by decide
  have hplain : (⟨List.replicate 256 0x61⟩ : Path).IsPlain := by decide +kernel
  have horderly : Orderly [] :=
    ⟨fun r hr => absurd hr List.not_mem_nil, fun r hr => absurd hr List.not_mem_nil, .nil⟩
  exact hempty.not_answersAlike hq hplain hlong _
    (h _ [] [] _ horderly hempty hq hplain fun r hr => absurd hr List.not_mem_nil)

end DocPortal
