import DocPortal.Proofs.Memory
import DocPortal.Proofs.Parents

/-!
# What a listing in memory keeps

Paths of any form may be registered, as files, as directories and as directories that may not be listed. A directory
that is new is put in before those above it, so that for a while it is shown nowhere, but the climb from path to path
comes to an end, and on the way back each directory gets its entry in the one above it. After each call, then, all that
is registered is shown in the directory above it, no directory has two entries of one name, and what was there before
is there still.

## Main definitions

* `MemoryListing.Climb` — how a directory is registered, going up from path to path as they are written.
* `MemoryListing.Keeps` — a listing has the directories of another one, with the names in them.
* `MemoryListing.WellKept` — the tables are in order, and what is registered is shown.
* `MemoryListing.Call` — one thing that a listing can be told.
-/

namespace DocPortal

/-! ## The place of a path and of the path above -/

namespace Place

theorem ofPath_above (p : Path) : ofPath p.above = (ofPath p).parent := by
  rw [ofPath, Path.components_above, parent, ofPath, List.tail_reverse]

theorem name_ofPath (p : Path) : (ofPath p).name = p.lastName := by
  obtain hnil | ⟨front, c, hconcat⟩ := List.eq_nil_or_concat' p.components
  · have hbytes := Path.components_eq_nil_iff.1 hnil
    rw [ofPath, hnil]
    cases p
    cases hbytes
    rfl
  · rw [ofPath, hconcat, List.reverse_concat, Path.lastName_of_components hconcat]
    cases c <;> rfl

theorem ofPath_eq_nil_iff {p : Path} : ofPath p = [] ↔ p.bytes = [] := by
  rw [ofPath, List.reverse_eq_nil_iff, Path.components_eq_nil_iff]

end Place

namespace MemoryListing

variable {m m' m'' : MemoryListing} {p : Path} {q : Place} {name : String}

/-! ## The climb -/

/-- A climb ends at a directory that is registered, or at the empty path. A directory that is new is put in before the
climb goes on, and gets its entry in the one above when that is done. -/
inductive Climb : MemoryListing → Path → MemoryListing → Prop
  | known {m : MemoryListing} {p : Path} (registered : (m.entries? (.ofPath p)).isSome = true) : Climb m p m
  | top {m : MemoryListing} {p : Path} (new : m.entries? (.ofPath p) = none) (empty : p.bytes = []) :
    Climb m p { m with dirs := m.dirs ++ [(.ofPath p, [])] }
  | up {m m' : MemoryListing} {p : Path} (new : m.entries? (.ofPath p) = none) (nonempty : p.bytes ≠ [])
      (rest : Climb { m with dirs := m.dirs ++ [(.ofPath p, [])] } p.above m') :
    Climb m p (m'.addEntry (.ofPath p.above) (.other p.lastName))

theorem withDirectory_of_isSome (h : (m.entries? (.ofPath p)).isSome = true) : m.withDirectory p = m := by
  rw [withDirectory]
  cases hq : Place.ofPath p <;> rw [ensureDirectory, ← hq, if_pos h]

theorem withDirectory_of_empty (hnone : m.entries? (.ofPath p) = none) (hempty : p.bytes = []) :
    m.withDirectory p = { m with dirs := m.dirs ++ [(.ofPath p, [])] } := by
  have hq := Place.ofPath_eq_nil_iff.2 hempty
  rw [hq] at hnone
  rw [withDirectory, hq, ensureDirectory, hnone, Option.isSome_none, if_neg Bool.false_ne_true]

theorem withDirectory_of_ne (hnone : m.entries? (.ofPath p) = none) (hne : p.bytes ≠ []) :
    m.withDirectory p = (withDirectory { m with dirs := m.dirs ++ [(.ofPath p, [])] } p.above).addEntry
      (.ofPath p.above) (.other p.lastName) := by
  obtain ⟨c, q, hq⟩ := List.exists_cons_of_ne_nil (Place.ofPath_eq_nil_iff.not.2 hne)
  have habove : Place.ofPath p.above = q := by
    rw [Place.ofPath_above, hq]
    rfl
  rw [withDirectory, withDirectory, habove, ← Place.name_ofPath, hq, ensureDirectory]
  rw [hq] at hnone
  rw [hnone, Option.isSome_none, if_neg Bool.false_ne_true]

/-- A climb comes to an end, since each path that it goes on to is shorter. -/
theorem climb_withDirectory (m : MemoryListing) (p : Path) : Climb m p (m.withDirectory p) := by
  -- By induction on the length of the path, for all listings: the directory is put in before the climb goes on.
  induction hlength : p.bytes.length using Nat.strongRecOn generalizing m p with
  | ind length ih =>
    cases hentries : m.entries? (.ofPath p) with
    | some found =>
      have hsome : (m.entries? (.ofPath p)).isSome = true := by
        rw [hentries]
        rfl
      rw [withDirectory_of_isSome hsome]
      exact .known hsome
    | none =>
      by_cases hempty : p.bytes = []
      · rw [withDirectory_of_empty hentries hempty]
        exact .top hentries hempty
      · rw [withDirectory_of_ne hentries hempty]
        exact .up hentries hempty (ih _ (hlength ▸ Path.length_above_lt hempty) _ p.above rfl)

theorem Climb.eq_withDirectory (h : Climb m p m') : m' = m.withDirectory p := by
  induction h with
  | known hknown => exact (withDirectory_of_isSome hknown).symm
  | top hnone hempty => exact (withDirectory_of_empty hnone hempty).symm
  | up hnone hne _ ih => rw [withDirectory_of_ne hnone hne, ih]

/-- Registering a directory is the climb from it, which ends in one way only. -/
theorem climb_iff : Climb m p m' ↔ m' = m.withDirectory p := by
  constructor
  · exact Climb.eq_withDirectory
  · rintro rfl
    exact m.climb_withDirectory p

/-- What single changes preserve is preserved by a climb. -/
theorem withDirectory_induction {motive : MemoryListing → Prop}
    (push : ∀ m p, m.entries? (.ofPath p) = none → motive m →
      motive { m with dirs := m.dirs ++ [(.ofPath p, [])] })
    (add : ∀ m p e, motive m → motive (m.addEntry (.ofPath p) e)) (h : motive m) (p : Path) :
    motive (m.withDirectory p) := by
  have hclimb := m.climb_withDirectory p
  generalize m.withDirectory p = m' at hclimb
  induction hclimb with
  | known _ => exact h
  | top hnone _ => exact push _ _ hnone h
  | up hnone _ _ ih => exact add _ _ _ (ih (push _ _ hnone h))

/-- A file is put in the directory above, when that is registered. -/
theorem withFile_eq (m : MemoryListing) (p : Path) : m.withFile p =
    let added := (m.withDirectory p.above).addEntry (.ofPath p.above) (.file p.lastName)
    { added with files := .ofPath p :: added.files } := by
  rw [withFile, withDirectory, Place.ofPath_above, Place.name_ofPath]

/-! ## Nothing is lost -/

/-- A directory is registered and has an entry of a name. -/
def HasEntry (m : MemoryListing) (q : Place) (name : String) : Prop :=
  ∃ found, m.entries? q = some found ∧ ∃ e ∈ found, e.name = name

theorem HasEntry.isSome (h : m.HasEntry q name) : (m.entries? q).isSome = true := by
  obtain ⟨found, hfound, -⟩ := h
  rw [hfound]
  rfl

theorem hasEntry_addEntry (hq : (m.entries? q).isSome = true) (e : DirectoryEntry) :
    (m.addEntry q e).HasEntry q e.name := by
  obtain ⟨found, hfound⟩ := Option.isSome_iff_exists.1 hq
  refine ⟨found.filter (·.name ≠ e.name) ++ [e], ?_, e, List.mem_concat_self, rfl⟩
  rw [entries?_addEntry, if_pos rfl, hfound, Option.map_some]

/-- What is registered as a directory is so still, and there is an entry for each name that there was one for. -/
structure Keeps (m m' : MemoryListing) : Prop where
  directories : ∀ q, (m.entries? q).isSome = true → (m'.entries? q).isSome = true
  names : ∀ q name, m.HasEntry q name → m'.HasEntry q name

namespace Keeps

theorem refl (m : MemoryListing) : m.Keeps m := ⟨fun _ h => h, fun _ _ h => h⟩

theorem trans (h : m.Keeps m') (h' : m'.Keeps m'') : m.Keeps m'' where
  directories q hq := h'.directories q (h.directories q hq)
  names q name hname := h'.names q name (h.names q name hname)

/-- What is registered as a file, or may not be listed, is nothing to the directories. -/
theorem congr (h : m.Keeps m') (hdirs : m''.dirs = m'.dirs) : m.Keeps m'' := by
  have hentries : m''.entries? = m'.entries? := by
    funext q
    rw [entries?, entries?, hdirs]
  refine ⟨fun q hq => ?_, fun q name hname => ?_⟩
  · rw [hentries]
    exact h.directories q hq
  · rw [HasEntry, hentries]
    exact h.names q name hname

end Keeps

theorem keeps_push (hnone : m.entries? q = none) : m.Keeps { m with dirs := m.dirs ++ [(q, [])] } := by
  have hsame : ∀ place, (m.entries? place).isSome = true →
      entries? { m with dirs := m.dirs ++ [(q, [])] } place = m.entries? place := by
    intro place hplace
    rw [entries?_push hnone, if_neg]
    rintro rfl
    rw [hnone] at hplace
    cases hplace
  refine ⟨fun place hplace => (hsame place hplace).symm ▸ hplace, fun place name hname => ?_⟩
  obtain ⟨found, hfound, hentry⟩ := hname
  exact ⟨found, (hsame place (HasEntry.isSome ⟨found, hfound, hentry⟩)).trans hfound, hentry⟩

theorem keeps_addEntry (m : MemoryListing) (q : Place) (e : DirectoryEntry) : m.Keeps (m.addEntry q e) := by
  refine ⟨fun place hplace => by rwa [isSome_entries?_addEntry], fun place name hname => ?_⟩
  obtain rfl | hplace := eq_or_ne place q
  · -- The entry that gives way has the name of the one that is added.
    obtain heq | hne := eq_or_ne name e.name
    · exact heq ▸ hasEntry_addEntry hname.isSome e
    · obtain ⟨found, hfound, e', he', rfl⟩ := hname
      refine ⟨found.filter (·.name ≠ e.name) ++ [e], ?_, e', ?_, rfl⟩
      · rw [entries?_addEntry, if_pos rfl, hfound, Option.map_some]
      · exact List.mem_append_left _ (List.mem_filter.2 ⟨he', decide_eq_true hne⟩)
  · obtain ⟨found, hfound, hentry⟩ := hname
    exact ⟨found, by rw [entries?_addEntry, if_neg hplace, hfound], hentry⟩

theorem keeps_withDirectory (m : MemoryListing) (p : Path) : m.Keeps (m.withDirectory p) :=
  withDirectory_induction (motive := m.Keeps) (fun _ _ hnone h => h.trans (keeps_push hnone))
    (fun m' p e h => h.trans (m'.keeps_addEntry (.ofPath p) e)) (.refl m) p

theorem keeps_withFile (m : MemoryListing) (p : Path) : m.Keeps (m.withFile p) := by
  have hkept := (m.keeps_withDirectory p.above).trans (keeps_addEntry _ (.ofPath p.above) (.file p.lastName))
  rw [withFile_eq]
  exact hkept.congr rfl

/-! ## The table of directories -/

/-- The table has a place once, each of its places is that of a path, and of the entries of a directory no two have
the same name. -/
structure Tidy (m : MemoryListing) : Prop where
  once : (m.dirs.map (·.1)).Nodup
  paths : ∀ d ∈ m.dirs, ∃ p : Path, d.1 = .ofPath p
  names : ∀ d ∈ m.dirs, (d.2.map (·.name)).Nodup

namespace Tidy

theorem push (h : m.Tidy) (hnone : m.entries? (.ofPath p) = none) :
    Tidy { m with dirs := m.dirs ++ [(.ofPath p, [])] } where
  once := by
    have hnew : .ofPath p ∉ m.dirs.map (·.1) := by
      intro hmem
      obtain ⟨d, hd, heq⟩ := List.mem_map.1 hmem
      exact absurd heq.symm (by simpa using List.lookup_eq_none_iff.1 hnone d hd)
    rw [List.map_append, List.map_singleton, ← List.concat_eq_append]
    exact h.once.concat hnew
  paths d hd := by
    obtain hd | hd := List.mem_append.1 hd
    · exact h.paths d hd
    · exact ⟨p, by rw [List.mem_singleton.1 hd]⟩
  names d hd := by
    obtain hd | hd := List.mem_append.1 hd
    · exact h.names d hd
    · rw [List.mem_singleton.1 hd]
      exact List.nodup_nil

theorem addEntry (h : m.Tidy) (q : Place) (e : DirectoryEntry) : (m.addEntry q e).Tidy where
  once := by
    have hsame : (m.addEntry q e).dirs.map (·.1) = m.dirs.map (·.1) := by
      rw [MemoryListing.addEntry, List.map_map]
      refine List.map_congr_left fun d _ => ?_
      dsimp only [Function.comp_apply]
      split
      · rename_i hd
        exact hd.symm
      · rfl
    rw [hsame]
    exact h.once
  paths d hd := by
    obtain ⟨d, hd', rfl⟩ := List.mem_map.1 hd
    obtain ⟨p, hp⟩ := h.paths d hd'
    refine ⟨p, ?_⟩
    split
    · rename_i hq
      rw [← hp, hq]
    · exact hp
  names d hd := by
    obtain ⟨d, hd', rfl⟩ := List.mem_map.1 hd
    split
    · have hothers : ((d.2.filter (·.name ≠ e.name)).map (·.name)).Nodup :=
        (h.names d hd').sublist (List.filter_sublist.map _)
      have hnew : e.name ∉ (d.2.filter (·.name ≠ e.name)).map (·.name) := by simp
      rw [List.map_append, List.map_singleton, ← List.concat_eq_append]
      exact hothers.concat hnew
    · exact h.names d hd'

theorem withDirectory (h : m.Tidy) (p : Path) : (m.withDirectory p).Tidy :=
  withDirectory_induction (motive := Tidy) (fun _ _ hnone h => h.push hnone) (fun _ p e h => h.addEntry (.ofPath p) e)
    h p

/-- A directory that can be looked up is that of a path. -/
theorem exists_path (h : m.Tidy) (hq : (m.entries? q).isSome = true) : ∃ p : Path, q = .ofPath p := by
  by_contra hnone
  rw [entries?, List.lookup_eq_none_iff.2] at hq
  · cases hq
  · intro d hd
    rw [bne_iff_ne]
    rintro rfl
    exact hnone (h.paths d hd)

end Tidy

/-! ## What is registered is shown -/

/-- The tables are in order, and each directory but the empty place, as well as each file, has an entry of its name in
the directory above it, which is registered, too. -/
structure WellKept (m : MemoryListing) : Prop extends Tidy m where
  directories : ∀ c q, (m.entries? (c :: q)).isSome = true → m.HasEntry q (Place.name (c :: q))
  files : ∀ q ∈ m.files, m.HasEntry q.parent q.name
  filePaths : ∀ q ∈ m.files, ∃ p : Path, q = .ofPath p

namespace WellKept

theorem nothing : WellKept {} where
  once := List.nodup_nil
  paths d hd := absurd hd List.not_mem_nil
  names d hd := absurd hd List.not_mem_nil
  directories c q hsome := by simp [entries?] at hsome
  files q hq := absurd hq List.not_mem_nil
  filePaths q hq := absurd hq List.not_mem_nil

/-- A directory that is shown is in one that is registered, which is all that registering another one needs. -/
theorem ensures (h : m.WellKept) (p : Path) : m.Ensures (.ofPath p) (m.withDirectory p) :=
  ensures_ensureDirectory fun c q _ hsome => (h.directories c q hsome).isSome

/-- A directory that was registered has its entry still, and one that is new gets its entry on the way back. -/
theorem withDirectory (h : m.WellKept) (p : Path) : (m.withDirectory p).WellKept where
  toTidy := h.toTidy.withDirectory p
  directories c q hsome := by
    cases hentries : m.entries? (c :: q) with
    | some found =>
      refine (m.keeps_withDirectory p).names q _ (h.directories c q ?_)
      rw [hentries]
      rfl
    | none =>
      have hway : c :: q <:+ Place.ofPath p := ((h.ensures p).isSome_iff.1 hsome).resolve_right (by simp [hentries])
      exact ⟨_, (h.ensures p).fresh c q hway hentries, _, List.mem_concat_self, rfl⟩
  files q hq := by
    rw [MemoryListing.withDirectory, files_ensureDirectory] at hq
    exact (m.keeps_withDirectory p).names _ _ (h.files q hq)
  filePaths q hq := by
    rw [MemoryListing.withDirectory, files_ensureDirectory] at hq
    exact h.filePaths q hq

theorem addEntry (h : m.WellKept) (q : Place) (e : DirectoryEntry) : (m.addEntry q e).WellKept where
  toTidy := h.toTidy.addEntry q e
  directories c place hsome := by
    rw [isSome_entries?_addEntry] at hsome
    exact (m.keeps_addEntry q e).names place _ (h.directories c place hsome)
  files place hplace := (m.keeps_addEntry q e).names _ _ (h.files place hplace)
  filePaths := h.filePaths

/-- A file may be registered once it is shown. -/
theorem addFile (h : m.WellKept) (hentry : m.HasEntry (.ofPath p.above) p.lastName) :
    WellKept { m with files := .ofPath p :: m.files } where
  toTidy := ⟨h.once, h.paths, h.names⟩
  directories := h.directories
  files q hq := by
    obtain rfl | hq := List.mem_cons.1 hq
    · rw [← Place.ofPath_above, Place.name_ofPath]
      exact hentry
    · exact h.files q hq
  filePaths q hq := by
    obtain rfl | hq := List.mem_cons.1 hq
    · exact ⟨p, rfl⟩
    · exact h.filePaths q hq

theorem withFile (h : m.WellKept) (p : Path) : (m.withFile p).WellKept := by
  have habove : ((m.withDirectory p.above).entries? (.ofPath p.above)).isSome = true :=
    (h.ensures p.above).isSome_iff.2 (.inl List.suffix_rfl)
  rw [withFile_eq]
  exact ((h.withDirectory p.above).addEntry _ _).addFile (hasEntry_addEntry habove (.file p.lastName))

theorem withDenied (h : m.WellKept) (p : Path) : (m.withDenied p).WellKept where
  toTidy := ⟨(h.withDirectory p).once, (h.withDirectory p).paths, (h.withDirectory p).names⟩
  directories := (h.withDirectory p).directories
  files := (h.withDirectory p).files
  filePaths := (h.withDirectory p).filePaths

end WellKept

/-! ## Calls -/

/-- What a listing can be told: that there is a file, or a directory, whether it is to stay empty or not, or that a
directory may not be listed. -/
inductive Call where
  | register (r : Registration)
  | deny (p : Path)

/-- Makes one call. -/
def perform (m : MemoryListing) : Call → MemoryListing
  | .register r => m.register r
  | .deny p => m.withDenied p

/-- What comes of calls, made one after the other. -/
def ofCalls (calls : List Call) : MemoryListing := calls.foldl perform {}

/-- **One call loses nothing.** -/
theorem keeps_perform (m : MemoryListing) (call : Call) : m.Keeps (m.perform call) := by
  cases call with
  | register r =>
    rw [perform, register]
    split
    · exact m.keeps_withFile r.path
    · exact m.keeps_withDirectory r.path
  | deny p => exact (m.keeps_withDirectory p).congr rfl

/-- **One call leaves a listing well kept.** -/
theorem WellKept.perform (h : m.WellKept) (call : Call) : (m.perform call).WellKept := by
  cases call with
  | register r =>
    rw [MemoryListing.perform, register]
    split
    · exact h.withFile r.path
    · exact h.withDirectory r.path
  | deny p => exact h.withDenied p

/-- However many calls there are, none of them loses anything. -/
theorem keeps_foldl (calls : List Call) (m : MemoryListing) : m.Keeps (calls.foldl perform m) := by
  induction calls generalizing m with
  | nil => exact .refl m
  | cons call calls ih => exact (m.keeps_perform call).trans (ih _)

theorem WellKept.ofCalls (calls : List Call) : (ofCalls calls).WellKept := by
  induction calls using List.reverseRecOn with
  | nil => exact .nothing
  | append_singleton calls call ih =>
    rw [MemoryListing.ofCalls, List.foldl_concat]
    exact ih.perform call

/-- **What is registered is shown, and nothing is lost.**  Make any calls with paths of any form.  From every path the
climb comes to an end, in one way only.  The table of directories has a place once, and no directory has two entries
of one name.  What is registered was registered under a path, and whatever path it is asked for by, a directory other
than the empty path has an entry of its last name in the directory above it, which is the empty path if there is no
parent, and so has each file.  And whatever else is called, each directory remains one, with all the names in it. -/
theorem registered_shown_and_kept (calls : List Call) :
    let m := ofCalls calls
    (∀ p m', Climb m p m' ↔ m' = m.withDirectory p) ∧
    (m.dirs.map (·.1)).Nodup ∧ (∀ d ∈ m.dirs, (d.2.map (·.name)).Nodup) ∧
    (∀ q, (m.entries? q).isSome = true ∨ q ∈ m.files → ∃ p : Path, q = .ofPath p) ∧
    (∀ p : Path, p.bytes ≠ [] → (m.entries? (.ofPath p)).isSome = true → m.HasEntry (.ofPath p.above) p.lastName) ∧
    (∀ p : Path, .ofPath p ∈ m.files → m.HasEntry (.ofPath p.above) p.lastName) ∧
    ∀ more, m.Keeps (ofCalls (calls ++ more)) := by
  intro m
  have hkept : m.WellKept := .ofCalls calls
  refine ⟨fun _ _ => climb_iff, hkept.once, hkept.names, fun q hq => ?_, fun p hne hsome => ?_, fun p hfile => ?_,
    fun more => ?_⟩
  · exact hq.elim hkept.toTidy.exists_path (hkept.filePaths q)
  · obtain ⟨c, q, hq⟩ := List.exists_cons_of_ne_nil (Place.ofPath_eq_nil_iff.not.2 hne)
    rw [hq] at hsome
    rw [Place.ofPath_above, ← Place.name_ofPath, hq]
    exact hkept.directories c q hsome
  · rw [Place.ofPath_above, ← Place.name_ofPath]
    exact hkept.files _ hfile
  · rw [ofCalls, List.foldl_append]
    exact keeps_foldl more m

/-- The calls for an attic: a step up below the root that may not be listed, a file after a dot, a file whose name is
no text, and another file. -/
def attic : List Call :=
  [.deny (.ofString "/attic/.."), .register (.file "./box"), .register ⟨⟨[0x62, 0xFF]⟩, true⟩,
    .register (.file "chest")]

/-- The step up and the root are shown without a name, the files are shown by theirs, and the chest is shown still
when it becomes a directory. -/
theorem registered_shown_and_kept_attic :
    let m := ofCalls attic
    ((m.entries? (.ofPath (.ofString "/attic/.."))).isSome = true ∧ m.HasEntry (.ofPath (.ofString "/attic")) "") ∧
    ((m.entries? (.ofPath (.ofString "/"))).isSome = true ∧ m.HasEntry (.ofPath ⟨[]⟩) "") ∧
    (.ofPath (.ofString "./box") ∈ m.files ∧ m.HasEntry (.ofPath (.ofString ".")) "box") ∧
    (.ofPath ⟨[0x62, 0xFF]⟩ ∈ m.files ∧ m.HasEntry (.ofPath ⟨[]⟩) "b\uFFFD") ∧
    (.ofPath (.ofString "chest") ∈ m.files ∧
      (ofCalls (attic ++ [.register (.file "chest/lid")])).HasEntry (.ofPath ⟨[]⟩) "chest") := by
  intro m
  obtain ⟨-, -, -, -, hdirectories, hfiles, hkept⟩ := registered_shown_and_kept attic
  refine ⟨?up, ?root, ?dot, ?bytes, ?chest⟩
  case up =>
    have hup : (m.entries? (.ofPath (.ofString "/attic/.."))).isSome = true := by decide +kernel
    have habove : (Path.ofString "/attic/..").above = .ofString "/attic" := by decide +kernel
    have hname : (Path.ofString "/attic/..").lastName = "" := by decide +kernel
    exact ⟨hup, habove ▸ hname ▸ hdirectories _ (by decide) hup⟩
  case root =>
    have hroot : (m.entries? (.ofPath (.ofString "/"))).isSome = true := by decide +kernel
    have habove : (Path.ofString "/").above = ⟨[]⟩ := by decide +kernel
    have hname : (Path.ofString "/").lastName = "" := by decide +kernel
    exact ⟨hroot, habove ▸ hname ▸ hdirectories _ (by decide) hroot⟩
  case dot =>
    have hbox : Place.ofPath (.ofString "./box") ∈ m.files := by decide +kernel
    have habove : (Path.ofString "./box").above = .ofString "." := by decide +kernel
    have hname : (Path.ofString "./box").lastName = "box" := by decide +kernel
    exact ⟨hbox, habove ▸ hname ▸ hfiles _ hbox⟩
  case bytes =>
    have hbytes : Place.ofPath ⟨[0x62, 0xFF]⟩ ∈ m.files := by decide +kernel
    have habove : (Path.mk [0x62, 0xFF]).above = ⟨[]⟩ := by decide +kernel
    have hname : (Path.mk [0x62, 0xFF]).lastName = "b\uFFFD" := by decide +kernel
    exact ⟨hbytes, habove ▸ hname ▸ hfiles _ hbytes⟩
  case chest =>
    have hchest : Place.ofPath (.ofString "chest") ∈ m.files := by decide +kernel
    have habove : (Path.ofString "chest").above = ⟨[]⟩ := by decide +kernel
    have hname : (Path.ofString "chest").lastName = "chest" := by decide +kernel
    have hshown := hfiles _ hchest
    rw [habove, hname] at hshown
    exact ⟨hchest, (hkept _).names _ _ hshown⟩

end MemoryListing
end DocPortal
