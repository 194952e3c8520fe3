import DocPortal.Proofs.Memory

/-!
# What an entry in memory says

Paths of names are registered in any order and as often as one likes, as files, as directories and through files.
An entry then says what was last made of its path, but a path that was once registered as a file is never listed
again. So an entry says what it names, unless a file has become a directory: its entry is that of a directory, and
still it is refused.

## Main definitions

* `Registration.Turned` — a file has become a directory.
* `MemoryListing.Follows` — what can be told of a listing from any registrations at all.
* `DirectoryEntry.Agrees` — the answer to the path of an entry fits it.
-/

namespace DocPortal

/-- The answer to the path of an entry fits the entry: a file is refused as no directory, all else is listed. -/
def DirectoryEntry.Agrees (e : DirectoryEntry) : Except ListingError (List DirectoryEntry) → Prop
  | .ok _ => e.isFile = false
  | .error err => e.isFile = true ∧ err.kind = .notADirectory

/-! ## The path of an entry -/

theorem Place.ofPath_child {n : Bytes} (hn : Lexical.IsName n) (p : Path) :
    Place.ofPath (p.child n) = .name n :: Place.ofPath p := by
  rw [ofPath, Path.components_child hn, List.reverse_concat]
  rfl

theorem Path.location_of_place {q : Path} {loc : Location} (h : Place.ofPath q = loc.place) : q.location = loc := by
  have hnames : (loc.map Component.name).filterMap Component.name? = loc := by
    rw [List.filterMap_map]
    exact List.filterMap_some
  have hlocation : q.location = (Place.ofPath q).filterMap Component.name? := rfl
  rw [hlocation, h]
  exact hnames

namespace Registration

/-- What is known has a name. -/
theorem Known.isName {rs : List Registration} {dir : Location} {n : Bytes} (h : Known rs (n :: dir)) :
    Lexical.IsName n := by
  obtain ⟨r, -, hsuffix⟩ := h
  have hmem : n ∈ r.path.location := hsuffix.subset List.mem_cons_self
  exact (Path.name_mem_steps_iff.1 (Path.mem_location_iff.1 hmem)).2

end Registration

/-! ## Files that become directories -/

namespace Registration

variable {rs : List Registration} {r : Registration} {loc dir : Location} {n : Bytes} {e : DirectoryEntry}

/-- A file has become a directory: after it was last registered, its path was for the first time one of a directory.
-/
def Turned (rs : List Registration) (loc : Location) : Prop :=
  ∃ before after, rs = before ++ after ∧ isFileAt before loc = true ∧ ¬ IsFolder before loc ∧
    isFileAt after loc = false ∧ IsFolder after loc

theorem isFileAt_append (rs rs' : List Registration) (loc : Location) :
    isFileAt (rs ++ rs') loc = (isFileAt rs loc || isFileAt rs' loc) :=
  List.any_append

theorem isFolder_append {rs rs' : List Registration} :
    IsFolder (rs ++ rs') loc ↔ IsFolder rs loc ∨ IsFolder rs' loc := by
  simp [IsFolder, or_and_right, exists_or]

theorem Turned.isFileAt (h : Turned rs loc) : isFileAt rs loc = true := by
  obtain ⟨before, after, rfl, hfile, -⟩ := h
  rw [isFileAt_append, hfile, Bool.true_or]

theorem Turned.isFolder (h : Turned rs loc) : IsFolder rs loc := by
  obtain ⟨before, after, rfl, -, -, -, hfolder⟩ := h
  exact isFolder_append.2 (.inr hfolder)

/-- A file becomes a directory when a path first takes it for one, and a file again when it is registered. -/
theorem turned_concat_iff : Turned (rs ++ [r]) loc ↔ ¬ (r.isFile = true ∧ r.location = loc) ∧
    (Turned rs loc ∨ (isFileAt rs loc = true ∧ ¬ IsFolder rs loc ∧ loc <:+ r.folder)) := by
  constructor
  · rintro ⟨before, after, heq, hbefore, hnone, hafter, hfolder⟩
    obtain rfl | ⟨after, r', rfl⟩ := List.eq_nil_or_concat' after
    · obtain ⟨r', hr', -⟩ := hfolder
      cases hr'
    rw [← List.append_assoc] at heq
    obtain ⟨rfl, hlast⟩ := List.append_inj' heq rfl
    obtain rfl := List.singleton_inj.1 hlast
    rw [isFileAt_concat, Bool.or_eq_false_iff, Bool.and_eq_false_imp, decide_eq_false_iff_not] at hafter
    refine ⟨fun h => hafter.2 h.1 h.2, ?_⟩
    by_cases hearlier : IsFolder after loc
    · exact .inl ⟨before, after, rfl, hbefore, hnone, hafter.1, hearlier⟩
    · refine .inr ⟨?_, ?_, (isFolder_concat_iff.1 hfolder).resolve_left hearlier⟩
      · rw [isFileAt_append, hbefore, Bool.true_or]
      · rw [isFolder_append, not_or]
        exact ⟨hnone, hearlier⟩
  · rintro ⟨hnot, ⟨before, after, rfl, hbefore, hnone, hafter, hfolder⟩ | ⟨hfile, hnone, hsuffix⟩⟩
    · refine ⟨before, after ++ [r], by rw [List.append_assoc], hbefore, hnone, ?_, ?_⟩
      · rw [isFileAt_concat, hafter, Bool.false_or, Bool.and_eq_false_imp, decide_eq_false_iff_not]
        exact fun hfile hlocation => hnot ⟨hfile, hlocation⟩
      · exact isFolder_concat_iff.2 (.inl hfolder)
    · refine ⟨rs, [r], rfl, hfile, hnone, ?_, ⟨r, List.mem_singleton_self r, hsuffix⟩⟩
      simpa [isFileAt] using hnot

/-! ## Entries -/

/-- An entry of a directory tells what was registered: its name is that of something known, and it says that this is
a file exactly if it is one that has not become a directory. -/
def Tells (rs : List Registration) (dir : Location) (e : DirectoryEntry) : Prop :=
  ∃ n, e.name = Text.lossy n ∧ Known rs (n :: dir) ∧
    (e.isFile = true ↔ isFileAt rs (n :: dir) = true ∧ ¬ Turned rs (n :: dir))

/-- An entry goes on telling what was registered, if nothing of its name is put in its directory. -/
theorem Tells.concat (h : Tells rs dir e)
    (hfile : ∀ n, r.isFile = true → r.location = n :: dir → e.name ≠ Text.lossy n)
    (hfolder : ∀ n, n :: dir <:+ r.folder → ¬ IsFolder rs (n :: dir) → e.name ≠ Text.lossy n) :
    Tells (rs ++ [r]) dir e := by
  obtain ⟨n, hname, ⟨r', hr', hknown⟩, hiff⟩ := h
  have hother : ¬ (r.isFile = true ∧ r.location = n :: dir) := by
    rintro ⟨h, hlocation⟩
    exact hfile n h hlocation hname
  have hsame : isFileAt (rs ++ [r]) (n :: dir) = isFileAt rs (n :: dir) := by
    rw [isFileAt_concat, Bool.or_eq_left_iff_imp, Bool.and_eq_true, decide_eq_true_iff]
    exact fun h => absurd h hother
  have hturned : Turned (rs ++ [r]) (n :: dir) ↔ Turned rs (n :: dir) := by
    rw [turned_concat_iff, and_iff_right hother, or_iff_left]
    rintro ⟨-, hnone, hsuffix⟩
    exact hfolder n hsuffix hnone hname
  refine ⟨n, hname, ⟨r', List.mem_append_left _ hr', hknown⟩, ?_⟩
  rw [hsame, hturned, hiff]

/-- The entry of a new file tells that it is one. -/
theorem tells_file (hfile : r.isFile = true) (hlocation : r.location = n :: dir) :
    Tells (rs ++ [r]) dir (.file (Text.lossy n)) := by
  refine ⟨n, rfl, ⟨r, List.mem_concat_self, hlocation ▸ List.suffix_refl _⟩, iff_of_true rfl ⟨?_, fun h => ?_⟩⟩
  · rw [isFileAt_concat, hfile, hlocation, decide_eq_true rfl, Bool.and_self, Bool.or_true]
  · exact (turned_concat_iff.1 h).1 ⟨hfile, hlocation⟩

/-- The entry of a new directory tells that it is one, even where there has been a file before. -/
theorem tells_directory (hsuffix : n :: dir <:+ r.folder) (hnone : ¬ IsFolder rs (n :: dir)) :
    Tells (rs ++ [r]) dir (.other (Text.lossy n)) := by
  have hnot : ¬ (r.isFile = true ∧ r.location = n :: dir) := by
    rintro ⟨hfile, hlocation⟩
    rw [folder, if_pos hfile, hlocation] at hsuffix
    exact not_cons_suffix n dir hsuffix
  refine ⟨n, rfl, ⟨r, List.mem_concat_self, hsuffix.trans r.folder_suffix⟩, iff_of_false Bool.false_ne_true ?_⟩
  rintro ⟨hfile, hturned⟩
  rw [isFileAt_concat, Bool.or_eq_true, Bool.and_eq_true, decide_eq_true_iff] at hfile
  exact hturned (turned_concat_iff.2 ⟨hnot, .inr ⟨hfile.resolve_right hnot, hnone, hsuffix⟩⟩)

end Registration

/-! ## Any registrations -/

namespace MemoryListing

open Registration

variable {m : MemoryListing} {rs : List Registration} {r : Registration} {dir : Location} {e : DirectoryEntry}

/-- What can be told of a listing from the registrations, whatever they are.  A directory that is registered as a
file as well is not listed, and nothing is said of its entries. -/
structure Follows (m : MemoryListing) (rs : List Registration) : Prop where
  registered : ∀ p, (m.entries? p).isSome = true ↔ ∃ dir : Location, p = dir.place ∧ IsFolder rs dir
  entries : ∀ (dir : Location) found, isFileAt rs dir = false → m.entries? dir.place = some found →
    ∀ e ∈ found, Tells rs dir e
  files : ∀ loc : Location, loc.place ∈ m.files ↔ isFileAt rs loc = true
  denied : m.denied = []

namespace Follows

theorem nothing : Follows {} [] where
  registered p := by simp [entries?, IsFolder]
  entries dir found _ hfound := by cases hfound
  files loc := by simp [isFileAt]
  denied := rfl

theorem isSome_iff (h : m.Follows rs) : (m.entries? dir.place).isSome = true ↔ IsFolder rs dir := by
  rw [h.registered]
  constructor
  · rintro ⟨dir', heq, hfolder⟩
    exact Location.place_injective heq ▸ hfolder
  · exact fun hfolder => ⟨dir, rfl, hfolder⟩

theorem closedUpTo (h : m.Follows rs) (p : Place) : m.ClosedUpTo p := by
  intro c q _ hsome
  obtain ⟨dir, heq, hfolder⟩ := (h.registered _).1 hsome
  cases dir with
  | nil => cases heq
  | cons n dir =>
    obtain ⟨-, rfl⟩ := List.cons.inj heq
    exact h.isSome_iff.2 (hfolder.of_suffix (List.suffix_cons n dir))

theorem registered_register (h : m.Follows rs) (hplain : r.path.IsPlain) (p : Place) :
    ((m.register r).entries? p).isSome = true ↔ ∃ dir : Location, p = dir.place ∧ IsFolder (rs ++ [r]) dir := by
  have hensured := (ensures_ensureDirectory (h.closedUpTo r.folder.place)).isSome_iff (q := p)
  have hsome : ((m.register r).entries? p).isSome = ((m.ensureDirectory r.folder.place).entries? p).isSome := by
    rw [entries?_register hplain]
    split
    · rw [isSome_entries?_addEntry]
    · rfl
  rw [hsome, hensured, h.registered, Location.suffix_place]
  simp only [isFolder_concat_iff, and_or_left, exists_or, and_comm, or_comm]

/-- When its directories are registered, the entries tell what was registered, if none has the name of its file. -/
theorem tells_of_ensured (h : m.Follows rs) {found : List DirectoryEntry} (hroot : isFileAt rs dir = false)
    (hfound : (m.ensureDirectory r.folder.place).entries? dir.place = some found) (he : e ∈ found)
    (hname : ∀ n, r.isFile = true → r.location = n :: dir → e.name ≠ Text.lossy n) :
    Tells (rs ++ [r]) dir e := by
  obtain ⟨c, hc, hnone, rfl⟩ | ⟨⟨old, hold, hmem⟩, hother⟩ :=
    (ensures_ensureDirectory (h.closedUpTo r.folder.place)).mem_cases hfound he
  · obtain ⟨n, dir', hsuffix, rfl, hplace⟩ := Location.cons_suffix_place.1 hc
    obtain rfl := Location.place_injective hplace
    exact tells_directory hsuffix fun hfolder => Option.isSome_iff_ne_none.1 (h.isSome_iff.2 hfolder) hnone
  · refine (h.entries dir old hroot hold e hmem).concat hname fun n hsuffix hfolder => ?_
    refine hother (.name n) (Location.place_suffix_place.2 hsuffix) ?_
    exact Option.not_isSome_iff_eq_none.1 (h.isSome_iff.not.2 hfolder)

/-- **One registration.**  Whatever is registered next, the entries tell it, too. -/
theorem register (h : m.Follows rs) (hplain : r.path.IsPlain) : (m.register r).Follows (rs ++ [r]) := by
  refine ⟨h.registered_register hplain, fun dir found hroot hfound e he => ?_, fun loc => ?_,
    (denied_register m r).trans h.denied⟩
  · rw [isFileAt_concat, Bool.or_eq_false_iff, Bool.and_eq_false_imp, decide_eq_false_iff_not] at hroot
    obtain ⟨hroot, hself⟩ := hroot
    rw [entries?_register hplain] at hfound
    split at hfound
    · rename_i hfile
      have hfolder : r.folder = r.location.tail := if_pos hfile
      obtain ⟨hdir, rfl⟩ | ⟨⟨old, hold, hmem⟩, hname⟩ := mem_addEntry_cases hfound he
      · obtain rfl := Location.place_injective hdir
        cases hlocation : r.location with
        | nil =>
          rw [hfolder, hlocation] at hself
          exact absurd rfl (hself hfile)
        | cons n parent =>
          rw [hfolder, hlocation]
          exact tells_file hfile hlocation
      · refine h.tells_of_ensured hroot hold hmem fun n _ hlocation => ?_
        rw [hfolder, hlocation] at hname
        exact hname rfl
    · rename_i hfile
      exact h.tells_of_ensured hroot hfound he fun n hyes => absurd hyes hfile
  · rw [place_mem_files_register hplain, h.files, isFileAt_concat, Bool.or_eq_true, Bool.and_eq_true,
      decide_eq_true_iff]

/-- **All registrations.**  However often a path is registered and as what, the entries tell it. -/
theorem ofRegistrations (hplain : ∀ r ∈ rs, r.path.IsPlain) : (MemoryListing.ofRegistrations rs).Follows rs := by
  induction rs using List.reverseRecOn with
  | nil => exact .nothing
  | append_singleton rs r ih =>
    have hbefore := ih fun r' hr' => hplain r' (List.mem_append_left _ hr')
    rw [MemoryListing.ofRegistrations, List.foldl_concat]
    exact hbefore.register (hplain r List.mem_concat_self)

/-! ## Answers -/

/-- What is listed is a directory and no file. -/
theorem of_find_ok (h : m.Follows rs) {d : Path} {found : List DirectoryEntry} (hfound : m.find d = .ok found) :
    ∃ dir : Location, Place.ofPath d = dir.place ∧ isFileAt rs dir = false ∧ m.entries? dir.place = some found := by
  rw [find, h.denied, if_neg List.not_mem_nil] at hfound
  split at hfound
  · cases hfound
  rename_i hfile
  split at hfound
  · rename_i found' hentries
    obtain rfl := Except.ok.inj hfound
    obtain ⟨dir, hdir, -⟩ := (h.registered (Place.ofPath d)).1 (by rw [hentries]; rfl)
    rw [hdir] at hfile hentries
    exact ⟨dir, hdir, Bool.eq_false_iff.2 fun hfile' => hfile ((h.files dir).2 hfile'), hentries⟩
  · cases hfound

/-- The path of an entry leads to what the entry tells of. -/
theorem exists_place_of_entry (h : m.Follows rs) (htext : ∀ r ∈ rs, ∃ s, r.path = .ofString s) {d : Path}
    {found : List DirectoryEntry} (hfound : m.find d = .ok found) (he : e ∈ found) :
    ∃ loc : Location, Place.ofPath (d.join (.ofString e.name)) = loc.place ∧ Known rs loc ∧
      (e.isFile = true ↔ isFileAt rs loc = true ∧ ¬ Turned rs loc) := by
  obtain ⟨dir, hdir, hroot, hentries⟩ := h.of_find_ok hfound
  obtain ⟨n, hname, hknown, hkind⟩ := h.entries dir found hroot hentries e he
  have hchild : d.join (.ofString e.name) = d.child n := by
    rw [← encode_lossy htext hknown, ← hname]
    rfl
  refine ⟨n :: dir, ?_, hknown, hkind⟩
  rw [hchild, Place.ofPath_child hknown.isName, hdir]
  rfl

/-- What is known is no directory if it was registered as a file, and otherwise it is listed. -/
theorem find_of_known (h : m.Follows rs) {q : Path} {loc : Location} (hq : Place.ofPath q = loc.place)
    (hknown : Known rs loc) :
    (isFileAt rs loc = true ∧ m.find q = .error ((ListingError.notADirectory q).ofBackend backend)) ∨
      (isFileAt rs loc = false ∧ ∃ found, m.find q = .ok found) := by
  rw [find, hq, h.denied, if_neg List.not_mem_nil]
  cases hfile : isFileAt rs loc with
  | true => exact .inl ⟨rfl, if_pos ((h.files loc).2 hfile)⟩
  | false =>
    have hnot : loc.place ∉ m.files := (h.files loc).not.2 (Bool.eq_false_iff.1 hfile)
    have hfolder : IsFolder rs loc := (known_iff.1 hknown).resolve_right (Bool.eq_false_iff.1 hfile)
    obtain ⟨found, hfound⟩ := Option.isSome_iff_exists.1 (h.isSome_iff.2 hfolder)
    rw [if_neg hnot, hfound]
    exact .inr ⟨rfl, found, rfl⟩

end Follows

/-- **An entry says what it names, unless it names a file that has become a directory.**  Register files and
directories under texts of names, in any order and as often as you like, and ask for a path that is listed.  The
answer to the path of an entry fits the entry exactly if it names no file that has become a directory.  If it does,
the entry is that of a directory, and the path is refused all the same. -/
theorem entry_agrees_iff (rs : List Registration) (d : Path) (found : List DirectoryEntry) (e : DirectoryEntry)
    (hplain : ∀ r ∈ rs, r.path.IsPlain) (htext : ∀ r ∈ rs, ∃ s, r.path = .ofString s)
    (hfound : (listing.ask d (.ofRegistrations rs)).result = .ok found) (he : e ∈ found) :
    let asked := listing.ask d (.ofRegistrations rs)
    let q := d.join (.ofString e.name)
    (e.Agrees (listing.ask q asked.state).result ↔ ¬ Turned rs q.location) ∧
      (Turned rs q.location → e.isFile = false ∧
        (listing.ask q asked.state).result = .error ((ListingError.notADirectory q).ofBackend backend)) := by
  intro asked q
  have hfollows := Follows.ofRegistrations hplain
  obtain ⟨loc, hplace, hknown, hkind⟩ := hfollows.exists_place_of_entry htext hfound he
  rw [Path.location_of_place hplace]
  -- How often a listing was asked is nothing to its answers.
  have hanswer : (listing.ask q asked.state).result = (MemoryListing.ofRegistrations rs).find q := rfl
  rw [hanswer]
  obtain ⟨hfile, hrefused⟩ | ⟨hfile, kept, hlisted⟩ := hfollows.find_of_known hplace hknown
  · rw [hrefused]
    refine ⟨?_, fun hturned => ⟨?_, rfl⟩⟩
    · rw [DirectoryEntry.Agrees, hkind, and_iff_right hfile]
      exact and_iff_left rfl
    · rw [Bool.eq_false_iff, Ne, hkind]
      exact fun h => h.2 hturned
  · have hnot : ¬ Turned rs loc := by
      intro hturned
      rw [hturned.isFileAt] at hfile
      cases hfile
    have hother : e.isFile = false := by
      rw [Bool.eq_false_iff, Ne, hkind, hfile]
      exact fun h => Bool.false_ne_true h.1
    rw [hlisted]
    exact ⟨iff_of_true hother hnot, fun hturned => absurd hturned hnot⟩

/-- The registrations of a harbor: a file with something below it, and a file. -/
def harbor : List Registration := [.file "harbor", .file "harbor/chart.md", .file "pier"]

/-- The entry of the harbor is that of a directory that is not listed, that of the pier is that of a file. -/
theorem entry_agrees_iff_harbor :
    (∀ r ∈ harbor, r.path.IsPlain) ∧ (∀ r ∈ harbor, ∃ s, r.path = .ofString s) ∧
    (listing.ask (.ofString "") (.ofRegistrations harbor)).result = .ok [.other "harbor", .file "pier"] ∧
    ¬ (DirectoryEntry.other "harbor").Agrees (listing.ask ((Path.ofString "").join (.ofString "harbor"))
      (listing.ask (.ofString "") (.ofRegistrations harbor)).state).result ∧
    (DirectoryEntry.file "pier").Agrees (listing.ask ((Path.ofString "").join (.ofString "pier"))
      (listing.ask (.ofString "") (.ofRegistrations harbor)).state).result := by
  have hplain : ∀ r ∈ harbor, r.path.IsPlain := by decide +kernel
  have htext : ∀ r ∈ harbor, ∃ s, r.path = .ofString s := by
    intro r hr
    simp only [harbor, List.mem_cons, List.not_mem_nil, or_false] at hr
    obtain rfl | rfl | rfl := hr <;> exact ⟨_, rfl⟩
  have hfound : (listing.ask (.ofString "") (.ofRegistrations harbor)).result =
      .ok [.other "harbor", .file "pier"] :=
    by decide +kernel
  have hturned : Turned harbor ((Path.ofString "").join (.ofString "harbor")).location := by
    refine ⟨[.file "harbor"], [.file "harbor/chart.md", .file "pier"], rfl, ?_⟩
    decide +kernel
  have hnot : ¬ Turned harbor ((Path.ofString "").join (.ofString "pier")).location := by
    refine mt Turned.isFolder ?_
    decide +kernel
  exact ⟨hplain, htext, hfound,
    (entry_agrees_iff harbor _ _ (.other "harbor") hplain htext hfound (by decide)).1.not.2 (not_not.2 hturned),
    (entry_agrees_iff harbor _ _ (.file "pier") hplain htext hfound (by decide)).1.2 hnot⟩

/-- An entry does not say what it names where a file was registered as a directory afterwards. -/
theorem not_forall_entry_agrees :
    ¬ ∀ (rs : List Registration) (d : Path) (found : List DirectoryEntry) (e : DirectoryEntry),
      (∀ r ∈ rs, r.path.IsPlain) → (∀ r ∈ rs, ∃ s, r.path = .ofString s) →
      (listing.ask d (.ofRegistrations rs)).result = .ok found → e ∈ found →
      e.Agrees (listing.ask (d.join (.ofString e.name)) (listing.ask d (.ofRegistrations rs)).state).result := by
  intro h
  have hplain : ∀ r ∈ [file "a", directory "a"], r.path.IsPlain := by decide +kernel
  have htext : ∀ r ∈ [file "a", directory "a"], ∃ s, r.path = .ofString s := by
    intro r hr
    simp only [List.mem_cons, List.not_mem_nil, or_false] at hr
    obtain rfl | rfl := hr <;> exact ⟨_, rfl⟩
  have hfound : (listing.ask (.ofString "") (.ofRegistrations [file "a", directory "a"])).result =
      .ok [.other "a"] := by
    decide +kernel
  have hrefused : (listing.ask ((Path.ofString "").join (.ofString "a"))
      (listing.ask (.ofString "") (.ofRegistrations [file "a", directory "a"])).state).result =
        .error ((ListingError.notADirectory (.ofString "a")).ofBackend backend) := by
    decide +kernel
  have hagrees := h _ (.ofString "") _ (.other "a") hplain htext hfound (by decide)
  rw [show (DirectoryEntry.other "a").name = "a" from rfl, hrefused] at hagrees
  exact absurd hagrees.1 (by decide)

end MemoryListing
end DocPortal
