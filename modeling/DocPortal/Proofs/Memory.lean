import DocPortal.Proofs.Directories
import DocPortal.Proofs.Names

/-!
# What is registered in memory

Files and directories are registered one after the other, in any order, directories before or after what they
hold. If no path goes through a file or is registered once more, what comes of it can be told from the
registrations alone: a directory is listed if one of them goes through it or ends at it, and it has its children
in the order in which they were first come by.

## Main definitions

* `Registration` — a file or a directory to be registered.
* `Registration.listed` — the entries of a directory, as told from the registrations.
* `MemoryListing.Represents` — a listing holds what was registered.
-/

namespace DocPortal

/-! ## First occurrences -/

section

variable {α : Type} [BEq α] [LawfulBEq α]

theorem eraseDups_concat (l : List α) (a : α) :
    (l ++ [a]).eraseDups = l.eraseDups ++ if a ∈ l then [] else [a] := by
  rw [List.eraseDups_append, List.removeAll]
  by_cases ha : a ∈ l <;> simp [ha, List.eraseDups_cons]

theorem nodup_eraseDups (l : List α) : l.eraseDups.Nodup := by
  induction l using List.reverseRecOn with
  | nil => exact List.nodup_nil
  | append_singleton l a ih =>
    rw [eraseDups_concat]
    split
    · rwa [List.append_nil]
    · rename_i ha
      rw [← List.concat_eq_append]
      exact ih.concat fun h => ha (List.mem_eraseDups.1 h)

end

/-! ## Places that have names only -/

namespace Location

/-- The place in memory that a location is. -/
def place (loc : Location) : Place := loc.map .name

theorem place_injective : Function.Injective place :=
  List.map_injective_iff.2 fun _ _ h => Component.name.inj h

@[simp] theorem place_inj {loc loc' : Location} : loc.place = loc'.place ↔ loc = loc' :=
  place_injective.eq_iff

theorem suffix_place {p : Place} {loc : Location} : p <:+ loc.place ↔ ∃ dir : Location, dir <:+ loc ∧ p = dir.place :=
  List.suffix_map_iff

@[simp] theorem place_suffix_place {dir loc : Location} : dir.place <:+ loc.place ↔ dir <:+ loc := by
  rw [suffix_place]
  constructor
  · rintro ⟨dir', hdir, heq⟩
    exact place_injective heq ▸ hdir
  · exact fun hdir => ⟨dir, hdir, rfl⟩

/-- The places above that of a location are those of the locations above. -/
theorem cons_suffix_place {c : Component UInt8} {q : Place} {loc : Location} :
    c :: q <:+ loc.place ↔ ∃ n, ∃ dir : Location, n :: dir <:+ loc ∧ c = .name n ∧ q = dir.place := by
  rw [suffix_place]
  constructor
  · rintro ⟨dir, hdir, heq⟩
    cases dir with
    | nil => cases heq
    | cons n dir =>
      obtain ⟨rfl, rfl⟩ := List.cons.inj heq
      exact ⟨n, dir, hdir, rfl, rfl⟩
  · rintro ⟨n, dir, hdir, rfl, rfl⟩
    exact ⟨n :: dir, hdir, rfl⟩

/-- The name by which a location goes on from a directory that it is below. -/
def childToward (dir : Location) : Location → Option Bytes
  | [] => none
  | n :: parent => if parent = dir then some n else childToward dir parent

variable {dir loc : Location} {n : Bytes}

theorem childToward_eq_some_iff : childToward dir loc = some n ↔ n :: dir <:+ loc := by
  induction loc with
  | nil => simp [childToward]
  | cons m parent ih =>
    rw [childToward, List.suffix_cons_iff]
    split
    · rename_i hparent
      subst hparent
      simp [not_cons_suffix, eq_comm]
    · rename_i hparent
      rw [ih, or_iff_right]
      exact fun heq => hparent (List.cons.inj heq).2.symm

@[simp] theorem childToward_self (loc : Location) : childToward loc loc = none :=
  Option.eq_none_iff_forall_ne_some.2 fun n h => not_cons_suffix n loc (childToward_eq_some_iff.1 h)

end Location

namespace Path

/-- A path that has names for components and nothing else. -/
def IsPlain (p : Path) : Prop := ∀ c ∈ p.components, c ≠ .root ∧ c ≠ .here ∧ c ≠ .up

instance (p : Path) : Decidable p.IsPlain :=
  inferInstanceAs (Decidable (∀ c ∈ p.components, c ≠ .root ∧ c ≠ .here ∧ c ≠ .up))

theorem IsPlain.place_location {p : Path} (h : p.IsPlain) : p.location.place = .ofPath p := by
  have hnames : ∀ cs : Place, (∀ c ∈ cs, c ≠ .root ∧ c ≠ .here ∧ c ≠ .up) →
      (cs.filterMap Component.name?).map .name = cs := by
    intro cs hcs
    induction cs with
    | nil => rfl
    | cons c cs ih =>
      obtain ⟨⟨hroot, hhere, hup⟩, hrest⟩ := List.forall_mem_cons.1 hcs
      cases c with
      | root => exact absurd rfl hroot
      | here => exact absurd rfl hhere
      | up => exact absurd rfl hup
      | name n => exact congrArg (.name n :: ·) (ih hrest)
  exact hnames _ fun c hc => h c (List.mem_reverse.1 hc)

end Path

/-! ## Registrations -/

/-- A file or a directory that is to be registered under a path. -/
structure Registration where
  path : Path
  isFile : Bool

namespace Registration

/-- The registration of a regular file. -/
def file (p : String) : Registration := ⟨.ofString p, true⟩

/-- The registration of a directory, empty or not. -/
def directory (p : String) : Registration := ⟨.ofString p, false⟩

/-- Where the file or the directory is. -/
def location (r : Registration) : Location := r.path.location

/-- The innermost directory of a registration. -/
def folder (r : Registration) : Location := if r.isFile then r.location.tail else r.location

/-- Neither is a file at which the path of the other one ends or through which it goes. -/
def Apart (r r' : Registration) : Prop :=
  (r.isFile = true → ¬ r.location <:+ r'.location) ∧ (r'.isFile = true → ¬ r'.location <:+ r.location)

instance (r r' : Registration) : Decidable (Apart r r') :=
  inferInstanceAs (Decidable (_ ∧ _))

/-- The paths are texts of names only, and no file is in the way of another path. -/
structure Orderly (rs : List Registration) : Prop where
  plain : ∀ r ∈ rs, r.path.IsPlain
  text : ∀ r ∈ rs, ∃ s, r.path = .ofString s
  apart : rs.Pairwise Apart

/-- A place is known if the path of some registration goes through it or ends there. -/
def Known (rs : List Registration) (loc : Location) : Prop := ∃ r ∈ rs, loc <:+ r.location

/-- A directory of some registration. -/
def IsFolder (rs : List Registration) (loc : Location) : Prop := ∃ r ∈ rs, loc <:+ r.folder

instance (rs : List Registration) (loc : Location) : Decidable (IsFolder rs loc) :=
  inferInstanceAs (Decidable (∃ r ∈ rs, loc <:+ r.folder))

/-- Whether some registration is that of a file at a place. -/
def isFileAt (rs : List Registration) (loc : Location) : Bool := rs.any fun r => r.isFile && r.location = loc

/-- The names in a directory, in the order of the first registration whose path goes through the place of that
name or ends there. -/
def childNames (rs : List Registration) (dir : Location) : List Bytes :=
  (rs.filterMap fun r => Location.childToward dir r.location).eraseDups

/-- The entries of a directory, in that order. -/
def listed (rs : List Registration) (dir : Location) : List DirectoryEntry :=
  (childNames rs dir).map fun n => ⟨Text.lossy n, isFileAt rs (n :: dir)⟩

variable {rs : List Registration} {r : Registration} {loc dir : Location} {n : Bytes}

theorem folder_suffix (r : Registration) : r.folder <:+ r.location := by
  rw [folder]
  split
  · exact List.tail_suffix _
  · exact List.suffix_refl _

/-- A path goes through its directories, and ends at one or at a file. -/
theorem suffix_location_iff : loc <:+ r.location ↔ loc <:+ r.folder ∨ (r.isFile = true ∧ loc = r.location) := by
  constructor
  · intro h
    rw [folder]
    split
    · rename_i hfile
      obtain heq | hne := eq_or_ne loc r.location
      · exact .inr ⟨hfile, heq⟩
      · cases hlocation : r.location with
        | nil => exact absurd (List.suffix_nil.1 (hlocation ▸ h)) (hlocation ▸ hne)
        | cons n parent =>
          rw [hlocation] at h hne
          exact .inl ((List.suffix_cons_iff.1 h).resolve_left hne)
    · exact .inl h
  · rintro (h | ⟨-, rfl⟩)
    · exact h.trans r.folder_suffix
    · exact List.suffix_refl _

/-- What holds something is a directory. -/
theorem suffix_folder_of_cons (h : n :: loc <:+ r.location) : loc <:+ r.folder := by
  obtain h | ⟨hfile, h⟩ := suffix_location_iff.1 h
  · exact (List.suffix_cons n loc).trans h
  · rw [folder, if_pos hfile, ← h]
    exact List.suffix_refl _

theorem isFileAt_iff : isFileAt rs loc = true ↔ ∃ r ∈ rs, r.isFile = true ∧ r.location = loc := by
  simp [isFileAt]

theorem known_iff : Known rs loc ↔ IsFolder rs loc ∨ isFileAt rs loc = true := by
  rw [isFileAt_iff]
  constructor
  · rintro ⟨r, hr, hloc⟩
    obtain hfolder | ⟨hfile, rfl⟩ := suffix_location_iff.1 hloc
    · exact .inl ⟨r, hr, hfolder⟩
    · exact .inr ⟨r, hr, hfile, rfl⟩
  · rintro (⟨r, hr, hfolder⟩ | ⟨r, hr, hfile, rfl⟩)
    · exact ⟨r, hr, suffix_location_iff.2 (.inl hfolder)⟩
    · exact ⟨r, hr, List.suffix_refl _⟩

theorem IsFolder.of_suffix (h : IsFolder rs loc) (hdir : dir <:+ loc) : IsFolder rs dir := by
  obtain ⟨r, hr, hfolder⟩ := h
  exact ⟨r, hr, hdir.trans hfolder⟩

/-- What holds something that is known is a directory. -/
theorem Known.isFolder_of_cons (h : Known rs (n :: dir)) : IsFolder rs dir := by
  obtain ⟨r, hr, hfolder⟩ := h
  exact ⟨r, hr, suffix_folder_of_cons hfolder⟩

theorem nodup_childNames (rs : List Registration) (dir : Location) : (childNames rs dir).Nodup := nodup_eraseDups _

theorem mem_childNames_iff : n ∈ childNames rs dir ↔ Known rs (n :: dir) := by
  simp only [childNames, List.mem_eraseDups, List.mem_filterMap, Location.childToward_eq_some_iff, Known]

/-- Names on paths that are texts are texts. -/
theorem encode_lossy (htext : ∀ r ∈ rs, ∃ s, r.path = .ofString s) (hn : Known rs (n :: dir)) :
    Text.encode (Text.lossy n) = n := by
  obtain ⟨r, hr, hsuffix⟩ := hn
  obtain ⟨t, ht⟩ := htext r hr
  have hmem : n ∈ r.path.location := hsuffix.subset List.mem_cons_self
  rw [ht, Path.mem_location_iff] at hmem
  obtain ⟨s, rfl⟩ := Path.exists_text_of_name_mem_steps hmem
  rw [Text.lossy_encode]

/-- A place that is no directory has no entries. -/
theorem listed_eq_nil (h : ¬ IsFolder rs dir) : listed rs dir = [] := by
  rw [listed, List.map_eq_nil_iff, List.eq_nil_iff_forall_not_mem]
  exact fun n hn => h (mem_childNames_iff.1 hn).isFolder_of_cons

namespace Orderly

theorem of_append {rs' : List Registration} (h : Orderly (rs ++ rs')) : Orderly rs where
  plain r hr := h.plain r (List.mem_append_left _ hr)
  text r hr := h.text r (List.mem_append_left _ hr)
  apart := (List.pairwise_append.1 h.apart).1

theorem apart_of_concat (h : Orderly (rs ++ [r])) : ∀ r' ∈ rs, r'.Apart r := fun r' hr' =>
  (List.pairwise_append.1 h.apart).2.2 r' hr' r (List.mem_singleton_self r)

theorem plain_of_concat (h : Orderly (rs ++ [r])) : r.path.IsPlain := h.plain r List.mem_concat_self

/-- No two names are the same text. -/
theorem name_ne (h : Orderly (rs ++ [r])) (hn : n :: dir <:+ r.location) (hunknown : ¬ Known rs (n :: dir))
    {e : DirectoryEntry} (he : e ∈ listed rs dir) : e.name ≠ Text.lossy n := by
  obtain ⟨n', hn', rfl⟩ := List.mem_map.1 he
  rw [mem_childNames_iff] at hn'
  intro heq
  have hencode := congrArg Text.encode heq
  rw [encode_lossy h.of_append.text hn', encode_lossy h.text ⟨r, List.mem_concat_self, hn⟩] at hencode
  exact hunknown (hencode ▸ hn')

/-- A place on a new path is known as a directory, if at all. -/
theorem known_iff_isFolder (h : Orderly (rs ++ [r])) (hloc : loc <:+ r.location) :
    Known rs loc ↔ IsFolder rs loc := by
  rw [known_iff, or_iff_left]
  rw [isFileAt_iff]
  rintro ⟨r', hr', hfile, rfl⟩
  exact (h.apart_of_concat r' hr').1 hfile hloc

end Orderly

/-! ## One registration more -/

/-- The name that a new registration brings into a directory. -/
def freshName? (rs : List Registration) (r : Registration) (dir : Location) : Option Bytes :=
  (Location.childToward dir r.location).filter (· ∉ childNames rs dir)

theorem freshName?_eq_some_iff :
    freshName? rs r dir = some n ↔ n :: dir <:+ r.location ∧ ¬ Known rs (n :: dir) := by
  simp [freshName?, Option.filter_eq_some_iff, Location.childToward_eq_some_iff, mem_childNames_iff]

theorem isFolder_concat_iff : IsFolder (rs ++ [r]) loc ↔ IsFolder rs loc ∨ loc <:+ r.folder := by
  simp [IsFolder, or_and_right, exists_or]

theorem isFileAt_concat :
    isFileAt (rs ++ [r]) loc = (isFileAt rs loc || (r.isFile && decide (r.location = loc))) := by
  simp [isFileAt]

theorem childNames_concat (rs : List Registration) (r : Registration) (dir : Location) :
    childNames (rs ++ [r]) dir = childNames rs dir ++ (freshName? rs r dir).toList := by
  rw [childNames, List.filterMap_append, freshName?]
  cases hchild : Location.childToward dir r.location with
  | none => simp [hchild, childNames]
  | some n =>
    have hnew : [r].filterMap (fun r => Location.childToward dir r.location) = [n] := by
      simp [hchild]
    rw [hnew, eraseDups_concat, ← childNames]
    by_cases hn : n ∈ childNames rs dir
    · rw [if_pos (List.mem_eraseDups.1 hn), Option.filter_some, if_neg (by simpa using hn)]
      rfl
    · rw [if_neg fun h => hn (List.mem_eraseDups.2 h), Option.filter_some, if_pos (by simpa using hn)]
      rfl

/-- The entries of a directory stay, and a new one comes after them. -/
theorem listed_concat (hapart : ∀ r' ∈ rs, r'.Apart r) (dir : Location) :
    listed (rs ++ [r]) dir = listed rs dir ++ (freshName? rs r dir).toList.map fun n =>
      ⟨Text.lossy n, r.isFile && decide (r.location = n :: dir)⟩ := by
  have hold : ∀ n ∈ childNames rs dir, isFileAt (rs ++ [r]) (n :: dir) = isFileAt rs (n :: dir) := by
    intro n hn
    obtain ⟨r', hr', hn⟩ := mem_childNames_iff.1 hn
    rw [isFileAt_concat, Bool.or_eq_left_iff_imp, Bool.and_eq_true, decide_eq_true_iff]
    rintro ⟨hfile, hlocation⟩
    exact absurd (hlocation ▸ hn) ((hapart r' hr').2 hfile)
  have hnew : ∀ n ∈ (freshName? rs r dir).toList, isFileAt (rs ++ [r]) (n :: dir) =
      (r.isFile && decide (r.location = n :: dir)) := by
    intro n hn
    obtain ⟨-, hunknown⟩ := freshName?_eq_some_iff.1 (Option.mem_toList.1 hn)
    rw [known_iff, not_or, Bool.not_eq_true] at hunknown
    rw [isFileAt_concat, hunknown.2, Bool.false_or]
  rw [listed, childNames_concat, List.map_append, listed]
  congr 1
  · exact List.map_congr_left fun n hn => by rw [hold n hn]
  · exact List.map_congr_left fun n hn => by rw [hnew n hn]

end Registration

namespace MemoryListing

open Registration

variable {m : MemoryListing} {p place : Place} {loc dir : Location} {n : Bytes}

/-! ## Registering places -/

/-- The entry that a directory gets when the directories up to a location are registered: that of the next one,
if there was none. -/
def addition? (m : MemoryListing) (loc dir : Location) : Option DirectoryEntry :=
  ((Location.childToward dir loc).filter fun n => (m.entries? (Location.place (n :: dir))).isNone).map fun n =>
    .other (Text.lossy n)

/-- What a directory holds when the directories up to a location are registered. -/
def ensured? (m : MemoryListing) (loc dir : Location) : Option (List DirectoryEntry) :=
  if dir <:+ loc then some ((m.entries? dir.place).getD [] ++ (m.addition? loc dir).toList)
  else m.entries? dir.place

/-- With a directory those above it are registered, and no other entry of these has the name of a directory that
is not registered. -/
structure Sound (m : MemoryListing) (loc : Location) : Prop where
  above : ∀ n (dir : Location), n :: dir <:+ loc → (m.entries? (Location.place (n :: dir))).isSome = true →
    (m.entries? dir.place).isSome = true
  names : ∀ n (dir : Location) found, n :: dir <:+ loc → m.entries? (Location.place (n :: dir)) = none →
    m.entries? dir.place = some found → ∀ e ∈ found, e.name ≠ Text.lossy n

namespace Sound

theorem of_suffix (h : m.Sound loc) (hdir : dir <:+ loc) : m.Sound dir where
  above n parent hn := h.above n parent (hn.trans hdir)
  names n parent found hn := h.names n parent found (hn.trans hdir)

theorem closedUpTo (h : m.Sound loc) : m.ClosedUpTo loc.place := by
  intro c q hq hsome
  obtain ⟨n, dir, hn, rfl, rfl⟩ := Location.cons_suffix_place.1 hq
  exact h.above n dir hn hsome

/-- No entry stands in the way of a directory that is not registered. -/
theorem filter_names (h : m.Sound (n :: loc)) (hnone : m.entries? (Location.place (n :: loc)) = none) :
    ((m.entries? loc.place).getD []).filter (·.name ≠ Text.lossy n) = (m.entries? loc.place).getD [] := by
  cases hfound : m.entries? loc.place with
  | none => rfl
  | some found =>
    exact List.filter_eq_self.2 fun e he =>
      decide_eq_true (h.names n loc found (List.suffix_refl _) hnone hfound e he)

end Sound

/-- Registering a directory registers those above it, and adds at most one entry to each of them. -/
theorem entries?_ensureDirectory (h : m.Sound loc) (dir : Location) :
    (m.ensureDirectory loc.place).entries? dir.place = m.ensured? loc dir := by
  have hensures := ensures_ensureDirectory h.closedUpTo
  rw [ensured?]
  split
  · rename_i hdir
    by_cases hfresh : ∃ n, n :: dir <:+ loc ∧ m.entries? (Location.place (n :: dir)) = none
    · obtain ⟨n, hn, hnone⟩ := hfresh
      have hnew : m.addition? loc dir = some (.other (Text.lossy n)) := by
        rw [addition?, Location.childToward_eq_some_iff.2 hn, Option.filter_some, hnone]
        rfl
      have hentry := hensures.fresh (.name n) dir.place (Location.place_suffix_place.2 hn) hnone
      rw [hentry, hnew]
      exact congrArg (fun found => some (found ++ [.other (Text.lossy n)])) ((h.of_suffix hn).filter_names hnone)
    · have hnew : m.addition? loc dir = none := by
        rw [addition?, Option.map_eq_none_iff, Option.filter_eq_none_iff]
        exact fun n hn hnone =>
          hfresh ⟨n, Location.childToward_eq_some_iff.1 hn, Option.isNone_iff_eq_none.1 hnone⟩
      rw [hensures.kept _ (Location.place_suffix_place.2 hdir), hnew, Option.toList_none, List.append_nil]
      intro c hc
      obtain ⟨n, dir, hn, rfl, heq⟩ := Location.cons_suffix_place.1 hc
      obtain rfl := Location.place_injective heq
      exact Option.isSome_iff_ne_none.2 fun hnone => hfresh ⟨n, hn, hnone⟩
  · rename_i hdir
    exact hensures.elsewhere _ fun hplace => hdir (Location.place_suffix_place.1 hplace)

/-! ## Registering one after the other -/

/-- Registers a file or a directory. -/
def register (m : MemoryListing) (r : Registration) : MemoryListing :=
  if r.isFile then m.withFile r.path else m.withDirectory r.path

/-- A registration registers its directories, and a file gets an entry in the innermost one. -/
theorem entries?_register (hplain : r.path.IsPlain) (q : Place) :
    (m.register r).entries? q = if r.isFile then
      ((m.ensureDirectory r.folder.place).addEntry r.folder.place (.file (Place.name r.location.place))).entries? q
    else (m.ensureDirectory r.folder.place).entries? q := by
  have hplace : Place.ofPath r.path = r.location.place := hplain.place_location.symm
  have hparent : Place.parent r.location.place = Location.place r.location.tail := List.map_tail.symm
  rw [register, folder]
  split
  · rw [withFile, hplace, hparent]
    rfl
  · rw [withDirectory, hplace]

theorem place_mem_files_register (hplain : r.path.IsPlain) (loc : Location) :
    loc.place ∈ (m.register r).files ↔ loc.place ∈ m.files ∨ (r.isFile = true ∧ r.location = loc) := by
  have hplace : Place.ofPath r.path = r.location.place := hplain.place_location.symm
  rw [register]
  split
  · rename_i hfile
    show loc.place ∈ Place.ofPath r.path :: (m.ensureDirectory _).files ↔ _
    rw [List.mem_cons, files_ensureDirectory, hplace, Location.place_inj, or_comm, eq_comm, and_iff_right hfile]
  · rename_i hfile
    rw [withDirectory, files_ensureDirectory, or_iff_left fun h => hfile h.1]

@[simp] theorem denied_register (m : MemoryListing) (r : Registration) : (m.register r).denied = m.denied := by
  rw [register]
  split
  · exact denied_ensureDirectory m _
  · exact denied_ensureDirectory m _

/-- What comes of registrations, made one after the other. -/
def ofRegistrations (rs : List Registration) : MemoryListing := rs.foldl register {}

/-- A listing holds what was registered and nothing else. -/
structure Represents (m : MemoryListing) (rs : List Registration) : Prop where
  held : ∀ dir, IsFolder rs dir → m.entries? dir.place = some (listed rs dir)
  vacant : ∀ dir, ¬ IsFolder rs dir → m.entries? dir.place = none
  files : ∀ loc : Location, loc.place ∈ m.files ↔ isFileAt rs loc = true
  denied : m.denied = []

namespace Represents

variable {rs : List Registration} {r : Registration}

theorem nothing : Represents {} [] where
  held dir h := by simp [IsFolder] at h
  vacant dir h := rfl
  files loc := by simp [isFileAt]
  denied := rfl

theorem entries?_eq_none_iff (h : m.Represents rs) : m.entries? dir.place = none ↔ ¬ IsFolder rs dir := by
  refine ⟨fun hnone hfolder => ?_, h.vacant dir⟩
  rw [h.held dir hfolder] at hnone
  cases hnone

theorem getD_entries? (h : m.Represents rs) (dir : Location) : (m.entries? dir.place).getD [] = listed rs dir := by
  by_cases hfolder : IsFolder rs dir
  · rw [h.held dir hfolder]
    rfl
  · rw [h.vacant dir hfolder, listed_eq_nil hfolder]
    rfl

/-- A new registration finds sound directories. -/
theorem sound (h : m.Represents rs) (hrs : Orderly (rs ++ [r])) : m.Sound r.folder where
  above n dir hn hsome := by
    have hfolder : IsFolder rs (n :: dir) := by
      by_contra hnone
      rw [h.vacant _ hnone] at hsome
      cases hsome
    rw [h.held dir (hfolder.of_suffix (List.suffix_cons n dir))]
    rfl
  names n dir found hn hnone hfound e he := by
    have hlocation := hn.trans r.folder_suffix
    rw [h.entries?_eq_none_iff, ← hrs.known_iff_isFolder hlocation] at hnone
    refine hrs.name_ne hlocation hnone ?_
    rw [← h.getD_entries?, hfound]
    exact he

/-- The directories of a registration hold what they held, and at most one directory more. -/
theorem ensured?_folder (h : m.Represents rs) (hrs : Orderly (rs ++ [r])) (dir : Location) :
    m.ensured? r.folder dir = if dir <:+ r.folder then
      some (listed rs dir ++ ((Location.childToward dir r.folder).filter (· ∉ childNames rs dir)).toList.map fun n =>
        .other (Text.lossy n))
    else m.entries? dir.place := by
  have hnew : (Location.childToward dir r.folder).filter
      (fun n => (m.entries? (Location.place (n :: dir))).isNone) =
        (Location.childToward dir r.folder).filter (· ∉ childNames rs dir) := by
    cases hchild : Location.childToward dir r.folder with
    | none => rfl
    | some n =>
      have hn := (Location.childToward_eq_some_iff.1 hchild).trans r.folder_suffix
      have hiff : (m.entries? (Location.place (n :: dir))).isNone = decide (n ∉ childNames rs dir) := by
        rw [Bool.eq_iff_iff, Option.isNone_iff_eq_none, h.entries?_eq_none_iff, decide_eq_true_iff,
          mem_childNames_iff, hrs.known_iff_isFolder hn]
      rw [Option.filter_some, Option.filter_some, hiff]
  rw [ensured?, addition?, hnew, h.getD_entries?, Option.toList_map]

/-- A directory is new on its path, if at all, as the next one in those above it. -/
theorem entries?_register_directory (h : m.Represents rs) (hrs : Orderly (rs ++ [r])) (hfile : r.isFile = false)
    (place : Location) : (m.register r).entries? place.place =
      if place <:+ r.folder then some (listed rs place ++ (freshName? rs r place).toList.map fun n =>
        ⟨Text.lossy n, r.isFile && decide (r.location = n :: place)⟩)
      else m.entries? place.place := by
  have hfolder : r.folder = r.location := by rw [folder, hfile, if_neg Bool.false_ne_true]
  rw [entries?_register hrs.plain_of_concat, hfile, if_neg Bool.false_ne_true,
    entries?_ensureDirectory (h.sound hrs), h.ensured?_folder hrs, freshName?, hfolder]
  simp only [Bool.false_and]
  rfl

/-- A file is added to its directory at the end, where nothing had its name. -/
theorem entries?_register_file (h : m.Represents rs) (hrs : Orderly (rs ++ [r])) (hfile : r.isFile = true)
    (hlocation : r.location = n :: dir) (place : Location) : (m.register r).entries? place.place =
      if place <:+ r.folder then some (listed rs place ++ (freshName? rs r place).toList.map fun n =>
        ⟨Text.lossy n, r.isFile && decide (r.location = n :: place)⟩)
      else m.entries? place.place := by
  have hfolder : r.folder = dir := by rw [folder, hfile, if_pos rfl, hlocation, List.tail_cons]
  have hsound := h.sound hrs
  have hensured := h.ensured?_folder hrs
  have hname : Place.name r.location.place = Text.lossy n := by
    rw [hlocation]
    rfl
  rw [entries?_register hrs.plain_of_concat, hfile, if_pos rfl, hname]
  rw [hfolder] at hsound hensured ⊢
  rw [entries?_addEntry]
  simp only [Location.place_inj, entries?_ensureDirectory hsound, hensured]
  by_cases hplace : place = dir
  · subst hplace
    have hself : n :: place <:+ r.location := hlocation ▸ List.suffix_refl _
    -- The path of a file is new: otherwise the file would be in the way.
    have hunknown : ¬ Known rs (n :: place) := by
      rintro ⟨r', hr', hsuffix⟩
      rw [← hlocation] at hsuffix
      exact (hrs.apart_of_concat r' hr').2 hfile hsuffix
    have hfresh : freshName? rs r place = some n := freshName?_eq_some_iff.2 ⟨hself, hunknown⟩
    have hentry : (⟨Text.lossy n, true && decide (r.location = n :: place)⟩ : DirectoryEntry) =
        .file (Text.lossy n) := by
      rw [decide_eq_true hlocation]
      rfl
    have hothers : ∀ e ∈ listed rs place, e.name ≠ (DirectoryEntry.file (Text.lossy n)).name :=
      fun e he => hrs.name_ne hself hunknown he
    rw [if_pos rfl, if_pos (List.suffix_refl _), Location.childToward_self, hfresh, Option.map_some,
      Option.toList_some, List.map_singleton, hentry]
    simpa using hothers
  · have hchild : Location.childToward place r.location = Location.childToward place dir := by
      rw [hlocation]
      exact if_neg (Ne.symm hplace)
    have hentry (n' : Bytes) : (⟨Text.lossy n', true && decide (r.location = n' :: place)⟩ : DirectoryEntry) =
        .other (Text.lossy n') := by
      rw [hlocation, decide_eq_false, Bool.and_false]
      · rfl
      · exact fun heq => hplace (List.cons.inj heq).2.symm
    simp only [if_neg hplace, freshName?, hchild, hentry]

/-- **One registration.**  A listing that holds what was registered holds what is registered next, too. -/
theorem register (h : m.Represents rs) (hrs : Orderly (rs ++ [r])) (hroot : r.isFile = true → r.location ≠ []) :
    (m.register r).Represents (rs ++ [r]) := by
  have hentries : ∀ dir : Location, (m.register r).entries? dir.place =
      if dir <:+ r.folder then some (listed (rs ++ [r]) dir) else m.entries? dir.place := by
    intro dir
    rw [listed_concat hrs.apart_of_concat]
    cases hfile : r.isFile with
    | false =>
      have hdirectory := h.entries?_register_directory hrs hfile dir
      rwa [hfile] at hdirectory
    | true =>
      obtain ⟨n, parent, hlocation⟩ := List.exists_cons_of_ne_nil (hroot hfile)
      have hentry := h.entries?_register_file hrs hfile hlocation dir
      rwa [hfile] at hentry
  refine ⟨fun dir hfolder => ?_, fun dir hnone => ?_, fun loc => ?_, (denied_register m r).trans h.denied⟩
  · rw [hentries]
    split
    · rfl
    · rename_i hdir
      have hnone : freshName? rs r dir = none :=
        Option.eq_none_iff_forall_ne_some.2 fun n hn => hdir (suffix_folder_of_cons (freshName?_eq_some_iff.1 hn).1)
      rw [h.held dir ((isFolder_concat_iff.1 hfolder).resolve_right hdir), listed_concat hrs.apart_of_concat, hnone]
      simp
  · rw [isFolder_concat_iff, not_or] at hnone
    rw [hentries, if_neg hnone.2, h.vacant dir hnone.1]
  · rw [place_mem_files_register hrs.plain_of_concat, h.files, isFileAt_concat, Bool.or_eq_true, Bool.and_eq_true,
      decide_eq_true_iff]

/-- **All registrations.**  However many registrations there are, what comes of them is told from them. -/
theorem ofRegistrations (hrs : Orderly rs) (hroot : ∀ r ∈ rs, r.isFile = true → r.location ≠ []) :
    (MemoryListing.ofRegistrations rs).Represents rs := by
  induction rs using List.reverseRecOn with
  | nil => exact .nothing
  | append_singleton rs r ih =>
    have hbefore := ih hrs.of_append fun r' hr' => hroot r' (List.mem_append_left _ hr')
    rw [MemoryListing.ofRegistrations, List.foldl_concat]
    exact hbefore.register hrs (hroot r (List.mem_concat_self))

/-! ## Answers -/

theorem ask_of_file (h : m.Represents rs) {q : Path} (hq : q.IsPlain) (hfile : isFileAt rs q.location = true) :
    (listing.ask q m).result = .error ((ListingError.notADirectory q).ofBackend backend) := by
  show m.find q = _
  rw [find, ← hq.place_location, h.denied, if_neg List.not_mem_nil, if_pos ((h.files _).2 hfile)]

theorem ask_of_folder (h : m.Represents rs) {q : Path} (hq : q.IsPlain) (hfile : isFileAt rs q.location ≠ true)
    (hfolder : IsFolder rs q.location) : (listing.ask q m).result = .ok (listed rs q.location) := by
  show m.find q = _
  rw [find, ← hq.place_location, h.denied, if_neg List.not_mem_nil, if_neg ((h.files _).1.mt hfile)]
  rw [h.held _ hfolder]

theorem ask_of_unknown (h : m.Represents rs) {q : Path} (hq : q.IsPlain) (hunknown : ¬ Known rs q.location) :
    (listing.ask q m).result = .error ((ListingError.notFound q).ofBackend backend) := by
  rw [known_iff, not_or] at hunknown
  show m.find q = _
  rw [find, ← hq.place_location, h.denied, if_neg List.not_mem_nil, if_neg ((h.files _).1.mt hunknown.2)]
  rw [h.vacant _ hunknown.1]

end Represents

end MemoryListing
end DocPortal
