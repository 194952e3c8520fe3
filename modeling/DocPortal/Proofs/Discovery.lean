import DocPortal.Proofs.Ancestors
import DocPortal.Proofs.Obstacle
import DocPortal.Proofs.Silence
import Mathlib.Data.List.Infix

/-!
# The search for a configuration file

Where no configuration file is asked for, one is looked for in the working directory, then in the directory
above, and so on up to the root. The search ends whatever the tree holds, and it finds the file in the nearest
directory that has one. From there on everything is as if that file had been asked for: it is that file whose
faults are reported, and the files further up do not count. Where there is no such directory, the stock portal is
loaded, seen from the working directory.

A directory has a configuration file if there is anything under the name: a link counts if it leads to something,
and so does a directory of that name.

## Main definitions

* `FileSystem.Offers` — a directory has an entry that is not a dangling link.
* `Config.HasFile` — there is something where the configuration file of a directory would be.
* `Config.Search` — the search, one directory after the other.
* `Config.Nearest` — the nearest directory that has a configuration file.
-/

namespace DocPortal

/-! ## Entries of a directory -/

/-- The steps of the path of a location are its names. -/
theorem Location.steps_path {loc : Location} (h : ∀ n ∈ loc, Lexical.IsName n) :
    loc.path.steps = loc.reverse.map .name := by
  cases loc with
  | nil => decide
  | cons n loc =>
    have hnames : ∀ s ∈ loc.reverse ++ [n], Lexical.IsName s := by
      intro s hs
      rw [← List.reverse_cons] at hs
      exact h s (List.mem_reverse.1 hs)
    have hn := hnames n (by simp)
    have hsegments : Lexical.segments (path (n :: loc)).bytes = [] :: (loc.reverse ++ [n]) := by
      rw [path_cons, Lexical.segments, if_pos rfl,
        Lexical.segments_unsegment (by simp) fun s hs => (hnames s hs).slash_notMem]
    have hnamed : (Lexical.segments (path (n :: loc)).bytes).filter (· ≠ []) = loc.reverse ++ [n] := by
      rw [hsegments, List.filter_cons_of_neg (by simp), List.filter_eq_self]
      exact fun s hs => decide_eq_true (hnames s hs).ne_nil
    have hlast : (path (n :: loc)).bytes.getLast? ≠ some 0x2F := by
      obtain ⟨front, hfront⟩ := Lexical.exists_unsegment_concat_eq loc.reverse n
      rw [path_cons, hfront, List.getLast?_append, List.getLast?_eq_some_getLast hn.ne_nil, Option.some_or]
      intro heq
      have hmem := List.getLast_mem hn.ne_nil
      rw [Option.some.inj heq] at hmem
      exact hn.slash_notMem hmem
    rw [Path.steps, hnamed, if_neg fun hslash => hlast hslash.2, List.reverse_cons]
    refine List.map_congr_left fun s hs => ?_
    exact Path.stepOf_eq_name_iff.2 ⟨rfl, (hnames s hs).ne_here, (hnames s hs).ne_up⟩

namespace FileSystem

variable {fs : FileSystem} {start dir loc : Location} {n : Bytes} {node : Node}

/-- A directory has an entry with a name, and if that is a link, it leads to something. -/
def Offers (fs : FileSystem) (dir : Location) (n : Bytes) : Prop :=
  ∃ node, fs.find? (n :: dir) = some node ∧ ∀ target, node = .link target →
    ∃ loc node', fs.Leads .lookUp (linkLimit - 1) (target.startsAt dir) target.steps loc ∧
      fs.find? loc = some node'

/-- A name that is no link is entered. -/
theorem leads_enter_iff {links : Nat} {rest : List Step} (hdir : fs.find? start = some .directory)
    (hshort : n.length ≤ nameLimit) (hfound : fs.find? (n :: start) = some node) (hsolid : node.IsSolid) :
    fs.Leads .lookUp links start (.name n :: rest) loc ↔ fs.Leads .lookUp links (n :: start) rest loc := by
  constructor
  · intro h
    cases h with
    | move _ hplain => cases hplain
    | vacant _ _ hnone =>
      rw [hnone] at hfound
      cases hfound
    | enter _ _ _ _ _ htail => exact htail
    | follow _ _ _ hlink =>
      rw [hlink] at hfound
      cases hfound
      exact absurd rfl (hsolid _)
  · exact fun h => .enter hdir hshort (by simp) hfound hsolid h

/-- A walk goes through directories, name by name. -/
theorem leads_names_iff {links : Nat} {names : List Bytes} {rest : List Step}
    (hdirs : ∀ d, d <:+ names.reverse ++ start → start <:+ d → fs.find? d = some .directory)
    (hshort : ∀ n ∈ names, n.length ≤ nameLimit) :
    fs.Leads .lookUp links start (names.map .name ++ rest) loc ↔
      fs.Leads .lookUp links (names.reverse ++ start) rest loc := by
  induction names generalizing start with
  | nil => rfl
  | cons n names ih =>
    obtain ⟨hn, hnames⟩ := List.forall_mem_cons.1 hshort
    rw [List.reverse_cons, List.append_assoc, List.singleton_append] at hdirs ⊢
    have hstart := hdirs start ((List.suffix_cons n start).trans (List.suffix_append _ _)) List.suffix_rfl
    have hnext := hdirs (n :: start) (List.suffix_append _ _) (List.suffix_cons n start)
    rw [List.map_cons, List.cons_append, leads_enter_iff hstart hn hnext (by simp [Node.IsSolid])]
    exact ih (fun d hd hup => hdirs d hd ((List.suffix_cons n start).trans hup)) hnames

/-- The last name of a look-up has to be that of an entry, and a link is followed. -/
theorem leads_last_iff (hdir : fs.find? dir = some .directory) (hshort : n.length ≤ nameLimit) :
    (∃ loc node, fs.Leads .lookUp linkLimit dir [.name n] loc ∧ fs.find? loc = some node) ↔ fs.Offers dir n := by
  constructor
  · rintro ⟨loc, node, hleads, hnode⟩
    cases hleads with
    | move _ hplain => cases hplain
    | vacant _ _ hnone =>
      rw [hnone] at hnode
      cases hnode
    | enter _ _ _ hfound hsolid _ => exact ⟨_, hfound, fun target heq => absurd heq (hsolid target)⟩
    | follow _ _ _ hfound htail =>
      rw [List.append_nil] at htail
      refine ⟨_, hfound, fun target heq => ?_⟩
      cases heq
      exact ⟨loc, node, htail, hnode⟩
  · rintro ⟨node, hfound, hlink⟩
    obtain hsolid | ⟨target, rfl⟩ := node.isSolid_or_link
    · exact ⟨n :: dir, node, .enter hdir hshort (by simp) hfound hsolid (.arrived _), hfound⟩
    · obtain ⟨loc, node', hleads, hnode⟩ := hlink target rfl
      rw [← List.append_nil target.steps] at hleads
      exact ⟨loc, node', .follow hdir hshort (by simp) hfound hleads, hnode⟩

/-- A path of names through directories leads to a node if the last directory offers it. -/
theorem arrivesAt_path_iff {cwd : Location} (hnames : ∀ s ∈ n :: dir, Lexical.IsName s)
    (hdirs : ∀ d, d <:+ dir → fs.find? d = some .directory) (hshort : ∀ s ∈ n :: dir, s.length ≤ nameLimit)
    (hcheck : checkPath (Location.path (n :: dir)) = .ok ()) :
    (∃ loc node, fs.ArrivesAt cwd (Location.path (n :: dir)) loc node) ↔ fs.Offers dir n := by
  obtain ⟨hn, hdir⟩ := List.forall_mem_cons.1 hshort
  have hsteps := Location.steps_path hnames
  rw [List.reverse_cons, List.map_append, List.map_singleton] at hsteps
  have hwalk (loc : Location) : fs.Leads .lookUp linkLimit ((Location.path (n :: dir)).startsAt cwd)
      (Location.path (n :: dir)).steps loc ↔ fs.Leads .lookUp linkLimit dir [.name n] loc := by
    have habsolute : (Location.path (n :: dir)).isAbsolute = true := rfl
    rw [hsteps, Path.startsAt, if_pos habsolute, leads_names_iff]
    · rw [List.reverse_reverse, List.append_nil]
    · intro d hd _
      rw [List.reverse_reverse, List.append_nil] at hd
      exact hdirs d hd
    · exact fun s hs => hdir s (List.mem_reverse.1 hs)
  rw [← leads_last_iff (hdirs dir List.suffix_rfl) hn]
  simp only [ArrivesAt, hcheck, hwalk, true_and]

end FileSystem

namespace Config

variable {m : Machine} {loc dir : Location} {found : Option Path} {p : Path}

/-! ## One directory after the other -/

/-- There is something where the configuration file of a directory would be. -/
def HasFile (m : Machine) (dir : Path) : Prop :=
  ∃ loc node, m.files.ArrivesAt m.cwd (dir.join fileName) loc node

theorem hasFile_iff : HasFile m p ↔ m.files.leadsSomewhere m.cwd (p.join fileName) = true := by
  constructor
  · rintro ⟨loc, node, h⟩
    rw [FileSystem.leadsSomewhere, FileSystem.arrivesAt_iff.1 h]
    rfl
  · intro h
    obtain ⟨⟨loc, node⟩, hresolve⟩ := Result.exists_ok_of_isOk h
    exact ⟨loc, node, FileSystem.arrivesAt_iff.2 hresolve⟩

instance (m : Machine) (dir : Path) : Decidable (HasFile m dir) := decidable_of_iff _ hasFile_iff.symm

/-- A search ends in the first directory that has a configuration file, or at the root. -/
inductive Search (m : Machine) : Path → Option Path → Prop
  | here {dir : Path} (file : HasFile m dir) : Search m dir (some (dir.join fileName))
  | exhausted {dir : Path} (nothing : ¬ HasFile m dir) (root : dir.parent? = none) : Search m dir none
  | above {dir up : Path} {found : Option Path} (nothing : ¬ HasFile m dir) (goes : dir.parent? = some up)
      (rest : Search m up found) : Search m dir found

/-- What is found among a directory and those above it. -/
theorem Search.find?_eq (h : Search m p found) :
    (p.ancestors.map (·.join fileName)).find? (m.files.leadsSomewhere m.cwd) = found := by
  induction h with
  | here hfile => rw [Path.ancestors_eq, List.map_cons, List.find?_cons_of_pos (hasFile_iff.1 hfile)]
  | exhausted hnone hroot =>
    rw [Path.ancestors_eq, hroot, List.map_cons, List.find?_cons_of_neg (fun h => hnone (hasFile_iff.2 h))]
    rfl
  | above hnone hup _ ih =>
    rw [Path.ancestors_eq, hup, List.map_cons, List.find?_cons_of_neg (fun h => hnone (hasFile_iff.2 h))]
    exact ih

/-- A search comes to an end, since each path that it goes on to is shorter. -/
theorem exists_search (m : Machine) (dir : Path) : ∃ found, Search m dir found := by
  -- By induction on the length of the path, of which nothing else is known: it need not be that of a location.
  induction hlength : dir.bytes.length using Nat.strongRecOn generalizing dir with
  | ind length ih =>
    by_cases hfile : HasFile m dir
    · exact ⟨_, .here hfile⟩
    cases hparent : dir.parent? with
    | none => exact ⟨none, .exhausted hfile hparent⟩
    | some up =>
      obtain ⟨found, hfound⟩ := ih _ (hlength ▸ Path.length_lt_of_parent? hparent) up rfl
      exact ⟨found, .above hfile hparent hfound⟩

theorem search_iff : Search m m.cwd.path found ↔ discover? m = found := by
  constructor
  · exact Search.find?_eq
  · rintro rfl
    obtain ⟨found, hfound⟩ := exists_search m m.cwd.path
    rwa [← hfound.find?_eq] at hfound

/-! ## The nearest directory -/

/-- Of a directory and those above it, one has a configuration file, and none that is deeper does. -/
structure Nearest (m : Machine) (loc dir : Location) : Prop where
  above : dir <:+ loc
  file : HasFile m dir.path
  first : ∀ deeper : Location, deeper <:+ loc → dir.length < deeper.length → ¬ HasFile m deeper.path

instance (m : Machine) (loc dir : Location) : Decidable (Nearest m loc dir) :=
  decidable_of_iff
    (dir <:+ loc ∧ HasFile m dir.path ∧
      ∀ deeper ∈ loc.tails, dir.length < deeper.length → ¬ HasFile m (Location.path deeper))
    ⟨fun ⟨habove, hfile, hfirst⟩ =>
        ⟨habove, hfile, fun deeper hdeeper => hfirst deeper ((List.mem_tails _ _).2 hdeeper)⟩,
      fun h => ⟨h.above, h.file, fun deeper hdeeper => h.first deeper ((List.mem_tails _ _).1 hdeeper)⟩⟩

/-- The nearest directory is the directory itself, if it has a configuration file, and else it is one above. -/
theorem Nearest.cons_cases {n : Bytes} (h : Nearest m (n :: loc) dir) :
    dir = n :: loc ∨ ¬ HasFile m (Location.path (n :: loc)) ∧ Nearest m loc dir := by
  obtain heq | habove := List.suffix_cons_iff.1 h.above
  · exact .inl heq
  · refine .inr ⟨h.first _ List.suffix_rfl (Nat.lt_succ_of_le habove.length_le), habove, h.file, ?_⟩
    exact fun deeper hdeeper => h.first deeper (hdeeper.trans (List.suffix_cons n loc))

theorem Nearest.search (hnames : ∀ n ∈ loc, Lexical.IsName n) (h : Nearest m loc dir) :
    Search m loc.path (some (dir.path.join fileName)) := by
  induction loc with
  | nil =>
    obtain rfl := List.suffix_nil.1 h.above
    exact .here h.file
  | cons n loc ih =>
    obtain ⟨hn, hloc⟩ := List.forall_mem_cons.1 hnames
    obtain rfl | ⟨hnone, hnearest⟩ := h.cons_cases
    · exact .here h.file
    · exact .above hnone (Location.parent?_path_cons hloc hn) (ih hloc hnearest)

theorem search_none (hnames : ∀ n ∈ loc, Lexical.IsName n)
    (h : ∀ dir : Location, dir <:+ loc → ¬ HasFile m dir.path) : Search m loc.path none := by
  induction loc with
  | nil => exact .exhausted (h [] List.suffix_rfl) Location.parent?_path_nil
  | cons n loc ih =>
    obtain ⟨hn, hloc⟩ := List.forall_mem_cons.1 hnames
    exact .above (h _ List.suffix_rfl) (Location.parent?_path_cons hloc hn)
      (ih hloc fun dir hdir => h dir (hdir.trans (List.suffix_cons n loc)))

/-- Either one directory is the nearest, or none has a configuration file. -/
theorem nearest_or_none (m : Machine) (loc : Location) :
    (∃ dir, Nearest m loc dir) ∨ ∀ dir : Location, dir <:+ loc → ¬ HasFile m dir.path := by
  induction loc with
  | nil =>
    by_cases hfile : HasFile m (Location.path [])
    · exact .inl ⟨[], List.suffix_rfl, hfile, fun deeper hdeeper hlt => by simp_all⟩
    · exact .inr fun dir hdir => List.suffix_nil.1 hdir ▸ hfile
  | cons n loc ih =>
    by_cases hfile : HasFile m (Location.path (n :: loc))
    · exact .inl ⟨_, List.suffix_rfl, hfile, fun deeper hdeeper hlt => absurd hdeeper.length_le (Nat.not_le.2 hlt)⟩
    have hhere {dir : Location} (hdir : dir <:+ n :: loc) (habove : dir <:+ loc → ¬ HasFile m dir.path) :
        ¬ HasFile m dir.path := by
      obtain rfl | hdir := List.suffix_cons_iff.1 hdir
      · exact hfile
      · exact habove hdir
    obtain ⟨dir, hdir⟩ | hnone := ih
    · refine .inl ⟨dir, hdir.above.trans (List.suffix_cons n loc), hdir.file, fun deeper hdeeper hlt => ?_⟩
      exact hhere hdeeper fun habove => hdir.first deeper habove hlt
    · exact .inr fun dir hdir => hhere hdir (hnone dir)

/-! ## Loading what is found -/

theorem hasFile_iff_offers (hnames : ∀ n ∈ dir, Lexical.IsName n)
    (hdirs : ∀ d, d <:+ dir → m.files.find? d = some .directory)
    (hshort : ∀ n ∈ dir, n.length ≤ FileSystem.nameLimit)
    (hcheck : FileSystem.checkPath (dir.path.join fileName) = .ok ()) :
    HasFile m dir.path ↔ m.files.Offers dir fileName.bytes := by
  have hname : Lexical.IsName fileName.bytes := by decide
  have hlength : fileName.bytes.length ≤ FileSystem.nameLimit := by decide
  have hjoin : dir.path.join fileName = Location.path (fileName.bytes :: dir) := Location.path_join hnames hname
  rw [hjoin] at hcheck
  rw [HasFile, hjoin]
  exact FileSystem.arrivesAt_path_iff (List.forall_mem_cons.2 ⟨hname, hnames⟩) hdirs
    (List.forall_mem_cons.2 ⟨hlength, hshort⟩) hcheck

/-- The file that is found is one that can be asked for. -/
theorem find_eq_of_discover? (h : discover? m = some p) : find m none = find m (some p) := by
  have hexists : m.files.leadsSomewhere m.cwd p = true := List.find?_some h
  rw [find, find, h, if_pos hexists]

theorem path?_of_ofFile {c : Config} (h : ofFile m p = .ok c) : c.path? = some p := by
  obtain ⟨document, -, hdocument⟩ := Result.bind_ok_iff.1 h
  obtain ⟨written, -, hwritten⟩ := Result.bind_ok_iff.1 hdocument
  obtain ⟨portal, -, hportal⟩ := Result.bind_ok_iff.1 hwritten
  obtain ⟨-, rfl⟩ := check_ok_iff.1 hportal
  rfl

theorem load_of_discover?_eq_some {overrides : Option Overrides} (h : discover? m = some p) :
    load m none overrides = load m (some p) overrides ∧
      (∀ c, load m none overrides = .ok c → c.path? = some p) ∧
      ∀ e, ofFile m p = .error e → load m none overrides = .error e := by
  have hfind : find m none = ofFile m p := by rw [find, h]
  refine ⟨by rw [load, load, find_eq_of_discover? h], fun c hc => ?_, fun e he => ?_⟩
  · obtain ⟨found, hfound, -, hpath⟩ := frame_of_load hc
    rw [hpath, path?_of_ofFile (hfind ▸ hfound)]
  · rw [load, hfind, he]
    rfl

theorem load_eq_of_discover?_eq_none (overrides : Option Overrides) (h : discover? m = none) :
    load m none overrides = match overrides with
      | none => .ok (stock m.cwd.path)
      | some o => check ((stock m.cwd.path).override o) := by
  rw [load, find_of_discover?_eq_none h]
  cases overrides <;> rfl

/-- **The nearest configuration file is found, and nothing else differs.**  The search from the working directory
upwards ends, with one result. If a directory is the nearest one with a configuration file, loading without a
file is loading that file: with the same configuration, which names that file, or with the same error, and if the
file is broken, it is that error whatever there is further up. If no directory has one, the stock portal is
loaded, seen from the working directory, and the overrides are applied to that. A directory that can be searched,
as can those above it, has a configuration file if it offers one: of any kind, and a link if it leads to
something. -/
theorem load_of_nearest (m : Machine) (overrides : Option Overrides)
    (hnames : ∀ n ∈ m.cwd, Lexical.IsName n) :
    (∃ found, Search m m.cwd.path found ∧ ∀ other, Search m m.cwd.path other → other = found) ∧
      (∀ dir, Nearest m m.cwd dir →
        Search m m.cwd.path (some (dir.path.join fileName)) ∧
        load m none overrides = load m (some (dir.path.join fileName)) overrides ∧
        (∀ c, load m none overrides = .ok c → c.path? = some (dir.path.join fileName)) ∧
        ∀ e, ofFile m (dir.path.join fileName) = .error e → load m none overrides = .error e) ∧
      ((∀ dir : Location, dir <:+ m.cwd → ¬ HasFile m dir.path) →
        Search m m.cwd.path none ∧
        load m none overrides = match overrides with
          | none => .ok (stock m.cwd.path)
          | some o => check ((stock m.cwd.path).override o)) ∧
      ((∃ dir, Nearest m m.cwd dir) ∨ ∀ dir : Location, dir <:+ m.cwd → ¬ HasFile m dir.path) ∧
      ∀ dir : Location, dir <:+ m.cwd → (∀ d, d <:+ dir → m.files.find? d = some .directory) →
        (∀ n ∈ dir, n.length ≤ FileSystem.nameLimit) →
        FileSystem.checkPath (dir.path.join fileName) = .ok () →
          (HasFile m dir.path ↔ m.files.Offers dir fileName.bytes) := by
  refine ⟨?_, fun dir hdir => ?_, fun hnone => ?_, nearest_or_none m m.cwd, fun dir hdir hdirs hshort hcheck => ?_⟩
  · obtain ⟨found, hfound⟩ := exists_search m m.cwd.path
    exact ⟨found, hfound, fun other hother => (search_iff.1 hother).symm.trans (search_iff.1 hfound)⟩
  · have hsearch := hdir.search hnames
    exact ⟨hsearch, load_of_discover?_eq_some (search_iff.1 hsearch)⟩
  · have hsearch := search_none hnames hnone
    exact ⟨hsearch, load_eq_of_discover?_eq_none overrides (search_iff.1 hsearch)⟩
  · exact hasFile_iff_offers (fun n hn => hnames n (hdir.subset hn)) hdirs hshort hcheck

/-- A machine that works in a directory where a link with the name of a configuration file leads nowhere. In the
directory above there is a directory of that name, and further up a configuration file. -/
def boathouse : Machine where
  files := ⟨[
    (.ofNames ["srv"], .directory),
    (.ofNames ["srv", "portico.toml"], .file []),
    (.ofNames ["srv", "a"], .directory),
    (.ofNames ["srv", "a", "portico.toml"], .directory),
    (.ofNames ["srv", "a", "b"], .directory),
    (.ofNames ["srv", "a", "b", "portico.toml"], .link (.ofString "lost.toml"))]⟩
  cwd := .ofNames ["srv", "a", "b"]

/-- The link does not count, the directory does, and it is the directory that cannot be read. Without any of them
it is the stock portal that is loaded. -/
theorem load_of_nearest_boathouse :
    Nearest boathouse boathouse.cwd (.ofNames ["srv", "a"]) ∧
      ¬ boathouse.files.Offers boathouse.cwd fileName.bytes ∧
      load boathouse none none = load boathouse (some (.ofString "/srv/a/portico.toml")) none ∧
      load boathouse none none = .error (.unreadable PathFault.isADirectory.failure) ∧
      load lectern none none = .ok (stock (.ofString "/srv")) := by
  have hnearest : Nearest boathouse boathouse.cwd (.ofNames ["srv", "a"]) := by decide +kernel
  have hpath : (Location.ofNames ["srv", "a"]).path.join fileName = .ofString "/srv/a/portico.toml" := by
    decide +kernel
  obtain ⟨-, hload, -, -, hoffers⟩ := load_of_nearest boathouse none (by decide +kernel)
  obtain ⟨-, hsame, -, hbroken⟩ := hload _ hnearest
  rw [hpath] at hsame hbroken
  have hnone : ¬ HasFile boathouse boathouse.cwd.path := by decide +kernel
  have hdirs : ∀ d ∈ boathouse.cwd.tails, boathouse.files.find? d = some .directory := by decide +kernel
  have hlink := hoffers boathouse.cwd List.suffix_rfl (fun d hd => hdirs d ((List.mem_tails _ _).2 hd))
    (by decide +kernel) (by decide +kernel)
  obtain ⟨-, -, hstock, -⟩ := load_of_nearest lectern none (by decide +kernel)
  have hlectern : ∀ dir ∈ lectern.cwd.tails, ¬ HasFile lectern (Location.path dir) := by decide +kernel
  obtain ⟨-, hstock⟩ := hstock fun dir hdir => hlectern dir ((List.mem_tails _ _).2 hdir)
  exact ⟨hnearest, fun h => hnone (hlink.2 h), hsame, hbroken _ rfl, hstock⟩

end Config
end DocPortal
