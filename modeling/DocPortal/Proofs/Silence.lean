import DocPortal.Proofs.Ancestors
import DocPortal.Proofs.Records
import DocPortal.Proofs.References

/-!
# Files that say nothing

A configuration file that gives no key of a portal, or none but empty tables for the site, the theme and
the contents, describes the stock portal. So it does not matter whether there is such a file in the working
directory or no configuration file at all: the same configuration is loaded, or the same fault is found in
the overrides. The file is still read to its end, though, and a numeral in it that cannot be read is an
error wherever it stands.

## Main definitions

* `Portal.Silent` — a document says nothing about a portal.
-/

namespace DocPortal

instance (v : Toml.Value) : Decidable (v = .table []) :=
  match v with
  | .table [] => .isTrue rfl
  | .table (_ :: _) => .isFalse fun h => by cases h
  | .text _ | .integer _ | .float _ | .unreadable | .boolean _ | .dateTime _ | .array _ =>
    .isFalse fun h => by cases h

namespace Portal

open Toml RecordReader ShapeReader

/-- The keys that count at the top of a configuration file. -/
def keys : List String := ["site", "head", "theme", "navbar", "sidebar", "docs"]

/-- A document says nothing about a portal: of the keys that count it has at most three, each with an empty
table. -/
def Silent (document : Table) : Prop :=
  ∀ e ∈ document, e.1 ∈ keys → e.1 ∈ ["site", "theme", "docs"] ∧ e.2 = .table []

instance (document : Table) : Decidable (Silent document) :=
  inferInstanceAs (Decidable (∀ e ∈ document, e.1 ∈ keys → _ ∧ _))

section

variable {document : Table} {key : String} {v : Value}

theorem Silent.of_lookup (h : Silent document) (hkey : key ∈ keys) (hv : document.lookup key = some v) :
    key ∈ ["site", "theme", "docs"] ∧ v = .table [] :=
  h (key, v) (Result.mem_of_lookup_eq_some hv) hkey

/-- Where a document says nothing, each part is what stands in for it, also if it is read from an empty
table. -/
theorem Silent.build_optional {α : Type} (h : Silent document) (read : ShapeReader α) (default : α)
    (hkey : key ∈ keys) (hread : key ∈ ["site", "theme", "docs"] → read (.table []) = .ok default) :
    (optional key read default).build (List.lookup · document) .missingKey = .ok default := by
  cases hv : document.lookup key with
  | none => exact build_optional_ok_iff.2 (.inl ⟨hv, rfl⟩)
  | some v =>
    obtain ⟨hempty, rfl⟩ := h.of_lookup hkey hv
    exact build_optional_ok_iff.2 (.inr ⟨_, hv, hread hempty⟩)

/-- A document that says nothing describes the stock portal. -/
theorem ofTable_of_silent (h : Silent document) (hlegible : ¬ Value.unreadable.Within (.table document)) :
    Portal.ofTable document = .ok Portal.stock := by
  refine readTable_ok ?_ (fun e he _ hwithin => hlegible (.entry he hwithin)) ?_
  · rintro ⟨key, v⟩ he check hcheck
    have hfields : (Portal.reader Portal.stock).fields.map (·.1) = keys := rfl
    have hkey : key ∈ keys := by
      rw [← hfields]
      exact List.mem_map.2 ⟨_, Result.mem_of_lookup_eq_some hcheck, rfl⟩
    obtain ⟨hempty, rfl⟩ := h _ he hkey
    simp only [List.mem_cons, List.not_mem_nil, or_false] at hempty
    obtain rfl | rfl | rfl := hempty <;> (cases hcheck; rfl)
  · have hsite := h.build_optional ((SiteInfo.reader Stock.site).read "SiteSection") Stock.site
      (show "site" ∈ keys by decide) fun _ => rfl
    have hhead := h.build_optional (list (HeadTag.reader.read "HeadTagConfig")) Stock.head
      (show "head" ∈ keys by decide) (by simp)
    have htheme := h.build_optional ((Theme.reader Stock.theme).read "ThemeSection") Stock.theme
      (show "theme" ∈ keys by decide) fun _ => rfl
    have hnavbar := h.build_optional (list (NavLink.reader.read "NavLinkConfig")) Stock.navbar
      (show "navbar" ∈ keys by decide) (by simp)
    have hsidebar := h.build_optional (list (SectionEntry.reader.read "SidebarSectionRaw")) Stock.sections
      (show "sidebar" ∈ keys by decide) (by simp)
    have hdocs := h.build_optional ((sourceDirReader none).read "DocsConfigRaw") none
      (show "docs" ∈ keys by decide) fun _ => rfl
    exact build_seq_ok (build_seq_ok (build_seq_ok (build_seq_ok (build_seq_ok
      (build_map_ok _ hsite) hhead) htheme) hnavbar) hsidebar) hdocs

end

end Portal

namespace Config

/-! ## Where a file is looked for -/

section

variable {m : Machine}

/-- A configuration file in the working directory is the nearest one. -/
theorem discover?_of_leadsSomewhere
    (h : m.files.leadsSomewhere m.cwd (m.cwd.path.join fileName) = true) :
    discover? m = some (m.cwd.path.join fileName) := by
  rw [discover?, Path.ancestors_eq, List.map_cons, List.find?_cons_of_pos h]

theorem discover?_eq_none_iff :
    discover? m = none ↔
      ∀ dir ∈ m.cwd.path.ancestors, m.files.leadsSomewhere m.cwd (dir.join fileName) = false := by
  simp [discover?]

/-- A configuration file in the working directory says things as seen from that directory. -/
theorem directory_path_join {cwd : Location} (h : ∀ n ∈ cwd, Lexical.IsName n) :
    directory (cwd.path.join fileName) = cwd.path := by
  have hname : Lexical.IsName fileName.bytes := by decide
  have hjoin : cwd.path.join fileName = Location.path (fileName.bytes :: cwd) := Location.path_join h hname
  rw [directory, hjoin, Location.parent?_path_cons h hname]
  rfl

end

/-! ## Configurations that differ in their files alone -/

section

variable {m : Machine} {file : Option Path}

theorem check_with_path (c : Config) :
    check { c with path? := file } = (check c).map fun c => { c with path? := file } := by
  rw [check, check]
  cases c.portal.validate <;> rfl

theorem override_with_path (c : Config) (o : Overrides) :
    Config.override { c with path? := file } o = { c.override o with path? := file } := by
  obtain ⟨sourceDir?, base?⟩ := o
  cases sourceDir? <;> cases base? <;> rfl

/-- The file that the configuration comes from does not matter for overrides. -/
theorem load_of_find {o : Option Overrides} {c : Config} {m' : Machine} (h : find m none = .ok c)
    (h' : find m' none = .ok { c with path? := file }) :
    load m' none o = (load m none o).map fun c => { c with path? := file } := by
  rw [load, load, h, h']
  cases o with
  | none => rfl
  | some o =>
    show check (Config.override { c with path? := file } o) = (check (c.override o)).map _
    rw [override_with_path, check_with_path]

end

theorem exists_invalid_of_check {c : Config} {e : ConfigError} (h : check c = .error e) :
    ∃ fault, e = .invalid fault := by
  obtain herror | ⟨_, -, hpure⟩ := Result.bind_error_iff.1 h
  · obtain ⟨fault, -, rfl⟩ := Result.mapError_error_iff.1 herror
    exact ⟨fault, rfl⟩
  · cases hpure

theorem find_of_discover?_eq_none {m : Machine} (h : discover? m = none) :
    find m none = .ok (stock m.cwd.path) := by
  rw [find, h]

/-- Without a configuration file it is the stock portal that is loaded, unless the overrides do not fit. -/
theorem load_of_discover?_eq_none {m : Machine} {overrides : Option Overrides} (h : discover? m = none) :
    (∀ c, load m none overrides = .ok c → c.path? = none) ∧
      ∀ e, load m none overrides = .error e → ∃ fault, e = .invalid fault := by
  have hfind := find_of_discover?_eq_none h
  constructor
  · intro c hc
    obtain ⟨found, hfound, -, hpath⟩ := frame_of_load hc
    rw [hfind] at hfound
    cases hfound
    exact hpath
  · intro e he
    rw [load, hfind] at he
    cases overrides with
    | none => cases he
    | some o => exact exists_invalid_of_check he

/-- A file in the working directory that says nothing gives the stock portal seen from that directory. -/
theorem find_of_silent {m : Machine} {text : String} {table : Toml.Table} {loc : Location}
    (hnames : ∀ n ∈ m.cwd, Lexical.IsName n)
    (hfile : m.files.resolve m.cwd (m.cwd.path.join fileName) = .ok (loc, .file (Text.encode text)))
    (htable : Toml.Table.read text = .ok table) (hlegible : ¬ Toml.Value.unreadable.Within (.table table))
    (hsilent : Portal.Silent table) :
    find m none = .ok { stock m.cwd.path with path? := some (m.cwd.path.join fileName) } := by
  have hdiscover : discover? m = some (m.cwd.path.join fileName) := by
    refine discover?_of_leadsSomewhere ?_
    rw [FileSystem.leadsSomewhere, hfile]
    rfl
  have htext : m.files.readText m.cwd (m.cwd.path.join fileName) = .ok text := by
    have hread : m.files.read m.cwd (m.cwd.path.join fileName) = .ok (Text.encode text) := by
      rw [FileSystem.read, hfile]
      rfl
    rw [FileSystem.readText, hread]
    dsimp only
    rw [Text.decode?_encode]
  have hportal : Portal.parse text = .ok Portal.stock := by
    rw [Portal.parse, htable]
    show (Portal.ofTable table).mapError ConfigError.misshapen = .ok Portal.stock
    rw [Portal.ofTable_of_silent hsilent hlegible]
    rfl
  rw [find, hdiscover]
  show ofFile m _ = _
  rw [ofFile_of_readText htext, ofDocument_of_plain hportal Portal.plain_stock, directory_path_join hnames]
  exact check_ok_iff.2 ⟨valid_stock, rfl⟩

/-- **A configuration file that says nothing is as good as none.**  Where neither the working directory nor
one above has a configuration file, and where the working directory has one that says nothing and whose
numerals can be read, the same portal is loaded with the same directories, and the two configurations
differ in the file they come from alone; or the same fault is found in the overrides. -/
theorem load_of_silent (m m' : Machine) (overrides : Option Overrides) {text : String}
    {table : Toml.Table} {loc : Location} (hcwd : m'.cwd = m.cwd) (hnames : ∀ n ∈ m.cwd, Lexical.IsName n)
    (hnone : ∀ dir ∈ m.cwd.path.ancestors, m.files.leadsSomewhere m.cwd (dir.join fileName) = false)
    (hfile : m'.files.resolve m'.cwd (m'.cwd.path.join fileName) = .ok (loc, .file (Text.encode text)))
    (htable : Toml.Table.read text = .ok table) (hlegible : ¬ Toml.Value.unreadable.Within (.table table))
    (hsilent : Portal.Silent table) :
    (load m' none overrides = (load m none overrides).map fun c =>
        { c with path? := some (m.cwd.path.join fileName) }) ∧
      (∀ c, load m none overrides = .ok c → c.path? = none) ∧
      ∀ e, load m none overrides = .error e → ∃ fault, e = .invalid fault := by
  have hdiscover := discover?_eq_none_iff.2 hnone
  have hfind' := find_of_silent (hcwd ▸ hnames) hfile htable hlegible hsilent
  rw [hcwd] at hfind'
  exact ⟨load_of_find (find_of_discover?_eq_none hdiscover) hfind', load_of_discover?_eq_none hdiscover⟩

/-- A machine that works in a directory without a configuration file. -/
def lectern : Machine where
  files := ⟨[(.ofNames ["srv"], .directory)]⟩
  cwd := .ofNames ["srv"]

/-- The machine with a configuration file in its working directory. -/
def lecternWith (text : String) : Machine :=
  { lectern with files := lectern.files.put (.ofNames ["srv", "portico.toml"]) (.file (Text.encode text)) }

/-- A file with an empty table, a comment and keys that do not count. -/
def silentText : String := "# Nothing is set here.\n[site]\n[extra]\nversion = 1\n"

/-- With another base, the two configurations differ in the file they come from. -/
theorem load_of_silent_lectern :
    ∃ c c', load lectern none (some { base? := some "/desk/" }) = .ok c ∧
      load (lecternWith silentText) none (some { base? := some "/desk/" }) = .ok c' ∧
      c.path? = none ∧ c' = { c with path? := some (.ofString "/srv/portico.toml") } := by
  obtain ⟨table, htable, hsays⟩ : ∃ table, Toml.Table.read silentText = .ok table ∧
      decide (Portal.Silent table ∧ ¬ Toml.Value.unreadable.Within (.table table)) = true :=
    Result.exists_ok_of_any (by decide +kernel)
  obtain ⟨hsilent, hlegible⟩ := of_decide_eq_true hsays
  obtain ⟨c, hc, -⟩ : ∃ c, load lectern none (some { base? := some "/desk/" }) = .ok c ∧ true = true :=
    Result.exists_ok_of_any (by decide +kernel)
  have hfile : (lecternWith silentText).files.resolve (lecternWith silentText).cwd
      ((lecternWith silentText).cwd.path.join fileName) =
        .ok (.ofNames ["srv", "portico.toml"], .file (Text.encode silentText)) := by decide +kernel
  obtain ⟨hload, hpath, -⟩ := load_of_silent lectern (lecternWith silentText)
    (some { base? := some "/desk/" }) rfl (by decide) (by decide +kernel) hfile htable hlegible hsilent
  rw [hc] at hload
  exact ⟨c, _, hc, hload, hpath c hc, rfl⟩

/-- A file whose only key does not count, with a number that is too large to be read. -/
def vastText : String := "x = 1e999\n"

/-- A numeral that cannot be read is an error also where it says nothing. -/
theorem not_forall_load_of_silent :
    ¬ ∀ (m m' : Machine) (overrides : Option Overrides) (text : String) (table : Toml.Table)
        (loc : Location), m'.cwd = m.cwd → (∀ n ∈ m.cwd, Lexical.IsName n) →
        (∀ dir ∈ m.cwd.path.ancestors, m.files.leadsSomewhere m.cwd (dir.join fileName) = false) →
        m'.files.resolve m'.cwd (m'.cwd.path.join fileName) = .ok (loc, .file (Text.encode text)) →
        Toml.Table.read text = .ok table → Portal.Silent table →
        load m' none overrides = (load m none overrides).map fun c =>
          { c with path? := some (m.cwd.path.join fileName) } := by
  intro h
  obtain ⟨table, htable, hsays⟩ : ∃ table, Toml.Table.read vastText = .ok table ∧
      decide (Portal.Silent table) = true := Result.exists_ok_of_any (by decide +kernel)
  have hfile : (lecternWith vastText).files.resolve (lecternWith vastText).cwd
      ((lecternWith vastText).cwd.path.join fileName) =
        .ok (.ofNames ["srv", "portico.toml"], .file (Text.encode vastText)) := by decide +kernel
  have hload := h lectern (lecternWith vastText) none vastText table _ rfl (by decide) (by decide +kernel)
    hfile htable (of_decide_eq_true hsays)
  have hfails : (load (lecternWith vastText) none none).isOk = false := by decide +kernel
  rw [hload] at hfails
  cases hfails

end Config
end DocPortal
