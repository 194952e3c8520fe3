import DocPortal.Proofs.Parents
import DocPortal.Proofs.References
import DocPortal.Proofs.Walk

/-!
# Resolved directories

Where the directories of a loaded configuration lie is a closed form of what was written for them. The
source directory is the one that overrides name, or else the one that the portal names, seen from the
directory of its file, or else that directory itself; and the sections are those that were written, one by
one, each with its own directory seen from the source directory and with everything else as it was written.
References are expanded before anything is resolved.

## Main definitions

* `Config.Origin` — the portal that a configuration comes from, and the directory from which it is seen.
* `SectionEntry.SeenFrom` — a section that is the written one, seen from a source directory.
* `Config.LiesAt` — the closed form.
-/

namespace DocPortal

/-! ## Paths without a parent -/

namespace Lexical

open PathAlphabet

variable {α : Type} [DecidableEq α] [PathAlphabet α]

theorem trimIdle_eq_nil_iff {ss : List (List α)} : trimIdle ss = [] ↔ ∀ s ∈ ss, isIdle s = true := by
  rw [trimIdle, List.reverse_eq_nil_iff, List.dropWhile_eq_nil_iff]
  simp only [List.mem_reverse]

/-- A path without a parent is empty, or it is the root, however that is written. -/
theorem isIdle_of_parent?_eq_none {p : List α} (h : parent? p = none) (hne : p ≠ []) :
    isAbsolute p = true ∧ ∀ s ∈ segments p, isIdle s = true := by
  obtain ⟨htrim, hparent⟩ | ⟨front, s, -, -, hparent⟩ := parent?_eq_cases p
  · have hbody := trimIdle_eq_nil_iff.1 htrim
    obtain ⟨hhead, -⟩ | ⟨hhead, hp⟩ | ⟨hhead, -⟩ := segments_cases p
    · -- Neither its start nor a segment would be a component of the path, which has one if it is not empty.
      have hrel : isAbsolute p = false := isAbsolute_eq_false_iff_head.2 (by simp [hhead])
      have hnothing : (bodySegments p).filterMap componentOf = [] :=
        List.filterMap_eq_nil_iff.2 fun s hs => componentOf_eq_none_iff.2 (hbody s hs)
      refine absurd (components_eq_nil_iff.1 ?_) hne
      rw [components, hrel, hhead, hnothing, if_neg Bool.false_ne_true, if_pos rfl, List.append_nil]
    · refine ⟨isAbsolute_iff_head.2 hhead, ?_⟩
      rw [hp]
      exact List.forall_mem_cons.2 ⟨rfl, hbody⟩
    · rw [h, if_pos hhead] at hparent
      cases hparent
  · cases h.symm.trans hparent

end Lexical

namespace FileSystem

variable {fs : FileSystem} {purpose : Purpose}

/-- From the root one gets nowhere without a name. -/
theorem advance_root {steps : List Step} (h : ∀ step ∈ steps, step.plain? [] = some []) :
    fs.advance purpose [] steps = .ok (.arrived []) := by
  induction steps with
  | nil => rw [advance]
  | cons step rest ih =>
    obtain ⟨hstep, hrest⟩ := List.forall_mem_cons.1 h
    rw [advance_plain fs.find?_root hstep]
    exact ih hrest

/-- A path that is absolute and has no segment that counts leads to the root. -/
theorem resolve_root {cwd : Location} {p : Path} (hcheck : checkPath p = .ok ())
    (habs : p.isAbsolute = true) (hidle : ∀ s ∈ Lexical.segments p.bytes, Lexical.isIdle s = true) :
    fs.resolve cwd p = .ok ([], .directory) := by
  have hnamed : ∀ step ∈ ((Lexical.segments p.bytes).filter (· ≠ [])).map Path.stepOf,
      step.plain? [] = some [] := by
    intro step hstep
    obtain ⟨s, hs, rfl⟩ := List.mem_map.1 hstep
    obtain ⟨hmem, hne⟩ := List.mem_filter.1 hs
    have hdot : s = [0x2E] := by
      have hs' := hidle s hmem
      simp only [Lexical.isIdle, Bool.or_eq_true, decide_eq_true_eq] at hs' hne
      exact hs'.resolve_left hne
    rw [hdot]
    rfl
  have hsteps : ∀ step ∈ p.steps, step.plain? [] = some [] := by
    rw [Path.steps]
    split
    · refine List.forall_mem_append.2 ⟨hnamed, ?_⟩
      simp [Step.plain?]
    · exact hnamed
  rw [resolve, reach, hcheck, Path.startsAt, if_pos habs]
  dsimp only [Bind.bind, Except.bind]
  rw [walk, advance_root hsteps]
  rfl

/-- A file from which a text is read stands in a directory, as its path is written. -/
theorem exists_parent?_of_readText {cwd : Location} {p : Path} {document : String}
    (h : fs.readText cwd p = .ok document) : ∃ dir, p.parent? = some dir := by
  cases hparent : p.parent? with
  | some dir => exact ⟨dir, rfl⟩
  | none =>
    rw [Path.parent?, Option.map_eq_none_iff] at hparent
    have hread : ∃ content, fs.read cwd p = .ok content := by
      rw [readText] at h
      split at h
      · cases h
      · rename_i content hcontent
        exact ⟨content, hcontent⟩
    obtain ⟨content, hread⟩ := hread
    rw [read, Result.bind_ok_iff] at hread
    obtain ⟨⟨loc, node⟩, hresolve, hnode⟩ := hread
    have hcheck := (reach_ok_iff.1 (resolve_ok_iff.1 hresolve).1).1
    have hne : p.bytes ≠ [] := by
      intro hnil
      simp [checkPath, hnil] at hcheck
    obtain ⟨habs, hidle⟩ := Lexical.isIdle_of_parent?_eq_none hparent hne
    rw [resolve_root hcheck habs hidle] at hresolve
    cases hresolve
    cases hnode

end FileSystem

/-! ## The closed form -/

/-- A section is the written one, with its directory, references expanded, seen from a source directory. An
absolute directory is the same from wherever it is seen. -/
structure SectionEntry.SeenFrom (env : Environment) (sourceDir : Path) (written : SectionEntry String)
    (s : SectionEntry Path) : Prop where
  dir : ∃ t, Template.expand env written.dir = .ok t ∧ s.dir = sourceDir.join (.ofString t) ∧
    ((Path.ofString t).isAbsolute = true → s.dir = .ofString t)
  route : s.route = written.route
  title : s.title = written.title
  extensions : s.extensions = written.extensions
  exclude : s.exclude = written.exclude
  order : s.order = written.order

theorem SectionEntry.seenFrom_resolve {env : Environment} {written : SectionEntry String} {t : String}
    (h : Template.expand env written.dir = .ok t) (sourceDir : Path) :
    written.SeenFrom env sourceDir ((written.withDir t).resolve sourceDir) where
  dir := ⟨t, h, rfl, Path.join_of_isAbsolute⟩
  route := rfl
  title := rfl
  extensions := rfl
  exclude := rfl
  order := rfl

namespace Config

/-- Where a configuration comes from: a portal as it was written, the directory from which it is seen, and
its file, if it has one. -/
inductive Origin (m : Machine) (file : Option Path) : Portal → Path → Option Path → Prop
  /-- A file that was asked for or else found. The directory is that of the file, as its path is written. -/
  | file {found dir : Path} {document : String} {written : Portal}
      (chosen : file = some found ∨ file = none ∧ discover? m = some found)
      (text : m.files.readText m.cwd found = .ok document) (parsed : Portal.parse document = .ok written)
      (parent : found.parent? = some dir) : Origin m file written dir (some found)
  /-- Without a file it is the stock portal that is seen from the working directory. -/
  | stock (unasked : file = none) (missing : discover? m = none) :
      Origin m file Portal.stock m.cwd.path none

/-- The directories of a configuration lie where the closed form says, for a source directory that takes
precedence, if there is one, and a written portal that is seen from a directory. -/
structure LiesAt (m : Machine) (override? : Option Path) (written : Portal) (dir : Path) (c : Config) :
    Prop where
  overridden : ∀ d, override? = some d → c.sourceDir = d
  configured : override? = none → ∀ s, written.sourceDir? = some s →
    ∃ t, Template.expand m.env s = .ok t ∧ c.sourceDir = dir.join (.ofString t)
  beside : override? = none → written.sourceDir? = none → c.sourceDir = dir
  sections : List.Forall₂ (SectionEntry.SeenFrom m.env c.sourceDir) written.sections c.sections

variable {m : Machine} {file : Option Path} {overrides : Option Overrides} {c : Config}

/-- A configuration without overrides is a portal that was expanded and resolved. -/
theorem find_ok (h : find m file = .ok c) :
    ∃ written dir p, Origin m file written dir c.path? ∧ written.expand m.env = .ok p ∧
      c = { p.resolve dir with path? := c.path? } := by
  have hread : ∀ {found}, (file = some found ∨ file = none ∧ discover? m = some found) →
      ofFile m found = .ok c → ∃ written dir p, Origin m file written dir c.path? ∧
        written.expand m.env = .ok p ∧ c = { p.resolve dir with path? := c.path? } := by
    intro found hchosen h
    obtain ⟨document, hdocument, h⟩ := Result.bind_ok_iff.1 h
    obtain ⟨written, hwritten, h⟩ := Result.bind_ok_iff.1 h
    obtain ⟨p, hp, h⟩ := Result.bind_ok_iff.1 h
    obtain ⟨-, rfl⟩ := check_ok_iff.1 h
    rw [Result.mapError_ok_iff] at hdocument hp
    obtain ⟨dir, hdir⟩ := FileSystem.exists_parent?_of_readText hdocument
    refine ⟨written, dir, p, .file hchosen hdocument hwritten hdir, hp, ?_⟩
    rw [directory, hdir]
    rfl
  cases file with
  | some found =>
    rw [find] at h
    split at h
    · exact hread (.inl rfl) h
    · cases h
  | none =>
    rw [find] at h
    split at h
    · rename_i found hfound
      exact hread (.inr ⟨rfl, hfound⟩) h
    · rename_i hmissing
      cases h
      exact ⟨_, _, _, .stock rfl hmissing, Portal.expand_of_plain Portal.plain_stock _, rfl⟩

/-- Overrides put a source directory and a base in the place of those that were found. -/
theorem override_eq (c : Config) (o : Overrides) :
    (c.override o).portal =
        { c.portal with site := { c.portal.site with base := o.base?.getD c.portal.site.base } } ∧
      (c.override o).sourceDir = o.sourceDir?.getD c.sourceDir ∧ (c.override o).path? = c.path? := by
  obtain ⟨sourceDir?, base?⟩ := o
  cases sourceDir? <;> cases base? <;> exact ⟨rfl, rfl, rfl⟩

/-- A configuration that is loaded comes from a portal that was written: it has the sections of that portal, with
references expanded, and its source directory too, unless the overrides name another. -/
theorem origin_of_load (h : load m file overrides = .ok c) :
    ∃ written dir p, Origin m file written dir c.path? ∧ written.expand m.env = .ok p ∧
      c.portal.sections = p.sections ∧
      c.sourceDir = (overrides.bind (·.sourceDir?)).getD (p.resolveSourceDir dir) := by
  obtain ⟨found, hfound, rfl⟩ := load_ok h
  obtain ⟨written, dir, p, horigin, hexpand, hp⟩ := find_ok hfound
  obtain ⟨hportal, hsource, hpath⟩ := found.override_eq (overrides.getD {})
  have hdir : found.sourceDir = p.resolveSourceDir dir := by
    rw [hp]
    rfl
  refine ⟨written, dir, p, hpath ▸ horigin, hexpand, ?_, ?_⟩
  · rw [hportal, hp]
    rfl
  · rw [hsource, hdir]
    cases overrides <;> rfl

theorem liesAt_of_expand {written p : Portal} {dir : Path} {override? : Option Path}
    (hexpand : written.expand m.env = .ok p) (hresolved : c.Resolved)
    (hsections : c.portal.sections = p.sections)
    (hsource : c.sourceDir = override?.getD (p.resolveSourceDir dir)) :
    c.LiesAt m override? written dir := by
  obtain ⟨-, -, hdir, -, hdirs⟩ := Portal.expands_of_expand hexpand
  refine ⟨?_, ?_, ?_, ?_⟩
  · rintro d rfl
    exact hsource
  · rintro rfl s hs
    rw [hs] at hdir
    cases hp : p.sourceDir? with
    | none =>
      rw [hp] at hdir
      cases hdir
    | some t =>
      rw [hp] at hdir
      cases hdir with
      | some ht =>
        refine ⟨t, ht, ?_⟩
        rw [hsource, Option.getD_none, Portal.resolveSourceDir, hp]
  · rintro rfl hnone
    rw [hnone] at hdir
    cases hp : p.sourceDir? with
    | none => rw [hsource, Option.getD_none, Portal.resolveSourceDir, hp]
    | some t =>
      rw [hp] at hdir
      cases hdir
  · rw [hresolved, Portal.resolveSections, hsections, List.forall₂_map_right_iff]
    refine hdirs.imp ?_
    rintro s s' ⟨t, ht, rfl⟩
    exact SectionEntry.seenFrom_resolve ht c.sourceDir

/-- **Every directory of a configuration lies where it was written to lie.**  A configuration that is loaded
comes from the portal in a file, seen from the directory of that file, or from the stock portal, seen from
the working directory.  Its source directory is that of the overrides, if they name one, and otherwise the
one that the portal names or else the directory itself; its sections are the written ones, one by one, seen
from this source directory and from no other. -/
theorem directories_of_load (m : Machine) (file : Option Path) (overrides : Option Overrides) (c : Config)
    (h : load m file overrides = .ok c) :
    ∃ written dir, Origin m file written dir c.path? ∧
      c.LiesAt m (overrides.bind (·.sourceDir?)) written dir := by
  obtain ⟨written, dir, p, horigin, hexpand, hsections, hsource⟩ := origin_of_load h
  have hresolved := (resolved_and_valid_of_load h).1
  exact ⟨written, dir, horigin, liesAt_of_expand hexpand hresolved hsections hsource⟩

/-- The configuration of a gallery: a source directory with a reference, a relative section and an absolute
one. -/
def galleryText : String :=
  "[docs]\nsource_dir = \"$\x7bROOMS\x7d\"\n" ++
    "[[sidebar]]\nroute = \"/west/\"\ntitle = \"West\"\ndir = \"west\"\norder = \"name\"\n" ++
    "[[sidebar]]\nroute = \"/east/\"\ntitle = \"East\"\ndir = \"$\x7bEAST:-/lent/east\x7d\"\n"

/-- A machine that works below the directory of a gallery. -/
def gallery : Machine where
  files := ⟨[
    (.ofNames ["gallery"], .directory),
    (.ofNames ["gallery", "portico.toml"], .file (Text.encode galleryText)),
    (.ofNames ["gallery", "office"], .directory)]⟩
  cwd := .ofNames ["gallery", "office"]
  env := [("ROOMS", Text.encode "rooms")]

/-- The directories of a configuration: the source directory, and those of the sections. -/
def directories (c : Config) : Path × List Path := (c.sourceDir, c.sections.map (·.dir))

/-- With and without a source directory from outside; the absolute section stays where it is. -/
theorem directories_of_load_gallery :
    (∃ c, load gallery none none = .ok c ∧
      c.directories = (.ofString "/gallery/rooms", [.ofString "/gallery/rooms/west", .ofString "/lent/east"]) ∧
      ∃ written dir, Origin gallery none written dir c.path? ∧ c.LiesAt gallery none written dir) ∧
    ∃ c, load gallery none (some { sourceDir? := some (.ofString "../store/") }) = .ok c ∧
      c.directories = (.ofString "../store/", [.ofString "../store/west", .ofString "/lent/east"]) ∧
      ∃ written dir, Origin gallery none written dir c.path? ∧
        c.LiesAt gallery (some (.ofString "../store/")) written dir := by
  constructor
  · obtain ⟨c, hc, hdirs⟩ : ∃ c, load gallery none none = .ok c ∧
        decide (c.directories =
          (.ofString "/gallery/rooms", [.ofString "/gallery/rooms/west", .ofString "/lent/east"])) = true :=
      Result.exists_ok_of_any (by decide +kernel)
    exact ⟨c, hc, of_decide_eq_true hdirs, directories_of_load gallery none none c hc⟩
  · obtain ⟨c, hc, hdirs⟩ : ∃ c,
        load gallery none (some { sourceDir? := some (.ofString "../store/") }) = .ok c ∧
        decide (c.directories =
          (.ofString "../store/", [.ofString "../store/west", .ofString "/lent/east"])) = true :=
      Result.exists_ok_of_any (by decide +kernel)
    exact ⟨c, hc, of_decide_eq_true hdirs, directories_of_load gallery none _ c hc⟩

end Config
end DocPortal
