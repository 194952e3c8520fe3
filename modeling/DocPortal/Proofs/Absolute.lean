import DocPortal.Proofs.Resolution

/-!
# Where resolved directories are absolute

A path that is seen from another one is absolute if one of the two is, and the directory of a file is absolute if
the path of the file is. So the directories of a configuration are absolute if there is no configuration file, if
it was found by the search upwards, or if it was asked for by an absolute path. If it was asked for by a relative
path, a directory is absolute only where it was written so, and the others are relative still.
-/

namespace DocPortal

/-! ## Absolute paths and their parents -/

namespace Lexical

open PathAlphabet

variable {α : Type} [DecidableEq α] [PathAlphabet α]

/-- The parent of a path starts where the path does. -/
theorem isAbsolute_of_parent? (hdot : (slash : α) ≠ dot) {p q : List α} (h : parent? p = some q) :
    isAbsolute q = isAbsolute p := by
  obtain ⟨hhead, rfl⟩ | ⟨kept, hkept, rfl⟩ := parent?_cases h
  · have hrel : isAbsolute p = false := Bool.eq_false_iff.2 fun habs =>
      hdot (List.singleton_inj.1 ((isAbsolute_iff_head.1 habs).symm.trans hhead))
    rw [hrel]
    rfl
  · exact isAbsolute_head_append hkept

end Lexical

namespace Path

variable {p q : Path}

theorem isAbsolute_of_parent? (h : p.parent? = some q) : q.isAbsolute = p.isAbsolute := by
  obtain ⟨bytes, hbytes, rfl⟩ := Option.map_eq_some_iff.1 h
  exact Lexical.isAbsolute_of_parent? (by decide) hbytes

/-- The directories above a path start where the path does. -/
theorem isAbsolute_of_mem_ancestors (hq : q ∈ p.ancestors) : q.isAbsolute = p.isAbsolute := by
  refine of_mem_ancestors (motive := fun dir => dir.isAbsolute = p.isAbsolute) rfl (fun dir above habove hdir => ?_) hq
  rw [isAbsolute_of_parent? habove, hdir]

end Path

/-- The path of a location starts at the root. -/
@[simp] theorem Location.isAbsolute_path (loc : Location) : loc.path.isAbsolute = true := rfl

/-! ## Loaded configurations -/

namespace Config

variable {m : Machine} {file : Option Path} {overrides : Option Overrides} {c : Config}

/-- The search finds absolute paths only. -/
theorem isAbsolute_of_discover? {found : Path} (h : discover? m = some found) : found.isAbsolute = true := by
  obtain ⟨dir, hdir, rfl⟩ := List.mem_map.1 (List.mem_of_find?_eq_some h)
  rw [Path.isAbsolute_join, Path.isAbsolute_of_mem_ancestors hdir, Location.isAbsolute_path, Bool.true_or]

/-- The directory from which a portal is seen is absolute, unless a file was asked for by a relative path. -/
theorem Origin.isAbsolute_iff {written : Portal} {dir : Path} {path? : Option Path}
    (h : Origin m file written dir path?) :
    dir.isAbsolute = true ↔ ∀ p, file = some p → p.isAbsolute = true := by
  cases h with
  | stock unasked missing => simp [unasked]
  | file chosen text parsed parent =>
    rw [Path.isAbsolute_of_parent? parent]
    obtain rfl | ⟨rfl, hfound⟩ := chosen
    · simp
    · simp [isAbsolute_of_discover? hfound]

/-- **Directories are absolute, unless the file was asked for by a relative path.**  Without a source directory
from outside, the source directory of a configuration is absolute exactly if no file was asked for by a relative
path or the portal names an absolute source directory.  The directory of a section is absolute exactly if the
source directory is or the section names an absolute one.  So all of them are absolute if there is no file, if it
was found, or if it was asked for by an absolute path. -/
theorem absolute_iff_of_load (m : Machine) (file : Option Path) (overrides : Option Overrides) (c : Config)
    (h : load m file overrides = .ok c) (hnone : overrides.bind (·.sourceDir?) = none) :
    (c.sourceDir.isAbsolute = true ↔ (∀ p, file = some p → p.isAbsolute = true) ∨
      ∃ s, c.portal.sourceDir? = some s ∧ (Path.ofString s).isAbsolute = true) ∧
    c.sections.map (·.dir.isAbsolute) =
      c.portal.sections.map (fun s => c.sourceDir.isAbsolute || (Path.ofString s.dir).isAbsolute) ∧
    ((∀ p, file = some p → p.isAbsolute = true) →
      c.sourceDir.isAbsolute = true ∧ ∀ s ∈ c.sections, s.dir.isAbsolute = true) := by
  obtain ⟨hresolved, -⟩ := resolved_and_valid_of_load h
  obtain ⟨found, hfound, rfl⟩ := load_ok h
  obtain ⟨hportal, hsource, -⟩ := found.override_eq (overrides.getD {})
  obtain ⟨written, dir, p, horigin, -, hp⟩ := find_ok hfound
  have hunset : (overrides.getD {}).sourceDir? = none := by
    cases overrides with
    | none => rfl
    | some o => exact hnone
  have hdir : (found.override (overrides.getD {})).sourceDir = p.resolveSourceDir dir := by
    rw [hsource, hunset, hp]
    rfl
  have hnamed : (found.override (overrides.getD {})).portal.sourceDir? = p.sourceDir? := by
    rw [hportal, hp]
    rfl
  have hiff : (found.override (overrides.getD {})).sourceDir.isAbsolute = true ↔
      (∀ p, file = some p → p.isAbsolute = true) ∨
        ∃ s, (found.override (overrides.getD {})).portal.sourceDir? = some s ∧
          (Path.ofString s).isAbsolute = true := by
    rw [hdir, hnamed, ← horigin.isAbsolute_iff, Portal.resolveSourceDir]
    cases p.sourceDir? with
    | none => simp
    | some s => simp
  refine ⟨hiff, ?_, fun hfile => ⟨hiff.2 (.inl hfile), fun s hs => ?_⟩⟩
  · rw [hresolved, Portal.resolveSections, List.map_map]
    exact List.map_congr_left fun s _ => Path.isAbsolute_join _ _
  · rw [hresolved, Portal.resolveSections] at hs
    obtain ⟨written, -, rfl⟩ := List.mem_map.1 hs
    exact (Path.isAbsolute_join _ _).trans (by rw [hiff.2 (.inl hfile), Bool.true_or])

/-- The configuration of a pier: a section with a relative directory and one with an absolute one. -/
def pierText : String :=
  "[[sidebar]]\nroute = \"/oars/\"\ntitle = \"Oars\"\ndir = \"oars\"\n" ++
    "[[sidebar]]\nroute = \"/tide/\"\ntitle = \"Tide\"\ndir = \"/lent/tide\"\n"

/-- A machine that works in the directory of a configuration file. -/
def pier (document : String) : Machine where
  files := ⟨[(.ofNames ["pier"], .directory), (.ofNames ["pier", "portico.toml"], .file (Text.encode document))]⟩
  cwd := .ofNames ["pier"]
  env := []

/-- By its bare name the file gives relative directories, but for the one that is written as absolute; found by the
search, the same file gives absolute ones. -/
theorem absolute_iff_of_load_pier :
    (∃ c, load (pier pierText) (some fileName) none = .ok c ∧ c.sourceDir.isAbsolute = false ∧
      c.sections.map (·.dir.isAbsolute) = [false, true]) ∧
    ∃ c, load (pier pierText) none none = .ok c ∧ c.sourceDir.isAbsolute = true ∧
      ∀ s ∈ c.sections, s.dir.isAbsolute = true := by
  constructor
  · obtain ⟨c, hc, hwritten⟩ : ∃ c, load (pier pierText) (some fileName) none = .ok c ∧
        decide (c.portal.sourceDir? = none ∧ c.portal.sections.map (·.dir) = ["oars", "/lent/tide"]) = true :=
      Result.exists_ok_of_any (by decide +kernel)
    obtain ⟨hnone, hsections⟩ := of_decide_eq_true hwritten
    obtain ⟨hiff, hdirs, -⟩ := absolute_iff_of_load _ _ _ c hc rfl
    have hrel : c.sourceDir.isAbsolute = false := by
      rw [Bool.eq_false_iff, Ne, hiff, hnone]
      rintro (habs | ⟨s, hs, -⟩)
      · exact absurd (habs fileName rfl) (by decide)
      · cases hs
    have hjoined : c.portal.sections.map (fun s => c.sourceDir.isAbsolute || (Path.ofString s.dir).isAbsolute) =
        (c.portal.sections.map (·.dir)).map fun dir => (Path.ofString dir).isAbsolute := by
      rw [List.map_map, hrel]
      rfl
    rw [hjoined, hsections] at hdirs
    exact ⟨c, hc, hrel, hdirs.trans (by decide)⟩
  · obtain ⟨c, hc⟩ := Result.exists_ok_of_isOk (r := load (pier pierText) none none) (by decide +kernel)
    obtain ⟨-, -, habs⟩ := absolute_iff_of_load _ _ _ c hc rfl
    exact ⟨c, hc, habs nofun⟩

/-- A configuration file that is asked for by its name gives relative directories. -/
theorem not_forall_absolute_of_load :
    ¬ ∀ (m : Machine) (file : Option Path) (overrides : Option Overrides) (c : Config),
      load m file overrides = .ok c → overrides.bind (·.sourceDir?) = none →
        c.sourceDir.isAbsolute = true ∧ ∀ s ∈ c.sections, s.dir.isAbsolute = true := by
  intro h
  obtain ⟨c, hc, hdirs⟩ : ∃ c, load (pier "") (some fileName) none = .ok c ∧
      decide (c.directories = (.ofString "", [.ofString "docs"])) = true :=
    Result.exists_ok_of_any (by decide +kernel)
  have hsource : c.sourceDir = .ofString "" := congrArg Prod.fst (of_decide_eq_true hdirs)
  obtain ⟨habs, -⟩ := h _ _ _ c hc rfl
  rw [hsource] at habs
  exact absurd habs (by decide)

end Config
end DocPortal
