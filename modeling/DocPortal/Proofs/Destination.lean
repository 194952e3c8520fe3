import DocPortal.Proofs.Effect

/-!
# Where the text of a site goes

A build can print the text of its site or write it to a file. Wherever the file is, everything that the text
depends on has been read before anything is written, so that the text in the file is the one that would be
printed: the file may stand in a directory that is scanned, be the configuration file or be reached through
links. What keeps a site from being assembled does so in both cases alike.
-/

namespace DocPortal
namespace Command

/-- **A file is given the text that would be printed.**  If a build succeeds with an output file, it succeeds
without, and what is read back from the path of the file is what it prints then, unless that path leads to a
device, which forgets what is written to it.  If a build fails without an output file, it fails with any in
the same way, and the tree stays as it was. -/
theorem destination_does_not_matter (m : Machine) (a : BuildArguments) (file : Path) :
    ((build m { a with output? := some file }).result = .ok () →
      (build m { a with output? := none }).result = .ok () ∧
      ((∀ loc, (build m { a with output? := some file }).files.resolve m.cwd file ≠ .ok (loc, .device)) →
        (build m { a with output? := some file }).files.read m.cwd file =
          .ok (Text.encode (build m { a with output? := none }).stdout))) ∧
    ∀ e, (build m { a with output? := none }).result = .error e →
      build m { a with output? := some file } = build m { a with output? := none } ∧
      (build m { a with output? := none }).files = m.files := by
  obtain ⟨e, notices, hbuild⟩ | ⟨c, site, hload, hsite, hbuild⟩ := build_stages m a
  · rw [hbuild, hbuild]
    refine ⟨fun h => ?_, fun _ _ => ⟨rfl, rfl⟩⟩
    cases h
  · have hprinted : build m { a with output? := none } =
        .printed m (siteText a.compact site) (configNotices c) := hbuild none a.compact
    have hwritten : build m { a with output? := some file } =
        writeOutput m file (siteText a.compact site) (configNotices c) := hbuild (some file) a.compact
    constructor
    · intro h
      rw [hwritten] at h
      obtain ⟨-, ready, hroom, hwrite⟩ := writeOutput_ok h
      rw [hprinted, hwritten]
      refine ⟨rfl, fun hdevice => ?_⟩
      obtain hread | ⟨loc, hloc⟩ := FileSystem.read_or_device_of_write hwrite
      · exact hread
      · exact absurd hloc (hdevice loc)
    · intro e h
      rw [hprinted] at h
      cases h

/-- A machine on which a link in a scanned directory leads to the configuration file. -/
def mailroom : Machine where
  files := ⟨[
    (.ofNames ["portico.toml"], .file (Text.encode "[site]\ntitle = \"Mail\"\n")),
    (.ofNames ["docs"], .directory),
    (.ofNames ["docs", "a.md"], .file []),
    (.ofNames ["docs", "self.md"], .link (.ofString "../portico.toml"))]⟩

/-- The text replaces the configuration that it was made from, by way of one of the pages; where there is
nothing, nothing comes about. -/
theorem destination_does_not_matter_mailroom :
    ((build mailroom (outputTo "docs/self.md")).result = .ok () ∧ (build mailroom {}).result = .ok () ∧
      (build mailroom (outputTo "docs/self.md")).files.read [] (.ofString "docs/self.md") =
        .ok (Text.encode (build mailroom {}).stdout)) ∧
    (build { files := .empty } {}).result.isOk = false ∧
      build { files := .empty } (outputTo "site.json") = build { files := .empty } {} ∧
      (build { files := .empty } {}).files = .empty := by
  constructor
  · have hok : (build mailroom (outputTo "docs/self.md")).result = .ok () :=
      Result.eq_ok_of_isOk (by decide +kernel)
    have hfile : ((build mailroom (outputTo "docs/self.md")).files.resolve []
        (.ofString "docs/self.md")).toOption.map Prod.snd ≠ some .device := by decide +kernel
    obtain ⟨hprints, hread⟩ := (destination_does_not_matter mailroom {} (.ofString "docs/self.md")).1 hok
    refine ⟨hok, hprints, hread fun loc hloc => hfile ?_⟩
    have hloc' : (build mailroom (outputTo "docs/self.md")).files.resolve [] (.ofString "docs/self.md") =
        .ok (loc, .device) := hloc
    rw [hloc']
    rfl
  · have hfails : (build { files := .empty } {}).result.isOk = false := by decide +kernel
    cases hresult : (build { files := .empty } {}).result with
    | ok u =>
      rw [hresult] at hfails
      cases hfails
    | error e =>
      obtain ⟨hsame, hfiles⟩ :=
        (destination_does_not_matter { files := .empty } {} (.ofString "site.json")).2 e hresult
      exact ⟨rfl, hsame, hfiles⟩

/-- It is not always so that a file is given the text that would be printed: a device forgets it. -/
theorem not_forall_destination :
    ¬ ∀ (m : Machine) (a : BuildArguments) (file : Path),
      (build m { a with output? := some file }).result = .ok () →
        (build m { a with output? := none }).result = .ok () ∧
        (build m { a with output? := some file }).files.read m.cwd file =
          .ok (Text.encode (build m { a with output? := none }).stdout) := by
  intro h
  obtain ⟨hok, hempty⟩ := build_cabinet_device
  obtain ⟨hprints, hread⟩ := h cabinet {} (.ofString "dev/null") hok
  obtain ⟨c, site, -, -, hstdout, -⟩ := build_ok hprints
  rw [hstdout] at hread
  exact encode_siteText_ne_nil _ site (Except.ok.inj (hread.symm.trans hempty))

end Command
end DocPortal
