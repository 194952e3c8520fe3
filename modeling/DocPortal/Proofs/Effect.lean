import DocPortal.Proofs.Build
import DocPortal.Proofs.Growth

/-!
# What a build does to the tree

Nothing is written before the whole site is assembled. A build that fails earlier leaves the tree as it
was; one whose output cannot be written leaves nothing but directories on the way to it; and one that
succeeds changes one file, in which the site is read back.
-/

namespace DocPortal
namespace Command

/-! ## Making room -/

/-- The directory of an output file and those above it, as written: these may be made for it. -/
def outputDirectories (file : Path) : List Path :=
  match file.parent? with
  | some dir => dir.ancestors
  | none => []

theorem grows_makeRoom (m : Machine) (file : Path) :
    m.files.Grows m.cwd (outputDirectories file) (makeRoom m file).1 := by
  rw [makeRoom, outputDirectories]
  cases file.parent? with
  | none => exact .refl _ _ _
  | some dir =>
    simp only
    split
    · exact .refl _ _ _
    · exact FileSystem.grows_makeDirectories m.files m.cwd dir

/-! ## Failures -/

/-- Assembling a site writes nothing, so that it cannot fail to. -/
theorem assembleSite_ne_output {m : Machine} {c : Config} (f : Failure) :
    assembleSite m c ≠ .error (.output f) := by
  intro h
  rcases Result.bind_error_iff.1 h with hfilter | ⟨settings, -, haccess⟩
  · obtain ⟨e, -, he⟩ := Result.mapError_error_iff.1 hfilter
    cases he
  · obtain ⟨e, -, he⟩ := Result.mapError_error_iff.1 haccess
    cases he

/-- An output that cannot be written leaves nothing but directories on the way to it. -/
theorem writeOutput_error {m : Machine} {file : Path} {text : String} {notices : List Notice}
    {e : CommandError} (h : (writeOutput m file text notices).result = .error e) :
    (∃ f, e = .output f) ∧ (writeOutput m file text notices).stdout = "" ∧
      m.files.Grows m.cwd (outputDirectories file) (writeOutput m file text notices).files := by
  have hgrows := grows_makeRoom m file
  revert h
  rw [writeOutput]
  split
  · rename_i files fault hroom
    rw [hroom] at hgrows
    intro h
    cases h
    exact ⟨⟨_, rfl⟩, rfl, hgrows⟩
  · rename_i ready hroom
    rw [hroom] at hgrows
    split
    · intro h
      cases h
      exact ⟨⟨_, rfl⟩, rfl, hgrows⟩
    · intro h
      cases h

/-- A build that fails writes nothing to its output, and it has changed the tree only if it was about to
write a file. -/
theorem build_error {m : Machine} {a : BuildArguments} {e : CommandError}
    (h : (build m a).result = .error e) :
    (build m a).stdout = "" ∧
      (((∀ f, e ≠ .output f) ∧ (build m a).files = m.files) ∨
        ∃ f file, e = .output f ∧ a.output? = some file ∧
          m.files.Grows m.cwd (outputDirectories file) (build m a).files) := by
  revert h
  rw [build]
  split
  · intro h
    cases h
    exact ⟨rfl, .inl ⟨fun f => CommandError.noConfusion, rfl⟩⟩
  · rename_i c hload
    split
    · rename_i e' hsite
      intro h
      cases h
      refine ⟨rfl, .inl ⟨?_, rfl⟩⟩
      rintro f rfl
      exact assembleSite_ne_output f hsite
    · rename_i site hsite
      split
      · intro h
        cases h
      · rename_i file houtput
        intro h
        obtain ⟨⟨f, rfl⟩, hstdout, hgrows⟩ := writeOutput_error h
        exact ⟨hstdout, .inr ⟨f, file, rfl, houtput, hgrows⟩⟩

/-! ## Successes -/

/-- A text was written to a file: the tree has grown by directories on the way to it, and then the place
to which the path leads was given the text, which is read back from the path. A device forgets the text.
-/
def Writes (m : Machine) (file : Path) (content : Bytes) (files : FileSystem) : Prop :=
  ∃ ready loc, m.files.Grows m.cwd (outputDirectories file) ready ∧
    ready.reach m.cwd .create file = .ok loc ∧
    ((ready.find? loc = some .device ∧ files = ready) ∨
      (ready.find? loc ≠ some .device ∧ ready.find? loc ≠ some .directory ∧
        ready.find? loc ≠ some .closed ∧ files = ready.put loc (.file content) ∧ files.read m.cwd file = .ok content))

theorem writes_of_makeRoom {m : Machine} {file : Path} {content : Bytes} {ready files : FileSystem}
    (hroom : makeRoom m file = (ready, .ok ())) (hwrite : ready.write m.cwd file content = .ok files) :
    Writes m file content files := by
  obtain ⟨loc, hreach, h⟩ := FileSystem.write_ok hwrite
  have hgrows := grows_makeRoom m file
  rw [hroom] at hgrows
  exact ⟨ready, loc, hgrows, hreach, h⟩

/-- The text of a site ends with a newline, so that it is not empty. -/
theorem encode_siteText_ne_nil (compact : Bool) (site : SiteConfig) :
    Text.encode (siteText compact site) ≠ [] := by
  have hnewline : Text.encode "\n" ≠ [] := by decide +kernel
  rw [siteText, Text.encode_append]
  exact fun htext => hnewline (List.append_eq_nil_iff.1 htext).2

/-- **A build has all of its effect or none.**  A failure writes nothing to the standard output, and it
leaves the tree as it was unless the output could not be written, when directories on the way to it may
have been made.  A success without an output file leaves the tree as it was, too; with one it writes the
JSON text of the site and a newline there, and nothing to the standard output. -/
theorem build_all_or_nothing (m : Machine) (a : BuildArguments) :
    (∀ e, (build m a).result = .error e → (∀ f, e ≠ .output f) →
      (build m a).stdout = "" ∧ (build m a).files = m.files) ∧
    (∀ f, (build m a).result = .error (.output f) →
      (build m a).stdout = "" ∧ ∃ file, a.output? = some file ∧
        m.files.Grows m.cwd (outputDirectories file) (build m a).files) ∧
    ((build m a).result = .ok () → a.output? = none → (build m a).files = m.files) ∧
    ∀ file, (build m a).result = .ok () → a.output? = some file →
      (build m a).stdout = "" ∧ ∃ c site text, Config.load m a.config? (some a.overrides) = .ok c ∧
        assembleSite m c = .ok site ∧
        text = (if a.compact then site.toJson.compact else site.toJson.pretty) ++ "\n" ∧
        Json.decode text = some site.toJson ∧ Writes m file (Text.encode text) (build m a).files := by
  refine ⟨?_, ?_, ?_, ?_⟩
  · intro e h hother
    obtain ⟨hstdout, ⟨-, hfiles⟩ | ⟨f, file, rfl, -, -⟩⟩ := build_error h
    · exact ⟨hstdout, hfiles⟩
    · exact absurd rfl (hother f)
  · intro f h
    obtain ⟨hstdout, ⟨hother, -⟩ | ⟨f', file, -, houtput, hgrows⟩⟩ := build_error h
    · exact absurd rfl (hother f)
    · exact ⟨hstdout, file, houtput, hgrows⟩
  · intro h houtput
    obtain ⟨c, site, -, -, hemits⟩ := build_ok h
    rw [Emits, houtput] at hemits
    exact hemits.2
  · intro file h houtput
    obtain ⟨c, site, hload, hsite, hemits⟩ := build_ok h
    rw [Emits, houtput] at hemits
    obtain ⟨hstdout, ⟨ready, hroom, hwrite⟩, -⟩ := hemits
    exact ⟨hstdout, c, site, siteText a.compact site, hload, hsite, rfl, decode_siteText a.compact site,
      writes_of_makeRoom hroom hwrite⟩

/-- A machine with a page, a file that is none and a device. -/
def cabinet : Machine where
  files := ⟨[
    (.ofNames ["docs"], .directory),
    (.ofNames ["docs", "a.md"], .file []),
    (.ofNames ["old.json"], .file []),
    (.ofNames ["dev"], .directory),
    (.ofNames ["dev", "null"], .device)]⟩

/-- The arguments that ask for an output file. -/
def outputTo (file : String) : BuildArguments := { output? := some (.ofString file) }

/-- A new directory is made and left again on the way to the output; behind a file there is no way. -/
theorem build_all_or_nothing_cabinet :
    ((build cabinet (outputTo "x/../y/site.json")).result = .ok () ∧
      ∃ c site, Config.load cabinet none (some {}) = .ok c ∧ assembleSite cabinet c = .ok site ∧
        Writes cabinet (.ofString "x/../y/site.json") (Text.encode (site.toJson.pretty ++ "\n"))
          (build cabinet (outputTo "x/../y/site.json")).files) ∧
    (build cabinet (outputTo "x/../old.json/site.json")).result =
        .error (.output PathFault.alreadyExists.failure) ∧
      cabinet.files.Grows [] (outputDirectories (.ofString "x/../old.json/site.json"))
        (build cabinet (outputTo "x/../old.json/site.json")).files := by
  have hok : (build cabinet (outputTo "x/../y/site.json")).result = .ok () :=
    Result.eq_ok_of_isOk (by decide +kernel)
  have hfault : (match (build cabinet (outputTo "x/../old.json/site.json")).result with
      | .error (.output f) => decide (f = PathFault.alreadyExists.failure)
      | _ => false) = true := by decide +kernel
  have herror : (build cabinet (outputTo "x/../old.json/site.json")).result =
      .error (.output PathFault.alreadyExists.failure) := by
    split at hfault
    · rename_i f hresult
      rw [hresult, of_decide_eq_true hfault]
    · cases hfault
  obtain ⟨-, c, site, text, hload, hsite, rfl, -, hwrites⟩ := (build_all_or_nothing cabinet _).2.2.2 _ hok rfl
  obtain ⟨-, file, hfile, hgrows⟩ := (build_all_or_nothing cabinet _).2.1 _ herror
  cases hfile
  exact ⟨⟨hok, c, site, hload, hsite, hwrites⟩, herror, hgrows⟩

/-- Nothing is read back from the device of the cabinet. -/
theorem build_cabinet_device :
    (build cabinet (outputTo "dev/null")).result = .ok () ∧
      (build cabinet (outputTo "dev/null")).files.read [] (.ofString "dev/null") = .ok [] :=
  ⟨Result.eq_ok_of_isOk (by decide +kernel), by decide +kernel⟩

/-- It is not always so that the site is read back from where it was written: a device forgets it. -/
theorem not_forall_read_back :
    ¬ ∀ (m : Machine) (a : BuildArguments) (file : Path), (build m a).result = .ok () →
      a.output? = some file → ∃ c site, Config.load m a.config? (some a.overrides) = .ok c ∧
        assembleSite m c = .ok site ∧ (build m a).files.read m.cwd file = .ok (Text.encode
          ((if a.compact then site.toJson.compact else site.toJson.pretty) ++ "\n")) := by
  intro h
  obtain ⟨hok, hempty⟩ := build_cabinet_device
  obtain ⟨c, site, -, -, hread⟩ := h cabinet (outputTo "dev/null") _ hok rfl
  exact encode_siteText_ne_nil _ site (Except.ok.inj (hread.symm.trans hempty))

end Command
end DocPortal
