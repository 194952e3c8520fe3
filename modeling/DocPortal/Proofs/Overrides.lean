import DocPortal.Proofs.Resolution

/-!
# What overrides change

Overrides change what they name and nothing else. A configuration that cannot be loaded without them cannot
be loaded with them either, for the same reason; and one that can be is only refused for the base that they
put into it, since everything else in it has been found valid before. Where they name both the base and the
source directory, nothing is left of those that a file gives.

## Main definitions

* `Config.Overridden` — a configuration with the base and the source directory of some overrides.
* `Portal.unplaced` — what a portal says apart from its base and its source directory.
* `Config.shown` — what is to be seen of a configuration, the file that it comes from left out.
-/

namespace DocPortal

/-! ## Portals with another base -/

namespace Portal

/-- The portal with another base. -/
def withBase (p : Portal) (base : String) : Portal := { p with site := { p.site with base } }

variable {p : Portal} {b : String}

theorem Valid.withBase (h : p.Valid) (hb : Slashed b) : (p.withBase b).Valid :=
  ⟨h.title, hb, h.head, h.navbar, h.sections⟩

/-- In a valid portal a wrong base is the first fault. -/
theorem Valid.validate_withBase (h : p.Valid) (hb : ¬ Slashed b) :
    (p.withBase b).validate = .error (.notSlashed .siteBase b) := by
  have htitle : emptyFault .siteTitle (p.withBase b).site.title = [] := emptyFault_eq_nil_iff.2 h.title
  have hbase : slashFault .siteBase (p.withBase b).site.base = [.notSlashed .siteBase b] :=
    if_neg (mt isSlashed_iff.1 hb)
  rw [validate, faults, SiteInfo.faults, htitle, hbase]
  rfl

/-! ## Portals that differ in their places -/

/-- What a portal says apart from where the site is deployed and where its contents are. -/
def unplaced (p : Portal) : Portal := { p.withBase "" with sourceDir? := none }

theorem unplaced_eq_iff {p p' : Portal} : p.unplaced = p'.unplaced ↔
    { p.site with base := "" } = { p'.site with base := "" } ∧ p.head = p'.head ∧ p.theme = p'.theme ∧
      p.sections = p'.sections := by
  simp [unplaced, withBase]

/-- References are expanded field by field, so that what they come to elsewhere does not depend on the base
and the source directory. -/
theorem unplaced_of_expand {env : Environment} {p p' q q' : Portal} (h : p.unplaced = p'.unplaced)
    (hq : p.expand env = .ok q) (hq' : p'.expand env = .ok q') : q.unplaced = q'.unplaced := by
  obtain ⟨site, head, theme, sections, source?⟩ := p
  obtain ⟨site', head', theme', sections', source?'⟩ := p'
  obtain ⟨hsite, rfl, rfl, rfl⟩ := unplaced_eq_iff.1 h
  obtain ⟨_, -, hq⟩ := Result.bind_ok_iff.1 hq
  obtain ⟨logo, hlogo, hq⟩ := Result.bind_ok_iff.1 hq
  obtain ⟨repo, hrepo, hq⟩ := Result.bind_ok_iff.1 hq
  obtain ⟨_, -, hq⟩ := Result.bind_ok_iff.1 hq
  obtain ⟨_, -, hq'⟩ := Result.bind_ok_iff.1 hq'
  obtain ⟨logo', hlogo', hq'⟩ := Result.bind_ok_iff.1 hq'
  obtain ⟨repo', hrepo', hq'⟩ := Result.bind_ok_iff.1 hq'
  obtain ⟨_, -, hq'⟩ := Result.bind_ok_iff.1 hq'
  -- From here on both portals are expanded alike.
  obtain rfl : logo = logo' := Except.ok.inj (hlogo.symm.trans hlogo')
  obtain rfl : repo = repo' := Except.ok.inj (hrepo.symm.trans hrepo')
  obtain ⟨tags, htags, hq⟩ := Result.bind_ok_iff.1 hq
  obtain ⟨links, hlinks, hq⟩ := Result.bind_ok_iff.1 hq
  obtain ⟨entries, hentries, hq⟩ := Result.bind_ok_iff.1 hq
  dsimp only at htags hlinks hentries hq'
  rw [htags] at hq'
  dsimp only [Bind.bind, Except.bind] at hq'
  rw [hlinks] at hq'
  dsimp only at hq'
  rw [hentries] at hq'
  cases hq
  cases hq'
  exact unplaced_eq_iff.2 ⟨hsite, rfl, rfl, rfl⟩

end Portal

namespace Config

variable {m : Machine} {file : Option Path} {o : Overrides} {c : Config}

/-! ## A configuration and its overrides -/

/-- A configuration has the base and the source directory of some overrides, as far as they name them, and is
otherwise the same: its sections are those that were there, each with its directory, if need be, seen from
the new source directory. -/
structure Overridden (o : Overrides) (c c' : Config) : Prop where
  portal : c'.portal = c.portal.withBase (o.base?.getD c.portal.site.base)
  sourceDir : c'.sourceDir = o.sourceDir?.getD c.sourceDir
  kept : o.sourceDir? = none → c'.sections = c.sections
  rejoined : ∀ dir, o.sourceDir? = some dir → c.sections.length = c.portal.sections.length ∧
    c'.sections = c.sections.zipWith (fun s written => s.withDir (dir.join (.ofString written.dir)))
      c.portal.sections
  path : c'.path? = c.path?

/-- Sections that are resolved once more keep all but their directories. -/
theorem zipWith_resolveSections (sections : List (SectionEntry String)) (old dir : Path) :
    (sections.map (·.resolve old)).zipWith (fun s written => s.withDir (dir.join (.ofString written.dir)))
      sections = sections.map (·.resolve dir) := by
  induction sections with
  | nil => rfl
  | cons s rest ih =>
    rw [List.map_cons, List.zipWith_cons_cons, ih]
    rfl

theorem overridden_override (hresolved : c.Resolved) (o : Overrides) : Overridden o c (c.override o) := by
  obtain ⟨hportal, hsource, hpath⟩ := c.override_eq o
  refine ⟨hportal, hsource, ?_, ?_, hpath⟩
  · intro hnone
    obtain ⟨sourceDir?, base?⟩ := o
    cases hnone
    cases base? <;> rfl
  · intro dir hdir
    have hsections : (c.override o).sections = c.portal.sections.map (·.resolve dir) := by
      rw [hresolved.override o, hsource, hdir, hportal]
      rfl
    refine ⟨?_, ?_⟩
    · rw [hresolved, Portal.length_resolveSections]
    · rw [hsections, hresolved, Portal.resolveSections, zipWith_resolveSections]

/-- With overrides a configuration is found just as without them. -/
theorem load_some_of_load_none (h : load m file none = .ok c) (o : Overrides) :
    load m file (some o) = check (c.override o) := by
  obtain ⟨found, hfound, hc⟩ := Result.bind_ok_iff.1 h
  obtain rfl := Result.pure_ok_iff.1 hc
  rw [load, hfound]
  rfl

/-- A base that is not between slashes is refused. -/
theorem check_override_of_not_slashed (hvalid : c.portal.Valid) {b : String} (hb : o.base? = some b)
    (hslashed : ¬ Slashed b) : check (c.override o) = .error (.invalid (.notSlashed .siteBase b)) := by
  have hportal : (c.override o).portal = c.portal.withBase b := by
    rw [(c.override_eq o).1, hb]
    rfl
  rw [check, hportal, hvalid.validate_withBase hslashed]
  rfl

/-- Any other base will do, and so will the one that is there. -/
theorem check_override_of_slashed (hvalid : c.portal.Valid)
    (hslashed : ∀ b, o.base? = some b → Slashed b) : check (c.override o) = .ok (c.override o) := by
  refine check_ok_iff.2 ⟨?_, rfl⟩
  rw [(c.override_eq o).1]
  refine hvalid.withBase ?_
  cases hb : o.base? with
  | none => exact hvalid.base
  | some b => exact hslashed b hb

/-! ## Files that differ in what is overridden -/

/-- What is to be seen of a configuration, the file that it comes from left out. -/
def shown (c : Config) : SiteInfo × List HeadTag × Theme × Path × List (SectionEntry Path) :=
  (c.portal.site, c.portal.head, c.portal.theme, c.sourceDir, c.sections)

/-- Overrides that name both the base and the source directory leave nothing of either. -/
theorem shown_override {c' : Config} {b : String} {dir : Path} (hb : o.base? = some b)
    (hdir : o.sourceDir? = some dir) (h : c.portal.unplaced = c'.portal.unplaced) :
    (c.override o).shown = (c'.override o).shown := by
  obtain ⟨hsite, hhead, htheme, hsections⟩ := Portal.unplaced_eq_iff.1 h
  obtain ⟨sourceDir?, base?⟩ := o
  cases hb
  cases hdir
  have hsite' : { c.portal.site with base := b } = { c'.portal.site with base := b } :=
    congrArg (fun site : SiteInfo => { site with base := b }) hsite
  show (_, _, _, _, c.portal.sections.map _) = (_, _, _, _, c'.portal.sections.map _)
  rw [hsections]
  exact Prod.ext hsite' (Prod.ext hhead (Prod.ext htheme rfl))

/-- The portal that was read is the one that a configuration comes from. -/
theorem Origin.eq_of_reads {written p : Portal} {dir : Path} {path? : Option Path}
    (h : Origin m file written dir path?) (hp : Reads m file p) : written = p := by
  obtain ⟨found, document, hchosen, hdocument, hparsed⟩ := hp
  cases h with
  | @file found' _ document' _ hchosen' hdocument' hparsed' _ =>
    have hsame : found' = found := by
      rcases hchosen with rfl | ⟨rfl, hfound⟩
      · obtain heq | ⟨heq, -⟩ := hchosen'
        · exact (Option.some.inj heq).symm
        · cases heq
      · obtain heq | ⟨-, hfound'⟩ := hchosen'
        · cases heq
        · exact Option.some.inj (hfound'.symm.trans hfound)
    subst hsame
    obtain rfl : document' = document := Except.ok.inj (hdocument'.symm.trans hdocument)
    exact Except.ok.inj (hparsed'.symm.trans hparsed)
  | stock hunasked hmissing =>
    rcases hchosen with rfl | ⟨-, hfound⟩
    · cases hunasked
    · rw [hmissing] at hfound
      cases hfound

/-- A configuration that is loaded without overrides has the portal that was read, with its references
expanded. -/
theorem expand_of_load {p : Portal} (hp : Reads m file p) (h : load m file none = .ok c) :
    p.expand m.env = .ok c.portal := by
  obtain ⟨found, hfound, rfl⟩ := load_ok h
  obtain ⟨written, dir, q, horigin, hexpand, hq⟩ := find_ok hfound
  obtain rfl := horigin.eq_of_reads hp
  rw [hexpand, hq]
  rfl

/-- **Overrides change what they name and nothing else.**  What cannot be loaded without them fails with them
in the same way.  What can be loaded is refused only for a base that does not start and end with a slash, and
otherwise has the base and the source directory of the overrides and is the same in everything else.  So two
files that differ in these two only come to the same once both of them are overridden. -/
theorem overrides_change_what_they_name (m : Machine) (file : Option Path) (o : Overrides) :
    (∀ e, load m file none = .error e → load m file (some o) = .error e) ∧
    (∀ c, load m file none = .ok c →
      (∀ b, o.base? = some b → ¬ Slashed b →
        load m file (some o) = .error (.invalid (.notSlashed .siteBase b))) ∧
      ((∀ b, o.base? = some b → Slashed b) → ∃ c', load m file (some o) = .ok c' ∧ Overridden o c c')) ∧
    ∀ (m' : Machine) (file' : Option Path) (p p' : Portal) (c c' : Config), m'.env = m.env →
      Reads m file p → Reads m' file' p' → p.unplaced = p'.unplaced → load m file none = .ok c →
      load m' file' none = .ok c' → o.base?.isSome → o.sourceDir?.isSome →
      (load m file (some o)).map shown = (load m' file' (some o)).map shown := by
  refine ⟨?_, ?_, ?_⟩
  · intro e h
    obtain hfound | ⟨_, -, hpure⟩ := Result.bind_error_iff.1 h
    · exact Result.bind_error_iff.2 (.inl hfound)
    · cases hpure
  · intro c h
    obtain ⟨hresolved, hvalid⟩ := resolved_and_valid_of_load h
    rw [load_some_of_load_none h]
    constructor
    · intro b hb hslashed
      exact check_override_of_not_slashed hvalid hb hslashed
    · intro hslashed
      exact ⟨_, check_override_of_slashed hvalid hslashed, overridden_override hresolved o⟩
  · intro m' file' p p' c c' henv hp hp' hsame h h' hb hdir
    obtain ⟨b, hb⟩ := Option.isSome_iff_exists.1 hb
    obtain ⟨dir, hdir⟩ := Option.isSome_iff_exists.1 hdir
    have hvalid := (resolved_and_valid_of_load h).2
    have hvalid' := (resolved_and_valid_of_load h').2
    have hportal : c.portal.unplaced = c'.portal.unplaced :=
      Portal.unplaced_of_expand hsame (expand_of_load hp h) (henv ▸ expand_of_load hp' h')
    rw [load_some_of_load_none h, load_some_of_load_none h']
    by_cases hslashed : Slashed b
    · have hall : ∀ b', o.base? = some b' → Slashed b' := by
        intro b' hb'
        rw [hb] at hb'
        exact Option.some.inj hb' ▸ hslashed
      rw [check_override_of_slashed hvalid hall, check_override_of_slashed hvalid' hall]
      exact congrArg Except.ok (shown_override hb hdir hportal)
    · rw [check_override_of_not_slashed hvalid hb hslashed,
        check_override_of_not_slashed hvalid' hb hslashed]

/-- The configuration of a kiosk, deployed under some base and with its contents in some directory. -/
def kioskText (base dir : String) : String :=
  "docs.source_dir = \"" ++ dir ++ "\"\nsite.base = \"" ++ base ++ "\"\n"

/-- A machine with two kiosks. -/
def kiosks : Machine where
  files := ⟨[
    (.ofNames ["north"], .directory),
    (.ofNames ["north", "portico.toml"], .file (Text.encode (kioskText "/north/" "sheets"))),
    (.ofNames ["south.toml"], .file (Text.encode (kioskText "/south/" "/srv/prints")))]⟩

/-- Overrides that name both the base and the source directory. -/
def kioskOverrides : Overrides := { sourceDir? := some (.ofString "shared"), base? := some "/both/" }

/-- The first kiosk has its base and its source directory replaced, and is then the same as the second one;
a base without slashes is refused, and a file that is not there stays away. -/
theorem overrides_change_what_they_name_kiosks :
    load kiosks (some (.ofString "west.toml")) (some kioskOverrides) =
        .error (.notFound (.ofString "west.toml")) ∧
      (∃ c c', load kiosks (some (.ofString "north/portico.toml")) none = .ok c ∧
        load kiosks (some (.ofString "north/portico.toml")) (some { base? := some "both" }) =
          .error (.invalid (.notSlashed .siteBase "both")) ∧
        load kiosks (some (.ofString "north/portico.toml")) (some kioskOverrides) = .ok c' ∧
        Overridden kioskOverrides c c') ∧
      (load kiosks (some (.ofString "north/portico.toml")) (some kioskOverrides)).map shown =
        (load kiosks (some (.ofString "south.toml")) (some kioskOverrides)).map shown := by
  have hmissing : load kiosks (some (.ofString "west.toml")) none =
      .error (.notFound (.ofString "west.toml")) := by
    rw [load, find, if_neg (by decide +kernel)]
    rfl
  obtain ⟨c, hc⟩ : ∃ c, load kiosks (some (.ofString "north/portico.toml")) none = .ok c :=
    Result.exists_ok_of_isOk (by decide +kernel)
  obtain ⟨c', hc'⟩ : ∃ c, load kiosks (some (.ofString "south.toml")) none = .ok c :=
    Result.exists_ok_of_isOk (by decide +kernel)
  obtain ⟨p, hp⟩ : ∃ p, Portal.parse (kioskText "/north/" "sheets") = .ok p :=
    Result.exists_ok_of_isOk (by decide +kernel)
  obtain ⟨p', hp'⟩ : ∃ p, Portal.parse (kioskText "/south/" "/srv/prints") = .ok p :=
    Result.exists_ok_of_isOk (by decide +kernel)
  have hsame : (Portal.parse (kioskText "/north/" "sheets")).toOption.map Portal.unplaced =
      (Portal.parse (kioskText "/south/" "/srv/prints")).toOption.map Portal.unplaced := by decide +kernel
  rw [hp, hp'] at hsame
  have htext : kiosks.files.readText kiosks.cwd (.ofString "north/portico.toml") =
      .ok (kioskText "/north/" "sheets") := by decide +kernel
  have htext' : kiosks.files.readText kiosks.cwd (.ofString "south.toml") =
      .ok (kioskText "/south/" "/srv/prints") := by decide +kernel
  have hbase : ¬ Slashed "both" := by
    rw [← isSlashed_iff]
    decide
  have hbase' : ∀ b, kioskOverrides.base? = some b → Slashed b := by
    rintro b ⟨⟩
    exact isSlashed_iff.1 (by decide)
  obtain ⟨-, hnorth, hboth⟩ :=
    overrides_change_what_they_name kiosks (some (.ofString "north/portico.toml")) kioskOverrides
  obtain ⟨c'', hc'', hoverridden⟩ := (hnorth c hc).2 hbase'
  refine ⟨(overrides_change_what_they_name kiosks _ kioskOverrides).1 _ hmissing, ⟨c, c'', hc, ?_, hc'',
    hoverridden⟩, ?_⟩
  · exact ((overrides_change_what_they_name kiosks _ { base? := some "both" }).2.1 c hc).1 "both" rfl hbase
  · exact hboth kiosks (some (.ofString "south.toml")) p p' c c' rfl ⟨_, _, .inl rfl, htext, hp⟩
      ⟨_, _, .inl rfl, htext', hp'⟩ (Option.some.inj hsame) hc hc' rfl rfl

end Config
end DocPortal
