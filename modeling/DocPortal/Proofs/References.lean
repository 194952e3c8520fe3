import DocPortal.Proofs.Loading
import DocPortal.Proofs.Tree

/-!
# What the environment reaches

A portal has a few texts that may refer to variables: the base, the logo, the repository, the source
directory, attribute values, link targets and section directories. Where none of them does, a
configuration is loaded, or fails to be, in every environment alike. Where some do, two environments in
which it is loaded give configurations that differ in nothing but these texts and what is resolved from
them.

## Main definitions

* `Refers` — a text has a dollar sign before an opening brace.
* `Portal.Plain` — none of the texts of a portal that may refer to variables does so.
* `Portal.frame` — what a portal says apart from these texts.
-/

namespace DocPortal

/-! ## Texts without references -/

/-- A text has a dollar sign before an opening brace. -/
def Refers (s : String) : Prop := ['$', '\x7b'] <:+: s.toList

namespace Template

theorem isTemplate_iff {s : List Char} : isTemplate s = true ↔ ['$', '\x7b'] <:+: s := by
  induction s with
  | nil => simp [isTemplate]
  | cons c rest ih =>
    rw [List.infix_cons_iff, ← ih, isTemplate.eq_def (c :: rest)]
    split
    · rename_i rest' heq
      cases heq
      simp
    · rename_i c' rest' hno heq
      cases heq
      refine ⟨.inr, ?_⟩
      rintro (⟨later, hlater⟩ | h)
      · obtain ⟨rfl, rfl⟩ := List.cons.inj hlater
        exact absurd rfl (hno later rfl)
      · exact h
    · rename_i heq
      cases heq

instance (s : String) : Decidable (Refers s) :=
  decidable_of_iff (isTemplate s.toList = true) isTemplate_iff

/-- A text without a reference stands for itself in every environment. -/
theorem expand_of_not_refers {s : String} (h : ¬ Refers s) (env : Environment) : expand env s = .ok s := by
  rw [expand, if_neg]
  rwa [isTemplate_iff]

end Template

theorem expandField_of_not_refers {s : String} (h : ¬ Refers s) (env : Environment) (field : Field) :
    expandField env field s = .ok s := by
  rw [expandField, Template.expand_of_not_refers h]
  rfl

/-! ## Elements with their numbers -/

section

variable {ε α β : Type} {f : α × Nat → Except ε β} {l : List α} {bs : List β} {k : Nat}

/-- Each element was turned into one value, with some number. -/
theorem Result.forall₂_of_mapM_zipIdx (h : (l.zipIdx k).mapM f = .ok bs) :
    List.Forall₂ (fun a b => ∃ i, f (a, i) = .ok b) l bs := by
  rw [mapM_ok_iff] at h
  induction l generalizing bs k with
  | nil =>
    cases h
    exact .nil
  | cons a l ih =>
    cases h with
    | cons hhead htail => exact .cons ⟨k, hhead⟩ (ih htail)

/-- Elements that stay as they are. -/
theorem Result.mapM_eq_self {f : α → Except ε α} (h : ∀ a ∈ l, f a = .ok a) : l.mapM f = .ok l := by
  rw [mapM_ok_iff, List.forall₂_same]
  exact h

/-- Elements that stay as they are, whatever their numbers. -/
theorem Result.mapM_zipIdx_eq_self {f : α × Nat → Except ε α} (h : ∀ a ∈ l, ∀ i, f (a, i) = .ok a) :
    (l.zipIdx k).mapM f = .ok l := by
  rw [mapM_ok_iff]
  induction l generalizing k with
  | nil => exact .nil
  | cons a l ih =>
    exact .cons (h a List.mem_cons_self k) (ih fun a' ha' => h a' (List.mem_cons_of_mem a ha'))

end

/-! ## Portals without references -/

/-- None of the texts that may refer to variables does so. -/
structure Portal.Plain (p : Portal) : Prop where
  base : ¬ Refers p.site.base
  logo : ¬ Refers p.theme.logo
  repo : ¬ Refers p.theme.repo
  sourceDir : ∀ dir ∈ p.sourceDir?, ¬ Refers dir
  attrs : ∀ tag ∈ p.head, ∀ a ∈ tag.attrs, ¬ Refers a.2
  links : ∀ link ∈ p.theme.navbar, ¬ Refers link.link
  dirs : ∀ s ∈ p.sections, ¬ Refers s.dir

instance (p : Portal) : Decidable p.Plain :=
  decidable_of_iff (¬ Refers p.site.base ∧ ¬ Refers p.theme.logo ∧ ¬ Refers p.theme.repo ∧
      (∀ dir ∈ p.sourceDir?, ¬ Refers dir) ∧ (∀ tag ∈ p.head, ∀ a ∈ tag.attrs, ¬ Refers a.2) ∧
      (∀ link ∈ p.theme.navbar, ¬ Refers link.link) ∧ ∀ s ∈ p.sections, ¬ Refers s.dir)
    ⟨fun ⟨base, logo, repo, sourceDir, attrs, links, dirs⟩ =>
        ⟨base, logo, repo, sourceDir, attrs, links, dirs⟩,
      fun h => ⟨h.base, h.logo, h.repo, h.sourceDir, h.attrs, h.links, h.dirs⟩⟩

theorem Portal.plain_stock : Portal.stock.Plain := by decide +kernel

theorem HeadTag.expand_of_plain {t : HeadTag} (h : ∀ a ∈ t.attrs, ¬ Refers a.2) (env : Environment)
    (i : Nat) : t.expand env i = .ok t := by
  rw [expand, Result.mapM_eq_self]
  · rfl
  · intro a ha
    show (expandField env (.headAttr i a.1) a.2).map (a.1, ·) = .ok a
    rw [expandField_of_not_refers (h a ha)]
    rfl

theorem NavLink.expand_of_plain {l : NavLink} (h : ¬ Refers l.link) (env : Environment) (i : Nat) :
    l.expand env i = .ok l := by
  rw [expand, expandField_of_not_refers h]
  rfl

theorem SectionEntry.expand_of_plain {s : SectionEntry String} (h : ¬ Refers s.dir) (env : Environment)
    (i : Nat) : s.expand env i = .ok s := by
  rw [expand, expandField_of_not_refers h]
  rfl

/-- A portal without references stands for itself in every environment. -/
theorem Portal.expand_of_plain {p : Portal} (h : p.Plain) (env : Environment) : p.expand env = .ok p := by
  have hsource : expandSourceDir env p.sourceDir? = .ok p.sourceDir? := by
    cases hdir : p.sourceDir? with
    | none => rfl
    | some dir =>
      rw [expandSourceDir, expandField_of_not_refers (h.sourceDir dir hdir)]
      rfl
  have hhead : ∀ tag ∈ p.head, ∀ i, tag.expand env i = .ok tag :=
    fun tag htag => tag.expand_of_plain (h.attrs tag htag) env
  have hnavbar : ∀ link ∈ p.theme.navbar, ∀ i, link.expand env i = .ok link :=
    fun link hlink => link.expand_of_plain (h.links link hlink) env
  have hsections : ∀ s ∈ p.sections, ∀ i, s.expand env i = .ok s :=
    fun s hs => s.expand_of_plain (h.dirs s hs) env
  rw [expand, expandField_of_not_refers h.base, expandField_of_not_refers h.logo,
    expandField_of_not_refers h.repo, hsource, Result.mapM_zipIdx_eq_self hhead,
    Result.mapM_zipIdx_eq_self hnavbar, Result.mapM_zipIdx_eq_self hsections]
  rfl

/-! ## What expanding does -/

/-- One tag is another with its attribute values expanded, each in its place. -/
structure HeadTag.Expands (env : Environment) (t t' : HeadTag) : Prop where
  tag : t'.tag = t.tag
  attrs : List.Forall₂ (fun a a' => a'.1 = a.1 ∧ Template.expand env a.2 = .ok a'.2) t.attrs t'.attrs

theorem HeadTag.expands_of_expand {env : Environment} {i : Nat} {t t' : HeadTag}
    (h : t.expand env i = .ok t') : t.Expands env t' := by
  obtain ⟨attrs, hattrs, h⟩ := Result.bind_ok_iff.1 h
  cases h
  refine ⟨rfl, (Result.mapM_ok_iff.1 hattrs).imp ?_⟩
  intro a a' ha
  obtain ⟨v, hv, rfl⟩ := Result.map_ok_iff.1 ha
  exact ⟨rfl, Result.mapError_ok_iff.1 hv⟩

/-- One portal is another with the texts expanded that may refer to variables. -/
structure Portal.Expands (env : Environment) (p p' : Portal) : Prop where
  site : ∃ base, Template.expand env p.site.base = .ok base ∧ p'.site = { p.site with base }
  theme : ∃ logo repo navbar, Template.expand env p.theme.logo = .ok logo ∧
    Template.expand env p.theme.repo = .ok repo ∧
    List.Forall₂ (fun l l' => ∃ link, Template.expand env l.link = .ok link ∧ l' = { l with link })
      p.theme.navbar navbar ∧
    p'.theme = { p.theme with logo, repo, navbar }
  sourceDir : Option.Rel (fun s t => Template.expand env s = .ok t) p.sourceDir? p'.sourceDir?
  head : List.Forall₂ (HeadTag.Expands env) p.head p'.head
  sections : List.Forall₂ (fun s s' => ∃ t, Template.expand env s.dir = .ok t ∧ s' = s.withDir t)
    p.sections p'.sections

theorem Portal.expands_of_expand {env : Environment} {p p' : Portal} (h : p.expand env = .ok p') :
    p.Expands env p' := by
  obtain ⟨base, hbase, h⟩ := Result.bind_ok_iff.1 h
  obtain ⟨logo, hlogo, h⟩ := Result.bind_ok_iff.1 h
  obtain ⟨repo, hrepo, h⟩ := Result.bind_ok_iff.1 h
  obtain ⟨sourceDir?, hsource, h⟩ := Result.bind_ok_iff.1 h
  obtain ⟨head, hhead, h⟩ := Result.bind_ok_iff.1 h
  obtain ⟨navbar, hnavbar, h⟩ := Result.bind_ok_iff.1 h
  obtain ⟨sections, hsections, h⟩ := Result.bind_ok_iff.1 h
  cases h
  refine ⟨⟨base, Result.mapError_ok_iff.1 hbase, rfl⟩, ⟨logo, repo, navbar, Result.mapError_ok_iff.1 hlogo,
    Result.mapError_ok_iff.1 hrepo, (Result.forall₂_of_mapM_zipIdx hnavbar).imp ?_, rfl⟩, ?_,
    (Result.forall₂_of_mapM_zipIdx hhead).imp ?_, (Result.forall₂_of_mapM_zipIdx hsections).imp ?_⟩
  · rintro l l' ⟨i, hl⟩
    obtain ⟨link, hlink, hl⟩ := Result.bind_ok_iff.1 hl
    cases hl
    exact ⟨link, Result.mapError_ok_iff.1 hlink, rfl⟩
  · cases hwritten : p.sourceDir? with
    | none =>
      rw [hwritten] at hsource
      cases hsource
      exact .none
    | some s =>
      rw [hwritten, expandSourceDir, Result.map_ok_iff] at hsource
      obtain ⟨t, ht, rfl⟩ := hsource
      exact .some (Result.mapError_ok_iff.1 ht)
  · rintro t t' ⟨i, ht⟩
    exact HeadTag.expands_of_expand ht
  · rintro s s' ⟨i, hs⟩
    obtain ⟨t, ht, hs⟩ := Result.bind_ok_iff.1 hs
    cases hs
    exact ⟨t, Result.mapError_ok_iff.1 ht, rfl⟩

/-! ## What is left of a portal without these texts -/

/-- A tag without its attribute values. -/
def HeadTag.frame (t : HeadTag) : HeadTag := { t with attrs := t.attrs.map fun a => (a.1, "") }

/-- What a portal says apart from the texts that may refer to variables. -/
def Portal.frame (p : Portal) : Portal where
  site := { p.site with base := "" }
  head := p.head.map HeadTag.frame
  theme := { p.theme with logo := "", repo := "", navbar := p.theme.navbar.map fun l => { l with link := "" } }
  sections := p.sections.map (·.withDir "")
  sourceDir? := none

/-- Elements with the same image, one by one. -/
theorem map_eq_map_of_forall₂ {α α' β : Type} {R : α → α' → Prop} {g : α → β} {g' : α' → β} {l : List α}
    {l' : List α'} (h : List.Forall₂ R l l') (hg : ∀ a a', R a a' → g' a' = g a) : l'.map g' = l.map g := by
  induction h with
  | nil => rfl
  | cons hhead _ ih => rw [List.map_cons, List.map_cons, ih, hg _ _ hhead]

theorem HeadTag.Expands.frame_eq {env : Environment} {t t' : HeadTag} (h : t.Expands env t') :
    t'.frame = t.frame := by
  have hkeys : t'.attrs.map (fun a => (a.1, "")) = t.attrs.map fun a => (a.1, "") :=
    map_eq_map_of_forall₂ h.attrs fun a a' ha => by rw [ha.1]
  rw [HeadTag.frame, HeadTag.frame, h.tag, hkeys]

/-- Expanding references leaves everything else in a portal as it was. -/
theorem Portal.frame_of_expand {env : Environment} {p p' : Portal} (h : p.expand env = .ok p') :
    p'.frame = p.frame := by
  obtain ⟨⟨base, -, hsite⟩, ⟨logo, repo, navbar, -, -, hnavbar, htheme⟩, -, hhead, hsections⟩ :=
    expands_of_expand h
  have htags : p'.head.map HeadTag.frame = p.head.map HeadTag.frame :=
    map_eq_map_of_forall₂ hhead fun t t' ht => ht.frame_eq
  have hlinks : navbar.map (fun l => { l with link := "" }) =
      p.theme.navbar.map fun l => { l with link := "" } := by
    refine map_eq_map_of_forall₂ hnavbar ?_
    rintro l l' ⟨link, -, rfl⟩
    rfl
  have hentries : p'.sections.map (·.withDir "") = p.sections.map (·.withDir "") := by
    refine map_eq_map_of_forall₂ hsections ?_
    rintro s s' ⟨dir, -, rfl⟩
    rfl
  rw [frame, frame, hsite, htheme]
  simp only [htags, hlinks, hentries]

/-! ## Loading in two environments -/

namespace Config

/-- A file is read for a configuration, asked for or found, and it describes a portal. -/
def Reads (m : Machine) (file : Option Path) (p : Portal) : Prop :=
  ∃ found document, (file = some found ∨ file = none ∧ discover? m = some found) ∧
    m.files.readText m.cwd found = .ok document ∧ Portal.parse document = .ok p

/-- Two configurations differ in nothing but the texts that may refer to variables and what is resolved
from them. -/
structure SameFrame (c c' : Config) : Prop where
  portal : c.portal.frame = c'.portal.frame
  sections : c.sections.map (·.withDir ()) = c'.sections.map (·.withDir ())
  path : c.path? = c'.path?

theorem SameFrame.of_resolved {c c' : Config} (hc : c.Resolved) (hc' : c'.Resolved)
    (hportal : c.portal.frame = c'.portal.frame) (hpath : c.path? = c'.path?) : c.SameFrame c' where
  portal := hportal
  sections := by
    have hentries : c.portal.sections.map (·.withDir "") = c'.portal.sections.map (·.withDir "") :=
      congrArg Portal.sections hportal
    have h := congrArg (List.map (·.withDir ())) hentries
    rw [List.map_map, List.map_map] at h
    rw [hc, hc', Portal.resolveSections, Portal.resolveSections, List.map_map, List.map_map]
    exact h
  path := hpath

theorem frame_override (c : Config) (o : Overrides) :
    (c.override o).portal.frame = c.portal.frame ∧ (c.override o).path? = c.path? := by
  obtain ⟨sourceDir?, base?⟩ := o
  cases sourceDir? <;> cases base? <;> exact ⟨rfl, rfl⟩

variable {m : Machine} {env env' : Environment} {file : Option Path} {overrides : Option Overrides}
  {c c' : Config}

/-- Overrides do not touch what is left without the texts that may refer to variables. -/
theorem frame_of_load (h : load m file overrides = .ok c) :
    ∃ found, find m file = .ok found ∧ c.portal.frame = found.portal.frame ∧ c.path? = found.path? := by
  obtain ⟨found, hfound, rfl⟩ := load_ok h
  exact ⟨found, hfound, found.frame_override _⟩

/-- A file whose portal has no references gives that portal in every environment, if it is valid. -/
theorem ofDocument_of_plain {found : Path} {document : String} {p : Portal}
    (hp : Portal.parse document = .ok p) (hplain : p.Plain) :
    ofDocument env found document = check { p.resolve (directory found) with path? := some found } := by
  rw [ofDocument, hp]
  dsimp only [Bind.bind, Except.bind]
  rw [Portal.expand_of_plain hplain]
  rfl

theorem ofFile_of_readText {found : Path} {document : String}
    (h : m.files.readText m.cwd found = .ok document) :
    ofFile m found = ofDocument m.env found document := by
  rw [ofFile, h]
  rfl

theorem ofFile_of_unreadable {found : Path} {f : Failure}
    (h : m.files.readText m.cwd found = .error f) : ofFile m found = .error (.unreadable f) := by
  rw [ofFile, h]
  rfl

theorem ofDocument_of_error {found : Path} {document : String} {e : ConfigError}
    (h : Portal.parse document = .error e) : ofDocument env found document = .error e := by
  rw [ofDocument, h]
  rfl

theorem ofFile_eq_of_plain {found : Path} (h : ∀ document p,
    m.files.readText m.cwd found = .ok document → Portal.parse document = .ok p → p.Plain) :
    ofFile { m with env := env } found = ofFile { m with env := env' } found := by
  cases hdocument : m.files.readText m.cwd found with
  | error f =>
    exact (ofFile_of_unreadable (m := { m with env := env }) hdocument).trans
      (ofFile_of_unreadable (m := { m with env := env' }) hdocument).symm
  | ok document =>
    refine (ofFile_of_readText (m := { m with env := env }) hdocument).trans
      (.trans ?_ (ofFile_of_readText (m := { m with env := env' }) hdocument).symm)
    cases hp : Portal.parse document with
    | error e => rw [ofDocument_of_error hp, ofDocument_of_error hp]
    | ok p =>
      have hplain := h document p hdocument hp
      rw [ofDocument_of_plain hp hplain, ofDocument_of_plain hp hplain]

/-- Where a configuration file is found does not depend on the environment. -/
theorem discover?_with_env (m : Machine) (env : Environment) : discover? { m with env := env } = discover? m :=
  rfl

theorem find_eq_of_plain (h : ∀ p, Reads m file p → p.Plain) :
    find { m with env := env } file = find { m with env := env' } file := by
  cases file with
  | some found =>
    have hfile : ofFile { m with env := env } found = ofFile { m with env := env' } found :=
      ofFile_eq_of_plain fun document p hdocument hp => h p ⟨found, document, .inl rfl, hdocument, hp⟩
    rw [find, find, hfile]
  | none =>
    rw [find, find, discover?_with_env m env, discover?_with_env m env']
    cases hfound : discover? m with
    | none => rfl
    | some found =>
      exact ofFile_eq_of_plain fun document p hdocument hp =>
        h p ⟨found, document, .inr ⟨rfl, hfound⟩, hdocument, hp⟩

theorem frame_of_ofFile {found : Path} (h : ofFile { m with env := env } found = .ok c)
    (h' : ofFile { m with env := env' } found = .ok c') :
    c.portal.frame = c'.portal.frame ∧ c.path? = c'.path? := by
  obtain ⟨document, hdocument, h⟩ := Result.bind_ok_iff.1 h
  obtain ⟨document', hdocument', h'⟩ := Result.bind_ok_iff.1 h'
  obtain rfl : document = document' := Except.ok.inj (hdocument.symm.trans hdocument')
  obtain ⟨p, hp, h⟩ := Result.bind_ok_iff.1 h
  obtain ⟨p', hp', h'⟩ := Result.bind_ok_iff.1 h'
  obtain rfl : p = p' := Except.ok.inj (hp.symm.trans hp')
  obtain ⟨q, hq, h⟩ := Result.bind_ok_iff.1 h
  obtain ⟨q', hq', h'⟩ := Result.bind_ok_iff.1 h'
  obtain ⟨-, rfl⟩ := check_ok_iff.1 h
  obtain ⟨-, rfl⟩ := check_ok_iff.1 h'
  refine ⟨?_, rfl⟩
  show q.frame = q'.frame
  rw [Portal.frame_of_expand (Result.mapError_ok_iff.1 hq),
    Portal.frame_of_expand (Result.mapError_ok_iff.1 hq')]

theorem frame_of_find (h : find { m with env := env } file = .ok c)
    (h' : find { m with env := env' } file = .ok c') :
    c.portal.frame = c'.portal.frame ∧ c.path? = c'.path? := by
  cases file with
  | some found =>
    rw [find] at h h'
    split at h
    · rename_i hexists
      rw [if_pos hexists] at h'
      exact frame_of_ofFile h h'
    · cases h
  | none =>
    rw [find, discover?_with_env] at h h'
    cases hfound : discover? m with
    | none =>
      rw [hfound] at h h'
      cases h
      cases h'
      exact ⟨rfl, rfl⟩
    | some found =>
      rw [hfound] at h h'
      exact frame_of_ofFile h h'

/-- **The environment reaches nothing but the texts that may refer to variables.**  If the portal that is
read has no references, loading comes to the same in any two environments, be it a configuration or an
error; and whatever is read, the configurations that are loaded in two environments differ in nothing but
these texts and what is resolved from them. -/
theorem environment_reaches_references (m : Machine) (env env' : Environment) (file : Option Path)
    (overrides : Option Overrides) :
    ((∀ p, Reads m file p → p.Plain) →
        load { m with env := env } file overrides = load { m with env := env' } file overrides) ∧
      ∀ c c', load { m with env := env } file overrides = .ok c →
        load { m with env := env' } file overrides = .ok c' → c.SameFrame c' := by
  constructor
  · intro h
    rw [load, load, find_eq_of_plain h]
  · intro c c' h h'
    obtain ⟨found, hfound, hportal, hpath⟩ := frame_of_load h
    obtain ⟨found', hfound', hportal', hpath'⟩ := frame_of_load h'
    obtain ⟨hframe, hsame⟩ := frame_of_find hfound hfound'
    refine .of_resolved (resolved_and_valid_of_load h).1 (resolved_and_valid_of_load h').1 ?_ ?_
    · rw [hportal, hportal', hframe]
    · rw [hpath, hpath', hsame]

/-- A text with dollar signs, of which none stands where references are expanded. -/
def plainText : String := "[site]\ntitle = \"$\x7bTITLE\x7d\"\n[theme]\nlogo = \"$LOGO.svg\"\n"

/-- The portal of that text. -/
def plainPortal : Portal where
  site := { Stock.site with title := "$\x7bTITLE\x7d" }
  head := Stock.head
  theme := { Stock.theme with logo := "$LOGO.svg" }
  sections := Stock.sections
  sourceDir? := none

/-- A machine with a configuration that refers to a variable, and one that does not. -/
def signpost : Machine where
  files := ⟨[
    (.ofNames ["portico.toml"],
      .file (Text.encode "[site]\nbase = \"$\x7bBASE\x7d\"\ntitle = \"$\x7bTITLE\x7d\"\n")),
    (.ofNames ["plain.toml"], .file (Text.encode plainText))]⟩

/-- The variables of one deployment. -/
def north : Environment := [("BASE", Text.encode "/north/"), ("TITLE", Text.encode "North")]

/-- The variables of another deployment. -/
def south : Environment := [("BASE", Text.encode "/south/")]

/-- The base is that of the environment, and the title stays as it was written; without references the
environment does not matter. -/
theorem environment_reaches_references_signpost :
    load { signpost with env := north } (some (.ofString "plain.toml")) none =
        load { signpost with env := south } (some (.ofString "plain.toml")) none ∧
      ∃ c c', load { signpost with env := north } none none = .ok c ∧
        load { signpost with env := south } none none = .ok c' ∧
        c.portal.site.base = "/north/" ∧ c'.portal.site.base = "/south/" ∧ c.SameFrame c' := by
  constructor
  · refine (environment_reaches_references signpost north south _ none).1 ?_
    rintro p ⟨found, document, hfound | ⟨hnone, -⟩, hdocument, hp⟩
    · cases hfound
      have htext : (signpost.files.readText signpost.cwd (.ofString "plain.toml")).toOption =
          some plainText := by decide +kernel
      have hportal : (Portal.parse plainText).toOption = some plainPortal := by decide +kernel
      rw [hdocument] at htext
      cases htext
      rw [hp] at hportal
      cases hportal
      decide +kernel
    · cases hnone
  · have hnorth : (load { signpost with env := north } none none).toOption.map (·.portal.site.base) =
        some "/north/" := by decide +kernel
    have hsouth : (load { signpost with env := south } none none).toOption.map (·.portal.site.base) =
        some "/south/" := by decide +kernel
    cases h : load { signpost with env := north } none none with
    | error e =>
      rw [h] at hnorth
      cases hnorth
    | ok c =>
      cases h' : load { signpost with env := south } none none with
      | error e =>
        rw [h'] at hsouth
        cases hsouth
      | ok c' =>
        rw [h] at hnorth
        rw [h'] at hsouth
        have hframe := (environment_reaches_references signpost north south none none).2 c c' h h'
        exact ⟨c, c', rfl, rfl, Option.some.inj hnorth, Option.some.inj hsouth, hframe⟩

end Config
end DocPortal
