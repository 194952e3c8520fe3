import DocPortal.Command.Build
import DocPortal.Proofs.Encoding
import DocPortal.Proofs.Pages
import DocPortal.Proofs.Resolution

/-!
# What a build emits

A build that succeeds has gone through all its stages: a configuration was loaded, its settings were
made, every section was scanned on the tree as it was before the build, and the site was written out.
The stages are read off one by one and put together. What is emitted is judged by the tree that its text is
decoded to: this tree shows exactly the pages of the sections that were written, and it is valid.

## Main definitions

* `Command.Emits` — the text that a build prints, or that is in its output file afterwards.
* `Command.ShowsPages` — a tree whose sidebar has one group for each section, with the section's pages.
-/

namespace DocPortal

/-! ## Settings -/

theorem SectionEntry.route_eq_of_toSection {e : SectionEntry Path} {s : Section}
    (h : e.toSection = .ok s) : s.route = e.route := by
  obtain ⟨f, -, h⟩ := Result.bind_ok_iff.1 h
  obtain rfl := Result.pure_ok_iff.1 h
  rfl

/-- The settings of a configuration copy its portal, and have one section for each of its own. -/
theorem Config.settings_ok {c : Config} {settings : SiteSettings} (h : c.settings = .ok settings) :
    settings.base = c.portal.site.base ∧ settings.title = c.portal.site.title ∧
      settings.head = c.portal.head ∧ settings.theme = c.portal.theme ∧
      List.Forall₂ (fun e s => SectionEntry.toSection e = .ok s) c.sections settings.sidebar := by
  obtain ⟨sidebar, hsidebar, h⟩ := Result.bind_ok_iff.1 h
  obtain rfl := Result.pure_ok_iff.1 h
  exact ⟨rfl, rfl, rfl, rfl, Result.mapM_ok_iff.1 hsidebar⟩

theorem map_route_of_toSection {entries : List (SectionEntry Path)} {sections : List Section}
    (h : List.Forall₂ (fun e s => SectionEntry.toSection e = .ok s) entries sections) :
    sections.map (·.route) = entries.map (·.route) := by
  induction h with
  | nil => rfl
  | cons head _ ih => rw [List.map_cons, List.map_cons, ih, SectionEntry.route_eq_of_toSection head]

/-! ## Scanning a tree that stays as it is -/

/-- On disk every section is scanned on the tree as it was at first. -/
theorem Assembly.GroupsFrom.forall₂_of_disk {cwd : Location} {fs last : FileSystem}
    {sections : List Section} {groups : List Group}
    (h : GroupsFrom (Disk.listing cwd) fs sections groups last) :
    List.Forall₂ (fun s g => ((Sidebar.group (Disk.listing cwd) s).run fs).result = .ok g)
      sections groups := by
  induction h with
  | nil => exact .nil
  | cons head _ ih =>
    rw [Disk.state_ask_listing] at ih
    exact .cons head ih

namespace Command

/-- A site that could be assembled copies its settings, and each section of the configuration gives one
of the groups that it shows. -/
theorem assembleSite_ok {m : Machine} {c : Config} {site : SiteConfig}
    (h : assembleSite m c = .ok site) :
    ∃ settings groups, c.settings = .ok settings ∧ site.Copies settings ∧
      site.sidebar.Shows (c.sections.map (·.route)) groups ∧
      List.Forall₂ (fun e g => e.Gives m g) c.sections groups := by
  obtain ⟨settings, hsettings, h⟩ := Result.bind_ok_iff.1 h
  rw [Result.mapError_ok_iff] at hsettings h
  obtain ⟨-, -, -, -, hsections⟩ := Config.settings_ok hsettings
  rcases Assembly.groupsFrom_or_first_failure (Disk.listing m.cwd) m.files settings.sidebar with
    ⟨groups, last, hall⟩ | ⟨before, s, after, groups, next, e, hsplit, hbefore, he⟩
  · rw [(Assembly.run_assemble_of_groupsFrom hall).1] at h
    cases h
    have hgroups := hall.forall₂_of_disk
    refine ⟨settings, groups, hsettings, SiteConfig.copies_ofSettings _ _, ?_, ?_⟩
    · rw [← map_route_of_toSection hsections]
      exact SidebarMap.shows_addAll (by rw [List.length_map, hall.length_eq])
    · exact Result.forall₂_comp hsections hgroups fun e _ s g he hg => ⟨s, he, hg⟩
  · rw [(Assembly.run_assemble_of_first_failure hsplit hbefore he).1] at h
    cases h

/-! ## The stages of a build -/

/-- The text of a site, on a single line or indented, is decoded to the value that it was written from. -/
theorem decode_siteText (compact : Bool) (site : SiteConfig) :
    Json.decode (siteText compact site) = some site.toJson := by
  have hnewline : ∀ c ∈ ['\n'], Json.isBlank c = true := List.forall_mem_singleton.2 (by decide)
  cases compact with
  | true =>
    have hdecode := Json.decode_render Json.Layout.isBlank_compact 0 site.toJson hnewline
    rwa [String.ofList_append] at hdecode
  | false =>
    have hdecode := Json.decode_render Json.Layout.isBlank_indented 0 site.toJson hnewline
    rwa [String.ofList_append] at hdecode

/-- What a build emits: the text is its standard output, or the output is empty and the text was the last thing
written, to the file that was asked for. From there it is read back, unless the path leads to a device. -/
def Emits (m : Machine) (a : BuildArguments) (text : String) : Prop :=
  match a.output? with
  | none => (build m a).stdout = text ∧ (build m a).files = m.files
  | some file => (build m a).stdout = "" ∧
      (∃ ready, makeRoom m file = (ready, .ok ()) ∧
        ready.write m.cwd file (Text.encode text) = .ok (build m a).files) ∧
      ((build m a).files.read m.cwd file = .ok (Text.encode text) ∨
        ∃ loc, (build m a).files.resolve m.cwd file = .ok (loc, .device))

theorem writeOutput_ok {m : Machine} {file : Path} {text : String} {notices : List Notice}
    (h : (writeOutput m file text notices).result = .ok ()) :
    (writeOutput m file text notices).stdout = "" ∧ ∃ ready, makeRoom m file = (ready, .ok ()) ∧
      ready.write m.cwd file (Text.encode text) = .ok (writeOutput m file text notices).files := by
  revert h
  rw [writeOutput]
  split
  · intro h
    cases h
  · rename_i ready hroom
    split
    · intro h
      cases h
    · rename_i files hwrite
      intro _
      exact ⟨rfl, ready, hroom, hwrite⟩

section

variable {m : Machine} {a : BuildArguments} {c : Config} {site : SiteConfig}

theorem build_of_load_error {e : ConfigError}
    (hload : Config.load m a.config? (some a.overrides) = .error e) : build m a = .failed m (.config e) [] := by
  rw [build, hload]

theorem build_of_site_error {e : CommandError} (hload : Config.load m a.config? (some a.overrides) = .ok c)
    (hsite : assembleSite m c = .error e) : build m a = .failed m e (configNotices c) := by
  rw [build, hload]
  dsimp only
  rw [hsite]

theorem build_printed (hload : Config.load m a.config? (some a.overrides) = .ok c)
    (hsite : assembleSite m c = .ok site) (houtput : a.output? = none) :
    build m a = .printed m (siteText a.compact site) (configNotices c) := by
  rw [build, hload]
  dsimp only
  rw [hsite]
  dsimp only
  rw [houtput]

theorem build_written {file : Path} (hload : Config.load m a.config? (some a.overrides) = .ok c)
    (hsite : assembleSite m c = .ok site) (houtput : a.output? = some file) :
    build m a = writeOutput m file (siteText a.compact site) (configNotices c) := by
  rw [build, hload]
  dsimp only
  rw [hsite]
  dsimp only
  rw [houtput]

end

/-- A build that succeeds has loaded a configuration, assembled its site and emitted the text of that. -/
theorem build_ok {m : Machine} {a : BuildArguments} (h : (build m a).result = .ok ()) :
    ∃ c site, Config.load m a.config? (some a.overrides) = .ok c ∧ assembleSite m c = .ok site ∧
      Emits m a (siteText a.compact site) := by
  cases hload : Config.load m a.config? (some a.overrides) with
  | error e =>
    rw [build_of_load_error hload] at h
    cases h
  | ok c =>
    cases hsite : assembleSite m c with
    | error e =>
      rw [build_of_site_error hload hsite] at h
      cases h
    | ok site =>
      refine ⟨c, site, rfl, hsite, ?_⟩
      rw [Emits]
      split
      · rename_i houtput
        rw [build_printed hload hsite houtput]
        exact ⟨rfl, rfl⟩
      · rename_i file houtput
        rw [build_written hload hsite houtput] at h ⊢
        obtain ⟨hstdout, ready, hroom, hwrite⟩ := writeOutput_ok h
        exact ⟨hstdout, ⟨ready, hroom, hwrite⟩, FileSystem.read_or_device_of_write hwrite⟩

/-- Where and in which layout a build writes matters only after its site has been assembled: it fails before,
or that site is printed or written to a file. -/
theorem build_stages (m : Machine) (a : BuildArguments) :
    (∃ e notices, ∀ output? compact, build m { a with output?, compact } = .failed m e notices) ∨
    ∃ c site, Config.load m a.config? (some a.overrides) = .ok c ∧ assembleSite m c = .ok site ∧
      ∀ output? compact, build m { a with output?, compact } = match output? with
        | none => .printed m (siteText compact site) (configNotices c)
        | some file => writeOutput m file (siteText compact site) (configNotices c) := by
  cases hload : Config.load m a.config? (some a.overrides) with
  | error e => exact .inl ⟨_, _, fun output? compact => build_of_load_error hload⟩
  | ok c =>
    cases hsite : assembleSite m c with
    | error e => exact .inl ⟨_, _, fun output? compact => build_of_site_error hload hsite⟩
    | ok site =>
      refine .inr ⟨c, site, rfl, hsite, fun output? compact => ?_⟩
      cases output? with
      | none => exact build_printed hload hsite rfl
      | some file => exact build_written hload hsite rfl

/-! ## Every group is that of a section -/

/-- The configuration of a handbook: two sections on one route, one of them in the order of names. -/
def handbookText : String :=
  "[[sidebar]]\nroute = \"/docs/\"\ntitle = \"Guide\"\ndir = \"guide\"\norder = \"name\"\n" ++
    "[[sidebar]]\nroute = \"/docs/\"\ntitle = \"More\"\ndir = \"more\"\nexclude = [\"b.md\"]\n"

/-- A machine with a handbook: in its guide are a page, a link to that page, a link to nothing, a
directory with the name of a page and a file that is all extension; the other section is a link to the
guide. -/
def handbook : Machine where
  files := ⟨[
    (.ofNames ["portico.toml"], .file (Text.encode handbookText)),
    (.ofNames ["site"], .directory),
    (.ofNames ["site", "guide"], .directory),
    (.ofNames ["site", "guide", "b.md"], .file []),
    (.ofNames ["site", "guide", "a.v2.md"], .link (.ofString "b.md")),
    (.ofNames ["site", "guide", "c.md"], .link (.ofString "nothing")),
    (.ofNames ["site", "guide", "d.md"], .directory),
    (.ofNames ["site", "guide", ".md"], .file []),
    (.ofNames ["site", "more"], .link (.ofString "guide"))]⟩

/-- The arguments to build the handbook with its directories seen from another one. -/
def handbookArguments : BuildArguments := { sourceDir? := some (.ofString "site"), compact := true }

theorem build_handbook : (build handbook handbookArguments).result = .ok () :=
  Result.eq_ok_of_isOk (by decide +kernel)

/-- The sections of the handbook, seen from the directory that the arguments name. -/
def handbookSections : List (SectionEntry Path) := [
  { route := "/docs/", title := "Guide", dir := .ofString "site/guide", order := .name },
  { route := "/docs/", title := "More", dir := .ofString "site/more", exclude := ["b.md"] }]

theorem load_handbook : ∃ c, Config.load handbook none (some handbookArguments.overrides) = .ok c ∧
    c.sections = handbookSections ∧ c.portal.head = Stock.head := by
  obtain ⟨c, hc, heq⟩ : ∃ c, Config.load handbook none (some handbookArguments.overrides) = .ok c ∧
      decide (c.sections = handbookSections ∧ c.portal.head = Stock.head) = true :=
    Result.exists_ok_of_any (by decide +kernel)
  exact ⟨c, hc, of_decide_eq_true heq⟩

/-- The groups of the handbook. -/
def handbookGroups : List Group := [⟨"Guide", ["a.v2.md", "b.md"]⟩, ⟨"More", ["a.v2.md"]⟩]

theorem gives_handbook :
    List.Forall₂ (fun e g => SectionEntry.Gives e handbook g) handbookSections handbookGroups := by
  refine .cons ?_ (.cons ?_ .nil)
  · obtain ⟨found, hfound, hnames⟩ : ∃ found,
        ((Disk.listing handbook.cwd).ask (.ofString "site/guide") handbook.files).result = .ok found ∧
          decide (Sidebar.pageNames ⟨[".md"]⟩ found = ["b.md", "a.v2.md"]) = true :=
      Result.exists_ok_of_any (by decide +kernel)
    -- The sort does not reduce, but two names in ascending order are what it gives.
    have hsorted : ["a.v2.md", "b.md"] = Sidebar.arrange .name ["b.md", "a.v2.md"] :=
      Sidebar.eq_arrange_name (by decide) (by decide)
    refine ⟨⟨"/docs/", "Guide", .ofString "site/guide", ⟨[".md"]⟩, [], .name⟩, rfl, ?_⟩
    rw [Sidebar.run_group_of_ok hfound, Section.groupOf, of_decide_eq_true hnames, hsorted]
    rfl
  · obtain ⟨found, hfound, hnames⟩ : ∃ found,
        ((Disk.listing handbook.cwd).ask (.ofString "site/more") handbook.files).result = .ok found ∧
          decide (Sidebar.pageNames ⟨[".md"]⟩ found = ["b.md", "a.v2.md"]) = true :=
      Result.exists_ok_of_any (by decide +kernel)
    refine ⟨⟨"/docs/", "More", .ofString "site/more", ⟨[".md"]⟩, ["b.md"], .listing⟩, rfl, ?_⟩
    rw [Sidebar.run_group_of_ok hfound, Section.groupOf, of_decide_eq_true hnames]
    rfl

/-- The sidebar that is printed for the handbook. -/
theorem decode_handbook :
    ∃ j, Json.decode (build handbook handbookArguments).stdout = some j ∧
      j.HasSidebar [("/docs/", handbookGroups)] := by
  obtain ⟨c, site, hload, hsite, hstdout, -⟩ := build_ok build_handbook
  obtain ⟨c', hload', hsections, -⟩ := load_handbook
  obtain rfl : c' = c := Except.ok.inj (hload'.symm.trans hload)
  obtain ⟨-, groups, -, -, hshows, hgives⟩ := assembleSite_ok hsite
  rw [hsections] at hshows hgives
  obtain rfl := (SectionEntry.gives_rightUnique handbook).forall₂ hgives gives_handbook
  have hsidebar : site.sidebar = [("/docs/", handbookGroups)] := hshows.eq_addAll.trans (by decide +kernel)
  rw [hstdout, decode_siteText, ← hsidebar]
  exact ⟨_, rfl, site.hasSidebar_toJson⟩

/-- A section of a loaded configuration has a route between slashes and a title. -/
theorem section_valid_of_load {m : Machine} {file : Option Path} {overrides : Option Overrides}
    {c : Config} (h : Config.load m file overrides = .ok c) :
    ∀ e ∈ c.sections, Slashed e.route ∧ e.title ≠ "" := by
  obtain ⟨hresolved, hvalid⟩ := Config.resolved_and_valid_of_load h
  intro e he
  rw [hresolved] at he
  obtain ⟨s, hs, rfl⟩ := List.mem_map.1 he
  obtain ⟨hroute, htitle, -, -⟩ := hvalid.sections s hs
  exact ⟨hroute, htitle⟩

/-- Every group that a site shows comes from a section with its route and its title. -/
theorem exists_section_of_mem {m : Machine} {sections : List (SectionEntry Path)}
    {sidebar : SidebarMap} {groups : List Group}
    (hshows : sidebar.Shows (sections.map (·.route)) groups)
    (hgives : List.Forall₂ (fun e g => SectionEntry.Gives e m g) sections groups) {r : String}
    {gs : List Group} (hr : (r, gs) ∈ sidebar) {g : Group} (hg : g ∈ gs) :
    ∃ e ∈ sections, e.route = r ∧ e.title = g.text := by
  have hzip := hshows.mem_zip_of_mem hr hg
  rw [List.zip_map_left, List.mem_map] at hzip
  obtain ⟨⟨e, g'⟩, hmem, heq⟩ := hzip
  obtain ⟨rfl, rfl⟩ := Prod.mk.inj heq
  have hgive : SectionEntry.Gives e m g' := List.forall₂_zip hgives hmem
  exact ⟨e, (List.of_mem_zip hmem).1, rfl, hgive.text_eq.symm⟩

/-- The tree of a site that was assembled for a loaded configuration is valid. -/
theorem isValidSite_of_assembleSite {m : Machine} {file : Option Path} {overrides : Option Overrides} {c : Config}
    {site : SiteConfig} (hload : Config.load m file overrides = .ok c) (hsite : assembleSite m c = .ok site) :
    site.toJson.IsValidSite := by
  obtain ⟨-, hvalid⟩ := Config.resolved_and_valid_of_load hload
  have hentries := section_valid_of_load hload
  obtain ⟨settings, groups, hsettings, hcopies, hshows, hgives⟩ := assembleSite_ok hsite
  obtain ⟨hbase, htitle, hhead, htheme, -⟩ := Config.settings_ok hsettings
  refine SiteConfig.isValidSite_toJson ?_ ?_ ?_ ?_ ?_
  · rw [hcopies.base, hbase]
    exact hvalid.base
  · rw [hcopies.title, htitle]
    exact hvalid.title
  · rw [hcopies.head, hhead]
    exact hvalid.head
  · rw [hcopies.theme, htheme]
    exact hvalid.navbar
  · intro r gs hr
    have hsection : ∀ g ∈ gs, Slashed r ∧ g.text ≠ "" := by
      intro g hg
      obtain ⟨e, he, rfl, htext⟩ := exists_section_of_mem hshows hgives hr hg
      rw [← htext]
      exact hentries e he
    have hne := hshows.ne_nil_of_mem hr
    obtain ⟨g, hg⟩ := List.exists_mem_of_ne_nil gs hne
    exact ⟨(hsection g hg).1, hne, fun g hg => (hsection g hg).2⟩

/-- **Every emitted site is valid.**  Whatever the files, the environment and the arguments, what a
build emits on success is decoded to the site that it assembled for its configuration, and that site is fit for
use. -/
theorem build_valid (m : Machine) (a : BuildArguments) (h : (build m a).result = .ok ()) :
    ∃ c site text, Config.load m a.config? (some a.overrides) = .ok c ∧ assembleSite m c = .ok site ∧
      Emits m a text ∧ Json.decode text = some site.toJson ∧ site.toJson.IsValidSite := by
  obtain ⟨c, site, hload, hsite, hemits⟩ := build_ok h
  exact ⟨c, site, _, hload, hsite, hemits, decode_siteText a.compact site, isValidSite_of_assembleSite hload hsite⟩

/-- What is printed for the handbook is valid, with both groups on its one route. -/
theorem build_valid_handbook :
    (build handbook handbookArguments).result = .ok () ∧
      ∃ j, Json.decode (build handbook handbookArguments).stdout = some j ∧ j.IsValidSite ∧
        j.HasSidebar [("/docs/", [⟨"Guide", ["a.v2.md", "b.md"]⟩, ⟨"More", ["a.v2.md"]⟩])] := by
  obtain ⟨c, site, text, -, -, ⟨rfl, -⟩, hdecode, hvalid⟩ := build_valid handbook handbookArguments build_handbook
  obtain ⟨j, hdecode', hsidebar⟩ := decode_handbook
  obtain rfl : site.toJson = j := Option.some.inj (hdecode.symm.trans hdecode')
  exact ⟨build_handbook, _, hdecode, hvalid, hsidebar⟩

end Command
end DocPortal
