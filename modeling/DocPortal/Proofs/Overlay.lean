import DocPortal.Config.Load
import DocPortal.Proofs.Schema

/-!
# What a configuration file says

A configuration file is laid over the stock portal. It is accepted if each key that counts has a value of its
type, entries of lists have the keys that they need, and each numeral under any other key can be read. Then the
keys of the tables for site, theme and contents stand for themselves, whether or not the others are there, and the
lists of head tags, links and sections are those of the file as a whole, or else those of the stock portal. Keys
that do not count make no difference.

## Main definitions

* `Portal.form` — how the table of a configuration file has to look.
* `Portal.overlay` — a portal with what a table says laid over it.
-/

namespace DocPortal

open Toml RecordReader ShapeReader

/-! ## The parts of a portal -/

/-- The orders of pages have names. -/
def PageOrder.form : Form := .choice ["listing", "name"]

/-- The order that a name stands for. -/
def PageOrder.written (v : Value) : PageOrder := if v.words = "name" then .name else .listing

theorem PageOrder.goesBy_reader : reader.GoesBy form written := by
  refine goesBy_choice fun s order h => ?_
  have hmem := Result.mem_of_lookup_eq_some h
  simp only [List.mem_cons, Prod.mk.injEq, List.not_mem_nil, or_false] at hmem
  obtain ⟨rfl, rfl⟩ | ⟨rfl, rfl⟩ := hmem <;> rfl

namespace SiteInfo

/-- The keys of the table for the site. -/
def keys : List Form.Key := [
  ⟨"base", false, .text⟩, ⟨"lang", false, .text⟩, ⟨"title", false, .text⟩, ⟨"description", false, .text⟩,
  ⟨"edit_link", false, .flag⟩]

def form : Form := .record keys (by decide)

/-- What is said about a site, and the rest as it is in `base`. -/
def overlay (base : SiteInfo) (t : Table) : SiteInfo where
  base := t.given "base" Value.words base.base
  lang := t.given "lang" Value.words base.lang
  title := t.given "title" Value.words base.title
  description := t.given "description" Value.words base.description
  editLink := t.given "edit_link" Value.isYes base.editLink

theorem goesBy_reader (base : SiteInfo) : (reader base).GoesBy keys base.overlay :=
  (((((goesBy_optional goesBy_text).map mk).seq (goesBy_optional goesBy_text)).seq
    (goesBy_optional goesBy_text)).seq (goesBy_optional goesBy_text)).seq (goesBy_optional goesBy_flag)

end SiteInfo

namespace Theme

/-- The keys of the table for the theme. -/
def keys : List Form.Key := [
  ⟨"logo", false, .text⟩, ⟨"repo", false, .text⟩, ⟨"repo_label", false, .text⟩, ⟨"contributors", false, .flag⟩,
  ⟨"edit_link", false, .flag⟩, ⟨"last_updated", false, .flag⟩]

def form : Form := .record keys (by decide)

/-- What is said about a theme, and the rest as it is in `base`, with its links. -/
def overlay (base : Theme) (t : Table) : Theme where
  logo := t.given "logo" Value.words base.logo
  navbar := base.navbar
  repo := t.given "repo" Value.words base.repo
  repoLabel := t.given "repo_label" Value.words base.repoLabel
  contributors := t.given "contributors" Value.isYes base.contributors
  editLink := t.given "edit_link" Value.isYes base.editLink
  lastUpdated := t.given "last_updated" Value.isYes base.lastUpdated

theorem goesBy_reader (base : Theme) : (reader base).GoesBy keys base.overlay :=
  ((((((goesBy_optional goesBy_text).map _).seq (goesBy_optional goesBy_text)).seq
    (goesBy_optional goesBy_text)).seq (goesBy_optional goesBy_flag)).seq
    (goesBy_optional goesBy_flag)).seq (goesBy_optional goesBy_flag)

end Theme

namespace HeadTag

/-- The keys of a head tag. -/
def keys : List Form.Key := [⟨"tag", true, .text⟩, ⟨"attrs", false, .attributes⟩]

def form : Form := .record keys (by decide)

/-- The head tag that a table says. -/
def written (t : Table) : HeadTag where
  tag := t.given "tag" Value.words ""
  attrs := t.given "attrs" Value.attributes []

theorem goesBy_reader : reader.GoesBy keys written :=
  ((goesBy_required goesBy_text).map mk).seq (goesBy_optional goesBy_attributes)

end HeadTag

namespace NavLink

/-- The keys of a link. -/
def keys : List Form.Key := [⟨"text", true, .text⟩, ⟨"link", true, .text⟩]

def form : Form := .record keys (by decide)

/-- The link that a table says. -/
def written (t : Table) : NavLink where
  text := t.given "text" Value.words ""
  link := t.given "link" Value.words ""

theorem goesBy_reader : reader.GoesBy keys written :=
  ((goesBy_required goesBy_text).map mk).seq (goesBy_required goesBy_text)

end NavLink

namespace SectionEntry

/-- The keys of a section. -/
def keys : List Form.Key := [
  ⟨"route", true, .text⟩, ⟨"title", true, .text⟩, ⟨"dir", true, .text⟩, ⟨"extensions", false, .list .text⟩,
  ⟨"exclude", false, .list .text⟩, ⟨"order", false, PageOrder.form⟩]

def form : Form := .record keys (by decide)

/-- The section that a table says. -/
def written (t : Table) : SectionEntry String where
  route := t.given "route" Value.words ""
  title := t.given "title" Value.words ""
  dir := t.given "dir" Value.words ""
  extensions := t.given "extensions" (·.items.map Value.words) [".md"]
  exclude := t.given "exclude" (·.items.map Value.words) []
  order := t.given "order" PageOrder.written .listing

theorem goesBy_reader : reader.GoesBy keys written :=
  ((((((goesBy_required goesBy_text).map mk).seq (goesBy_required goesBy_text)).seq
    (goesBy_required goesBy_text)).seq (goesBy_optional (goesBy_list goesBy_text))).seq
    (goesBy_optional (goesBy_list goesBy_text))).seq (goesBy_optional PageOrder.goesBy_reader)

end SectionEntry

namespace Portal

/-- The keys of the table for the contents. -/
def sourceKeys : List Form.Key := [⟨"source_dir", false, .text⟩]

def sourceForm : Form := .record sourceKeys (by decide)

/-- Where the contents are, if that is said. -/
def overlaySource (base : Option String) (t : Table) : Option String :=
  t.given "source_dir" (some ∘ Value.words) base

theorem goesBy_sourceDirReader (base : Option String) :
    (sourceDirReader base).GoesBy sourceKeys (overlaySource base) :=
  goesBy_optional (goesBy_map some goesBy_text)

/-! ## Portals -/

/-- The keys of a configuration file. -/
def entries : List Form.Key := [
  ⟨"site", false, SiteInfo.form⟩, ⟨"head", false, .list HeadTag.form⟩, ⟨"theme", false, Theme.form⟩,
  ⟨"navbar", false, .list NavLink.form⟩, ⟨"sidebar", false, .list SectionEntry.form⟩,
  ⟨"docs", false, sourceForm⟩]

/-- How the table of a configuration file has to look. -/
def form : Form := .record entries (by decide)

/-- What a table says, laid over `base`. The lists replace those of `base` as a whole. -/
def overlay (base : Portal) (t : Table) : Portal where
  site := t.given "site" (base.site.overlay ·.entries) base.site
  head := t.given "head" (·.items.map (HeadTag.written ·.entries)) base.head
  theme := { t.given "theme" (base.theme.overlay ·.entries) base.theme with
    navbar := t.given "navbar" (·.items.map (NavLink.written ·.entries)) base.theme.navbar }
  sections := t.given "sidebar" (·.items.map (SectionEntry.written ·.entries)) base.sections
  sourceDir? := t.given "docs" (overlaySource base.sourceDir? ·.entries) base.sourceDir?

theorem goesBy_reader (base : Portal) : (reader base).GoesBy entries base.overlay :=
  ((((((goesBy_optional ((SiteInfo.goesBy_reader base.site).read _ _)).map _).seq
    (goesBy_optional (goesBy_list (HeadTag.goesBy_reader.read _ _)))).seq
    (goesBy_optional ((Theme.goesBy_reader base.theme).read _ _))).seq
    (goesBy_optional (goesBy_list (NavLink.goesBy_reader.read _ _)))).seq
    (goesBy_optional (goesBy_list (SectionEntry.goesBy_reader.read _ _)))).seq
    (goesBy_optional ((goesBy_sourceDirReader base.sourceDir?).read _ _))

theorem ofTable_ok_iff {table : Table} {p : Portal} (ht : (Value.table table).DistinctKeys)
    (husual : form.usual (.table table) = true) :
    ofTable table = .ok p ↔ form.Accepts (.table table) ∧ p = stock.overlay table :=
  (goesBy_reader stock).readTable_ok_iff (by decide) ht husual

example : form.fits (.table [("navbar", .array [.table [("text", .text "Top"), ("href", .text "/")]])]) = false := by
  decide

/-- What does not count makes no difference. -/
theorem overlay_eq_of_prune_eq {base : Portal} {table other : Table}
    (h : form.prune (.table other) = form.prune (.table table)) :
    form.fits (.table other) = form.fits (.table table) ∧ base.overlay other = base.overlay table := by
  -- The name of the record stands in its errors only.
  have hgoesBy := (goesBy_reader base).read (by decide) "Config"
  constructor
  · rw [← form.fits_prune, h, form.fits_prune]
  · have hother := hgoesBy.of_prune (.table other)
    have htable := hgoesBy.of_prune (.table table)
    exact hother.symm.trans ((congrArg (fun v => base.overlay v.entries) h).trans htable)

end Portal

namespace Config

/-! ## Documents -/

theorem parse_ok_iff_of_read {document : String} {table : Table} {c : Config}
    (hread : Table.read document = .ok table) :
    parse document = .ok c ↔ ∃ p, Portal.ofTable table = .ok p ∧ c = { default with portal := p } := by
  have hportal : Portal.parse document = (Portal.ofTable table).mapError .misshapen := by
    rw [Portal.parse, hread]
    rfl
  rw [parse, hportal, Result.map_ok_iff]
  exact exists_congr fun p => and_congr Result.mapError_ok_iff eq_comm

/-- **A configuration file is laid over the stock portal.**  Of a document in which each record is written as a
table and each order as a text, a configuration can be read just if each key that counts and is there has a value
of its type, each head tag, link and section has the keys that it needs, and in the values under other keys
there is no numeral that cannot be read. It is the default configuration with the stock portal under what the
document says. What stands under other keys makes no difference to that, at whatever depth they are. -/
theorem parse_overlay {document : String} {table : Table} (hread : Table.read document = .ok table)
    (husual : Portal.form.usual (.table table) = true) :
    (∀ c, parse document = .ok c ↔
      (Portal.form.fits (.table table) = true ∧
        ∀ u ∈ Portal.form.ignored (.table table), ¬ Value.unreadable.Within u) ∧
      c = { default with portal := Portal.stock.overlay table }) ∧
    Portal.form.ignored (Portal.form.prune (.table table)) = [] ∧
    ∀ other, Portal.form.prune (.table other) = Portal.form.prune (.table table) →
      Portal.form.fits (.table other) = Portal.form.fits (.table table) ∧
        Portal.stock.overlay other = Portal.stock.overlay table := by
  refine ⟨fun c => ?_, Portal.form.ignored_prune _, fun other => Portal.overlay_eq_of_prune_eq⟩
  have hdistinct := Table.distinctKeys_of_read hread
  rw [parse_ok_iff_of_read hread]
  constructor
  · rintro ⟨p, hp, rfl⟩
    obtain ⟨haccepts, rfl⟩ := (Portal.ofTable_ok_iff hdistinct husual).1 hp
    exact ⟨haccepts, rfl⟩
  · rintro ⟨haccepts, rfl⟩
    exact ⟨_, (Portal.ofTable_ok_iff hdistinct husual).2 ⟨haccepts, rfl⟩, rfl⟩

/-- A document with a key for the site, a head tag, an empty navigation bar and keys that do not count. -/
def sketchText : String :=
  "draft = 7\n[site]\ntitle = \"Sketch\"\ncolour = [1, 2]\n" ++
  "[[head]]\ntag = \"meta\"\nattrs.name = \"robots\"\nattrs.content = \"none\"\n"

/-- One key of the site and the whole head are those of the document. -/
theorem parse_overlay_sketch :
    ∃ table, Table.read sketchText = .ok table ∧ Portal.form.usual (.table table) = true ∧
      parse sketchText = .ok { default with portal := Portal.stock.overlay table } ∧
      Portal.stock.overlay table = { Portal.stock with
        site := { Stock.site with title := "Sketch" }
        head := [⟨"meta", [("name", "robots"), ("content", "none")]⟩] } := by
  obtain ⟨table, hread, hsays⟩ : ∃ table, Table.read sketchText = .ok table ∧
      decide (Portal.form.usual (.table table) = true ∧ Portal.form.Accepts (.table table) ∧
        Portal.stock.overlay table = { Portal.stock with
          site := { Stock.site with title := "Sketch" }
          head := [⟨"meta", [("name", "robots"), ("content", "none")]⟩] }) = true :=
    Result.exists_ok_of_any (by decide +kernel)
  obtain ⟨husual, haccepts, hoverlay⟩ := of_decide_eq_true hsays
  exact ⟨table, hread, husual, ((parse_overlay hread husual).1 _).2 ⟨haccepts, rfl⟩, hoverlay⟩

/-- A document whose only tag has a date where a table of texts is expected. -/
def datedText : String := "[[head]]\ntag = \"x\"\nattrs = 1979-05-27\n"

/-- A numeral that cannot be read is an error under a key that does not count, and a date is read where a table
of texts is expected. -/
theorem not_forall_parse_iff_fits :
    (¬ ∀ (document : String) (table : Table), Table.read document = .ok table →
        Portal.form.usual (.table table) = true → Portal.form.fits (.table table) = true →
          ∃ c, parse document = .ok c) ∧
      ¬ ∀ (document : String) (table : Table) (c : Config), Table.read document = .ok table →
        Portal.form.usual (.table table) = true → parse document = .ok c →
          ∀ items, table.lookup "head" = some (.array items) → ∀ tag, .table tag ∈ items →
            ∀ v, tag.lookup "attrs" = some v → ∃ entries, v = .table entries := by
  constructor
  · intro h
    obtain ⟨table, hread, hsays⟩ : ∃ table, Table.read "x = 1e999\n" = .ok table ∧
        decide (Portal.form.usual (.table table) = true ∧ Portal.form.fits (.table table) = true) = true :=
      Result.exists_ok_of_any (by decide +kernel)
    obtain ⟨husual, hfits⟩ := of_decide_eq_true hsays
    obtain ⟨c, hc⟩ := h _ table hread husual hfits
    have hfails : (parse "x = 1e999\n").isOk = false := by decide +kernel
    rw [hc] at hfails
    cases hfails
  · intro h
    obtain ⟨table, hread, hsays⟩ : ∃ table, Table.read datedText = .ok table ∧
        decide (Portal.form.usual (.table table) = true ∧ (table.lookup "head").any fun v => v.items.any fun w =>
          (w.entries.lookup "attrs").any fun u => u matches .dateTime _) = true :=
      Result.exists_ok_of_any (by decide +kernel)
    obtain ⟨husual, hdated⟩ := of_decide_eq_true hsays
    obtain ⟨c, hc⟩ := Result.exists_ok_of_isOk (show (parse datedText).isOk = true by decide +kernel)
    simp only [Option.any_eq_true, List.any_eq_true] at hdated
    obtain ⟨v, hhead, w, hw, u, hattrs, hdate⟩ := hdated
    obtain ⟨items, rfl⟩ : ∃ items, v = .array items := by
      cases v with
      | array items => exact ⟨items, rfl⟩
      | _ => cases hw
    obtain ⟨tag, rfl⟩ : ∃ tag, w = .table tag := by
      cases w with
      | table tag => exact ⟨tag, rfl⟩
      | _ => cases hattrs
    obtain ⟨entries, rfl⟩ := h _ table c hread husual hc items hhead tag hw u hattrs
    cases hdate

end Config
end DocPortal
