import DocPortal.Config.Portal
import DocPortal.Toml.Shape

/-!
# Reading a portal from a table

The keys of the tables for site, theme and contents stand for themselves: each that is missing is that of the
stock portal. The lists of head tags, links and sections replace those of the stock portal as a whole.
-/

namespace DocPortal

open Toml RecordReader ShapeReader

/-- Reads the orders of pages. -/
def PageOrder.reader : ShapeReader PageOrder := choice [("listing", .listing), ("name", .name)]

/-- Reads what is known about a site, on top of `base`. -/
def SiteInfo.reader (base : SiteInfo) : RecordReader SiteInfo :=
  SiteInfo.mk <$> optional "base" text base.base <*> optional "lang" text base.lang
    <*> optional "title" text base.title <*> optional "description" text base.description
    <*> optional "edit_link" flag base.editLink

/-- Reads theme options on top of `base`, of which the links are kept. -/
def Theme.reader (base : Theme) : RecordReader Theme :=
  (fun logo repo repoLabel contributors editLink lastUpdated =>
    ⟨logo, base.navbar, repo, repoLabel, contributors, editLink, lastUpdated⟩)
    <$> optional "logo" text base.logo <*> optional "repo" text base.repo
    <*> optional "repo_label" text base.repoLabel <*> optional "contributors" flag base.contributors
    <*> optional "edit_link" flag base.editLink <*> optional "last_updated" flag base.lastUpdated

/-- Reads a head tag. -/
def HeadTag.reader : RecordReader HeadTag :=
  HeadTag.mk <$> required "tag" text <*> optional "attrs" attributes []

/-- Reads a link of the navigation bar. -/
def NavLink.reader : RecordReader NavLink :=
  NavLink.mk <$> required "text" ShapeReader.text <*> required "link" ShapeReader.text

/-- Reads a sidebar section. -/
def SectionEntry.reader : RecordReader (SectionEntry String) :=
  SectionEntry.mk <$> required "route" text <*> required "title" text <*> required "dir" text
    <*> optional "extensions" (list text) [".md"] <*> optional "exclude" (list text) []
    <*> optional "order" PageOrder.reader .listing

/-- Reads where the contents are. -/
def sourceDirReader (base : Option String) : RecordReader (Option String) :=
  optional "source_dir" (fun v => (text v).map some) base

/-- Reads a portal on top of `base`. -/
def Portal.reader (base : Portal) : RecordReader Portal :=
  (fun site head (theme : Theme) navbar sections sourceDir? =>
    ⟨site, head, { theme with navbar := navbar }, sections, sourceDir?⟩)
    <$> optional "site" ((SiteInfo.reader base.site).read "SiteSection") base.site
    <*> optional "head" (list (HeadTag.reader.read "HeadTagConfig")) base.head
    <*> optional "theme" ((Theme.reader base.theme).read "ThemeSection") base.theme
    <*> optional "navbar" (list (NavLink.reader.read "NavLinkConfig")) base.theme.navbar
    <*> optional "sidebar" (list (SectionEntry.reader.read "SidebarSectionRaw")) base.sections
    <*> optional "docs" ((sourceDirReader base.sourceDir?).read "DocsConfigRaw") base.sourceDir?

/-- The portal that a document describes, on top of the stock portal. -/
def Portal.ofTable (document : Table) : Except ShapeError Portal :=
  (Portal.reader Portal.stock).readTable document

end DocPortal
