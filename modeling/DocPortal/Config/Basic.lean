import DocPortal.Config.Portal
import DocPortal.Path.Basic

/-!
# Configurations

A configuration is a portal whose directories have been resolved: the source directory against the directory
of the configuration file, and the directory of every section against the source directory.
-/

namespace DocPortal

/-- A portal with its resolved directories. -/
structure Config where
  portal : Portal
  sourceDir : Path
  sections : List (SectionEntry Path)
  /-- The file that the portal was read from. -/
  path? : Option Path
  deriving DecidableEq, Repr

/-- The section with its directory seen from a source directory. -/
def SectionEntry.resolve (s : SectionEntry String) (sourceDir : Path) : SectionEntry Path :=
  s.withDir (sourceDir.join (.ofString s.dir))

namespace Portal

/-- The source directory seen from a directory: that directory itself if the portal names none. -/
def resolveSourceDir (p : Portal) (dir : Path) : Path :=
  match p.sourceDir? with
  | some source => dir.join (.ofString source)
  | none => dir

/-- The sections with their directories seen from a source directory. -/
def resolveSections (p : Portal) (sourceDir : Path) : List (SectionEntry Path) :=
  p.sections.map (·.resolve sourceDir)

/-- The configuration of a portal seen from a directory. -/
def resolve (p : Portal) (dir : Path) : Config where
  portal := p
  sourceDir := p.resolveSourceDir dir
  sections := p.resolveSections (p.resolveSourceDir dir)
  path? := none

@[simp] theorem length_resolveSections (p : Portal) (sourceDir : Path) :
    (p.resolveSections sourceDir).length = p.sections.length := by simp [resolveSections]

end Portal

/-- Settings that take precedence over those of a file. -/
structure Overrides where
  sourceDir? : Option Path := none
  base? : Option String := none
  deriving DecidableEq, Repr

namespace Config

/-- The stock portal seen from a directory. -/
def stock (dir : Path) : Config := Portal.stock.resolve dir

/-- The stock portal seen from the working directory, wherever that is. -/
def default : Config := stock (.ofString ".")

/-- The configuration with another source directory, against which all sections are resolved anew. -/
def withSourceDir (c : Config) (sourceDir : Path) : Config :=
  { c with sourceDir, sections := c.portal.resolveSections sourceDir }

/-- The configuration with another base. -/
def withBase (c : Config) (base : String) : Config :=
  { c with portal := { c.portal with site := { c.portal.site with base } } }

/-- The configuration with overrides. -/
def override (c : Config) (o : Overrides) : Config :=
  let c := match o.sourceDir? with
    | some dir => c.withSourceDir dir
    | none => c
  match o.base? with
  | some base => c.withBase base
  | none => c

end Config
end DocPortal
