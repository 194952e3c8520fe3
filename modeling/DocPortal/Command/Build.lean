import DocPortal.Command.Arguments
import DocPortal.Command.Outcome
import DocPortal.Config.Load
import DocPortal.Config.Settings
import DocPortal.Listing.Disk
import DocPortal.Site.Assembly

/-!
# Building a site configuration

The configuration is loaded, the sections are scanned, and only when the whole site is assembled is anything
written: to the standard output, or to a file whose directory is made if need be.
-/

namespace DocPortal
namespace Command

/-- The site that a configuration describes. -/
def assembleSite (m : Machine) (c : Config) : Except CommandError SiteConfig := do
  let settings ← c.settings.mapError .filter
  ((Assembly.assemble (Disk.listing m.cwd) settings).run m.files).result.mapError .directoryAccess

/-- A site as text, on a single line or indented. -/
def siteText (compact : Bool) (site : SiteConfig) : String :=
  (if compact then site.toJson.compact else site.toJson.pretty) ++ "\n"

/-- The notices on a loaded configuration. -/
def configNotices (c : Config) : List Notice :=
  c.path?.toList.map (fun p => .info s!"Config: {p.display}")
    ++ [.info s!"Source: {c.sourceDir.display}"]

/-- Makes the directory that a file is to be in, if its path names one. -/
def makeRoom (m : Machine) (file : Path) : FileSystem × Except PathFault Unit :=
  match file.parent? with
  | some dir => if dir.bytes = [] then (m.files, .ok ()) else m.files.makeDirectories m.cwd dir
  | none => (m.files, .ok ())

/-- Writes a text to a file and tells so. -/
def writeOutput (m : Machine) (file : Path) (text : String) (notices : List Notice) : Outcome :=
  match makeRoom m file with
  | (files, .error fault) => .failed { m with files } (.output fault.failure) notices
  | (files, .ok ()) => match files.write m.cwd file (Text.encode text) with
    | .error fault => .failed { m with files } (.output fault.failure) notices
    | .ok files =>
      .printed { m with files } ""
        (notices ++ [.success s!"Site configuration written to {file.display}"])

/-- Builds the configuration of a site. -/
def build (m : Machine) (a : BuildArguments) : Outcome :=
  match Config.load m a.config? (some a.overrides) with
  | .error e => .failed m (.config e) []
  | .ok c => match assembleSite m c with
    | .error e => .failed m e (configNotices c)
    | .ok site => match a.output? with
      | none => .printed m (siteText a.compact site) (configNotices c)
      | some file => writeOutput m file (siteText a.compact site) (configNotices c)

end Command
end DocPortal
