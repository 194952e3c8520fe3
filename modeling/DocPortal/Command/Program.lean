import DocPortal.Command.Build
import DocPortal.Command.LogFilter
import DocPortal.Command.Response
import DocPortal.Command.Sidebar

/-!
# The program

The program reads its command line and runs the command on the machine. Words that are no command get the exit
code two; help and the version are answered at once. Unless the command line asks for a log, the environment says
what is logged, and the faults in what it says are told first.
-/

namespace DocPortal
namespace Command

/-- Runs what a command line asks for. -/
def run (m : Machine) : Invocation → Outcome
  | .build a => build m a
  | .sidebar dir a => sidebar m dir a

/-- How the program is called. -/
def usageText : String :=
  "Usage: portico [-v] build [-c PATH] [-s PATH] [--base URL] [-o PATH] [--compact]\n"
    ++ "       portico [-v] sidebar DIR [-e EXT]... [--exclude NAME]... [--sort]\n"

/-- The name of the program and its version. -/
def versionText : String := "portico 0.1.0\n"

/-- Whether notices are coloured although they do not go to a terminal: a variable asks for it, with any
text but a zero. -/
def isColoured (env : Environment) : Bool :=
  match env.text "CLICOLOR_FORCE" with
  | .ok s => s ≠ "0"
  | .error _ => false

/-- The notices that come before those of the command itself. -/
def openingNotices (env : Environment) (line : CommandLine) : List Notice :=
  if line.logged then [] else LogFilter.notices env

/-- Runs the program on a machine with the words of a command line. -/
def program (m : Machine) (words : List Bytes) : Response :=
  match readLine m.env words with
  | .error .usage => ⟨2, "", usageText, m.files⟩
  | .error .help => ⟨0, usageText, "", m.files⟩
  | .error .version => ⟨0, versionText, "", m.files⟩
  | .ok line =>
    ((run m line.invocation).after (openingNotices m.env line)).response (isColoured m.env)

end Command
end DocPortal
