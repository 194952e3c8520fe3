import DocPortal.Machine
import DocPortal.Toml.Document
import DocPortal.Toml.Shape

/-!
# Descriptions of machines

A machine can be written down as a TOML document: the working directory, the variables, and the places of the
tree, each a path with the text of a file, with the target of a link, or, with neither, a directory. Directories
on the way are made as they are needed.
-/

namespace DocPortal

/-- A place of a tree as it is written down. -/
structure PlaceDescription where
  path : String
  text? : Option String
  target? : Option String
  deriving DecidableEq, Repr

/-- A machine as it is written down. -/
structure MachineDescription where
  cwd : String
  env : List (String × String)
  places : List PlaceDescription
  deriving DecidableEq, Repr

/-- Why a document describes no machine. -/
inductive DescriptionError where
  | notToml (e : Toml.SyntaxError)
  | misshapen (e : Toml.ShapeError)
  /-- A place cannot be made, or the working directory is none. -/
  | unusable (path : String) (fault : PathFault)
  deriving Repr

/-- The message of a description error. -/
def DescriptionError.message : DescriptionError → String
  | notToml e => e.message
  | misshapen e => e.message
  | unusable path fault => s!"{path}: {fault.failure.text}"

namespace MachineDescription

open Toml RecordReader ShapeReader

/-- Reads a place. -/
def place : RecordReader PlaceDescription :=
  PlaceDescription.mk <$> required "path" text <*> optional "text" (fun v => (text v).map some) none
    <*> optional "link" (fun v => (text v).map some) none

/-- Reads a machine. -/
def reader : RecordReader MachineDescription :=
  MachineDescription.mk <$> optional "cwd" text "/" <*> optional "env" attributes []
    <*> optional "places" (list (place.read "Place")) []

end MachineDescription

/-- The tree with one more place. -/
def PlaceDescription.make (p : PlaceDescription) (fs : FileSystem) : Except PathFault FileSystem :=
  let path := Path.ofString p.path
  let (fs, made) := match p.text?, p.target? with
    | none, none => fs.makeDirectories [] path
    | _, _ => fs.makeDirectories [] (path.parent?.getD (.ofString "/"))
  match made, p.text?, p.target? with
  | .error fault, _, _ => .error fault
  | .ok (), some s, _ => fs.write [] path (Text.encode s)
  | .ok (), none, some target => fs.makeLink [] path (.ofString target)
  | .ok (), none, none => .ok fs

/-- The tree with several more places. -/
def FileSystem.withPlaces (fs : FileSystem) : List PlaceDescription → Except DescriptionError FileSystem
  | [] => .ok fs
  | p :: rest => match p.make fs with
    | .ok fs => fs.withPlaces rest
    | .error fault => .error (.unusable p.path fault)

namespace Machine

/-- The machine that a description gives. -/
def ofDescription (d : MachineDescription) : Except DescriptionError Machine := do
  let files ← FileSystem.empty.withPlaces d.places
  match files.resolve [] (.ofString d.cwd) with
  | .ok (cwd, .directory) =>
    return { files, cwd, env := d.env.map fun (name, s) => (name, Text.encode s) }
  | .ok _ => .error (.unusable d.cwd .notADirectory)
  | .error fault => .error (.unusable d.cwd fault)

/-- The machine that a document describes. -/
def read (document : String) : Except DescriptionError Machine := do
  let table ← (Toml.Table.read document).mapError .notToml
  let description ← (MachineDescription.reader.readTable table).mapError .misshapen
  ofDescription description

end Machine
end DocPortal
