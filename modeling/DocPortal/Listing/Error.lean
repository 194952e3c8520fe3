import DocPortal.FileSystem.Failure
import DocPortal.Path.Basic

/-!
# Failures of a listing

A listing fails with one of four kinds, the same for every backend. The path, the backend and the cause are
attached where they are known, and the message shows what is attached.
-/

namespace DocPortal

/-- The kinds of failure that every backend sorts its failures into. -/
inductive ListingErrorKind where
  | notFound
  | permissionDenied
  | notADirectory
  | other
  deriving DecidableEq, Repr

namespace ListingErrorKind

/-- The words for a kind. -/
def description : ListingErrorKind → String
  | notFound => "Not found"
  | permissionDenied => "Permission denied"
  | notADirectory => "Not a directory"
  | other => "Error"

/-- The kind that a failure of input or output falls into. -/
def ofFailure : FailureKind → ListingErrorKind
  | .notFound => notFound
  | .permissionDenied => permissionDenied
  | .notADirectory => notADirectory
  | _ => other

end ListingErrorKind

/-- What made a listing fail. -/
inductive ListingCause where
  /-- A failure of input or output. -/
  | failure (f : Failure)
  /-- Anything else that has a text. -/
  | text (message : String)
  deriving DecidableEq, Repr

namespace ListingCause

/-- The text of a cause. -/
def message : ListingCause → String
  | failure f => f.text
  | text message => message

end ListingCause

/-- A failure to list a directory. -/
structure ListingError where
  kind : ListingErrorKind
  path : Option Path := none
  backend : Option String := none
  cause : Option ListingCause := none
  deriving DecidableEq, Repr

namespace ListingError

/-- A directory that does not exist. -/
def notFound (p : Path) : ListingError := { kind := .notFound, path := some p }

/-- A path that leads to something other than a directory. -/
def notADirectory (p : Path) : ListingError := { kind := .notADirectory, path := some p }

/-- A failure of input or output, met at a path if one is given. -/
def ofFailure (f : Failure) (p : Option Path) : ListingError :=
  { kind := .ofFailure f.kind, path := p, cause := some (.failure f) }

/-- The same error, attributed to a backend. -/
def ofBackend (e : ListingError) (name : String) : ListingError := { e with backend := some name }

/-- The message: backend, kind, cause and path, as far as they are attached. -/
def message (e : ListingError) : String :=
  let backend := match e.backend with
    | some name => s!"[{name}] "
    | none => ""
  let cause := match e.cause with
    | some c => s!": {c.message}"
    | none => ""
  let path := match e.path with
    | some p => s!" (path: {p.display})"
    | none => ""
  backend ++ e.kind.description ++ cause ++ path

end ListingError

/-- A content directory that could not be listed. -/
structure DirectoryAccessError where
  path : Path
  source : ListingError
  deriving DecidableEq, Repr

/-- The message of an access error. -/
def DirectoryAccessError.message (e : DirectoryAccessError) : String :=
  s!"Cannot read content directory {e.path.display}: {e.source.message}"

end DocPortal
