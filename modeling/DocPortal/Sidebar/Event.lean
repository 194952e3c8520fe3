import DocPortal.Listing.Basic

/-!
# Events of a scan

Scanning reports what the backend reports, one event for each entry that is no page, a summary of the
directory, and a summary of each group. Every event has a level, a message and fields for a log.
-/

namespace DocPortal

/-- How important an event is. -/
inductive Level where
  | trace
  | debug
  | info
  | warn
  deriving DecidableEq, Repr

namespace Level

/-- The name of a level. -/
def name : Level → String
  | trace => "TRACE"
  | debug => "DEBUG"
  | info => "INFO"
  | warn => "WARN"

end Level

/-- The value of a log field. -/
inductive LogValue where
  | text (s : String)
  | count (n : Nat)
  deriving DecidableEq, Repr

/-- An event as a log shows it. -/
structure LogLine where
  level : Level
  message : String
  fields : List (String × LogValue)
  deriving DecidableEq, Repr

/-- What is reported during a scan. -/
inductive ScanEvent where
  /-- A report of the backend. -/
  | listing (e : ListingEvent)
  /-- An entry is left out as it is no regular file. -/
  | skippedOther (name : String)
  /-- A regular file is left out as its extension is not recognised. -/
  | skippedExtension (name : String)
  /-- A directory was scanned. -/
  | scanned (dir : Path) (entries pages : Nat)
  /-- The group of a section was built. -/
  | builtGroup (route title : String) (pages : Nat)
  deriving DecidableEq, Repr

namespace ScanEvent

/-- The log line of an event. -/
def logLine : ScanEvent → LogLine
  | listing (.danglingLink path reason) =>
    ⟨.warn, "Dangling symlink", [("path", .text path.display), ("error", .text reason.text)]⟩
  | listing (.listed path count) =>
    ⟨.trace, "Listed directory", [("path", .text path.display), ("count", .count count)]⟩
  | skippedOther name => ⟨.trace, "Skipping non-file entry", [("name", .text name)]⟩
  | skippedExtension name => ⟨.trace, "Skipping unrecognized extension", [("name", .text name)]⟩
  | scanned dir entries pages =>
    ⟨.debug, "Scanned content directory",
      [("dir", .text dir.display), ("entries", .count entries), ("pages", .count pages)]⟩
  | builtGroup route title pages =>
    ⟨.info, "Built sidebar group",
      [("route", .text route), ("title", .text title), ("pages", .count pages)]⟩

end ScanEvent
end DocPortal
