/-!
# Failures of input and output

A failure has a kind, by which callers tell failures apart, and a text for people. Failures of the operating
system carry a number, which decides both.
-/

namespace DocPortal

/-- What went wrong, as far as callers tell failures apart. -/
inductive FailureKind where
  | notFound
  | permissionDenied
  | notADirectory
  | isADirectory
  | invalidData
  | timedOut
  | other
  deriving DecidableEq, Repr

namespace FailureKind

/-- The text of a failure of which only the kind is known. -/
def description : FailureKind → String
  | notFound => "entity not found"
  | permissionDenied => "permission denied"
  | notADirectory => "not a directory"
  | isADirectory => "is a directory"
  | invalidData => "invalid data"
  | timedOut => "timed out"
  | other => "other error"

/-- The kind of an operating-system error. -/
def ofNumber (n : Int) : FailureKind :=
  match n with
  | 2 => notFound
  | 1 | 13 => permissionDenied
  | 20 => notADirectory
  | 21 => isADirectory
  | 110 => timedOut
  | _ => other

end FailureKind

/-- A failure of input or output. -/
structure Failure where
  kind : FailureKind
  text : String
  deriving DecidableEq, Repr

namespace Failure

/-- The texts of the operating-system errors, in the order of their numbers from one. -/
def systemTexts : List String := [
    "Operation not permitted", "No such file or directory", "No such process",
    "Interrupted system call", "Input/output error", "No such device or address",
    "Argument list too long", "Exec format error", "Bad file descriptor", "No child processes",
    "Resource temporarily unavailable", "Cannot allocate memory", "Permission denied",
    "Bad address", "Block device required", "Device or resource busy", "File exists",
    "Invalid cross-device link", "No such device", "Not a directory", "Is a directory",
    "Invalid argument", "Too many open files in system", "Too many open files",
    "Inappropriate ioctl for device", "Text file busy", "File too large", "No space left on device",
    "Illegal seek", "Read-only file system", "Too many links", "Broken pipe",
    "Numerical argument out of domain", "Numerical result out of range",
    "Resource deadlock avoided", "File name too long", "No locks available",
    "Function not implemented", "Directory not empty", "Too many levels of symbolic links",
    "Unknown error 41", "No message of desired type", "Identifier removed",
    "Channel number out of range", "Level 2 not synchronized", "Level 3 halted", "Level 3 reset",
    "Link number out of range", "Protocol driver not attached", "No CSI structure available",
    "Level 2 halted", "Invalid exchange", "Invalid request descriptor", "Exchange full", "No anode",
    "Invalid request code", "Invalid slot", "Unknown error 58", "Bad font file format",
    "Device not a stream", "No data available", "Timer expired", "Out of streams resources",
    "Machine is not on the network", "Package not installed", "Object is remote",
    "Link has been severed", "Advertise error", "Srmount error", "Communication error on send",
    "Protocol error", "Multihop attempted", "RFS specific error", "Bad message",
    "Value too large for defined data type", "Name not unique on network",
    "File descriptor in bad state", "Remote address changed",
    "Can not access a needed shared library", "Accessing a corrupted shared library",
    ".lib section in a.out corrupted", "Attempting to link in too many shared libraries",
    "Cannot exec a shared library directly", "Invalid or incomplete multibyte or wide character",
    "Interrupted system call should be restarted", "Streams pipe error", "Too many users",
    "Socket operation on non-socket", "Destination address required", "Message too long",
    "Protocol wrong type for socket", "Protocol not available", "Protocol not supported",
    "Socket type not supported", "Operation not supported", "Protocol family not supported",
    "Address family not supported by protocol", "Address already in use",
    "Cannot assign requested address", "Network is down", "Network is unreachable",
    "Network dropped connection on reset", "Software caused connection abort",
    "Connection reset by peer", "No buffer space available",
    "Transport endpoint is already connected", "Transport endpoint is not connected",
    "Cannot send after transport endpoint shutdown", "Too many references: cannot splice",
    "Connection timed out", "Connection refused", "Host is down", "No route to host",
    "Operation already in progress", "Operation now in progress", "Stale file handle",
    "Structure needs cleaning", "Not a XENIX named type file", "No XENIX semaphores available",
    "Is a named type file", "Remote I/O error", "Disk quota exceeded", "No medium found",
    "Wrong medium type", "Operation canceled", "Required key not available", "Key has expired",
    "Key has been revoked", "Key was rejected by service", "Owner died", "State not recoverable",
    "Operation not possible due to RF-kill", "Memory page has hardware error"
  ]

/-- The text of an operating-system error number. -/
def systemText : Int → String
  | 0 => "Success"
  | .ofNat (n + 1) => systemTexts.getD n s!"Unknown error {n + 1}"
  | n => s!"Unknown error {n}"

/-- The failure with an operating-system error number. -/
def ofNumber (n : Int) : Failure where
  kind := .ofNumber n
  text := s!"{systemText n} (os error {n})"

/-- The failure of which only the kind is known. -/
def ofKind (kind : FailureKind) : Failure := ⟨kind, kind.description⟩

/-- The failure of reading text from bytes that are not UTF-8. -/
def notText : Failure := ⟨.invalidData, "stream did not contain valid UTF-8"⟩

/-- The failure of reading a file name that is not UTF-8; `shown` is the name between quotes. -/
def nameNotText (shown : String) : Failure :=
  ⟨.invalidData, s!"file name {shown} is not valid UTF-8"⟩

end Failure
end DocPortal
