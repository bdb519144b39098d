import Switchboard.Level.Basic

/-!
# Faults

What can go wrong while a slot is registered with a library, a library is opened or a configuration
is read. A fault has a kind, and a message that opens with the kind's own words.
-/

namespace Switchboard

inductive Fault where
  | unknownLevel (level : Level)
  | refused (text : String)
  | notLoaded (text : String)
  /-- The library lacks a function. -/
  | incomplete (text : String)
  | badConfig (text : String)
  /-- The data is not what it should be. -/
  | badData (text : String)
  | io (text : String)
  deriving DecidableEq, Repr

namespace Fault

def message : Fault → String
  | unknownLevel level => "Invalid log level: " ++ toString level.raw.toInt
  | refused text => "Log callback registration failed: " ++ text
  | notLoaded text => "Failed to load LiteCore library: " ++ text
  | incomplete text => "Symbol not found in LiteCore library: " ++ text
  | badConfig text => "Failed to parse config: " ++ text
  | badData text => "Invalid data: " ++ text
  | io text => "IO error: " ++ text

/-- A copy of a fault that is kept. One of input or output is made anew from what it says. -/
def copy : Fault → Fault
  | unknownLevel level => unknownLevel level
  | refused text => refused text
  | notLoaded text => notLoaded text
  | incomplete text => incomplete text
  | badConfig text => badConfig text
  | badData text => badData text
  | io text => io text

theorem copy_eq (f : Fault) : f.copy = f := by
  cases f <;> rfl

theorem mapError_copy {α : Type} (r : Except Fault α) : r.mapError copy = r := by
  rcases r with f | a
  · exact congrArg Except.error (copy_eq f)
  · rfl

end Fault

/-- A failure of the operating system, by its number. -/
structure OsError where
  number : Nat
  deriving DecidableEq, Repr

namespace OsError

def noSuchFile : OsError := ⟨2⟩
def permissionDenied : OsError := ⟨13⟩
def notADirectory : OsError := ⟨20⟩
def isADirectory : OsError := ⟨21⟩
def nameTooLong : OsError := ⟨36⟩

/-- What the system says of a failure, in the order of the numbers. Two of these stand for none. -/
def words : List String :=
  ["Success", "Operation not permitted", "No such file or directory", "No such process",
    "Interrupted system call", "Input/output error", "No such device or address",
    "Argument list too long", "Exec format error", "Bad file descriptor", "No child processes",
    "Resource temporarily unavailable", "Cannot allocate memory", "Permission denied",
    "Bad address", "Block device required", "Device or resource busy", "File exists",
    "Invalid cross-device link", "No such device", "Not a directory", "Is a directory",
    "Invalid argument", "Too many open files in system", "Too many open files",
    "Inappropriate ioctl for device", "Text file busy", "File too large",
    "No space left on device", "Illegal seek", "Read-only file system", "Too many links",
    "Broken pipe", "Numerical argument out of domain", "Numerical result out of range",
    "Resource deadlock avoided", "File name too long", "No locks available",
    "Function not implemented", "Directory not empty", "Too many levels of symbolic links", "",
    "No message of desired type", "Identifier removed", "Channel number out of range",
    "Level 2 not synchronized", "Level 3 halted", "Level 3 reset", "Link number out of range",
    "Protocol driver not attached", "No CSI structure available", "Level 2 halted",
    "Invalid exchange", "Invalid request descriptor", "Exchange full", "No anode",
    "Invalid request code", "Invalid slot", "", "Bad font file format", "Device not a stream",
    "No data available", "Timer expired", "Out of streams resources",
    "Machine is not on the network", "Package not installed", "Object is remote",
    "Link has been severed", "Advertise error", "Srmount error", "Communication error on send",
    "Protocol error", "Multihop attempted", "RFS specific error", "Bad message",
    "Value too large for defined data type", "Name not unique on network",
    "File descriptor in bad state", "Remote address changed",
    "Can not access a needed shared library", "Accessing a corrupted shared library",
    ".lib section in a.out corrupted", "Attempting to link in too many shared libraries",
    "Cannot exec a shared library directly", "Invalid or incomplete multibyte or wide character",
    "Interrupted system call should be restarted", "Streams pipe error", "Too many users",
    "Socket operation on non-socket", "Destination address required", "Message too long",
    "Protocol wrong type for socket", "Protocol not available", "Protocol not supported",
    "Socket type not supported", "Operation not supported", "Protocol family not supported",
    "Address family not supported by protocol", "Address already in use",
    "Cannot assign requested address", "Network is down", "Network is unreachable",
    "Network dropped connection on reset", "Software caused connection abort",
    "Connection reset by peer", "No buffer space available",
    "Transport endpoint is already connected", "Transport endpoint is not connected",
    "Cannot send after transport endpoint shutdown", "Too many references: cannot splice",
    "Connection timed out", "Connection refused", "Host is down", "No route to host",
    "Operation already in progress", "Operation now in progress", "Stale file handle",
    "Structure needs cleaning", "Not a XENIX named type file", "No XENIX semaphores available",
    "Is a named type file", "Remote I/O error", "Disk quota exceeded", "No medium found",
    "Wrong medium type", "Operation canceled", "Required key not available", "Key has expired",
    "Key has been revoked", "Key was rejected by service", "Owner died", "State not recoverable",
    "Operation not possible due to RF-kill", "Memory page has hardware error"]

def description (e : OsError) : String :=
  match words[e.number]? with
  | none | some "" => "Unknown error " ++ toString e.number
  | some text => text

def message (e : OsError) : String :=
  e.description ++ " (os error " ++ toString e.number ++ ")"

end OsError

end Switchboard
