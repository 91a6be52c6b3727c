/-!
Faults of the system: what the operating system, or a layer over it, answers when it cannot do
what it was asked to.
-/

namespace Dialogue

/-- The kinds of fault that a layer over the system reports without a number. -/
inductive FaultKind
  | notFound
  | permissionDenied
  | brokenPipe
  | invalidData
  | timedOut
  | unexpectedEnd
  | other
deriving Repr, DecidableEq

/-- The text of a kind of fault. -/
def FaultKind.text : FaultKind → String
  | .notFound => "entity not found"
  | .permissionDenied => "permission denied"
  | .brokenPipe => "broken pipe"
  | .invalidData => "invalid data"
  | .timedOut => "timed out"
  | .unexpectedEnd => "unexpected end of file"
  | .other => "other error"

/-- A fault: a numbered one of the system, or one of a kind, with a text of its own or without. -/
inductive Fault
  | system (number : Nat)
  | described (kind : FaultKind) (text : Option String)
deriving Repr, DecidableEq

namespace Fault

/-- The system's names of its faults, from number 1 on. -/
def systemNames : List String :=
  ["Operation not permitted", "No such file or directory", "No such process",
    "Interrupted system call", "Input/output error", "No such device or address",
    "Argument list too long", "Exec format error", "Bad file descriptor", "No child processes",
    "Resource temporarily unavailable", "Cannot allocate memory", "Permission denied",
    "Bad address", "Block device required", "Device or resource busy", "File exists",
    "Invalid cross-device link", "No such device", "Not a directory", "Is a directory",
    "Invalid argument", "Too many open files in system", "Too many open files",
    "Inappropriate ioctl for device", "Text file busy", "File too large",
    "No space left on device", "Illegal seek", "Read-only file system", "Too many links",
    "Broken pipe", "Numerical argument out of domain", "Numerical result out of range",
    "Resource deadlock avoided", "File name too long", "No locks available",
    "Function not implemented", "Directory not empty", "Too many levels of symbolic links", "",
    "No message of desired type", "Identifier removed", "Channel number out of range",
    "Level 2 not synchronized", "Level 3 halted", "Level 3 reset", "Link number out of range",
    "Protocol driver not attached", "No CSI structure available", "Level 2 halted",
    "Invalid exchange", "Invalid request descriptor", "Exchange full", "No anode",
    "Invalid request code", "Invalid slot", "", "Bad font file format", "Device not a stream",
    "No data available", "Timer expired", "Out of streams resources",
    "Machine is not on the network", "Package not installed", "Object is remote",
    "Link has been severed", "Advertise error", "Srmount error", "Communication error on send",
    "Protocol error", "Multihop attempted", "RFS specific error", "Bad message",
    "Value too large for defined data type", "Name not unique on network",
    "File descriptor in bad state", "Remote address changed",
    "Can not access a needed shared library", "Accessing a corrupted shared library",
    ".lib section in a.out corrupted", "Attempting to link in too many shared libraries",
    "Cannot exec a shared library directly", "Invalid or incomplete multibyte or wide character",
    "Interrupted system call should be restarted", "Streams pipe error", "Too many users",
    "Socket operation on non-socket", "Destination address required", "Message too long",
    "Protocol wrong type for socket", "Protocol not available", "Protocol not supported",
    "Socket type not supported", "Operation not supported", "Protocol family not supported",
    "Address family not supported by protocol", "Address already in use",
    "Cannot assign requested address", "Network is down", "Network is unreachable",
    "Network dropped connection on reset", "Software caused connection abort",
    "Connection reset by peer", "No buffer space available",
    "Transport endpoint is already connected", "Transport endpoint is not connected",
    "Cannot send after transport endpoint shutdown", "Too many references: cannot splice",
    "Connection timed out", "Connection refused", "Host is down", "No route to host",
    "Operation already in progress", "Operation now in progress", "Stale file handle",
    "Structure needs cleaning", "Not a XENIX named type file", "No XENIX semaphores available",
    "Is a named type file", "Remote I/O error", "Disk quota exceeded", "No medium found",
    "Wrong medium type", "Operation canceled", "Required key not available", "Key has expired",
    "Key has been revoked", "Key was rejected by service", "Owner died", "State not recoverable",
    "Operation not possible due to RF-kill", "Memory page has hardware error"]

/-- The system's name of a fault. -/
def systemName (number : Nat) : String :=
  if number = 0 then "Success"
  else
    match systemNames[number - 1]? with
    | some "" => s!"Unknown error {number}"
    | some name => name
    | none => s!"Unknown error {number}"

/-- The text of a fault. -/
def message : Fault → String
  | .system number => s!"{systemName number} (os error {number})"
  | .described _ (some text) => text
  | .described kind none => kind.text

/-- The text of a fault without its number. -/
def systemText : Fault → String
  | .system number => systemName number
  | .described _ (some text) => text
  | .described kind none => kind.text

/-- Whether a fault has the system's number for something, or is of the kind for it. -/
def means (number : Nat) (kind : FaultKind) : Fault → Bool
  | .system given => given == number
  | .described given _ => given == kind

/-- Whether a fault says that something is not there. -/
def isNotFound (fault : Fault) : Bool := fault.means 2 .notFound

/-- Whether a fault says that nobody reads any more. -/
def isBrokenPipe (fault : Fault) : Bool := fault.means 32 .brokenPipe

/-- The faults that have a number of the system, or are of a kind whatever their text is. -/
inductive Means (number : Nat) (kind : FaultKind) : Fault → Prop
  | numbered : Means number kind (.system number)
  | described (text : Option String) : Means number kind (.described kind text)

/-- What a fault is found to mean is what it means, by cases on the fault. -/
theorem means_iff {number : Nat} {kind : FaultKind} {fault : Fault}
    : fault.means number kind = true ↔ Means number kind fault := by
  constructor
  · intro is
    cases fault with
    | system given =>
        obtain rfl := eq_of_beq is
        exact .numbered
    | described given text =>
        obtain rfl := eq_of_beq is
        exact .described text
  · rintro (_ | _)
    · exact beq_self_eq_true number
    · exact beq_self_eq_true kind

/-- That something is not there has the number 2. -/
theorem isNotFound_iff {fault : Fault}
    : fault.isNotFound = true ↔ Means 2 .notFound fault :=
  means_iff

/-- That nobody reads any more has the number 32. -/
theorem isBrokenPipe_iff {fault : Fault}
    : fault.isBrokenPipe = true ↔ Means 32 .brokenPipe fault :=
  means_iff

/-- There is no such file or directory. -/
def noEntry : Fault := .system 2

/-- The file has no format that can be run. -/
def notRunnable : Fault := .system 8

/-- Access is not allowed. -/
def noAccess : Fault := .system 13

/-- A directory was needed and something else is there. -/
def notDirectory : Fault := .system 20

/-- A directory is there and something else was needed. -/
def isDirectory : Fault := .system 21

/-- A name or a whole path is too long. -/
def nameTooLong : Fault := .system 36

/-- Links lead to links without end. -/
def linkLoop : Fault := .system 40

/-- The other end of a pipe is closed. -/
def brokenPipe : Fault := .system 32

/-- What a program is to be started with holds the octet zero, which ends texts. -/
def zeroInArguments : Fault := .described .other (some "nul byte found in provided data")

/-- A path holds the octet zero, which ends texts. -/
def zeroInPath : Fault :=
  .described .other (some "file name contained an unexpected NUL byte")

end Fault

end Dialogue
