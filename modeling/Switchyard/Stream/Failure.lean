/-!
# Operating system errors

What a system call, a stream or a scripted stand-in for one can fail with.

* A number as the kernel gives it reads as its usual text and the number.
* The interruptions that a reader handles itself (a signal, a timeout) have constructors of their
  own.
-/

namespace Switchyard

/-- The texts of the error numbers from 1 on; an empty one stands for a number that is not used. -/
def errorTexts : List String :=
  ["Operation not permitted", "No such file or directory", "No such process",
   "Interrupted system call", "Input/output error", "No such device or address",
   "Argument list too long", "Exec format error", "Bad file descriptor", "No child processes",
   "Resource temporarily unavailable", "Cannot allocate memory", "Permission denied",
   "Bad address", "Block device required", "Device or resource busy", "File exists",
   "Invalid cross-device link", "No such device", "Not a directory", "Is a directory",
   "Invalid argument", "Too many open files in system", "Too many open files",
   "Inappropriate ioctl for device", "Text file busy", "File too large",
   "No space left on device", "Illegal seek", "Read-only file system", "Too many links",
   "Broken pipe", "Numerical argument out of domain", "Numerical result out of range",
   "Resource deadlock avoided", "File name too long", "No locks available",
   "Function not implemented", "Directory not empty", "Too many levels of symbolic links", "",
   "No message of desired type", "Identifier removed", "Channel number out of range",
   "Level 2 not synchronized", "Level 3 halted", "Level 3 reset", "Link number out of range",
   "Protocol driver not attached", "No CSI structure available", "Level 2 halted",
   "Invalid exchange", "Invalid request descriptor", "Exchange full", "No anode",
   "Invalid request code", "Invalid slot", "", "Bad font file format", "Device not a stream",
   "No data available", "Timer expired", "Out of streams resources",
   "Machine is not on the network", "Package not installed", "Object is remote",
   "Link has been severed", "Advertise error", "Srmount error", "Communication error on send",
   "Protocol error", "Multihop attempted", "RFS specific error", "Bad message",
   "Value too large for defined data type", "Name not unique on network",
   "File descriptor in bad state", "Remote address changed",
   "Can not access a needed shared library", "Accessing a corrupted shared library",
   ".lib section in a.out corrupted", "Attempting to link in too many shared libraries",
   "Cannot exec a shared library directly", "Invalid or incomplete multibyte or wide character",
   "Interrupted system call should be restarted", "Streams pipe error", "Too many users",
   "Socket operation on non-socket", "Destination address required", "Message too long",
   "Protocol wrong type for socket", "Protocol not available", "Protocol not supported",
   "Socket type not supported", "Operation not supported", "Protocol family not supported",
   "Address family not supported by protocol", "Address already in use",
   "Cannot assign requested address", "Network is down", "Network is unreachable",
   "Network dropped connection on reset", "Software caused connection abort",
   "Connection reset by peer", "No buffer space available",
   "Transport endpoint is already connected", "Transport endpoint is not connected",
   "Cannot send after transport endpoint shutdown", "Too many references: cannot splice",
   "Connection timed out", "Connection refused", "Host is down", "No route to host",
   "Operation already in progress", "Operation now in progress", "Stale file handle",
   "Structure needs cleaning", "Not a XENIX named type file", "No XENIX semaphores available",
   "Is a named type file", "Remote I/O error", "Disk quota exceeded", "No medium found",
   "Wrong medium type", "Operation canceled", "Required key not available", "Key has expired",
   "Key has been revoked", "Key was rejected by service", "Owner died", "State not recoverable",
   "Operation not possible due to RF-kill", "Memory page has hardware error"]

/-- The text of an error number. -/
def errorText (errno : Int) : String :=
  let text :=
    if errno = 0 then "Success"
    else if errno < 0 then ""
    else (errorTexts[errno.toNat - 1]?).getD ""
  if text = "" then "Unknown error " ++ toString errno else text

/-- Why an operation of the system failed. -/
inductive IoError where
  /-- A signal arrived before anything was done. -/
  | interrupted
  /-- The time allowed for the operation passed. -/
  | timedOut
  /-- The operation would have to wait. -/
  | wouldBlock
  /-- The kernel's error number. -/
  | os (errno : Int)
  /-- Any other failure, in words. -/
  | other (text : String)
  deriving DecidableEq

namespace IoError

/-- The failure in words. -/
def message : IoError → String
  | interrupted => "operation interrupted"
  | timedOut => "timed out"
  | wouldBlock => "operation would block"
  | os errno => errorText errno ++ " (os error " ++ toString errno ++ ")"
  | other text => text

/-! ### The numbers this library raises itself -/

/-- A file that is not there. -/
def notFound : IoError := os 2

/-- A file that may not be used so. -/
def permissionDenied : IoError := os 13

/-- A file that is there already. -/
def alreadyExists : IoError := os 17

/-- A path through something that is no directory. -/
def notDirectory : IoError := os 20

/-- A stream whose reader has gone. -/
def brokenPipe : IoError := os 32

/-- A file name that is too long. -/
def nameTooLong : IoError := os 36

/-- An address that is taken. -/
def addressInUse : IoError := os 98

/-- An address that is not one of this machine. -/
def addressNotAvailable : IoError := os 99

/-- A network that cannot be reached. -/
def networkUnreachable : IoError := os 101

/-- A listener that is not there. -/
def connectionRefused : IoError := os 111

/-- A name that the kernel cannot be told. -/
def nulInName : IoError := other "file name contained an unexpected NUL byte"

end IoError
end Switchyard
