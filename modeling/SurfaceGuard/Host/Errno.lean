import SurfaceGuard.Text.Ascii

/-!
# Failures of a system

Why a system refuses a request.  Each failure has a code, a description by which the guard
reports it, and a reason as the programs of the machine print it.
-/

namespace SurfaceGuard

/-- Why a request to the system fails. -/
inductive Errno where
  | noEntry
  | notDirectory
  | alreadyThere
  | isDirectory
  | nameTooLong
  | accessDenied
  | notPermitted
  | notEmpty
  | invalid
  | busy
  | readOnly
  | noSpace
  | tooManyLinks
  | notExecutable
  | badDescriptor
  | brokenPipe
  | interrupted
  | noChild
  | noProcess
  | noDevice
  | tooMuch
  deriving DecidableEq, Repr

namespace Errno

/-- The code of a failure. -/
def code : Errno → Text
  | noEntry => "ENOENT"
  | notDirectory => "ENOTDIR"
  | alreadyThere => "EEXIST"
  | isDirectory => "EISDIR"
  | nameTooLong => "ENAMETOOLONG"
  | accessDenied => "EACCES"
  | notPermitted => "EPERM"
  | notEmpty => "ENOTEMPTY"
  | invalid => "EINVAL"
  | busy => "EBUSY"
  | readOnly => "EROFS"
  | noSpace => "ENOSPC"
  | tooManyLinks => "ELOOP"
  | notExecutable => "ENOEXEC"
  | badDescriptor => "EBADF"
  | brokenPipe => "EPIPE"
  | interrupted => "EINTR"
  | noChild => "ECHILD"
  | noProcess => "ESRCH"
  | noDevice => "ENXIO"
  | tooMuch => "E2BIG"

/-- The description of a failure in the messages of the guard. -/
def description : Errno → Text
  | noEntry => "no such file or directory"
  | notDirectory => "not a directory"
  | alreadyThere => "file already exists"
  | isDirectory => "illegal operation on a directory"
  | nameTooLong => "name too long"
  | accessDenied => "permission denied"
  | notPermitted => "operation not permitted"
  | notEmpty => "directory not empty"
  | invalid => "invalid argument"
  | busy => "resource busy or locked"
  | readOnly => "read-only file system"
  | noSpace => "no space left on device"
  | tooManyLinks => "too many symbolic links encountered"
  | notExecutable => "exec format error"
  | badDescriptor => "bad file descriptor"
  | brokenPipe => "broken pipe"
  | interrupted => "interrupted system call"
  | noChild => "no child processes"
  | noProcess => "no such process"
  | noDevice => "no such device or address"
  | tooMuch => "argument list too long"

/-- The code and the description of a failure. -/
def text (e : Errno) : Text := e.code ++ ": " ++ e.description

/-- The reason that programs print for a failure. -/
def reason : Errno → Bytes
  | noEntry => "No such file or directory"
  | notDirectory => "Not a directory"
  | alreadyThere => "File exists"
  | isDirectory => "Is a directory"
  | nameTooLong => "File name too long"
  | accessDenied => "Permission denied"
  | notPermitted => "Operation not permitted"
  | notEmpty => "Directory not empty"
  | invalid => "Invalid argument"
  | busy => "Device or resource busy"
  | readOnly => "Read-only file system"
  | noSpace => "No space left on device"
  | tooManyLinks => "Too many levels of symbolic links"
  | notExecutable => "Exec format error"
  | badDescriptor => "Bad file descriptor"
  | brokenPipe => "Broken pipe"
  | interrupted => "Interrupted system call"
  | noChild => "No child processes"
  | noProcess => "No such process"
  | noDevice => "No such device or address"
  | tooMuch => "Argument list too long"

end Errno

end SurfaceGuard
