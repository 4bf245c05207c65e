/-!
# Input and output errors

An error of the operating system is seen through its kind and its wording.  The
numbered errors carry their number in the wording.
-/

namespace RemoteMessaging

/-- The kinds by which input and output errors are told apart. -/
inductive IoError.Kind where
  | notFound
  | permissionDenied
  | connectionRefused
  | connectionReset
  | hostUnreachable
  | networkUnreachable
  | connectionAborted
  | notConnected
  | addressInUse
  | addressNotAvailable
  | networkDown
  | brokenPipe
  | alreadyExists
  | wouldBlock
  | invalidInput
  | invalidData
  | timedOut
  | writeZero
  | interrupted
  | unsupported
  | unexpectedEnd
  | outOfMemory
  | inputOutput
  | tooManyOpenFiles
  | invalidFileName
  | other
  | uncategorized
  deriving DecidableEq, Repr

namespace IoError.Kind

/-- The wording of an error of which only the kind is known. -/
def message : Kind → String
  | .notFound => "entity not found"
  | .permissionDenied => "permission denied"
  | .connectionRefused => "connection refused"
  | .connectionReset => "connection reset"
  | .hostUnreachable => "host unreachable"
  | .networkUnreachable => "network unreachable"
  | .connectionAborted => "connection aborted"
  | .notConnected => "not connected"
  | .addressInUse => "address in use"
  | .addressNotAvailable => "address not available"
  | .networkDown => "network down"
  | .brokenPipe => "broken pipe"
  | .alreadyExists => "entity already exists"
  | .wouldBlock => "operation would block"
  | .invalidInput => "invalid input parameter"
  | .invalidData => "invalid data"
  | .timedOut => "timed out"
  | .writeZero => "write zero"
  | .interrupted => "operation interrupted"
  | .unsupported => "unsupported"
  | .unexpectedEnd => "unexpected end of file"
  | .outOfMemory => "out of memory"
  | .inputOutput => "input/output error"
  | .tooManyOpenFiles => "too many open files"
  | .invalidFileName => "invalid filename"
  | .other => "other error"
  | .uncategorized => "uncategorized error"

def name : Kind → String
  | .notFound => "NotFound"
  | .permissionDenied => "PermissionDenied"
  | .connectionRefused => "ConnectionRefused"
  | .connectionReset => "ConnectionReset"
  | .hostUnreachable => "HostUnreachable"
  | .networkUnreachable => "NetworkUnreachable"
  | .connectionAborted => "ConnectionAborted"
  | .notConnected => "NotConnected"
  | .addressInUse => "AddrInUse"
  | .addressNotAvailable => "AddrNotAvailable"
  | .networkDown => "NetworkDown"
  | .brokenPipe => "BrokenPipe"
  | .alreadyExists => "AlreadyExists"
  | .wouldBlock => "WouldBlock"
  | .invalidInput => "InvalidInput"
  | .invalidData => "InvalidData"
  | .timedOut => "TimedOut"
  | .writeZero => "WriteZero"
  | .interrupted => "Interrupted"
  | .unsupported => "Unsupported"
  | .unexpectedEnd => "UnexpectedEof"
  | .outOfMemory => "OutOfMemory"
  | .inputOutput => "InputOutputError"
  | .tooManyOpenFiles => "TooManyOpenFiles"
  | .invalidFileName => "InvalidFilename"
  | .other => "Other"
  | .uncategorized => "Uncategorized"

def all : List Kind :=
  [.notFound, .permissionDenied, .connectionRefused, .connectionReset,
    .hostUnreachable, .networkUnreachable, .connectionAborted, .notConnected,
    .addressInUse, .addressNotAvailable, .networkDown, .brokenPipe,
    .alreadyExists, .wouldBlock, .invalidInput, .invalidData, .timedOut,
    .writeZero, .interrupted, .unsupported, .unexpectedEnd, .outOfMemory,
    .inputOutput, .tooManyOpenFiles, .invalidFileName, .other,
    .uncategorized]

def ofName? (name : String) : Option Kind :=
  all.find? (·.name = name)

end IoError.Kind

/-- The numbered errors of the operating system. -/
inductive Errno where
  | eperm
  | enoent
  | eintr
  | eio
  | eagain
  | enomem
  | eacces
  | eexist
  | einval
  | enfile
  | emfile
  | epipe
  | enametoolong
  | eaddrinuse
  | eaddrnotavail
  | enetdown
  | enetunreach
  | econnaborted
  | econnreset
  | enotconn
  | etimedout
  | econnrefused
  | ehostunreach
  deriving DecidableEq, Repr

namespace Errno

def number : Errno → Nat
  | .eperm => 1
  | .enoent => 2
  | .eintr => 4
  | .eio => 5
  | .eagain => 11
  | .enomem => 12
  | .eacces => 13
  | .eexist => 17
  | .einval => 22
  | .enfile => 23
  | .emfile => 24
  | .epipe => 32
  | .enametoolong => 36
  | .eaddrinuse => 98
  | .eaddrnotavail => 99
  | .enetdown => 100
  | .enetunreach => 101
  | .econnaborted => 103
  | .econnreset => 104
  | .enotconn => 107
  | .etimedout => 110
  | .econnrefused => 111
  | .ehostunreach => 113

def kind : Errno → IoError.Kind
  | .eperm => .permissionDenied
  | .enoent => .notFound
  | .eintr => .interrupted
  | .eio => .inputOutput
  | .eagain => .wouldBlock
  | .enomem => .outOfMemory
  | .eacces => .permissionDenied
  | .eexist => .alreadyExists
  | .einval => .invalidInput
  | .enfile => .tooManyOpenFiles
  | .emfile => .tooManyOpenFiles
  | .epipe => .brokenPipe
  | .enametoolong => .invalidFileName
  | .eaddrinuse => .addressInUse
  | .eaddrnotavail => .addressNotAvailable
  | .enetdown => .networkDown
  | .enetunreach => .networkUnreachable
  | .econnaborted => .connectionAborted
  | .econnreset => .connectionReset
  | .enotconn => .notConnected
  | .etimedout => .timedOut
  | .econnrefused => .connectionRefused
  | .ehostunreach => .hostUnreachable

def description : Errno → String
  | .eperm => "Operation not permitted"
  | .enoent => "No such file or directory"
  | .eintr => "Interrupted system call"
  | .eio => "Input/output error"
  | .eagain => "Resource temporarily unavailable"
  | .enomem => "Cannot allocate memory"
  | .eacces => "Permission denied"
  | .eexist => "File exists"
  | .einval => "Invalid argument"
  | .enfile => "Too many open files in system"
  | .emfile => "Too many open files"
  | .epipe => "Broken pipe"
  | .enametoolong => "File name too long"
  | .eaddrinuse => "Address already in use"
  | .eaddrnotavail => "Cannot assign requested address"
  | .enetdown => "Network is down"
  | .enetunreach => "Network is unreachable"
  | .econnaborted => "Software caused connection abort"
  | .econnreset => "Connection reset by peer"
  | .enotconn => "Transport endpoint is not connected"
  | .etimedout => "Connection timed out"
  | .econnrefused => "Connection refused"
  | .ehostunreach => "No route to host"

def name : Errno → String
  | .eperm => "EPERM"
  | .enoent => "ENOENT"
  | .eintr => "EINTR"
  | .eio => "EIO"
  | .eagain => "EAGAIN"
  | .enomem => "ENOMEM"
  | .eacces => "EACCES"
  | .eexist => "EEXIST"
  | .einval => "EINVAL"
  | .enfile => "ENFILE"
  | .emfile => "EMFILE"
  | .epipe => "EPIPE"
  | .enametoolong => "ENAMETOOLONG"
  | .eaddrinuse => "EADDRINUSE"
  | .eaddrnotavail => "EADDRNOTAVAIL"
  | .enetdown => "ENETDOWN"
  | .enetunreach => "ENETUNREACH"
  | .econnaborted => "ECONNABORTED"
  | .econnreset => "ECONNRESET"
  | .enotconn => "ENOTCONN"
  | .etimedout => "ETIMEDOUT"
  | .econnrefused => "ECONNREFUSED"
  | .ehostunreach => "EHOSTUNREACH"

def all : List Errno :=
  [.eperm, .enoent, .eintr, .eio, .eagain, .enomem, .eacces, .eexist,
    .einval, .enfile, .emfile, .epipe, .enametoolong, .eaddrinuse,
    .eaddrnotavail, .enetdown, .enetunreach, .econnaborted, .econnreset,
    .enotconn, .etimedout, .econnrefused, .ehostunreach]

def ofName? (name : String) : Option Errno :=
  all.find? (·.name = name)

end Errno

/-- An input or output error as a caller sees it. -/
structure IoError where
  kind : IoError.Kind
  message : String
  deriving DecidableEq, Repr

namespace IoError

def ofKind (kind : Kind) : IoError :=
  ⟨kind, kind.message⟩

def ofErrno (errno : Errno) : IoError :=
  ⟨errno.kind, s!"{errno.description} (os error {errno.number})"⟩

/-- The peer refused the connection, which may pass. -/
def isConnectRefused (error : IoError) : Bool :=
  error.kind == .connectionRefused

/-- Somebody else holds the address. -/
def isAddressInUse (error : IoError) : Bool :=
  error.kind == .addressInUse

/-- The peer has left the channel. -/
def isPeerGone (error : IoError) : Bool :=
  error.kind == .connectionReset || error.kind == .connectionAborted ||
    error.kind == .brokenPipe || error.kind == .unexpectedEnd ||
    error.kind == .notConnected

end IoError

end RemoteMessaging
