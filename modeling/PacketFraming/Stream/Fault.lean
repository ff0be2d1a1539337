import PacketFraming.Layout.Error

/-! What can go wrong at the ends of a stream. -/

namespace PacketFraming

/-- Kinds of failure that an operating system reports for a stream or a file. -/
inductive FaultKind
  | notFound
  | permissionDenied
  | isDirectory
  | brokenPipe
  | wouldBlock
  | timedOut
  | unexpectedEnd
  | invalidData
  | interrupted
  | writeZero
  | other
deriving DecidableEq, Repr

namespace FaultKind

/-- The sentence for a failure of which nothing but the kind is known. -/
def description : FaultKind → String
  | notFound => "entity not found"
  | permissionDenied => "permission denied"
  | isDirectory => "is a directory"
  | brokenPipe => "broken pipe"
  | wouldBlock => "operation would block"
  | timedOut => "timed out"
  | unexpectedEnd => "unexpected end of file"
  | invalidData => "invalid data"
  | interrupted => "operation interrupted"
  | writeZero => "write zero"
  | other => "other error"

end FaultKind

structure Fault where
  kind : FaultKind
  description : String
deriving DecidableEq, Repr

namespace Fault

def ofKind (kind : FaultKind) : Fault where
  kind := kind
  description := kind.description

end Fault

inductive StreamError
  | layout (cause : LayoutError)
  | fault (cause : Fault)
  | closed
deriving DecidableEq, Repr

namespace StreamError

def message : StreamError → String
  | layout cause => cause.message
  | fault cause => "stream I/O error: " ++ cause.description
  | closed => "stream closed (no further headers)"

end StreamError

end PacketFraming
