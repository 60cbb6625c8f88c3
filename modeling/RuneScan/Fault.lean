/-!
Failures of a source, and the error that ends the reading of it.
-/

namespace RuneScan

inductive FaultKind where
  | wouldBlock
  | interrupted
  | notFound
  | permissionDenied
  | connectionReset
  | brokenPipe
  | timedOut
  | invalidData
  | unexpectedEof
  | other
deriving DecidableEq, Repr

def FaultKind.name : FaultKind → String
  | .wouldBlock => "WouldBlock"
  | .interrupted => "Interrupted"
  | .notFound => "NotFound"
  | .permissionDenied => "PermissionDenied"
  | .connectionReset => "ConnectionReset"
  | .brokenPipe => "BrokenPipe"
  | .timedOut => "TimedOut"
  | .invalidData => "InvalidData"
  | .unexpectedEof => "UnexpectedEof"
  | .other => "Other"

def FaultKind.description : FaultKind → String
  | .wouldBlock => "operation would block"
  | .interrupted => "operation interrupted"
  | .notFound => "entity not found"
  | .permissionDenied => "permission denied"
  | .connectionReset => "connection reset"
  | .brokenPipe => "broken pipe"
  | .timedOut => "timed out"
  | .invalidData => "invalid data"
  | .unexpectedEof => "unexpected end of file"
  | .other => "other error"

/-- A transient fault means that the source is not ready and may be asked again. -/
def FaultKind.isTransient : FaultKind → Bool
  | .wouldBlock | .interrupted => true
  | _ => false

structure Fault where
  kind : FaultKind
  message : Option String
deriving DecidableEq, Repr

def Fault.text (fault : Fault) : String :=
  fault.message.getD fault.kind.description

inductive ReadError where
  | endOfStream
  | source (fault : Fault)
deriving DecidableEq, Repr

namespace ReadError

def isEndOfStream : ReadError → Bool
  | .endOfStream => true
  | .source _ => false

def cause : ReadError → Option Fault
  | .endOfStream => none
  | .source fault => some fault

def render : ReadError → String
  | .endOfStream => "end of stream"
  | .source fault => "source error: " ++ fault.text

end ReadError
end RuneScan
