import RuneScan.Fault

/-!
The journal of what happened while bytes were taken in.
-/

namespace RuneScan

inductive TraceEvent where
  | sourceExhausted
  | chunkRead (requested received : Nat)
  | sourceNotReady (kind : FaultKind)
  /-- The cells were doubled in number while `retained` bytes stayed where they were. -/
  | growing (size newSize retained : Nat)
  /-- The `retained` bytes were moved `shift` cells towards the front. -/
  | sliding (shift retained : Nat)
  | errorRecorded (error : ReadError)
deriving DecidableEq, Repr

namespace TraceEvent

inductive FieldValue where
  | number (value : Nat)
  | text (value : String)

def level : TraceEvent → String
  | .sourceExhausted | .chunkRead .. | .sourceNotReady _ => "TRACE"
  | .growing .. | .sliding .. | .errorRecorded _ => "DEBUG"

def message : TraceEvent → String
  | .sourceExhausted => "source exhausted"
  | .chunkRead .. => "read chunk"
  | .sourceNotReady _ => "source not ready"
  | .growing .. => "growing buffer"
  | .sliding .. => "sliding buffer"
  | .errorRecorded _ => "recording read error"

def fields : TraceEvent → List (String × FieldValue)
  | .sourceExhausted => []
  | .chunkRead requested received =>
      [("requested", .number requested), ("read", .number received)]
  | .sourceNotReady kind => [("kind", .text kind.name)]
  | .growing size newSize retained =>
      [("from", .number size), ("to", .number newSize), ("retained", .number retained)]
  | .sliding shift retained => [("shift", .number shift), ("retained", .number retained)]
  | .errorRecorded error => [("error", .text error.render)]

end TraceEvent
end RuneScan
