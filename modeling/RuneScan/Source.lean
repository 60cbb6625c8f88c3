import RuneScan.Fault

/-!
Sources of bytes. A source plays a list of events, one for each read, and is at its end once they
are used up.
-/

namespace RuneScan

/-- How many bytes a claim goes beyond a request. -/
structure Excess where
  count : Nat
  positive : 0 < count
deriving DecidableEq, Repr

-- A claim that goes no further than the request is no breach, so nothing counts for less than one.
instance : Coe Nat Excess where
  coe count := ⟨max count 1, Nat.le_max_right count 1⟩

inductive Event where
  /-- Bytes to hand over, as many in one read as are asked for. No bytes mean the end. -/
  | data (bytes : List UInt8)
  | failure (fault : Fault)
  /-- A breach of the reading contract: nothing is handed over, and more bytes are claimed than were
  asked for. -/
  | overclaim (excess : Excess)
deriving DecidableEq, Repr

structure Source where
  events : List Event
  /-- How many reads have been made. -/
  reads : Nat
deriving DecidableEq, Repr

inductive Outcome where
  /-- No bytes mean that the stream has ended. -/
  | delivered (bytes : List UInt8)
  | failed (fault : Fault)
  | overclaimed (excess : Excess)
deriving DecidableEq, Repr

namespace Source

def ofEvents (events : List Event) : Source := ⟨events, 0⟩

def ofBytes (bytes : List UInt8) : Source := ofEvents [.data bytes]

/-- One read of at most `room` bytes. What is left of a piece of data stays in front. -/
def read (source : Source) (room : Nat) : Outcome × Source :=
  let reads := source.reads + 1
  match source.events with
  | [] => (.delivered [], ⟨[], reads⟩)
  | .data bytes :: rest =>
      match bytes.splitAt room with
      | (taken, []) => (.delivered taken, ⟨rest, reads⟩)
      | (taken, left) => (.delivered taken, ⟨.data left :: rest, reads⟩)
  | .failure fault :: rest => (.failed fault, ⟨rest, reads⟩)
  | .overclaim excess :: rest => (.overclaimed excess, ⟨rest, reads⟩)

end Source

def Event.size : Event → Nat
  | .data bytes => bytes.length
  | .failure _ => 0
  | .overclaim _ => 0

def Event.totalSize : List Event → Nat
  | [] => 0
  | event :: rest => event.size + totalSize rest

def Source.bytesLeft (source : Source) : Nat :=
  Event.totalSize source.events

def Outcome.size : Outcome → Nat
  | .delivered bytes => bytes.length
  | .failed _ => 0
  | .overclaimed _ => 0

/-- The number of bytes that an outcome claims to bring, where `room` were asked for. -/
def Outcome.claimed (room : Nat) : Outcome → Nat
  | .delivered bytes => bytes.length
  | .failed _ => 0
  | .overclaimed excess => room + excess.count

theorem Source.read_bytesLeft (source : Source) (room : Nat) :
    (source.read room).1.size + (source.read room).2.bytesLeft = source.bytesLeft := by
  obtain ⟨events, reads⟩ := source
  cases events with
  | nil => simp [Source.read, Outcome.size, Source.bytesLeft]
  | cons event rest =>
      cases event with
      | data bytes =>
          simp only [Source.read, List.splitAt_eq]
          split
          · rename_i taken same
            simp only [Prod.mk.injEq] at same
            have whole := List.take_append_drop room bytes
            simp only [same.1, same.2, List.append_nil] at whole
            simp [Outcome.size, Source.bytesLeft, Event.totalSize, Event.size, whole]
          · rename_i taken left _ same
            simp only [Prod.mk.injEq] at same
            have whole := congrArg List.length (List.take_append_drop room bytes)
            simp only [same.1, same.2, List.length_append] at whole
            simp only [Outcome.size, Source.bytesLeft, Event.totalSize, Event.size]
            omega
      | failure fault => simp [Source.read, Outcome.size, Source.bytesLeft, Event.totalSize, Event.size]
      | overclaim excess => simp [Source.read, Outcome.size, Source.bytesLeft, Event.totalSize, Event.size]

end RuneScan
