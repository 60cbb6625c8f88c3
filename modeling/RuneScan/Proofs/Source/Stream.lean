import RuneScan.Source

/-!
The stream of a source: what it hands over before the first outcome that ends it. A read takes the
next bytes of the stream, finds the source not ready, or comes to the end.
-/

namespace RuneScan

def Outcome.bytes : Outcome → List UInt8
  | .delivered bytes => bytes
  | _ => []

theorem Outcome.size_eq (outcome : Outcome) : outcome.size = outcome.bytes.length := by
  cases outcome with
  | delivered bytes => rfl
  | failed fault => rfl
  | overclaimed excess => rfl

/-- Where no more came than was asked for, it is not by what came that more is claimed. -/
theorem Outcome.exists_excess {outcome : Outcome} {room : Nat} (size : outcome.size ≤ room)
    (beyond : room < outcome.claimed room) : ∃ excess, outcome = .overclaimed excess := by
  cases outcome with
  | delivered bytes => exact absurd size (Nat.not_le_of_lt beyond)
  | failed fault => exact absurd beyond (Nat.not_lt_zero room)
  | overclaimed excess => exact ⟨excess, rfl⟩

/-- The bytes handed over before the stream ends, in however many reads. -/
def Event.stream : List Event → List UInt8
  | [] => []
  | .data [] :: _ => []
  | .data (byte :: bytes) :: rest => byte :: bytes ++ stream rest
  | .failure fault :: rest => if fault.kind.isTransient then stream rest else []
  | .overclaim _ :: _ => []

def Event.isHonest : Event → Bool
  | .overclaim _ => false
  | _ => true

def Event.isStall : Event → Bool
  | .failure fault => fault.kind.isTransient
  | _ => false

def Event.isData : Event → Bool
  | .data _ => true
  | _ => false

namespace Source

def stream (source : Source) : List UInt8 :=
  Event.stream source.events

def Honest (source : Source) : Prop :=
  ∀ event ∈ source.events, event.isHonest = true

instance (source : Source) : Decidable source.Honest :=
  inferInstanceAs (Decidable (∀ event ∈ source.events, event.isHonest = true))

def Steady (source : Source) : Prop :=
  ∀ event ∈ source.events, event.isStall = false

instance (source : Source) : Decidable source.Steady :=
  inferInstanceAs (Decidable (∀ event ∈ source.events, event.isStall = false))

def Succeeds (source : Source) : Prop :=
  ∀ event ∈ source.events, event.isData = true

instance (source : Source) : Decidable source.Succeeds :=
  inferInstanceAs (Decidable (∀ event ∈ source.events, event.isData = true))

def stalls (source : Source) : Nat :=
  source.events.countP Event.isStall

inductive Progress (before after : Source) : Outcome → Prop where
  | finished : before.stream = [] → Progress before after (.delivered [])
  | arrived (byte : UInt8) (bytes : List UInt8) :
      before.stream = byte :: bytes ++ after.stream →
        Progress before after (.delivered (byte :: bytes))
  | stalled (fault : Fault) : fault.kind.isTransient = true → before.stream = after.stream →
      before.stalls = after.stalls + 1 → Progress before after (.failed fault)
  | broken (fault : Fault) : fault.kind.isTransient = false → before.stream = [] →
      Progress before after (.failed fault)

theorem read_data (bytes : List UInt8) (rest : List Event) (reads room : Nat) :
    Source.read ⟨.data bytes :: rest, reads⟩ room =
      (.delivered (bytes.take room),
        ⟨if bytes.length ≤ room then rest else .data (bytes.drop room) :: rest, reads + 1⟩) := by
  simp only [Source.read, List.splitAt_eq]
  by_cases whole : bytes.length ≤ room
  · rw [List.drop_of_length_le whole, if_pos whole]
  · have left : bytes.drop room ≠ [] := by
      intro empty
      exact whole (List.drop_eq_nil_iff.mp empty)
    rw [if_neg whole]
    split
    · rename_i taken same
      exact absurd (Prod.mk.inj same).2 left
    · rename_i taken others _ same
      rw [(Prod.mk.inj same).1, (Prod.mk.inj same).2]

theorem read_progress {source : Source} (honest : source.Honest) {room : Nat}
    (positive : 0 < room) : Progress source (source.read room).2 (source.read room).1 := by
  rcases source with ⟨events, reads⟩
  cases events with
  | nil => exact .finished rfl
  | cons event rest =>
      cases event with
      | overclaim excess =>
          have claim := honest _ (List.mem_cons_self ..)
          cases claim
      | failure fault =>
          cases transient : fault.kind.isTransient with
          | true =>
              apply Progress.stalled fault transient
              · simp only [stream, Event.stream, transient, if_true, Source.read]
              · simp only [stalls, Source.read]
                exact List.countP_cons_of_pos transient
          | false =>
              apply Progress.broken fault transient
              simp only [stream, Event.stream, transient, Bool.false_eq_true, if_false]
      | data bytes =>
          rw [read_data]
          cases bytes with
          | nil =>
              rw [List.take_nil]
              exact .finished rfl
          | cons byte bytes =>
              obtain ⟨others, rfl⟩ := Nat.exists_eq_add_of_lt positive
              simp only [Nat.zero_add, List.take_succ_cons, List.drop_succ_cons, List.length_cons]
              apply Progress.arrived
              simp only [stream, Event.stream]
              by_cases whole : bytes.length + 1 ≤ others + 1
              · rw [if_pos whole, List.take_of_length_le (Nat.le_of_succ_le_succ whole)]
              · obtain ⟨next, left, same⟩ := List.exists_cons_of_ne_nil
                  (l := bytes.drop others) (by simp only [ne_eq, List.drop_eq_nil_iff]; omega)
                rw [if_neg whole, same, Event.stream, ← same, List.cons_append, List.cons_append,
                  ← List.append_assoc, List.take_append_drop]

theorem read_size_le (source : Source) (room : Nat) : (source.read room).1.size ≤ room := by
  rcases source with ⟨events, reads⟩
  cases events with
  | nil => exact Nat.zero_le _
  | cons event rest =>
      cases event with
      | overclaim excess => exact Nat.zero_le _
      | failure fault => exact Nat.zero_le _
      | data bytes =>
          rw [read_data]
          exact List.length_take_le room bytes

/-- What is still to be played after a read was so before it, but for the rest of a piece of data. -/
theorem mem_events_read {source : Source} {room : Nat} {event : Event}
    (member : event ∈ (source.read room).2.events) :
    event ∈ source.events ∨ ∃ bytes, event = .data bytes := by
  rcases source with ⟨events, reads⟩
  cases events with
  | nil => exact .inl member
  | cons first rest =>
      cases first with
      | overclaim excess => exact .inl (List.mem_cons_of_mem _ member)
      | failure fault => exact .inl (List.mem_cons_of_mem _ member)
      | data bytes =>
          rw [read_data] at member
          by_cases whole : bytes.length ≤ room
          · rw [if_pos whole] at member
            exact .inl (List.mem_cons_of_mem _ member)
          · rw [if_neg whole] at member
            rcases List.mem_cons.mp member with left | later
            · exact .inr ⟨_, left⟩
            · exact .inl (List.mem_cons_of_mem _ later)

theorem Honest.read {source : Source} (honest : source.Honest) (room : Nat) :
    (source.read room).2.Honest := by
  intro event member
  rcases mem_events_read member with earlier | ⟨bytes, rfl⟩
  · exact honest event earlier
  · rfl

theorem overclaim_of_read {source : Source} {room : Nat} {excess : Excess}
    (read : (source.read room).1 = .overclaimed excess) : .overclaim excess ∈ source.events := by
  rcases source with ⟨events, reads⟩
  cases events with
  | nil => cases read
  | cons event rest =>
      cases event with
      | overclaim other =>
          obtain rfl := Outcome.overclaimed.inj read
          exact List.mem_cons_self
      | failure fault => cases read
      | data bytes =>
          rw [read_data] at read
          cases read

theorem read_stalls_le (source : Source) (room : Nat) :
    (source.read room).2.stalls ≤ source.stalls := by
  rcases source with ⟨events, reads⟩
  cases events with
  | nil => exact Nat.le_refl _
  | cons event rest =>
      cases event with
      | overclaim excess => exact (List.sublist_cons_self _ rest).countP_le
      | failure fault => exact (List.sublist_cons_self _ rest).countP_le
      | data bytes =>
          rw [read_data]
          by_cases whole : bytes.length ≤ room
          · simp [stalls, whole, Event.isStall]
          · simp [stalls, whole, Event.isStall]

theorem read_reads (source : Source) (room : Nat) :
    (source.read room).2.reads = source.reads + 1 := by
  rcases source with ⟨events, reads⟩
  cases events with
  | nil => rfl
  | cons event rest =>
      cases event with
      | overclaim excess => rfl
      | failure fault => rfl
      | data bytes => rw [read_data]

/-! ### Some reads in a row -/

/-- The source after some reads of at most `room` bytes each. -/
def afterReads (room : Nat) : Nat → Source → Source
  | 0, source => source
  | count + 1, source => (source.read room).2.afterReads room count

def handedOver (room : Nat) : Nat → Source → List UInt8
  | 0, _ => []
  | count + 1, source =>
      (source.read room).1.bytes ++ (source.read room).2.handedOver room count

def outcomes (room : Nat) : Nat → Source → List Outcome
  | 0, _ => []
  | count + 1, source => (source.read room).1 :: (source.read room).2.outcomes room count

theorem afterReads_add (source : Source) (room first second : Nat) :
    source.afterReads room (first + second) =
      (source.afterReads room first).afterReads room second := by
  induction first generalizing source with
  | zero => rw [Nat.zero_add, afterReads]
  | succ first ih => rw [Nat.succ_add, afterReads, afterReads, ih]

theorem handedOver_add (source : Source) (room first second : Nat) :
    source.handedOver room (first + second) =
      source.handedOver room first ++ (source.afterReads room first).handedOver room second := by
  induction first generalizing source with
  | zero => rw [Nat.zero_add, handedOver, List.nil_append, afterReads]
  | succ first ih => rw [Nat.succ_add, handedOver, handedOver, afterReads, ih, List.append_assoc]

theorem afterReads_succ (source : Source) (room count : Nat) :
    source.afterReads room (count + 1) = ((source.afterReads room count).read room).2 :=
  afterReads_add source room count 1

theorem outcomes_add (source : Source) (room first second : Nat) :
    source.outcomes room (first + second) =
      source.outcomes room first ++ (source.afterReads room first).outcomes room second := by
  induction first generalizing source with
  | zero => rw [Nat.zero_add, outcomes, List.nil_append, afterReads]
  | succ first ih => rw [Nat.succ_add, outcomes, outcomes, afterReads, ih, List.cons_append]

theorem outcomes_succ (source : Source) (room count : Nat) : source.outcomes room (count + 1) =
    source.outcomes room count ++ [((source.afterReads room count).read room).1] :=
  outcomes_add source room count 1

theorem mem_outcomes {source : Source} {room count : Nat} {outcome : Outcome}
    (member : outcome ∈ source.outcomes room count) :
    ∃ made < count, outcome = ((source.afterReads room made).read room).1 := by
  induction count with
  | zero => cases member
  | succ count ih =>
      rw [outcomes_succ] at member
      rcases List.mem_append.mp member with earlier | last
      · obtain ⟨made, less, same⟩ := ih earlier
        exact ⟨made, Nat.lt_succ_of_lt less, same⟩
      · exact ⟨count, Nat.lt_succ_self _, List.mem_singleton.mp last⟩

theorem reads_afterReads (source : Source) (room count : Nat) :
    (source.afterReads room count).reads = source.reads + count := by
  induction count generalizing source with
  | zero => rfl
  | succ count ih =>
      rw [afterReads, ih, read_reads]
      omega

/-! ### Reads that succeed -/

theorem Succeeds.exists_data {source : Source} (succeeds : source.Succeeds) {event : Event}
    (member : event ∈ source.events) : ∃ bytes, event = .data bytes := by
  have data := succeeds event member
  cases event with
  | data bytes => exact ⟨bytes, rfl⟩
  | failure fault => cases data
  | overclaim excess => cases data

theorem Succeeds.honest {source : Source} (succeeds : source.Succeeds) : source.Honest := by
  intro event member
  obtain ⟨bytes, rfl⟩ := succeeds.exists_data member
  rfl

theorem Succeeds.steady {source : Source} (succeeds : source.Succeeds) : source.Steady := by
  intro event member
  obtain ⟨bytes, rfl⟩ := succeeds.exists_data member
  rfl

theorem Succeeds.read {source : Source} (succeeds : source.Succeeds) (room : Nat) :
    (∃ bytes, (source.read room).1 = .delivered bytes) ∧ (source.read room).2.Succeeds := by
  constructor
  · rcases source with ⟨events, reads⟩
    cases events with
    | nil => exact ⟨[], rfl⟩
    | cons event rest =>
        obtain ⟨bytes, rfl⟩ := succeeds.exists_data List.mem_cons_self
        rw [read_data]
        exact ⟨_, rfl⟩
  · intro event member
    rcases mem_events_read member with earlier | ⟨bytes, rfl⟩
    · exact succeeds event earlier
    · rfl

theorem Succeeds.outcomes {source : Source} (succeeds : source.Succeeds) {room count : Nat}
    {outcome : Outcome} (member : outcome ∈ source.outcomes room count) :
    ∃ bytes, outcome = .delivered bytes := by
  induction count generalizing source with
  | zero => cases member
  | succ count ih =>
      obtain ⟨delivered, later⟩ := succeeds.read room
      rcases List.mem_cons.mp member with rfl | others
      · exact delivered
      · exact ih later others

theorem steady_iff {source : Source} : source.Steady ↔ source.stalls = 0 := by
  simp only [Steady, stalls, List.countP_eq_zero, Bool.not_eq_true]

end Source
end RuneScan
