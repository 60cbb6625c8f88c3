import RuneScan.Utf8.Decode

/-!
Where decoding may be cut. A rune that has been decoded from the bytes at hand stays the same when
more bytes follow, and decodes to itself when what follows is taken away. So a byte list falls into
two parts that decode on their own wherever the first part ends with a rune of the whole.
-/

namespace RuneScan.Utf8

def widths : List Rune → Nat
  | [] => 0
  | rune :: others => rune.width + widths others

@[simp] theorem widths_nil : widths [] = 0 := rfl

@[simp] theorem widths_cons (rune : Rune) (others : List Rune) :
    widths (rune :: others) = rune.width + widths others := rfl

@[simp] theorem widths_append (first second : List Rune) :
    widths (first ++ second) = widths first + widths second := by
  induction first with
  | nil => rw [List.nil_append, widths_nil, Nat.zero_add]
  | cons rune others ih => rw [List.cons_append, widths_cons, widths_cons, ih, Nat.add_assoc]

theorem widths_take_le (runes : List Rune) (count : Nat) :
    widths (runes.take count) ≤ widths runes := by
  have parts := widths_append (runes.take count) (runes.drop count)
  rw [List.take_append_drop] at parts
  omega

/-! ### Agreement with a pattern -/

private theorem agreement_append_of_full (ranges : List ByteRange) (bytes more : List UInt8)
    (full : agreement ranges bytes = ranges.length) :
    agreement ranges (bytes ++ more) = ranges.length := by
  induction ranges generalizing bytes with
  | nil => cases bytes <;> cases more <;> rfl
  | cons range ranges ih =>
      cases bytes with
      | nil =>
          simp only [agreement, List.length_cons] at full
          omega
      | cons byte bytes =>
          simp only [agreement, List.length_cons, List.cons_append] at full ⊢
          by_cases inRange : range.contains byte = true
          · rw [if_pos inRange] at full ⊢
            rw [ih bytes (Nat.succ.inj full)]
          · rw [if_neg inRange] at full
            omega

private theorem agreement_append_of_stopped (ranges : List ByteRange) (bytes more : List UInt8)
    (stopped : agreement ranges bytes < bytes.length) :
    agreement ranges (bytes ++ more) = agreement ranges bytes := by
  induction ranges generalizing bytes with
  | nil => cases bytes <;> cases more <;> rfl
  | cons range ranges ih =>
      cases bytes with
      | nil => exact absurd stopped (Nat.not_lt_zero _)
      | cons byte bytes =>
          simp only [agreement, List.length_cons, List.cons_append] at stopped ⊢
          by_cases inRange : range.contains byte = true
          · rw [if_pos inRange] at stopped ⊢
            rw [if_pos inRange, ih bytes (Nat.lt_of_succ_lt_succ stopped)]
          · rw [if_neg inRange, if_neg inRange]

private theorem agreement_take (ranges : List ByteRange) (bytes : List UInt8)
    (full : agreement ranges bytes = ranges.length) :
    agreement ranges (bytes.take ranges.length) = ranges.length := by
  induction ranges generalizing bytes with
  | nil => cases bytes <;> rfl
  | cons range ranges ih =>
      cases bytes with
      | nil =>
          simp only [agreement, List.length_cons] at full
          omega
      | cons byte bytes =>
          simp only [agreement, List.length_cons, List.take_succ_cons] at full ⊢
          by_cases inRange : range.contains byte = true
          · rw [if_pos inRange] at full ⊢
            rw [ih bytes (Nat.succ.inj full)]
          · rw [if_neg inRange] at full
            omega

theorem Pattern.continuation_length_le {lead : UInt8} {pattern : Pattern}
    (announced : Pattern.ofLead? lead = some pattern) :
    pattern.continuation.length ≤ 3 := by
  unfold Pattern.ofLead? at announced
  grind

/-! ### The scalar value at the front -/

theorem scalar?_append {bytes : List UInt8} {rune : Rune} (found : scalar? bytes = some rune)
    (more : List UInt8) : scalar? (bytes ++ more) = some rune := by
  cases bytes with
  | nil => cases found
  | cons lead rest =>
      simp only [scalar?, List.cons_append] at found ⊢
      cases announced : Pattern.ofLead? lead with
      | none => simp [announced] at found
      | some pattern =>
          simp only [announced, Option.ite_none_right_eq_some, Option.some.injEq] at found ⊢
          have within := agreement_le_bytes pattern.continuation rest
          refine ⟨agreement_append_of_full _ _ more found.1, ?_⟩
          rw [List.take_append_of_le_length (by omega)]
          exact found.2

/-- Bytes that are not the beginning of a scalar value remain so, whatever follows them. -/
theorem scalar?_append_of_settled {bytes : List UInt8} (nonempty : bytes ≠ [])
    (settled : isTruncated bytes = false) (missing : scalar? bytes = none) (more : List UInt8) :
    scalar? (bytes ++ more) = none := by
  cases bytes with
  | nil => contradiction
  | cons lead rest =>
      simp only [scalar?, isTruncated, List.cons_append] at settled missing ⊢
      cases announced : Pattern.ofLead? lead with
      | none => rfl
      | some pattern =>
          simp only [announced, Bool.and_eq_false_iff, decide_eq_false_iff_not,
            ite_eq_right_iff, reduceCtorEq, imp_false] at settled missing ⊢
          have within := agreement_le_bytes pattern.continuation rest
          have bounded := agreement_le_ranges pattern.continuation rest
          rw [agreement_append_of_stopped _ _ more (by omega)]
          exact missing

/-- Nor do they become the beginning of one. -/
theorem isTruncated_append {bytes : List UInt8} (nonempty : bytes ≠ [])
    (settled : isTruncated bytes = false) (more : List UInt8) :
    isTruncated (bytes ++ more) = false := by
  cases bytes with
  | nil => contradiction
  | cons lead rest =>
      simp only [isTruncated, List.cons_append] at settled ⊢
      cases announced : Pattern.ofLead? lead with
      | none => rfl
      | some pattern =>
          simp only [announced, Bool.and_eq_false_iff, decide_eq_false_iff_not,
            List.length_append] at settled ⊢
          have within := agreement_le_bytes pattern.continuation rest
          by_cases stopped : agreement pattern.continuation rest = rest.length
          · right
            rcases settled with different | enough
            · exact absurd stopped different
            · omega
          · left
            rw [agreement_append_of_stopped _ _ more (by omega)]
            omega

theorem scalar?_take {bytes : List UInt8} {rune : Rune} (found : scalar? bytes = some rune) :
    scalar? (bytes.take rune.width) = some rune := by
  cases bytes with
  | nil => cases found
  | cons lead rest =>
      simp only [scalar?] at found
      cases announced : Pattern.ofLead? lead with
      | none => simp [announced] at found
      | some pattern =>
          simp only [announced, Option.ite_none_right_eq_some, Option.some.injEq] at found
          rcases found with ⟨full, rfl⟩
          simp only [scalar?, Pattern.width, List.take_succ_cons, announced,
            agreement_take _ _ full, if_true, List.take_take, Nat.min_self]

theorem isTruncated_length_lt {bytes : List UInt8} (truncated : isTruncated bytes = true) :
    bytes.length < maxWidth := by
  cases bytes with
  | nil => cases truncated
  | cons lead rest =>
      simp only [isTruncated] at truncated
      cases announced : Pattern.ofLead? lead with
      | none => simp [announced] at truncated
      | some pattern =>
          have bounded := Pattern.continuation_length_le announced
          simp only [announced, Bool.and_eq_true, decide_eq_true_eq] at truncated
          simp only [List.length_cons, maxWidth]
          omega

/-! ### The rune at the front -/

theorem front_append {bytes : List UInt8} (nonempty : bytes ≠ [])
    (settled : isTruncated bytes = false) (more : List UInt8) :
    front (bytes ++ more) = front bytes := by
  unfold front
  cases found : scalar? bytes with
  | none => rw [scalar?_append_of_settled nonempty settled found more]
  | some rune => rw [scalar?_append found more]

/-- A rune that no further byte can change stays at the front, whatever follows. -/
theorem settled_append {ended finished : Bool} {bytes more : List UInt8} (nonempty : bytes ≠ [])
    (settled : ended = true ∨ isTruncated bytes = false)
    (closed : ended = true → finished = true ∧ more = []) :
    front (bytes ++ more) = front bytes ∧
      (finished = true ∨ isTruncated (bytes ++ more) = false) := by
  rcases settled with ended | settled
  · obtain ⟨finished, rfl⟩ := closed ended
    rw [List.append_nil]
    exact ⟨rfl, .inl finished⟩
  · exact ⟨front_append nonempty settled more, .inr (isTruncated_append nonempty settled more)⟩

theorem front_take_maxWidth (bytes : List UInt8) : front (bytes.take maxWidth) = front bytes := by
  cases bytes with
  | nil => rfl
  | cons byte rest =>
      cases truncated : isTruncated ((byte :: rest).take maxWidth) with
      | true =>
          have short := isTruncated_length_lt truncated
          rw [List.length_take] at short
          rw [List.take_of_length_le (by omega)]
      | false =>
          have whole := front_append (by simp [maxWidth]) truncated
            ((byte :: rest).drop maxWidth)
          rw [List.take_append_drop] at whole
          exact whole.symm

theorem isTruncated_take_maxWidth (bytes : List UInt8) :
    isTruncated (bytes.take maxWidth) = isTruncated bytes := by
  by_cases short : bytes.length ≤ maxWidth
  · rw [List.take_of_length_le short]
  · have cut : isTruncated (bytes.take maxWidth) = false := by
      apply Bool.eq_false_iff.mpr
      intro truncated
      have few := isTruncated_length_lt truncated
      rw [List.length_take] at few
      omega
    have whole : isTruncated bytes = false := by
      apply Bool.eq_false_iff.mpr
      intro truncated
      have few := isTruncated_length_lt truncated
      omega
    rw [cut, whole]

theorem decode_take_maxWidth (bytes : List UInt8) (ended : Bool) :
    decode (bytes.take maxWidth) ended = decode bytes ended := by
  unfold decode
  rw [isTruncated_take_maxWidth, front_take_maxWidth]
  cases bytes <;> rfl

inductive Decoding (bytes : List UInt8) (ended : Bool) : Decoded → Prop where
  | empty : bytes = [] → Decoding bytes ended .empty
  | incomplete : ended = false → isTruncated bytes = true → Decoding bytes ended .incomplete
  | rune : bytes ≠ [] → ended = true ∨ isTruncated bytes = false →
      Decoding bytes ended (.rune (front bytes))

theorem decode_decoding (bytes : List UInt8) (ended : Bool) :
    Decoding bytes ended (decode bytes ended) := by
  unfold decode
  by_cases empty : bytes = []
  · subst bytes
    exact .empty rfl
  · rw [if_neg (by simpa using empty)]
    cases ended with
    | true => exact .rune empty (.inl rfl)
    | false =>
        cases truncated : isTruncated bytes with
        | true => exact .incomplete rfl truncated
        | false => exact .rune empty (.inr truncated)

theorem front_take_width {bytes : List UInt8} (nonempty : bytes ≠ []) :
    front (bytes.take (front bytes).width) = front bytes := by
  unfold front
  cases found : scalar? bytes with
  | some rune => rw [Option.getD_some, scalar?_take found, Option.getD_some]
  | none =>
      cases bytes with
      | nil => contradiction
      | cons byte rest =>
          simp only [Option.getD_none, List.take_succ_cons, List.take_zero]
          cases alone : scalar? [byte] with
          | none => rfl
          | some rune =>
              have longer := scalar?_append alone rest
              rw [List.singleton_append, found] at longer
              cases longer

/-! ### All runes -/

theorem runes_of_nonempty {bytes : List UInt8} (nonempty : bytes ≠ []) :
    runes bytes = front bytes :: runes (bytes.drop (front bytes).width) := by
  cases bytes with
  | nil => contradiction
  | cons byte rest =>
      have positive := front_width_pos (byte :: rest)
      rw [runes]
      obtain ⟨others, same⟩ := Nat.exists_eq_add_of_lt positive
      simp only [same, Nat.zero_add, List.drop_succ_cons, Nat.add_sub_cancel]

@[simp] theorem runes_nil : runes [] = [] := by
  rw [runes]

theorem runes_take_front {bytes : List UInt8} (nonempty : bytes ≠ []) :
    runes (bytes.take (front bytes).width) = [front bytes] := by
  have positive := front_width_pos bytes
  have taken : bytes.take (front bytes).width ≠ [] := by
    intro empty
    rcases List.take_eq_nil_iff.mp empty with zero | empty
    · omega
    · exact nonempty empty
  rw [runes_of_nonempty taken, front_take_width nonempty, List.drop_take_self, runes_nil]

/-- Induction from rune to rune. -/
@[elab_as_elim]
theorem runes_induction {motive : List UInt8 → Prop} (nil : motive [])
    (step : ∀ bytes, bytes ≠ [] → motive (bytes.drop (front bytes).width) → motive bytes)
    (bytes : List UInt8) : motive bytes := by
  induction bytes using runes.induct with
  | case1 => exact nil
  | case2 byte rest rune ih =>
      apply step _ (List.cons_ne_nil byte rest)
      obtain ⟨others, same⟩ := Nat.exists_eq_add_of_lt (front_width_pos (byte :: rest))
      simpa only [rune, same, Nat.zero_add, List.drop_succ_cons, Nat.add_sub_cancel] using ih

theorem widths_runes (bytes : List UInt8) : widths (runes bytes) = bytes.length := by
  induction bytes using runes_induction with
  | nil => rw [runes_nil, widths_nil, List.length_nil]
  | step bytes nonempty ih =>
      have within := front_width_le nonempty
      rw [runes_of_nonempty nonempty, widths_cons, ih, List.length_drop]
      omega

/-! ### Seams -/

def Seam (first second : List UInt8) : Prop :=
  runes (first ++ second) = runes first ++ runes second

theorem seam_nil_left (bytes : List UInt8) : Seam [] bytes := by
  rw [Seam, runes_nil, List.nil_append, List.nil_append]

theorem seam_front {bytes : List UInt8} (nonempty : bytes ≠ []) :
    Seam (bytes.take (front bytes).width) (bytes.drop (front bytes).width) := by
  rw [Seam, List.take_append_drop, runes_take_front nonempty, runes_of_nonempty nonempty]
  rfl

private theorem front_append_between {bytes middle more : List UInt8}
    (same : front (bytes ++ (middle ++ more)) = front bytes) :
    front (bytes ++ middle) = front bytes := by
  cases found : scalar? (bytes ++ middle) with
  | some rune =>
      have longer := scalar?_append found more
      rw [List.append_assoc] at longer
      rw [← same]
      unfold front
      rw [found, longer]
  | none =>
      cases alone : scalar? bytes with
      | some rune =>
          rw [scalar?_append alone middle] at found
          cases found
      | none =>
          unfold front
          rw [found, alone]

theorem Seam.of_append {first second more : List UInt8} (seam : Seam first (second ++ more)) :
    Seam first second := by
  -- The runes of the first part are the same with and without what follows, so they are peeled off
  -- one at a time, each decided by the bytes on either side of `second`.
  induction first using runes_induction with
  | nil => exact seam_nil_left second
  | step first nonempty ih =>
      have within := front_width_le nonempty
      unfold Seam at seam ih ⊢
      rw [runes_of_nonempty (List.append_ne_nil_of_left_ne_nil nonempty _),
        runes_of_nonempty nonempty, List.cons_append, List.cons.injEq] at seam
      rcases seam with ⟨same, others⟩
      have kept := front_append_between same
      rw [same, List.drop_append_of_le_length within] at others
      rw [runes_of_nonempty (List.append_ne_nil_of_left_ne_nil nonempty _),
        runes_of_nonempty nonempty, kept, List.drop_append_of_le_length within, ih others]
      rfl

/-- Two seams in a row may be joined on either side. -/
theorem Seam.append {first second third : List UInt8} (outer : Seam first (second ++ third))
    (inner : Seam second third) : Seam (first ++ second) third := by
  have prior : runes (first ++ second) = runes first ++ runes second := outer.of_append
  unfold Seam at outer inner ⊢
  rw [List.append_assoc, outer, inner, prior, List.append_assoc]

theorem runes_split (bytes : List UInt8) (count : Nat) :
    runes (bytes.take (widths ((runes bytes).take count))) = (runes bytes).take count ∧
      runes (bytes.drop (widths ((runes bytes).take count))) = (runes bytes).drop count := by
  induction count generalizing bytes with
  | zero => simp
  | succ count ih =>
      by_cases empty : bytes = []
      · subst bytes
        simp
      · have seam := seam_front empty
        obtain ⟨taken, dropped⟩ := ih (bytes.drop (front bytes).width)
        have parts := List.take_append_drop
          (widths ((runes (bytes.drop (front bytes).width)).take count))
          (bytes.drop (front bytes).width)
        rw [← parts] at seam
        have joined : runes _ = _ ++ _ := seam.of_append
        rw [runes_of_nonempty empty, List.take_succ_cons, List.drop_succ_cons, widths_cons,
          List.take_add, ← List.drop_drop, joined, runes_take_front empty, taken, dropped]
        exact ⟨rfl, rfl⟩

theorem Seam.retreat {first second : List UInt8} (seam : Seam first second) {count : Nat}
    (within : count ≤ (runes first).length) :
    Seam (first.drop (widths ((runes first).take count))) second := by
  obtain ⟨_, dropped⟩ := runes_split (first ++ second) count
  obtain ⟨_, rest⟩ := runes_split first count
  have reach : widths ((runes first).take count) ≤ first.length := by
    rw [← widths_runes first]
    exact widths_take_le _ count
  unfold Seam at seam ⊢
  rw [seam, List.take_append_of_le_length within, List.drop_append_of_le_length within,
    List.drop_append_of_le_length reach] at dropped
  rw [dropped, rest]

end RuneScan.Utf8
