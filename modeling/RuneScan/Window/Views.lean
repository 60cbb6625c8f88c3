import RuneScan.Window

/-!
What the operations of the window do to its views. The pending and the unread bytes stay the same
when room is made, wherever they are moved; a read adds to the unread bytes; the cursor moves bytes
from one view to the other.
-/

namespace RuneScan

theorem toList_overwrite (cells : Array UInt8) (index : Nat) (bytes : List UInt8)
    (fits : index + bytes.length ≤ cells.size) :
    (overwrite cells index bytes).toList =
      cells.toList.take index ++ bytes ++ cells.toList.drop (index + bytes.length) := by
  induction bytes generalizing cells index with
  | nil => simp [overwrite]
  | cons byte rest ih =>
      simp only [List.length_cons] at fits
      rw [overwrite, ih _ _ (by rw [Array.size_setIfInBounds]; omega)]
      have inside : index < cells.toList.length := by rw [Array.length_toList]; omega
      have taken : (cells.toList.set index byte).take (index + 1) =
          cells.toList.take index ++ [byte] := by
        rw [List.take_add_one, List.take_set_of_le (Nat.le_refl _),
          List.getElem?_set_self inside, Option.toList_some]
      have dropped : (cells.toList.set index byte).drop (index + 1 + rest.length) =
          cells.toList.drop (index + (rest.length + 1)) := by
        rw [List.drop_set_of_lt (by omega), Nat.add_right_comm, Nat.add_assoc]
      rw [Array.toList_setIfInBounds, taken, dropped, List.length_cons, List.append_assoc,
        List.append_assoc, List.append_assoc, List.singleton_append, List.cons_append]

namespace Window

structure Ordered (window : Window) : Prop where
  start_le : window.start ≤ window.current
  current_le : window.current ≤ window.head
  head_le : window.head ≤ window.cells.size

theorem ordered_empty : empty.Ordered :=
  ⟨Nat.le_refl _, Nat.le_refl _, Nat.le_refl _⟩

/-! ### The views as stretches of the cells -/

theorem pending_eq (window : Window) :
    window.pending = (window.cells.toList.drop window.start).take window.offset := by
  simp [pending, offset, List.extract_eq_take_drop]

theorem ahead_eq (window : Window) :
    window.ahead = (window.cells.toList.drop window.current).take window.unread := by
  simp [ahead, unread, List.extract_eq_take_drop]

theorem kept_eq (window : Window) :
    window.kept = (window.cells.toList.drop window.start).take window.retained := by
  simp [kept, retained, List.extract_eq_take_drop]

theorem Ordered.length_pending {window : Window} (ordered : window.Ordered) :
    window.pending.length = window.offset := by
  obtain ⟨start_le, current_le, head_le⟩ := ordered
  simp only [pending, offset, Array.length_toList, Array.size_extract]
  omega

theorem Ordered.length_ahead {window : Window} (ordered : window.Ordered) :
    window.ahead.length = window.unread := by
  obtain ⟨start_le, current_le, head_le⟩ := ordered
  simp only [ahead, unread, Array.length_toList, Array.size_extract]
  omega

theorem Ordered.length_kept {window : Window} (ordered : window.Ordered) :
    window.kept.length = window.retained := by
  obtain ⟨start_le, current_le, head_le⟩ := ordered
  simp only [kept, retained, Array.length_toList, Array.size_extract]
  omega

theorem Ordered.retained_eq {window : Window} (ordered : window.Ordered) :
    window.retained = window.offset + window.unread := by
  obtain ⟨start_le, current_le, _⟩ := ordered
  simp only [retained, offset, unread]
  omega

/-- The bytes in use are the pending ones followed by the unread ones. -/
theorem Ordered.pending_append_ahead {window : Window} (ordered : window.Ordered) :
    window.pending ++ window.ahead = window.kept := by
  obtain ⟨start_le, current_le, head_le⟩ := ordered
  rw [pending_eq, ahead_eq, kept_eq]
  apply List.ext_getElem?
  intro place
  simp only [List.getElem?_append, List.getElem?_take, List.getElem?_drop, List.length_take,
    List.length_drop, Array.length_toList, offset, unread, retained]
  grind

theorem lookahead_eq_take (window : Window) :
    window.lookahead = window.ahead.take Utf8.maxWidth := by
  rw [ahead_eq]
  simp only [lookahead, unread, Array.toList_extract, List.extract_eq_take_drop, List.take_take]
  congr 1
  omega

/-! ### Making room -/

theorem Ordered.allocate {window : Window} (ordered : window.Ordered) (capacity : Nat) :
    (window.allocate capacity).Ordered := by
  obtain ⟨start_le, current_le, head_le⟩ := ordered
  unfold Window.allocate
  split
  · rename_i noCells
    simp only [Array.isEmpty_iff_size_eq_zero] at noCells
    refine ⟨start_le, current_le, ?_⟩
    simp only [Array.size_replicate]
    omega
  · exact ⟨start_le, current_le, head_le⟩

theorem Ordered.grow {window : Window} (ordered : window.Ordered) : window.grow.Ordered := by
  obtain ⟨start_le, current_le, head_le⟩ := ordered
  refine ⟨start_le, current_le, ?_⟩
  simp only [Window.grow, Array.size_append]
  omega

theorem Ordered.slide {window : Window} (ordered : window.Ordered) : window.slide.Ordered := by
  obtain ⟨start_le, current_le, head_le⟩ := ordered
  constructor <;> simp only [Window.slide, size_overwrite] <;> omega

theorem Ordered.adjust {window : Window} (ordered : window.Ordered) (adjustment : Adjustment) :
    (window.adjust adjustment).Ordered := by
  cases adjustment with
  | inPlace => exact ordered
  | grow => exact ordered.grow
  | slide => exact ordered.slide

theorem Ordered.kept_allocate {window : Window} (ordered : window.Ordered) (capacity : Nat) :
    (window.allocate capacity).kept = window.kept := by
  obtain ⟨start_le, current_le, head_le⟩ := ordered
  unfold Window.allocate
  split
  · rename_i noCells
    simp only [Array.isEmpty_iff_size_eq_zero] at noCells
    have none : window.head = 0 := by omega
    simp [kept, none]
  · rfl

theorem Ordered.kept_grow {window : Window} (ordered : window.Ordered) :
    window.grow.kept = window.kept := by
  obtain ⟨start_le, current_le, head_le⟩ := ordered
  rw [kept_eq, kept_eq]
  apply List.ext_getElem?
  intro place
  simp only [Window.grow, retained, Array.toList_append, List.getElem?_take, List.getElem?_drop,
    List.getElem?_append, Array.length_toList]
  grind

theorem Ordered.kept_slide {window : Window} (ordered : window.Ordered) :
    window.slide.kept = window.kept := by
  have length := ordered.length_kept
  obtain ⟨start_le, current_le, head_le⟩ := ordered
  simp only [retained] at length
  have moved : window.slide.kept =
      ((overwrite window.cells 0 window.kept).toList).take window.kept.length := by
    rw [kept_eq]
    simp [Window.slide, retained, length]
  rw [moved, toList_overwrite _ _ _ (by omega)]
  simp

theorem Ordered.kept_adjust {window : Window} (ordered : window.Ordered)
    (adjustment : Adjustment) : (window.adjust adjustment).kept = window.kept := by
  cases adjustment with
  | inPlace => rfl
  | grow => exact ordered.kept_grow
  | slide => exact ordered.kept_slide

theorem adjust_offset (window : Window) (adjustment : Adjustment) :
    (window.adjust adjustment).offset = window.offset := by
  cases adjustment with
  | inPlace => rfl
  | grow => rfl
  | slide => exact Nat.sub_zero (window.current - window.start)

/-! ### Reads and the cursor -/

theorem Ordered.store {window : Window} (ordered : window.Ordered) {bytes : List UInt8}
    (fits : window.head + bytes.length ≤ window.cells.size) : (window.store bytes).Ordered := by
  obtain ⟨start_le, current_le, head_le⟩ := ordered
  constructor <;> simp only [Window.store, size_overwrite] <;> omega

theorem Ordered.pending_store {window : Window} (ordered : window.Ordered) {bytes : List UInt8}
    (fits : window.head + bytes.length ≤ window.cells.size) :
    (window.store bytes).pending = window.pending := by
  obtain ⟨start_le, current_le, head_le⟩ := ordered
  rw [pending_eq, pending_eq]
  simp only [Window.store, offset, toList_overwrite _ _ _ fits]
  apply List.ext_getElem?
  intro place
  simp only [List.getElem?_take, List.getElem?_drop, List.getElem?_append, List.length_append,
    List.length_take, Array.length_toList]
  grind

theorem Ordered.ahead_store {window : Window} (ordered : window.Ordered) {bytes : List UInt8}
    (fits : window.head + bytes.length ≤ window.cells.size) :
    (window.store bytes).ahead = window.ahead ++ bytes := by
  obtain ⟨start_le, current_le, head_le⟩ := ordered
  rw [ahead_eq, ahead_eq]
  simp only [Window.store, unread, toList_overwrite _ _ _ fits]
  apply List.ext_getElem?
  intro place
  simp only [List.getElem?_take, List.getElem?_drop, List.getElem?_append, List.length_append,
    List.length_take, List.length_drop, Array.length_toList]
  grind

theorem Ordered.consume {window : Window} (ordered : window.Ordered) {width : Nat}
    (available : width ≤ window.unread) : (window.consume width).Ordered := by
  obtain ⟨start_le, current_le, head_le⟩ := ordered
  simp only [unread] at available
  constructor <;> simp only [Window.consume] <;> omega

theorem Ordered.ahead_consume {window : Window} (ordered : window.Ordered) (width : Nat) :
    (window.consume width).ahead = window.ahead.drop width := by
  obtain ⟨start_le, current_le, head_le⟩ := ordered
  rw [ahead_eq, ahead_eq]
  simp only [Window.consume, unread, List.drop_take, List.drop_drop]
  congr 1
  omega

theorem Ordered.rewind {window : Window} (ordered : window.Ordered) {offset : Nat}
    (within : offset ≤ window.offset) : (window.rewind offset).Ordered := by
  obtain ⟨start_le, current_le, head_le⟩ := ordered
  simp only [Window.offset] at within
  constructor <;> simp only [Window.rewind] <;> omega

theorem Ordered.markStart {window : Window} (ordered : window.Ordered) :
    window.markStart.Ordered :=
  ⟨Nat.le_refl _, ordered.current_le, ordered.head_le⟩

end Window
end RuneScan
