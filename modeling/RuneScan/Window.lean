import RuneScan.Utf8.Decode

/-!
The byte window: cells with three marks in them.

The bytes from `start` to `current` are the pending token, to which the cursor may still go back;
those from `current` to `head` are unread; the cells from `head` on are free, and those before
`start` are no longer needed. Room for a chunk is found behind `head`, or by moving the bytes in
use to the front, or by doubling the number of cells.
-/

namespace RuneScan

structure Window where
  cells : Array UInt8
  start : Nat
  current : Nat
  head : Nat
deriving DecidableEq, Repr

def overwrite (cells : Array UInt8) (index : Nat) : List UInt8 → Array UInt8
  | [] => cells
  | byte :: rest => overwrite (cells.setIfInBounds index byte) (index + 1) rest

@[simp] theorem size_overwrite (cells : Array UInt8) (index : Nat) (bytes : List UInt8) :
    (overwrite cells index bytes).size = cells.size := by
  induction bytes generalizing cells index with
  | nil => rfl
  | cons byte rest ih => rw [overwrite, ih, Array.size_setIfInBounds]

namespace Window

def empty : Window := ⟨#[], 0, 0, 0⟩

/-! ### Views -/

def pending (window : Window) : List UInt8 :=
  (window.cells.extract window.start window.current).toList

def ahead (window : Window) : List UInt8 :=
  (window.cells.extract window.current window.head).toList

def lookahead (window : Window) : List UInt8 :=
  (window.cells.extract window.current
    (min window.head (window.current + Utf8.maxWidth))).toList

def kept (window : Window) : List UInt8 :=
  (window.cells.extract window.start window.head).toList

def unread (window : Window) : Nat :=
  window.head - window.current

def retained (window : Window) : Nat :=
  window.head - window.start

def offset (window : Window) : Nat :=
  window.current - window.start

def holdsToken (window : Window) : Bool :=
  window.start < min window.current window.head

/-! ### Marks -/

def consume (window : Window) (width : Nat) : Window :=
  { window with current := window.current + width }

def rewind (window : Window) (offset : Nat) : Window :=
  { window with current := window.start + offset }

def markStart (window : Window) : Window :=
  { window with start := window.current }

/-! ### Room -/

inductive Adjustment where
  | inPlace
  | grow
  | slide
deriving DecidableEq, Repr

def allocate (window : Window) (capacity : Nat) : Window :=
  if window.cells.isEmpty then { window with cells := Array.replicate capacity 0 } else window

/-- The cells grow only if moving the bytes in use would not free a whole chunk. -/
def adjustment (window : Window) (chunk : Nat) : Adjustment :=
  if window.cells.size - window.head < chunk then
    if window.cells.size - chunk < window.retained then .grow else .slide
  else
    .inPlace

def grow (window : Window) : Window :=
  { window with cells := window.cells ++ Array.replicate window.cells.size 0 }

def slide (window : Window) : Window :=
  { cells := overwrite window.cells 0 window.kept
    start := 0
    current := window.current - window.start
    head := window.head - window.start }

def adjust (window : Window) : Adjustment → Window
  | .inPlace => window
  | .grow => window.grow
  | .slide => window.slide

def store (window : Window) (bytes : List UInt8) : Window :=
  { window with
    cells := overwrite window.cells window.head bytes
    head := window.head + bytes.length }

/-! ### Sizes -/

theorem lookahead_length_le_unread (window : Window) :
    window.lookahead.length ≤ window.unread := by
  simp only [lookahead, unread, Array.length_toList, Array.size_extract]
  omega

theorem allocate_marks (window : Window) (capacity : Nat) :
    (window.allocate capacity).start = window.start ∧
      (window.allocate capacity).current = window.current ∧
      (window.allocate capacity).head = window.head := by
  unfold allocate
  split <;> exact ⟨rfl, rfl, rfl⟩

theorem adjust_unread_le (window : Window) (adjustment : Adjustment) :
    (window.adjust adjustment).unread ≤ window.unread := by
  cases adjustment <;> simp only [adjust, grow, slide, unread] <;> omega

theorem adjust_retained (window : Window) (adjustment : Adjustment) :
    (window.adjust adjustment).retained = window.retained := by
  cases adjustment with
  | inPlace => rfl
  | grow => rfl
  | slide => exact Nat.sub_zero (window.head - window.start)

theorem store_unread_le (window : Window) (bytes : List UInt8) :
    (window.store bytes).unread ≤ window.unread + bytes.length := by
  simp only [store, unread]
  omega

theorem store_retained_le (window : Window) (bytes : List UInt8) :
    (window.store bytes).retained ≤ window.retained + bytes.length := by
  simp only [store, retained]
  omega

end Window
end RuneScan
