/-!
Escapes in a text. A backslash escapes the rune behind it, whatever that is, unless it is escaped
itself.
-/

namespace RuneScan

def unescaped? (rune : Char) : List Char → Option Nat
  | [] => none
  | [last] => if last = rune then some 0 else none
  | first :: second :: rest =>
      if first = '\\' then (unescaped? rune rest).map (· + 2)
      else if first = rune then some 0
      else (unescaped? rune (second :: rest)).map (· + 1)

theorem unescaped?_backslash (rune second : Char) (rest : List Char) :
    unescaped? rune ('\\' :: second :: rest) = (unescaped? rune rest).map (2 + ·) := by
  rw [unescaped?, if_pos rfl]
  congr 1
  funext index
  exact Nat.add_comm index 2

theorem unescaped?_cons {rune first : Char} (plain : first ≠ '\\') (rest : List Char) :
    unescaped? rune (first :: rest) =
      if first = rune then some 0 else (unescaped? rune rest).map (· + 1) := by
  cases rest with
  | nil => rfl
  | cons second rest => rw [unescaped?, if_neg plain]

/-- A stretch without backslashes and without the rune is passed over. -/
theorem unescaped?_append {rune : Char} {plain : List Char}
    (ordinary : ∀ other ∈ plain, other ≠ '\\' ∧ other ≠ rune) (rest : List Char) :
    unescaped? rune (plain ++ rest) = (unescaped? rune rest).map (plain.length + ·) := by
  induction plain with
  | nil =>
      simp only [List.nil_append, List.length_nil, Nat.zero_add]
      exact Option.map_id'.symm
  | cons first others ih =>
      obtain ⟨⟨unslashed, other⟩, later⟩ := List.forall_mem_cons.mp ordinary
      rw [List.cons_append, unescaped?_cons unslashed, if_neg other, ih later, Option.map_map]
      congr 1
      funext index
      simp only [Function.comp_apply, List.length_cons]
      omega

end RuneScan
