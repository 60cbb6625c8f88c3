/-!
Occurrences of a literal in a text. The first of them is the least index at which the literal stands,
and one pass over the text finds it.
-/

namespace RuneScan

structure FirstAt (literal text : List Char) (index : Nat) : Prop where
  stands : literal <+: text.drop index
  first : ∀ earlier < index, ¬ literal <+: text.drop earlier

theorem FirstAt.unique {literal text : List Char} {index other : Nat}
    (one : FirstAt literal text index) (two : FirstAt literal text other) : index = other := by
  rcases Nat.lt_trichotomy index other with less | same | greater
  · exact absurd one.stands (two.first index less)
  · exact same
  · exact absurd two.stands (one.first other greater)

theorem FirstAt.is_infix {literal text : List Char} {index : Nat}
    (one : FirstAt literal text index) : literal <:+: text :=
  one.stands.isInfix.trans (List.drop_suffix _ _).isInfix

theorem firstAt_zero {literal text : List Char} : FirstAt literal text 0 ↔ literal <+: text :=
  ⟨FirstAt.stands, fun begins => ⟨begins, fun _ less => absurd less (Nat.not_lt_zero _)⟩⟩

theorem firstAt_succ {literal text : List Char} {rune : Char} {index : Nat} :
    FirstAt literal (rune :: text) (index + 1) ↔
      ¬ literal <+: rune :: text ∧ FirstAt literal text index := by
  constructor
  · intro one
    refine ⟨one.first 0 (Nat.succ_pos _), one.stands, ?_⟩
    intro earlier less
    exact one.first (earlier + 1) (Nat.succ_lt_succ less)
  · rintro ⟨absent, one⟩
    refine ⟨one.stands, ?_⟩
    intro earlier less
    cases earlier with
    | zero => exact absent
    | succ earlier => exact one.first earlier (Nat.lt_of_succ_lt_succ less)

def occurrence? (literal : List Char) : List Char → Option Nat
  | [] => if literal.isEmpty then some 0 else none
  | rune :: rest =>
      if literal.isPrefixOf (rune :: rest) then some 0
      else (occurrence? literal rest).map (· + 1)

theorem occurrence?_eq_some_iff {literal text : List Char} {index : Nat} :
    occurrence? literal text = some index ↔ FirstAt literal text index := by
  induction text generalizing index with
  | nil =>
      unfold occurrence?
      cases literal with
      | nil =>
          constructor
          · intro found
            cases found
            exact firstAt_zero.mpr (List.prefix_refl _)
          · intro one
            rw [one.unique (firstAt_zero.mpr (List.prefix_refl _))]
            rfl
      | cons expected others =>
          constructor
          · intro found
            cases found
          · intro one
            have stands := one.stands
            rw [List.drop_nil] at stands
            cases List.prefix_nil.mp stands
  | cons rune rest ih =>
      unfold occurrence?
      by_cases begins : literal <+: rune :: rest
      · rw [if_pos (List.isPrefixOf_iff_prefix.mpr begins), Option.some.injEq]
        exact ⟨fun same => same ▸ firstAt_zero.mpr begins,
          fun one => (firstAt_zero.mpr begins).unique one⟩
      · rw [if_neg (fun found => begins (List.isPrefixOf_iff_prefix.mp found)),
          Option.map_eq_some_iff]
        constructor
        · rintro ⟨index, found, rfl⟩
          exact firstAt_succ.mpr ⟨begins, ih.mp found⟩
        · intro one
          cases index with
          | zero => exact absurd (firstAt_zero.mp one) begins
          | succ index => exact ⟨index, ih.mpr (firstAt_succ.mp one).2, rfl⟩

theorem occurrence?_eq_none_iff {literal text : List Char} :
    occurrence? literal text = none ↔ ¬ literal <:+: text := by
  induction text with
  | nil =>
      unfold occurrence?
      rw [List.infix_nil]
      cases literal with
      | nil => exact iff_of_false (by decide) (fun absent => absent rfl)
      | cons expected others => exact iff_of_true rfl (List.cons_ne_nil _ _)
  | cons rune rest ih =>
      unfold occurrence?
      rw [List.infix_cons_iff, not_or, ← ih]
      by_cases begins : literal <+: rune :: rest
      · rw [if_pos (List.isPrefixOf_iff_prefix.mpr begins)]
        exact iff_of_false (fun none => by cases none) (fun absent => absent.1 begins)
      · rw [if_neg (fun found => begins (List.isPrefixOf_iff_prefix.mp found)),
          Option.map_eq_none_iff]
        exact (and_iff_right begins).symm

/-- A single rune first occurs at its index. -/
theorem firstAt_idxOf {text : List Char} {rune : Char} (member : rune ∈ text) :
    FirstAt [rune] text (text.idxOf rune) := by
  induction text with
  | nil => cases member
  | cons first rest ih =>
      rw [List.idxOf_cons]
      by_cases same : first = rune
      · rw [beq_iff_eq.mpr same, cond_true, same]
        exact firstAt_zero.mpr (List.prefix_append [rune] rest)
      · rw [beq_eq_false_iff_ne.mpr same, cond_false]
        refine firstAt_succ.mpr ⟨?_, ih (List.mem_of_ne_of_mem (Ne.symm same) member)⟩
        intro begins
        exact same (List.cons_prefix_cons.mp begins).1.symm

theorem exists_firstAt {literal text : List Char} (occurs : literal <:+: text) :
    ∃ index, FirstAt literal text index := by
  cases found : occurrence? literal text with
  | none => exact absurd occurs (occurrence?_eq_none_iff.mp found)
  | some index => exact ⟨index, occurrence?_eq_some_iff.mp found⟩

end RuneScan
