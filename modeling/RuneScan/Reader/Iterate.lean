import RuneScan.Reader.Accept

/-!
Runs of `next` that give nothing back.
-/

namespace RuneScan.Reader

def take : Nat → Reader → List Char × Reader
  | 0, reader => ([], reader)
  | count + 1, reader =>
      match reader.next with
      | (none, after) => ([], after)
      | (some rune, after) =>
          let (runes, last) := take count after
          (rune :: runes, last)

def nth : Nat → Reader → Option Char × Reader
  | 0, reader => reader.next
  | count + 1, reader =>
      match reader.next with
      | (none, after) => (none, after)
      | (some _, after) => nth count after

def rest (reader : Reader) : List Char × Reader :=
  match _taken : reader.next with
  | (none, after) => ([], after)
  | (some rune, after) =>
      let (runes, last) := rest after
      (rune :: runes, last)
termination_by reader.remaining
decreasing_by exact next_remaining_lt _taken

/-- Consumes runes while the test holds, and with them the rune for which it fails. -/
def takeWhileFrom (test : RuneTest) (shown : Array Char) (reader : Reader) : Run × Reader :=
  match _taken : reader.next with
  | (none, after) => (.empty, after)
  | (some rune, after) =>
      if test shown rune then
        let (run, last) := takeWhileFrom test (shown.push rune) after
        (⟨rune :: run.accepted, run.rejected⟩, last)
      else
        (⟨[], some rune⟩, after)
termination_by reader.remaining
decreasing_by exact next_remaining_lt _taken

/-- Cuts off every rune by itself, with its width in bytes. Where the source was not ready the list
holds nothing in its place and the reader asks again, up to `retries` times in all. -/
def drain (retries : Nat) (reader : Reader) : List (Option Rune) × Reader :=
  match _taken : reader.next with
  | (some rune, after) =>
      let (others, last) := drain retries after.ignore
      (some ⟨rune, after.pending.length⟩ :: others, last)
  | (none, after) =>
      match retries with
      | 0 => ([], after)
      | fewer + 1 =>
          if after.error?.isSome then
            ([], after)
          else
            let (others, last) := drain fewer after
            (none :: others, last)
termination_by (retries, reader.remaining)
decreasing_by
  · exact Prod.Lex.right _
      (Nat.lt_of_le_of_lt (Nat.le_of_eq after.ignore_remaining) (next_remaining_lt _taken))
  · exact Prod.Lex.left _ _ (Nat.lt_succ_self _)

end RuneScan.Reader
