import RuneScan.Proofs.Lexer.Progress
import RuneScan.Proofs.PositionLaw
import RuneScan.Proofs.Reader.Calls
import RuneScan.Proofs.Reader.Unfolding

/-!
A lexer makes progress and covers its input, whatever the source does. Each turn of its loop drops a
gap of whitespace and cuts off a token that holds the rune it looked at, so the turns come to an end
and the gaps and tokens are all that is consumed. The loop stops where nothing is left, or where the
source was not ready.
-/

namespace RuneScan

open Utf8 (Decodes runes)

namespace Lexer

variable {Kind : Type}

/-- The turns of a lexer. Every rune that is looked at begins a turn, and another follows it; there is
no end but where no rune can be had. -/
inductive Grammar.Turns (grammar : Grammar Kind) : Reader → List (Token Kind) → Reader → Prop where
  | done (reader after : Reader) : (skipGap reader).peek = (none, after) →
      grammar.Turns reader [] after
  | turn (reader after last : Reader) (rune : Char) (others : List (Token Kind)) :
      (skipGap reader).peek = (some rune, after) →
      grammar.Turns (grammar.scan rune after).2.emit.2 others last →
      grammar.Turns reader
        (⟨(grammar.scan rune after).1, (grammar.scan rune after).2.emit.1⟩ :: others) last

structure Gap (text : List UInt8) (blank : List Rune) : Prop where
  decodes : Decodes text blank
  whitespace : ∀ rune ∈ blank, Unicode.isWhitespace rune.char = true

/-- A text is made of gaps and tokens in turn, and behind the runes `before` of the stream each token
stands where its first rune does. -/
inductive Covers : List Rune → List (Token Kind) → List UInt8 → List Rune → Prop where
  | gap (before blank : List Rune) (text : List UInt8) : Gap text blank →
      Covers before [] text blank
  | token (before blank inside rest : List Rune) (text more : List UInt8) (token : Token Kind)
      (others : List (Token Kind)) : Gap text blank → Decodes token.lexeme.text inside →
      token.lexeme.position = .after ((before ++ blank).map Rune.char) →
      Covers (before ++ blank ++ inside) others more rest →
      Covers before (token :: others) (text ++ (token.lexeme.text ++ more))
        (blank ++ (inside ++ rest))

end Lexer

open Lexer

namespace Reader

variable {decoded before inside : List Rune} {reader after : Reader}

/-- What is cut off where the pending token was empty is what the cursor has passed. -/
theorem Stands.cut (stands : Stands decoded before reader) (idle : reader.pending = [])
    (passes : Passes reader inside after) (sound : after.Sound) :
    Decodes after.pending inside ∧ reader.coming = after.pending ++ after.ignore.coming ∧
      Stands decoded (before ++ inside) after.ignore := by
  have same : runes after.pending = inside := by
    rw [passes.runes_eq, idle, Utf8.runes_nil, List.nil_append]
  have whole := passes.whole_eq
  rw [idle, List.nil_append] at whole
  have next := (stands.of_passes passes sound).ignore
  rw [same] at next
  rw [← same, coming_ignore]
  exact ⟨Utf8.decodes_runes _, whole.symm, same ▸ next⟩

structure Dropped (decoded before blank : List Rune) (text : List UInt8)
    (reader after : Reader) : Prop where
  gap : Gap text blank
  coming_eq : reader.coming = text ++ after.coming
  stands : Stands decoded (before ++ blank) after
  idle : after.pending = []

theorem Stands.skipGap (stands : Stands decoded before reader) (idle : reader.pending = []) :
    ∃ blank text, Dropped decoded before blank text reader (skipGap reader) := by
  obtain ⟨blank, ran⟩ :=
    stands.sound.acceptRunFrom (.ofClass Unicode.isWhitespace) #[]
  obtain ⟨decodes, coming, later⟩ := stands.cut idle ran.passes ran.later.sound
  refine ⟨blank, _, ⟨decodes, ?_⟩, coming, later, pending_ignore _⟩
  have accepted := RuneTest.accepts_ofClass.mp ran.accepts
  rw [← ran.chars_eq] at accepted
  exact List.forall_mem_map.mp accepted

end Reader

namespace Lexer

open Reader (Certain Dropped Onward Poised Reaches RunsDry Stands)

variable {Kind : Type} {decoded before : List Rune} {reader after : Reader}

structure Covering (grammar : Grammar Kind) (decoded before : List Rune) (reader : Reader)
    (tokens : List (Token Kind)) (after : Reader) : Prop where
  turns : grammar.Turns reader tokens after
  filled : ∀ token ∈ tokens, token.lexeme.text ≠ []
  covers : ∃ text inside, reader.coming = text ++ after.coming ∧
    Covers before tokens text inside ∧ Stands decoded (before ++ inside) after
  idle : after.pending = []
  dry : RunsDry reader after

def Grammar.Advances (grammar : Grammar Kind) : Prop :=
  ∀ rune reader, Poised rune reader → Onward 1 reader (grammar.scan rune reader).2

/-- The last turn finds a gap and no rune behind it. -/
theorem Grammar.covering_done (grammar : Grammar Kind) (certain : reader.Certain)
    (stands : Stands decoded before reader) (idle : reader.pending = [])
    (looked : (skipGap reader).peek = (none, after)) :
    (∃ texts, Reaches reader texts after) ∧ Covering grammar decoded before reader [] after := by
  obtain ⟨blank, text, dropped⟩ := stands.skipGap idle
  have gap := (skipGap_leads reader).reaches
  have looking := (Reader.peek_leads (skipGap reader)).reaches
  have start := gap.certain certain
  obtain ⟨missed, passes⟩ := start.sound.peek_missed looked
  rw [looked] at looking
  have last := looking.certain start
  obtain ⟨pending, coming, _⟩ := passes.nil_eq start.sound last.sound
  refine ⟨⟨_, gap.trans looking⟩, ?_⟩
  constructor
  · exact .done reader after looked
  · intro token member
    cases member
  · refine ⟨text, blank, ?_, .gap before blank text dropped.gap, ?_⟩
    · rw [coming]
      exact dropped.coming_eq
    · exact dropped.stands.of_passes passes last.sound
  · exact pending.trans dropped.idle
  · exact gap.runsDry looking certain.sound certain.laid
      (start.sound.next_missed start.laid missed)

structure Turned (decoded before blank inside : List Rune) (text : List UInt8) (reader : Reader)
    (lexeme : Lexeme) (after : Reader) : Prop where
  reaches : ∃ texts, Reaches reader texts after
  gap : Gap text blank
  decodes : Decodes lexeme.text inside
  filled : lexeme.text ≠ []
  position_eq : lexeme.position = .after ((before ++ blank).map Rune.char)
  coming_eq : reader.coming = text ++ (lexeme.text ++ after.coming)
  stands : Stands decoded (before ++ blank ++ inside) after

theorem Grammar.Advances.turned {grammar : Grammar Kind} (advances : grammar.Advances)
    (certain : reader.Certain) (stands : Stands decoded before reader)
    (idle : reader.pending = []) {rune : Char}
    (looked : (skipGap reader).peek = (some rune, after)) :
    ∃ blank inside text, Turned decoded before blank inside text reader
      (grammar.scan rune after).2.emit.1 (grammar.scan rune after).2.emit.2 := by
  obtain ⟨blank, text, dropped⟩ := stands.skipGap idle
  have gap := (skipGap_leads reader).reaches
  have looking := (Reader.peek_leads (skipGap reader)).reaches
  have start := gap.certain certain
  obtain ⟨same, poised⟩ := start.poised_of_peek looked
  rw [looked] at looking
  have onward := advances rune after poised
  have scanned := onward.certain poised.certain
  obtain ⟨inside, some, passes⟩ := onward.passes
  have whole : Reader.Passes (skipGap reader) inside (grammar.scan rune after).2 :=
    same.trans passes
  obtain ⟨decodes, coming, later⟩ := dropped.stands.cut dropped.idle whole scanned.sound
  refine ⟨blank, inside, text, ?_⟩
  constructor
  · exact ⟨_, (gap.trans looking).trans
      (onward.reaches.trans (Reader.ignore_leads _).reaches)⟩
  · exact dropped.gap
  · exact decodes
  · intro empty
    change (grammar.scan rune after).2.pending = [] at empty
    rw [empty] at decodes
    rw [decodes.eq_runes, Utf8.runes_nil] at some
    exact absurd some (Nat.not_succ_le_zero _)
  · exact (dropped.stands.of_passes whole scanned.sound).tokenStart_eq
  · rw [dropped.coming_eq, coming]
    rfl
  · exact later

theorem Turned.covering {grammar : Grammar Kind} {blank inside : List Rune} {text : List UInt8}
    {token : Token Kind} {others : List (Token Kind)} {last : Reader}
    (turned : Turned decoded before blank inside text reader token.lexeme after)
    (certain : reader.Certain) (turns : grammar.Turns reader (token :: others) last)
    (reaches : ∃ texts, Reaches after texts last)
    (rest : Covering grammar decoded (before ++ blank ++ inside) after others last) :
    Covering grammar decoded before reader (token :: others) last := by
  obtain ⟨earlier, first⟩ := turned.reaches
  obtain ⟨later, second⟩ := reaches
  obtain ⟨more, follows, coming, covers, stands⟩ := rest.covers
  constructor
  · exact turns
  · exact List.forall_mem_cons.mpr ⟨turned.filled, rest.filled⟩
  · refine ⟨text ++ (token.lexeme.text ++ more), blank ++ (inside ++ follows), ?_, ?_, ?_⟩
    · rw [turned.coming_eq, coming]
      simp only [List.append_assoc]
    · exact .token before blank inside follows text more token others turned.gap turned.decodes
        turned.position_eq covers
    · simp only [List.append_assoc] at stands
      exact stands
  · exact rest.idle
  · exact first.runsDry second certain.sound certain.laid rest.dry

theorem Grammar.Advances.covering {grammar : Grammar Kind} (advances : grammar.Advances)
    (certain : reader.Certain) (idle : reader.pending = []) :
    ∀ before, Stands decoded before reader →
      (∃ texts, Reaches reader texts (grammar.tokens reader).2) ∧
        Covering grammar decoded before reader (grammar.tokens reader).1
          (grammar.tokens reader).2 := by
  fun_induction Grammar.tokens grammar reader with
  | case1 reader after looked =>
      intro before stands
      exact grammar.covering_done certain stands idle looked
  | case2 reader rune after looked scanned cut token holds others last result ih =>
      intro before stands
      obtain ⟨blank, inside, text, turned⟩ := advances.turned certain stands idle looked
      obtain ⟨earlier, first⟩ := turned.reaches
      obtain ⟨reaches, rest⟩ :=
        ih (first.certain certain) (Reader.pending_ignore _) _ turned.stands
      rw [result] at reaches rest
      obtain ⟨later, second⟩ := reaches
      refine ⟨⟨_, first.trans second⟩, turned.covering certain ?_ ⟨later, second⟩ rest⟩
      exact .turn reader after last rune others looked rest.turns
  | case3 reader rune after looked scanned cut token empty =>
      intro before stands
      -- The guard of the loop never stops it: the token holds the rune that was looked at.
      obtain ⟨blank, inside, text, turned⟩ := advances.turned certain stands idle looked
      have start := (skipGap_leads reader).reaches.certain certain
      obtain ⟨_, poised⟩ := start.poised_of_peek looked
      have ordered := ((advances rune after poised).certain poised.certain).laid.intake.ordered
      have filled : (grammar.scan rune after).2.pending ≠ [] := turned.filled
      exact absurd (ordered.holdsToken_eq.trans (decide_eq_true filled)) empty

end Lexer

/-- In every state that commands lead to, if the pending token is empty, both lexers cover what they
consume, and stop at the end of the stream or where the source was not ready. -/
theorem lexers_cover_input {source : Source} (honest : source.Honest) {decoded : List Rune}
    (decodes : Decodes source.stream decoded) (sizing : Sizing) (commands : List Command) :
    let fresh := Reader.start source sizing
    let cut := (fresh.cutByAll commands).flatten
    let reader := (fresh.performAll commands).2
    reader.pending = [] →
      ∃ before, Decodes cut before ∧ source.stream = cut ++ reader.coming ∧
        Covering Snippet.grammar decoded before reader (Snippet.tokens reader).1
          (Snippet.tokens reader).2 ∧
        Covering Listing.grammar decoded before reader (Listing.tokens reader).1
          (Listing.tokens reader).2 := by
  intro fresh cut reader idle
  have reaches : Reader.Reaches fresh (fresh.cutByAll commands) reader :=
    Reader.performAll_reaches fresh commands
  have certain := reaches.certain (Reader.certain_start honest sizing)
  have stands := reaches.stands honest
  rw [← decodes.eq_runes] at stands
  have stream := (reaches.runes_stream honest).2.2
  rw [idle, List.append_nil] at stream
  have snippet : Snippet.grammar.Advances := fun _ _ poised => Snippet.onward_scan poised
  have listing : Listing.grammar.Advances := fun _ _ poised => Listing.onward_scan poised
  exact ⟨runes cut, Utf8.decodes_runes _, stream.symm,
    (snippet.covering certain idle _ stands).2, (listing.covering certain idle _ stands).2⟩

/-- The source is not ready for long between the two slashes of a comment, and breaks down behind them.
The lexer cuts off what is there, the first slash by itself, and stops at the stall. -/
theorem lexers_cover_input_cut_comment :
    let source := Source.ofEvents ([.data [0x20, 0x61, 0xE2, 0x2F]] ++
      List.replicate 40 (.failure ⟨.wouldBlock, none⟩) ++
      [.data [0x2F, 0x0A], .failure ⟨.connectionReset, none⟩])
    let decoded : List Rune := [⟨' ', 1⟩, ⟨'a', 1⟩, ⟨Utf8.replacement, 1⟩, ⟨'/', 1⟩, ⟨'/', 1⟩,
      ⟨'\n', 1⟩]
    let fresh := Reader.start source ⟨4, 4⟩
    let cut := (fresh.cutByAll [.next, .ignore]).flatten
    let reader := (fresh.performAll [.next, .ignore]).2
    source.Honest ∧ Decodes source.stream decoded ∧ reader.pending = [] ∧
      (Snippet.tokens reader).1.map (fun token => token.lexeme.text) = [[0x61], [0xE2], [0x2F]] ∧
      (Snippet.tokens reader).2.error? = none ∧
      ∃ before, Decodes cut before ∧ source.stream = cut ++ reader.coming ∧
        Covering Snippet.grammar decoded before reader (Snippet.tokens reader).1
          (Snippet.tokens reader).2 ∧
        Covering Listing.grammar decoded before reader (Listing.tokens reader).1
          (Listing.tokens reader).2 := by
  intro source decoded fresh cut reader
  have honest : source.Honest := by decide
  have stream : runes source.stream = decoded := by decide +kernel
  have decodes : Decodes source.stream decoded := stream ▸ Utf8.decodes_runes _
  have idle : reader.pending = [] := by decide +kernel
  have texts : (Snippet.tokens reader).1.map (fun token => token.lexeme.text) =
      [[0x61], [0xE2], [0x2F]] := by decide +kernel
  have error : (Snippet.tokens reader).2.error? = none := by decide +kernel
  exact ⟨honest, decodes, idle, texts, error,
    lexers_cover_input honest decodes ⟨4, 4⟩ [.next, .ignore] idle⟩

end RuneScan
