import VllmEngine.Output.IncrementalLexer

set_option autoImplicit false

namespace VllmEngine

open List LexToken

def LexToken.explode (token : LexToken) : List LexToken :=
  if token.terminal = contentTerminal then token.value.map fun char => ⟨contentTerminal, [char]⟩
  else [token]

namespace LexerShape

variable {shape : LexerShape} {buffer text more : List Char} {first : Char}
  {best literal : List Char × Terminal} {tokens : List LexToken}

section Best

theorem mem_literalsByFirst :
    literal ∈ shape.literalsByFirst first ↔
      literal ∈ shape.literalStrings ∧ literal.1.head? = some first := by
  simp [literalsByFirst]

variable {previous : Option (List Char × Terminal)} {literals : List (List Char × Terminal)}

theorem longerMatch_cases :
    longerMatch buffer previous literal = previous ∨
      longerMatch buffer previous literal = some literal ∧ literal.1 <+: buffer := by
  by_cases longer : literal.1 <+: buffer ∧
      (previous.all fun best => best.1.length < literal.1.length) = true
  · exact .inr ⟨by rw [longerMatch, if_pos longer], longer.1⟩
  · exact .inl (by rw [longerMatch, if_neg longer])

theorem foldl_longerMatch (found : literals.foldl (longerMatch buffer) previous = some best) :
    previous = some best ∨ best ∈ literals ∧ best.1 <+: buffer := by
  induction literals generalizing previous with
  | nil => exact .inl found
  | cons literal literals ih =>
    rcases ih found with earlier | ⟨member, stands⟩
    · rcases @longerMatch_cases buffer literal previous with same | ⟨taken, stands⟩
      · exact .inl (same.symm.trans earlier)
      · rw [taken, Option.some.injEq] at earlier
        subst earlier
        exact .inr ⟨mem_cons_self, stands⟩
    · exact .inr ⟨mem_cons_of_mem _ member, stands⟩

theorem foldl_longerMatch_some (present : previous ≠ none) :
    literals.foldl (longerMatch buffer) previous ≠ none := by
  induction literals generalizing previous with
  | nil => exact present
  | cons literal literals ih =>
    apply ih
    rcases @longerMatch_cases buffer literal previous with same | ⟨taken, -⟩
    · rwa [same]
    · simp [taken]

theorem foldl_longerMatch_none :
    literals.foldl (longerMatch buffer) none = none ↔
      ∀ literal ∈ literals, ¬literal.1 <+: buffer := by
  induction literals with
  | nil => simp
  | cons literal literals ih =>
    by_cases stands : literal.1 <+: buffer
    · have taken : longerMatch buffer none literal = some literal := by simp [longerMatch, stands]
      rw [foldl_cons, taken]
      constructor
      · intro nothing
        exact absurd nothing (foldl_longerMatch_some (by simp))
      · intro absent
        exact absurd stands (absent literal mem_cons_self)
    · have skipped : longerMatch buffer none literal = none := by simp [longerMatch, stands]
      rw [foldl_cons, skipped, ih]
      simp [stands]

theorem bestMatch_some (found : shape.bestMatch buffer = some best) :
    best ∈ shape.literalStrings ∧ best.1 <+: buffer ∧ best.1 ≠ [] := by
  cases buffer with
  | nil => cases found
  | cons first rest =>
    rcases foldl_longerMatch found with absurd_ | ⟨member, stands⟩
    · cases absurd_
    · obtain ⟨member, head⟩ := mem_literalsByFirst.mp member
      refine ⟨member, stands, ?_⟩
      rintro empty
      simp [empty] at head

theorem bestMatch_none_of_first (absent : first ∉ shape.literalFirstChars) :
    shape.bestMatch (first :: text) = none := by
  have none_listed : shape.literalsByFirst first = [] := by
    rw [literalsByFirst, filter_eq_nil_iff]
    intro literal member head
    apply absent
    simp only [literalFirstChars, mem_filterMap]
    exact ⟨literal, member, by simpa using head⟩
  simp [bestMatch, none_listed]

theorem mem_prefixSet (member : literal ∈ shape.literalStrings) (some_text : buffer ≠ [])
    (starts : buffer <+: literal.1) (shorter : buffer.length < literal.1.length) :
    buffer ∈ shape.prefixSet := by
  have positive := List.length_pos_iff.mpr some_text
  simp only [prefixSet, mem_flatMap, mem_map, mem_range'_1]
  exact ⟨literal, member, buffer.length, by omega, (List.prefix_iff_eq_take.mp starts).symm⟩

theorem of_mem_prefixSet (member : buffer ∈ shape.prefixSet) :
    ∃ literal ∈ shape.literalStrings, buffer ≠ [] ∧ buffer <+: literal.1 ∧
      buffer.length < literal.1.length := by
  simp only [prefixSet, mem_flatMap, mem_map, mem_range'_1] at member
  obtain ⟨literal, listed, count, ⟨_, _⟩, rfl⟩ := member
  have short : (literal.1.take count).length = count := by
    rw [length_take]
    omega
  refine ⟨literal, listed, ?_, take_prefix _ _, by omega⟩
  rintro empty
  rw [empty, length_nil] at short
  omega

theorem bestMatch_append (settled : buffer ∉ shape.prefixSet) (some_text : buffer ≠ []) :
    shape.bestMatch (buffer ++ more) = shape.bestMatch buffer := by
  have stands_iff : ∀ literal ∈ shape.literalStrings,
      (literal.1 <+: buffer ++ more ↔ literal.1 <+: buffer) := by
    intro literal member
    constructor
    · intro stands
      rcases prefix_or_prefix_of_prefix stands (prefix_append buffer more) with
        within | beyond
      · exact within
      · by_cases shorter : buffer.length < literal.1.length
        · exact absurd (mem_prefixSet member some_text beyond shorter) settled
        · rw [List.IsPrefix.eq_of_length_le beyond (by omega)]
    · exact fun stands => stands.trans (prefix_append _ _)
  cases buffer with
  | nil => exact absurd rfl some_text
  | cons first rest =>
    rw [cons_append, bestMatch, bestMatch, ← cons_append]
    apply foldl_ext
    intro previous literal member
    simp only [longerMatch, stands_iff literal (mem_literalsByFirst.mp member).1]

theorem startsLiteral_of_prefix (member : literal ∈ shape.literalStrings)
    (stands : literal.1 <+: text ++ more) : shape.startsLiteral text = true := by
  rw [startsLiteral, any_eq_true]
  refine ⟨literal, member, ?_⟩
  rw [beq_iff_eq]
  rcases prefix_or_prefix_of_prefix stands (prefix_append text more) with within | beyond
  · rw [min_eq_right within.length_le, take_length]
    exact (List.prefix_iff_eq_take.mp within).symm
  · rw [min_eq_left beyond.length_le, take_length]
    exact List.prefix_iff_eq_take.mp beyond

theorem bestMatch_none_of_boundary
    (passed : ¬(first ∈ shape.literalFirstChars ∧ shape.startsLiteral (first :: text) = true)) :
    shape.bestMatch (first :: text ++ more) = none := by
  by_cases candidate : first ∈ shape.literalFirstChars
  · rw [cons_append, bestMatch, foldl_longerMatch_none]
    intro literal member stands
    exact passed ⟨candidate, startsLiteral_of_prefix (mem_literalsByFirst.mp member).1 stands⟩
  · exact bestMatch_none_of_first candidate

end Best

inductive Lexes (shape : LexerShape) : List Char → List LexToken → Prop
  | nil : Lexes shape [] []
  | terminal {best : List Char × Terminal} {text : List Char} {tokens : List LexToken}
    (found : shape.bestMatch (best.1 ++ text) = some best) (rest : Lexes shape text tokens) :
    Lexes shape (best.1 ++ text) (LexToken.explode ⟨best.2, best.1⟩ ++ tokens)
  | content {first : Char} {text : List Char} {tokens : List LexToken}
    (absent : shape.bestMatch (first :: text) = none) (rest : Lexes shape text tokens) :
    Lexes shape (first :: text) (⟨contentTerminal, [first]⟩ :: tokens)

namespace Lexes

theorem unique {tokens' : List LexToken} (lexes : Lexes shape text tokens)
    (lexes' : Lexes shape text tokens') : tokens = tokens' := by
  induction lexes generalizing tokens' with
  | nil =>
    generalize source : ([] : List Char) = whole at lexes'
    cases lexes' with
    | nil => rfl
    | terminal found rest =>
      have some_text := (bestMatch_some found).2.2
      simp only [nil_eq, append_eq_nil_iff] at source
      exact absurd source.1 some_text
    | content absent rest => cases source
  | @terminal best text tokens found rest ih =>
    generalize source : best.1 ++ text = whole at lexes'
    cases lexes' with
    | nil =>
      rw [append_eq_nil_iff] at source
      exact absurd source.1 (bestMatch_some found).2.2
    | @terminal best' text' tokens' found' rest' =>
      rw [source, found', Option.some.injEq] at found
      subst found
      rw [append_cancel_left_eq] at source
      subst source
      rw [ih rest']
    | content absent rest' => rw [source, absent] at found; cases found
  | @content first text tokens absent rest ih =>
    generalize source : first :: text = whole at lexes'
    cases lexes' with
    | nil => cases source
    | terminal found rest' => rw [source, found] at absent; cases absent
    | content absent' rest' =>
      obtain ⟨rfl, rfl⟩ := List.cons.inj source
      rw [ih rest']

end Lexes

section Drain

def contentTokens (text : List Char) : List LexToken :=
  text.map fun char => ⟨contentTerminal, [char]⟩

theorem explode_content (text : List Char) :
    explode ⟨contentTerminal, text⟩ = contentTokens text := by
  simp [explode, contentTokens]

theorem lexes_plain (plain : ∀ char ∈ buffer, char ∉ shape.literalFirstChars)
    (rest : Lexes shape more tokens) :
    Lexes shape (buffer ++ more) (contentTokens buffer ++ tokens) := by
  induction buffer with
  | nil => exact rest
  | cons first buffer ih =>
    apply Lexes.content
    · exact bestMatch_none_of_first (plain first mem_cons_self)
    · exact ih fun char member => plain char (mem_cons_of_mem _ member)

theorem lexes_contentLength (buffer : List Char)
    (rest : Lexes shape (buffer.drop (shape.contentLength buffer) ++ more) tokens) :
    Lexes shape (buffer ++ more)
      (contentTokens (buffer.take (shape.contentLength buffer)) ++ tokens) := by
  induction buffer with
  | nil => exact rest
  | cons first buffer ih =>
    by_cases stops : first ∈ shape.literalFirstChars ∧ shape.startsLiteral (first :: buffer) = true
    · simpa only [contentLength, stops, and_self, if_true, drop_zero, take_zero,
        contentTokens, map_nil, nil_append] using rest
    · rw [contentLength, if_neg stops] at rest ⊢
      rw [take_succ_cons]
      exact Lexes.content (bestMatch_none_of_boundary stops) (ih rest)

theorem lexes_findContentBoundary (absent : shape.bestMatch (first :: buffer ++ more) = none)
    (rest : Lexes shape ((first :: buffer).drop (shape.findContentBoundary (first :: buffer)) ++
      more) tokens) :
    Lexes shape (first :: buffer ++ more)
      (contentTokens ((first :: buffer).take (shape.findContentBoundary (first :: buffer))) ++
        tokens) := by
  rw [findContentBoundary, tail_cons, Nat.add_comm] at rest ⊢
  rw [take_succ_cons]
  exact Lexes.content absent (lexes_contentLength buffer rest)

theorem lexes_terminal (found : shape.bestMatch (buffer ++ more) = some best)
    (stands : best.1 <+: buffer) (rest : Lexes shape (buffer.drop best.1.length ++ more) tokens) :
    Lexes shape (buffer ++ more) (explode ⟨best.2, best.1⟩ ++ tokens) := by
  obtain ⟨_, rfl⟩ := stands
  rw [drop_left] at rest
  rw [append_assoc] at found ⊢
  exact Lexes.terminal found rest

theorem waits_of_mem_prefixSet (held : first :: buffer ∈ shape.prefixSet)
    (found : shape.bestMatch (first :: buffer) = some best) :
    ((shape.literalsByFirst first).any fun literal =>
      best.1.length < literal.1.length ∧ first :: buffer <+: literal.1) = true := by
  obtain ⟨literal, member, -, starts, _⟩ := of_mem_prefixSet held
  have short := (bestMatch_some found).2.1.length_le
  rw [any_eq_true]
  refine ⟨literal, mem_literalsByFirst.mpr ⟨member, ?_⟩, ?_⟩
  · obtain ⟨_, same⟩ := starts
    simp [← same]
  · rw [decide_eq_true_eq]
    exact ⟨by omega, starts⟩

theorem drainLoop_lexes (final : Bool) (ended : final = true → more = []) (fuel : Nat)
    (buffer : List Char)
    (rest : Lexes shape ((shape.drainLoop final fuel buffer).2 ++ more) tokens) :
    Lexes shape (buffer ++ more)
      ((shape.drainLoop final fuel buffer).1.flatMap explode ++ tokens) := by
  induction fuel generalizing buffer with
  | zero => exact rest
  | succ fuel ih =>
    cases buffer with
    | nil => exact rest
    | cons first buffer =>
      unfold drainLoop at rest ⊢
      simp only at rest ⊢
      split at rest
      · rename_i plain
        rw [if_pos plain]
        simpa [explode_content] using lexes_plain plain.2.2 rest
      · rename_i candidate
        rw [if_neg candidate]
        split at rest
        · rename_i held
          rw [if_pos held]
          split at rest
          · exact rest
          · rename_i best found
            simp only [waits_of_mem_prefixSet held.1 found] at rest ⊢
            exact rest
        · rename_i settled
          rw [if_neg settled]
          have kept : shape.bestMatch (first :: buffer ++ more) =
              shape.bestMatch (first :: buffer) := by
            cases final with
            | true => rw [ended rfl, append_nil]
            | false =>
              exact bestMatch_append (fun member => settled ⟨member, rfl⟩) (by simp)
          split at rest
          · rename_i best found
            rw [flatMap_cons, append_assoc]
            exact lexes_terminal (kept.trans found) (bestMatch_some found).2.1 (ih _ rest)
          · rename_i absent
            rw [flatMap_cons, append_assoc, explode_content]
            exact lexes_findContentBoundary (kept.trans absent) (ih _ rest)

theorem drainLoop_final (fuel : Nat) (buffer : List Char) (enough : buffer.length ≤ fuel) :
    (shape.drainLoop true fuel buffer).2 = [] := by
  induction fuel generalizing buffer with
  | zero => exact List.length_eq_zero_iff.mp (Nat.le_zero.mp enough)
  | succ fuel ih =>
    cases buffer with
    | nil => rfl
    | cons first buffer =>
      simp only [drainLoop, Bool.not_true, Bool.false_eq_true, and_false, if_false]
      rw [length_cons] at enough
      split
      · rfl
      · split
        · rename_i best found
          apply ih
          have positive := List.length_pos_iff.mpr (bestMatch_some found).2.2
          rw [length_drop, length_cons]
          omega
        · apply ih
          rw [length_drop, length_cons, findContentBoundary]
          omega

theorem drainLoop_values (final : Bool) (fuel : Nat) (buffer : List Char) :
    ∀ token ∈ (shape.drainLoop final fuel buffer).1, token.value ≠ [] := by
  induction fuel generalizing buffer with
  | zero => simp [drainLoop]
  | succ fuel ih =>
    cases buffer with
    | nil => simp [drainLoop]
    | cons first buffer =>
      unfold drainLoop
      simp only
      repeat' split
      · simp
      · simp
      · simp
      · rename_i best found _
        exact List.forall_mem_cons.mpr ⟨(bestMatch_some found).2.2, ih _⟩
      · rename_i best found
        exact List.forall_mem_cons.mpr ⟨(bestMatch_some found).2.2, ih _⟩
      · refine List.forall_mem_cons.mpr ⟨?_, ih _⟩
        simp [findContentBoundary]

end Drain

end LexerShape

namespace IncrementalLexer

open LexerShape

variable {lexer : IncrementalLexer} {more : List Char} {tokens : List LexToken}

theorem feed_shape (text : List Char) : (lexer.feed text).2.shape = lexer.shape := by
  simp only [feed]
  split <;> rfl

theorem feed_lexes (text : List Char)
    (rest : Lexes lexer.shape ((lexer.feed text).2.buffer ++ more) tokens) :
    Lexes lexer.shape (lexer.buffer ++ text ++ more)
      ((lexer.feed text).1.flatMap explode ++ tokens) := by
  unfold feed at rest ⊢
  split at rest
  · rename_i plain
    rw [if_pos plain]
    rw [plain.1, nil_append] at rest ⊢
    simpa [explode_content] using lexes_plain plain.2.2.2 rest
  · rename_i slow
    rw [if_neg slow]
    exact drainLoop_lexes false (by simp) _ _ rest

theorem feed_values {text : List Char} (some_text : text ≠ []) :
    ∀ token ∈ (lexer.feed text).1, token.value ≠ [] := by
  unfold feed
  split
  · simpa using some_text
  · exact drainLoop_values false _ _

theorem flush_lexes (lexer : IncrementalLexer) :
    Lexes lexer.shape lexer.buffer (lexer.flush.1.flatMap explode) := by
  have emptied : (lexer.shape.drain true lexer.buffer).2 = [] := drainLoop_final _ _ le_rfl
  have ended : Lexes lexer.shape ((lexer.shape.drain true lexer.buffer).2 ++ []) [] := by
    rw [emptied]
    exact Lexes.nil
  have lexes : Lexes lexer.shape (lexer.buffer ++ [])
      ((lexer.shape.drain true lexer.buffer).1.flatMap explode ++ []) :=
    drainLoop_lexes true (fun _ => rfl) _ _ ended
  simpa only [flush, emptied, if_true, append_nil] using lexes

end IncrementalLexer

end VllmEngine
