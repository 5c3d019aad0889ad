import VllmEngine.Output.ThinkingParser

set_option autoImplicit false

namespace VllmEngine.BaseThinkingReasoningParser

open List OccursAt

variable {Token : Type} [DecidableEq Token] {parser : BaseThinkingReasoningParser Token}
  {text : Token → List Char} {tokens previous delta before after : List Token}
  {deltas : List (List Token)}

variable (starts : text parser.startTokenId = parser.startToken)
  (ends : text parser.endTokenId = parser.endToken)
  (alone : parser.EndAlone text (before ++ parser.endTokenId :: after))
  (absent : parser.endTokenId ∉ before)

section Texts

omit [DecidableEq Token]

@[simp]
theorem texts_nil : texts text [] = [] := rfl

@[simp]
theorem texts_cons {token : Token} : texts text (token :: tokens) = text token ++ texts text tokens :=
  rfl

@[simp]
theorem texts_append : texts text (before ++ after) = texts text before ++ texts text after :=
  flatMap_append

include ends in
theorem EndAlone.stretch
    (alone : parser.EndAlone text (before ++ tokens ++ after)) : parser.EndAlone text tokens := by
  intro i occurs
  have shifted : OccursAt parser.endToken (texts text (before ++ tokens ++ after))
      ((texts text before).length + i) := by
    rw [texts_append, texts_append]
    exact ((append_left _).mpr occurs).append
  obtain ⟨front, back, same, place⟩ := alone _ shifted
  have marker := List.length_pos_iff.mpr parser.endToken_ne
  have inside := occurs.add_length_le
  -- The token found lies before, within or after the stretch; only within do the lengths fit.
  rw [append_assoc, append_eq_append_iff] at same
  rcases same with ⟨skipped, front_eq, rest⟩ | ⟨skipped, before_eq, rest⟩
  · rw [append_eq_append_iff] at rest
    rcases rest with ⟨more, skipped_eq, -⟩ | ⟨more, tokens_eq, more_eq⟩
    · rw [front_eq, skipped_eq] at place
      simp only [texts_append, length_append] at place
      omega
    · cases more with
      | nil =>
        rw [front_eq] at place
        rw [append_nil] at tokens_eq
        rw [← tokens_eq] at place
        simp only [texts_append, length_append] at place
        omega
      | cons token more =>
        obtain ⟨rfl, -⟩ := List.cons.inj more_eq
        refine ⟨skipped, more, tokens_eq, ?_⟩
        rw [front_eq, texts_append, length_append] at place
        omega
  · cases skipped with
    | nil =>
      rw [append_nil] at before_eq
      rw [← before_eq] at place
      cases tokens with
      | nil =>
        simp only [texts_nil, length_nil] at inside
        omega
      | cons token tokens =>
        obtain ⟨rfl, -⟩ := List.cons.inj rest
        exact ⟨[], tokens, rfl, by simp only [texts_nil, length_nil]; omega⟩
    | cons token skipped =>
      obtain ⟨rfl, -⟩ := List.cons.inj rest
      rw [before_eq] at place
      simp only [texts_append, texts_cons, ends, length_append] at place
      omega

end Texts

section Search

omit [DecidableEq Token]

include ends alone absent in
theorem findIndex_end :
    findIndex parser.endToken (texts text (before ++ parser.endTokenId :: after)) =
      some (texts text before).length := by
  rw [findIndex_eq_some]
  constructor
  · simp only [texts_append, texts_cons, ends, ← append_assoc]
    exact (concat_end _).append
  · intro j earlier occurs
    obtain ⟨front, back, same, rfl⟩ := alone j occurs
    -- An earlier occurrence would be an end marker before the first one.
    rw [append_eq_append_iff] at same
    rcases same with ⟨skipped, rfl, -⟩ | ⟨skipped, rfl, rest⟩
    · rw [texts_append, length_append] at earlier
      omega
    · cases skipped with
      | nil => simp at earlier
      | cons token skipped =>
        obtain ⟨rfl, -⟩ := List.cons.inj rest
        simp at absent

theorem findIndex_end_none (alone : parser.EndAlone text tokens)
    (absent : parser.endTokenId ∉ tokens) :
    findIndex parser.endToken (texts text tokens) = none := by
  rw [findIndex_eq_none]
  intro i occurs
  obtain ⟨_, _, rfl, -⟩ := alone i occurs
  simp at absent

include starts in
theorem findIndex_start :
    findIndex parser.startToken (texts text (parser.startTokenId :: tokens)) = some 0 := by
  rw [findIndex_eq_some]
  refine ⟨zero.mpr ?_, by simp⟩
  rw [texts_cons, starts]
  exact prefix_append _ _

theorem getD_orNone (chars : List Char) : (orNone chars).getD [] = chars := by
  by_cases empty : chars = [] <;> simp [orNone, empty]

include starts in
theorem partition_start :
    pyPartition (texts text (parser.startTokenId :: tokens)) parser.startToken =
      ([], parser.startToken, texts text tokens) := by
  rw [pyPartition, findIndex_start starts]
  simp [starts]

include ends alone absent in
theorem partition_end :
    pyPartition (texts text (before ++ parser.endTokenId :: after)) parser.endToken =
      (texts text before, parser.endToken, texts text after) := by
  rw [pyPartition, findIndex_end ends alone absent]
  simp [ends]

include starts in
theorem extractReasoning_open (alone : parser.EndAlone text tokens)
    (absent : parser.endTokenId ∉ tokens) :
    parser.extractReasoning (texts text (parser.startTokenId :: tokens)) =
      (some (texts text tokens), none) := by
  simp only [extractReasoning, partition_start starts, parser.startToken_ne, ne_eq,
    not_false_eq_true, if_true, findIndex_end_none alone absent]

include starts ends alone absent in
theorem extractReasoning_closed :
    parser.extractReasoning
        (texts text (parser.startTokenId :: (before ++ parser.endTokenId :: after))) =
      (some (texts text before), orNone (texts text after)) := by
  simp only [extractReasoning, partition_start starts, parser.startToken_ne, ne_eq,
    not_false_eq_true, if_true, findIndex_end ends alone absent, reduceCtorEq, if_false,
    partition_end ends alone absent]

end Search

section Steps

def keptText (parser : BaseThinkingReasoningParser Token) (text : Token → List Char)
    (delta : List Token) : List Char :=
  if delta = [parser.startTokenId] then [] else texts text delta

theorem messageOf_plain (started : parser.startTokenId ∈ previous)
    (absent : parser.endTokenId ∉ delta) :
    messageReasoning (messageOf parser text previous delta) =
        (if parser.endTokenId ∈ previous then [] else keptText parser text delta) ∧
      messageContent (messageOf parser text previous delta) =
        if parser.endTokenId ∈ previous then keptText parser text delta else [] := by
  have not_end : delta ≠ [parser.endTokenId] := by
    rintro rfl
    simp at absent
  by_cases alone : delta = [parser.startTokenId] <;>
    by_cases ended : parser.endTokenId ∈ previous <;>
    simp [messageOf, extractReasoningStreaming, keptText, messageReasoning, messageContent, alone,
      not_end, started, ended, absent]

omit [DecidableEq Token] in
theorem ne_of_end_mem (ended : parser.endTokenId ∈ delta) : [parser.startTokenId] ≠ delta := by
  rintro rfl
  exact parser.ids_ne (List.mem_singleton.mp ended).symm

include ends alone absent in
theorem messageOf_closing (started : parser.startTokenId ∈ previous) :
    messageReasoning (messageOf parser text previous (before ++ parser.endTokenId :: after)) =
        texts text before ∧
      messageContent (messageOf parser text previous (before ++ parser.endTokenId :: after)) =
        texts text after := by
  have present : parser.endTokenId ∈ before ++ parser.endTokenId :: after := by simp
  have not_start := (ne_of_end_mem present).symm
  by_cases single : before ++ parser.endTokenId :: after = [parser.endTokenId]
  · have bare : before = [] ∧ after = [] := by
      have count := congrArg List.length single
      simp only [length_append, length_cons, length_nil] at count
      exact ⟨List.length_eq_zero_iff.mp (by omega), List.length_eq_zero_iff.mp (by omega)⟩
    simp [messageOf, extractReasoningStreaming, messageReasoning, messageContent, bare]
  · have found := pyFind_zero (findIndex_end ends alone absent)
    have whole : texts text (before ++ parser.endTokenId :: after) =
        texts text before ++ (parser.endToken ++ texts text after) := by simp [ends]
    have content := @pySlice_back _ (texts text before ++ parser.endToken) (texts text after)
    rw [length_append, Int.natCast_add, append_assoc] at content
    rw [whole] at found
    simp only [messageOf, extractReasoningStreaming, not_start, single, or_self, if_false, started,
      present, if_true, whole, found, pySlice_front, content, messageReasoning, messageContent,
      Option.bind_some, Option.getD_some, getD_orNone, and_self]

include starts ends in
theorem messageOf_both (alone : parser.EndAlone text
      (parser.startTokenId :: (before ++ parser.endTokenId :: after)))
    (absent : parser.endTokenId ∉ before) :
    messageReasoning (messageOf parser text []
          (parser.startTokenId :: (before ++ parser.endTokenId :: after))) = texts text before ∧
      messageContent (messageOf parser text []
          (parser.startTokenId :: (before ++ parser.endTokenId :: after))) = texts text after := by
  have absent_all : parser.endTokenId ∉ parser.startTokenId :: before := by
    simp [absent, parser.ids_ne.symm]
  have found_start := pyFind_zero (@findIndex_start _ parser text
    (before ++ parser.endTokenId :: after) starts)
  have alone' : parser.EndAlone text
      ((parser.startTokenId :: before) ++ parser.endTokenId :: after) := alone
  have found_end := pyFind_zero (findIndex_end ends alone' absent_all)
  rw [cons_append] at found_end
  have whole : texts text (parser.startTokenId :: (before ++ parser.endTokenId :: after)) =
      parser.startToken ++ (texts text before ++ (parser.endToken ++ texts text after)) := by
    simp [starts, ends]
  have ahead : texts text (parser.startTokenId :: before) =
      parser.startToken ++ texts text before := by
    simp [starts]
  rw [whole] at found_start found_end
  rw [ahead] at found_end
  have content := @pySlice_back _ (parser.startToken ++ texts text before ++ parser.endToken)
    (texts text after)
  rw [length_append, Int.natCast_add, append_assoc, append_assoc] at content
  have long : before ++ parser.endTokenId :: after ≠ [] := by simp
  have present : parser.endTokenId ∈
      parser.startTokenId :: (before ++ parser.endTokenId :: after) := by simp
  simp only [messageOf, extractReasoningStreaming, List.cons.injEq, long, and_false, or_self,
    if_false, not_mem_nil, mem_cons_self, present, if_true, whole, found_start, found_end,
    Int.natCast_zero, Int.zero_add, pySlice_middle, content, messageReasoning, messageContent,
    Option.bind_some, Option.getD_some, getD_orNone, and_self]

theorem messageOf_leaking (more : delta ≠ []) (absent : parser.endTokenId ∉ delta) :
    messageReasoning (messageOf parser text [] (parser.startTokenId :: delta)) =
        text parser.startTokenId ++ texts text delta ∧
      messageContent (messageOf parser text [] (parser.startTokenId :: delta)) = [] := by
  simp [messageOf, extractReasoningStreaming, messageReasoning, messageContent, more, absent, parser.ids_ne.symm]

theorem messageOf_start :
    messageOf parser text previous [parser.startTokenId] = none := by
  simp [messageOf, extractReasoningStreaming]

end Steps

section Runs

variable {later : List (List Token)}

theorem messages_append :
    parser.messages text previous (deltas ++ later) = parser.messages text previous deltas ++
        parser.messages text (previous ++ deltas.flatten) later := by
  induction deltas generalizing previous with
  | nil => simp [messages]
  | cons delta deltas ih => simp [messages, ih]

theorem messages_plain (started : parser.startTokenId ∈ previous)
    (absent : parser.endTokenId ∉ deltas.flatten) :
    (parser.messages text previous deltas).flatMap messageReasoning =
        (if parser.endTokenId ∈ previous then [] else deltas.flatMap (keptText parser text)) ∧
      (parser.messages text previous deltas).flatMap messageContent =
        if parser.endTokenId ∈ previous then deltas.flatMap (keptText parser text) else [] := by
  induction deltas generalizing previous with
  | nil => simp [messages]
  | cons delta deltas ih =>
    simp only [flatten_cons, mem_append, not_or] at absent
    have now := @messageOf_plain _ _ parser text _ _ started absent.1
    have later := ih (mem_append_left delta started) absent.2
    by_cases ended : parser.endTokenId ∈ previous <;>
      simp [messages, now, later, ended, absent.1]

include ends alone absent in
theorem messages_closing (started : parser.startTokenId ∈ previous)
    (open_ : parser.endTokenId ∉ previous) (ahead : parser.endTokenId ∉ deltas.flatten)
    (behind : parser.endTokenId ∉ later.flatten) :
    (parser.messages text previous
        (deltas ++ (before ++ parser.endTokenId :: after) :: later)).flatMap messageReasoning =
        deltas.flatMap (keptText parser text) ++ texts text before ∧
      (parser.messages text previous
        (deltas ++ (before ++ parser.endTokenId :: after) :: later)).flatMap messageContent =
        texts text after ++ later.flatMap (keptText parser text) := by
  have reasoning := @messages_plain _ _ parser text _ _ started ahead
  have closing := messageOf_closing ends alone absent (mem_append_left deltas.flatten started)
  have content := @messages_plain _ _ parser text
    (previous ++ deltas.flatten ++ (before ++ parser.endTokenId :: after)) _
    (by simp [started]) behind
  rw [if_neg open_, if_neg open_] at reasoning
  rw [if_pos (by simp), if_pos (by simp)] at content
  simp only [messages_append, messages, flatMap_append, flatMap_cons, reasoning, closing,
    content, append_nil, nil_append, and_self]

include starts in
theorem length_keptText :
    (texts text deltas.flatten).length = (deltas.flatMap (keptText parser text)).length +
      deltas.count [parser.startTokenId] * parser.startToken.length := by
  induction deltas with
  | nil => simp
  | cons delta deltas ih =>
    by_cases alone : delta = [parser.startTokenId]
    · simp only [alone, keptText, flatten_cons, texts_append, texts_cons, texts_nil, starts,
        append_nil, length_append, flatMap_cons, if_true, nil_append,
        count_cons_self, Nat.add_mul]
      omega
    · simp only [keptText, flatten_cons, texts_append, length_append,
        flatMap_cons, alone, if_false, count_cons_of_ne alone]
      omega

theorem keptText_of_notMem (kept : [parser.startTokenId] ∉ deltas) :
    deltas.flatMap (keptText parser text) = texts text deltas.flatten := by
  induction deltas with
  | nil => rfl
  | cons delta deltas ih =>
    simp only [mem_cons, not_or] at kept
    simp [keptText, ih kept.2, Ne.symm kept.1]

include starts in
theorem keptText_eq_iff :
    deltas.flatMap (keptText parser text) = texts text deltas.flatten ↔
      [parser.startTokenId] ∉ deltas := by
  constructor
  · intro same member
    have lengths := @length_keptText _ _ parser text deltas starts
    rw [same] at lengths
    have marker := List.length_pos_iff.mpr parser.startToken_ne
    have counted := Nat.mul_pos (List.count_pos_iff.mpr member) marker
    omega
  · exact keptText_of_notMem

end Runs

section Alike

-- In the last case the marker that the first delta leaks makes up for one that is lost further on.
def Harmless (parser : BaseThinkingReasoningParser Token) (text : Token → List Char) :
    List (List Token) → Prop
  | [] => True
  | first :: later =>
    if first = [parser.startTokenId] ∨ parser.endTokenId ∈ first then
      [parser.startTokenId] ∉ later
    else
      ∃ ahead rest, later = ahead ++ [parser.startTokenId] :: rest ∧
        [parser.startTokenId] ∉ ahead ∧ [parser.startTokenId] ∉ rest ∧
        parser.endTokenId ∉ ahead.flatten ∧
        parser.startToken ++ texts text (first.tail ++ ahead.flatten) =
          texts text (first.tail ++ ahead.flatten) ++ parser.startToken

variable {later : List (List Token)} {more : List Token}

theorem split_end (parser : BaseThinkingReasoningParser Token) (later : List (List Token)) :
    parser.endTokenId ∉ later.flatten ∨
      ∃ ahead before after rest, later = ahead ++ (before ++ parser.endTokenId :: after) :: rest ∧
        parser.endTokenId ∉ ahead.flatten ∧ parser.endTokenId ∉ before := by
  induction later with
  | nil => simp
  | cons delta later ih =>
    by_cases present : parser.endTokenId ∈ delta
    · obtain ⟨before, after, rfl, absent⟩ := eq_append_cons_of_mem present
      exact .inr ⟨[], before, after, later, by simp, by simp, absent⟩
    · rcases ih with none | ⟨ahead, before, after, rest, rfl, open_, absent⟩
      · exact .inl (by simp only [flatten_cons]; exact not_mem_append present none)
      · refine .inr ⟨delta :: ahead, before, after, rest, by simp, ?_, absent⟩
        simp only [flatten_cons]
        exact not_mem_append present open_

structure Cut (parser : BaseThinkingReasoningParser Token) (text : Token → List Char)
    (first : List Token) (later ahead behind : List (List Token)) (reasoning content : List Char) :
    Prop where
  streamed_reasoning : (parser.messages text first later).flatMap messageReasoning =
    ahead.flatMap (keptText parser text) ++ reasoning
  streamed_content : (parser.messages text first later).flatMap messageContent =
    content ++ behind.flatMap (keptText parser text)
  whole_reasoning : (parser.extractReasoning (texts text (first ++ later.flatten))).1.getD [] =
    texts text first.tail ++ texts text ahead.flatten ++ reasoning
  whole_content : (parser.extractReasoning (texts text (first ++ later.flatten))).2.getD [] =
    content ++ texts text behind.flatten
  later_eq : later = ahead ∧ behind = [] ∨
    ∃ closing, later = ahead ++ closing :: behind ∧ parser.endTokenId ∈ closing
  open_ahead : parser.endTokenId ∉ ahead.flatten

theorem Marked.stretch {whole : List Token} (marked : parser.Marked text whole)
    (before after : List Token) (same : whole = before ++ tokens ++ after) :
    parser.EndAlone text tokens :=
  EndAlone.stretch marked.end_text (same ▸ marked.alone)

theorem exists_cut (marked : parser.Marked text (parser.startTokenId :: more ++ later.flatten))
    (open_ : parser.endTokenId ∉ more) :
    ∃ ahead behind reasoning content,
      Cut parser text (parser.startTokenId :: more) later ahead behind reasoning content := by
  have open_first : parser.endTokenId ∉ parser.startTokenId :: more := by
    simp [open_, parser.ids_ne.symm]
  have started : parser.startTokenId ∈ parser.startTokenId :: more := by simp
  have alone_rest : parser.EndAlone text (more ++ later.flatten) :=
    marked.stretch [parser.startTokenId] [] (by simp)
  rcases split_end parser later with none | ⟨ahead, before, after, behind, rfl, open_ahead, absent⟩
  · have streamed := @messages_plain _ _ parser text _ _ started none
    rw [if_neg open_first, if_neg open_first] at streamed
    have whole := extractReasoning_open marked.start_text alone_rest
      (not_mem_append open_ none)
    refine ⟨later, [], [], [], ?_, ?_, ?_, ?_, .inl ⟨rfl, rfl⟩, none⟩
    · simp [streamed]
    · simp [streamed]
    · rw [cons_append, whole]
      simp
    · rw [cons_append, whole]
      simp
  · have once := marked.once
    simp only [flatten_append, flatten_cons, count_append, count_cons_self]
      at once
    have open_behind : parser.endTokenId ∉ behind.flatten :=
      List.count_eq_zero.mp (by omega)
    have alone : parser.EndAlone text (before ++ parser.endTokenId :: after) :=
      marked.stretch (parser.startTokenId :: more ++ ahead.flatten) behind.flatten (by simp)
    have streamed := messages_closing marked.end_text alone absent started open_first open_ahead open_behind
    have rest_eq : more ++ (ahead ++ (before ++ parser.endTokenId :: after) :: behind).flatten =
        (more ++ ahead.flatten ++ before) ++ parser.endTokenId :: (after ++ behind.flatten) := by
      simp
    rw [rest_eq] at alone_rest
    have whole := extractReasoning_closed marked.start_text marked.end_text alone_rest
      (not_mem_append (not_mem_append open_ open_ahead) absent)
    rw [← rest_eq] at whole
    refine ⟨ahead, behind, texts text before, texts text after, streamed.1, streamed.2, ?_, ?_,
      .inr ⟨_, rfl, by simp⟩, open_ahead⟩
    · simp only [cons_append, whole]
      simp
    · simp only [cons_append, whole, getD_orNone]
      simp

include starts in
theorem leak_iff {front : List Char} :
    parser.startToken ++ front ++ deltas.flatMap (keptText parser text) =
        front ++ texts text deltas.flatten ↔
      ∃ ahead rest, deltas = ahead ++ [parser.startTokenId] :: rest ∧
        [parser.startTokenId] ∉ ahead ∧ [parser.startTokenId] ∉ rest ∧
        parser.startToken ++ (front ++ texts text ahead.flatten) =
          front ++ texts text ahead.flatten ++ parser.startToken := by
  have marker := List.length_pos_iff.mpr parser.startToken_ne
  have lengths := @length_keptText _ _ parser text deltas starts
  constructor
  · intro same
    have total := congrArg List.length same
    simp only [length_append] at total
    have once : deltas.count [parser.startTokenId] = 1 := by
      have product : deltas.count [parser.startTokenId] * parser.startToken.length =
          1 * parser.startToken.length := by omega
      exact Nat.eq_of_mul_eq_mul_right marker product
    have present : [parser.startTokenId] ∈ deltas := List.count_pos_iff.mp (by omega)
    obtain ⟨ahead, rest, rfl, absent⟩ := eq_append_cons_of_mem present
    have absent_rest : [parser.startTokenId] ∉ rest := by
      rw [count_append, count_cons_self, List.count_eq_zero.mpr absent] at once
      exact List.count_eq_zero.mp (by omega)
    refine ⟨ahead, rest, rfl, absent, absent_rest, ?_⟩
    simp only [flatMap_append, flatMap_cons, keptText_of_notMem absent,
      keptText_of_notMem absent_rest, keptText, if_true, nil_append, flatten_append,
      flatten_cons, texts_append, texts_cons, texts_nil, starts, append_nil] at same
    have extended : parser.startToken ++ (front ++ texts text ahead.flatten) ++
        texts text rest.flatten =
          front ++ texts text ahead.flatten ++ parser.startToken ++ texts text rest.flatten := by
      simpa only [append_assoc] using same
    exact append_cancel_right extended
  · rintro ⟨ahead, rest, rfl, absent, absent_rest, commutes⟩
    simp only [flatMap_append, flatMap_cons, keptText_of_notMem absent,
      keptText_of_notMem absent_rest, keptText, if_true, nil_append, flatten_append,
      flatten_cons, texts_append, texts_cons, texts_nil, starts, append_nil]
    have extended := congrArg (· ++ texts text rest.flatten) commutes
    simpa only [append_assoc] using extended

namespace Cut

variable {first : List Token} {ahead behind : List (List Token)} {reasoning content : List Char}

theorem alike_iff (cut : Cut parser text [parser.startTokenId] later ahead behind reasoning content)
    (starts : text parser.startTokenId = parser.startToken) :
    parser.StreamsAlike text ([parser.startTokenId] :: later) ↔
      [parser.startTokenId] ∉ later := by
  have members : [parser.startTokenId] ∉ later ↔
      [parser.startTokenId] ∉ ahead ∧ [parser.startTokenId] ∉ behind := by
    rcases cut.later_eq with ⟨rfl, rfl⟩ | ⟨_, rfl, ended⟩
    · simp
    · simp [ne_of_end_mem ended]
  have silent : messageReasoning (none : Option DeltaMessage) = [] ∧
      messageContent (none : Option DeltaMessage) = [] := ⟨rfl, rfl⟩
  simp only [StreamsAlike, messages, messageOf_start, flatMap_cons, silent, nil_append,
    flatten_cons, cut.streamed_reasoning, cut.streamed_content, cut.whole_reasoning,
    cut.whole_content, tail_cons, texts_nil, append_cancel_right_eq,
    append_cancel_left_eq, keptText_eq_iff starts, members]

theorem leaking_iff
    (cut : Cut parser text (parser.startTokenId :: more) later ahead behind reasoning content)
    (starts : text parser.startTokenId = parser.startToken) (nonempty : more ≠ [])
    (open_ : parser.endTokenId ∉ more) :
    parser.StreamsAlike text ((parser.startTokenId :: more) :: later) ↔
      ∃ front rest, later = front ++ [parser.startTokenId] :: rest ∧
        [parser.startTokenId] ∉ front ∧ [parser.startTokenId] ∉ rest ∧
        parser.endTokenId ∉ front.flatten ∧
        parser.startToken ++ texts text (more ++ front.flatten) =
          texts text (more ++ front.flatten) ++ parser.startToken := by
  have leaked := @messageOf_leaking _ _ parser text _ nonempty open_
  have parts : parser.StreamsAlike text ((parser.startTokenId :: more) :: later) ↔
      parser.startToken ++ texts text more ++ ahead.flatMap (keptText parser text) =
          texts text more ++ texts text ahead.flatten ∧
        [parser.startTokenId] ∉ behind := by
    simp only [StreamsAlike, messages, flatMap_cons, leaked, nil_append, starts,
      flatten_cons, cut.streamed_reasoning, cut.streamed_content, cut.whole_reasoning,
      cut.whole_content, tail_cons, ← append_assoc, append_cancel_right_eq,
      append_cancel_left_eq, keptText_eq_iff starts]
  rw [parts, leak_iff starts]
  simp only [texts_append]
  constructor
  · rintro ⟨⟨front, rest, rfl, absent_front, absent_rest, commutes⟩, absent_behind⟩
    have open_front : parser.endTokenId ∉ front.flatten := by
      have open_ahead := cut.open_ahead
      simp only [flatten_append, mem_append, not_or] at open_ahead
      exact open_ahead.1
    rcases cut.later_eq with ⟨rfl, rfl⟩ | ⟨closing, rfl, ended⟩
    · exact ⟨front, rest, rfl, absent_front, absent_rest, open_front, commutes⟩
    · refine ⟨front, rest ++ closing :: behind, by simp, absent_front, ?_, open_front, commutes⟩
      simp [absent_rest, absent_behind, ne_of_end_mem ended]
  · rintro ⟨front, rest, later_eq, absent_front, absent_rest, open_front, commutes⟩
    rcases cut.later_eq with ⟨rfl, rfl⟩ | ⟨closing, rfl, ended⟩
    · exact ⟨⟨front, rest, later_eq, absent_front, absent_rest, commutes⟩, by simp⟩
    · -- The lost marker stands before the delta with the end marker.
      rcases List.append_eq_append_iff.mp later_eq with
        ⟨skipped, rfl, tail_eq⟩ | ⟨skipped, rfl, tail_eq⟩
      · cases skipped with
        | nil => exact absurd (List.cons.inj tail_eq).1.symm (ne_of_end_mem ended)
        | cons delta skipped =>
          obtain ⟨rfl, -⟩ := List.cons.inj tail_eq
          simp only [flatten_append, flatten_cons, mem_append, not_or] at open_front
          exact absurd ended open_front.2.1
      · cases skipped with
        | nil => exact absurd (List.cons.inj tail_eq).1 (ne_of_end_mem ended)
        | cons delta skipped =>
          rw [cons_append] at tail_eq
          obtain ⟨rfl, rfl⟩ := List.cons.inj tail_eq
          simp only [mem_append, mem_cons, not_or] at absent_rest
          exact ⟨⟨front, skipped, rfl, absent_front, absent_rest.1, commutes⟩, absent_rest.2.2⟩

end Cut

theorem both_iff (marked : parser.Marked text (parser.startTokenId :: more ++ later.flatten))
    (ended : parser.endTokenId ∈ more) :
    parser.StreamsAlike text ((parser.startTokenId :: more) :: later) ↔
      [parser.startTokenId] ∉ later := by
  obtain ⟨before, after, rfl, absent⟩ := eq_append_cons_of_mem ended
  have once := marked.once
  rw [count_append, count_cons, count_append, count_cons_self] at once
  have open_later : parser.endTokenId ∉ later.flatten := List.count_eq_zero.mp (by omega)
  have alone_first : parser.EndAlone text
      (parser.startTokenId :: (before ++ parser.endTokenId :: after)) :=
    marked.stretch [] later.flatten (by simp)
  have rest_eq : parser.startTokenId :: (before ++ parser.endTokenId :: after) ++ later.flatten =
      parser.startTokenId :: (before ++ parser.endTokenId :: (after ++ later.flatten)) := by simp
  have alone_rest : parser.EndAlone text
      (before ++ parser.endTokenId :: (after ++ later.flatten)) :=
    marked.stretch [parser.startTokenId] [] (by simp)
  have first := messageOf_both marked.start_text marked.end_text alone_first absent
  have streamed := @messages_plain _ _ parser text
    (parser.startTokenId :: (before ++ parser.endTokenId :: after)) later (by simp) open_later
  rw [if_pos (by simp), if_pos (by simp)] at streamed
  have whole := extractReasoning_closed marked.start_text marked.end_text alone_rest absent
  simp only [StreamsAlike, messages, nil_append, flatMap_cons, first, streamed,
    append_nil, flatten_cons, rest_eq, whole, Option.getD_some, getD_orNone, true_and,
    texts_append, append_cancel_left_eq, keptText_eq_iff marked.start_text]

theorem streamsAlike_iff (deltas : List (List Token)) (nonempty : ∀ delta ∈ deltas, delta ≠ [])
    (marked : parser.Marked text deltas.flatten) :
    parser.StreamsAlike text deltas ↔ parser.Harmless text deltas := by
  cases deltas with
  | nil => cases marked.begins
  | cons first later =>
    obtain ⟨_, more, rfl⟩ := exists_cons_of_ne_nil (nonempty first (by simp))
    have begins := marked.begins
    simp only [flatten_cons, cons_append, head?_cons, Option.some.injEq] at begins
    subst begins
    by_cases ended : parser.endTokenId ∈ more
    · rw [both_iff marked ended, Harmless, if_pos (.inr (mem_cons_of_mem _ ended))]
    · obtain ⟨_, _, _, _, cut⟩ := exists_cut marked ended
      by_cases single : more = []
      · subst single
        rw [cut.alike_iff marked.start_text, Harmless, if_pos (.inl rfl)]
      · have leaks : ¬(parser.startTokenId :: more = [parser.startTokenId] ∨
            parser.endTokenId ∈ parser.startTokenId :: more) := by
          simp [single, ended, parser.ids_ne.symm]
        rw [cut.leaking_iff marked.start_text single ended, Harmless, if_neg leaks, tail_cons]

def angles : BaseThinkingReasoningParser Nat where
  startToken := ['<']
  endToken := ['>']
  startTokenId := 0
  endTokenId := 1
  startToken_ne := by simp
  endToken_ne := by simp
  ids_ne := by decide

def angleText : Nat → List Char
  | 0 => ['<']
  | 1 => ['>']
  | _ => ['a']

theorem angles_marked {tokens : List Nat} (begins : tokens.head? = some 0)
    (once : tokens.count 1 ≤ 1) : angles.Marked angleText tokens := by
  refine ⟨rfl, rfl, begins, once, fun i occurs => ?_⟩
  clear begins once
  -- Every token has one character, so an index of the text is an index of the tokens.
  induction tokens generalizing i with
  | nil => simp [OccursAt.nil, angles] at occurs
  | cons token tokens ih =>
    have single : ∃ char, angleText token = [char] ∧ (char = '>' → token = 1) := by
      match token with
      | 0 => exact ⟨'<', rfl, by decide⟩
      | 1 => exact ⟨'>', rfl, by decide⟩
      | _ + 2 => exact ⟨'a', rfl, fun same => absurd same (by decide)⟩
    obtain ⟨char, text_eq, is_end⟩ := single
    rw [texts_cons, text_eq, singleton_append] at occurs
    cases i with
    | zero =>
      have first := zero.mp occurs
      simp only [angles, cons_prefix_cons, nil_prefix, and_true] at first
      exact ⟨[], tokens, by simp [angles, is_end first.symm], rfl⟩
    | succ i =>
      obtain ⟨before, after, rfl, rfl⟩ := ih i (succ.mp occurs)
      exact ⟨token :: before, after, rfl, by simp [text_eq]⟩

theorem streamsAlike_iff_angles :
    angles.StreamsAlike angleText [[0], [2, 2], [2, 1, 3], [3]] ↔
      angles.Harmless angleText [[0], [2, 2], [2, 1, 3], [3]] :=
  streamsAlike_iff _ (by decide) (angles_marked (by decide) (by decide))

-- The start marker and the first reasoning token in one delta: the marker is streamed as reasoning.
theorem not_streamsAlike_leak :
    angles.Marked angleText [0, 2, 1] ∧ ¬angles.StreamsAlike angleText [[0, 2], [1]] ∧
      (angles.messages angleText [] [[0, 2], [1]]).flatMap messageReasoning = ['<', 'a'] ∧
      angles.extractReasoning (texts angleText [0, 2, 1]) = (some ['a'], none) :=
  ⟨angles_marked (by decide) (by decide), by decide⟩

end Alike

end VllmEngine.BaseThinkingReasoningParser
