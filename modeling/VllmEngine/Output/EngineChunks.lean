import VllmEngine.Output.LexerChunks
import VllmEngine.Output.StreamingEngine

set_option autoImplicit false

namespace VllmEngine

open List LexerShape LexToken

namespace SemanticEvent

-- A chunk is joined to a following chunk of the same type and tool.
def join (joins : EventType → Bool) (event : SemanticEvent) :
    List SemanticEvent → List SemanticEvent
  | [] => [event]
  | next :: rest =>
    if joins event.type ∧ event.type = next.type ∧ event.toolIndex = next.toolIndex then
      ⟨event.type, event.value ++ next.value, event.toolIndex⟩ :: rest
    else
      event :: next :: rest

def joinAll (joins : EventType → Bool) (events : List SemanticEvent) : List SemanticEvent :=
  events.foldr (join joins) []

def Alike (joins : EventType → Bool) (events events' : List SemanticEvent) : Prop :=
  ∀ later, joinAll joins (events ++ later) = joinAll joins (events' ++ later)

variable {joins : EventType → Bool} {events events' more more' : List SemanticEvent}

namespace Alike

theorem refl (events : List SemanticEvent) : Alike joins events events :=
  fun _ => rfl

theorem trans (first : Alike joins events events') (second : Alike joins events' more) :
    Alike joins events more :=
  fun later => (first later).trans (second later)

theorem append (first : Alike joins events events') (second : Alike joins more more') :
    Alike joins (events ++ more) (events' ++ more') := by
  intro later
  have inner : joinAll joins (events' ++ (more ++ later)) =
      joinAll joins (events' ++ (more' ++ later)) := by
    simp only [joinAll, foldr_append]
    have joined := second later
    simp only [joinAll, foldr_append] at joined
    rw [joined]
  rw [append_assoc, first, inner, append_assoc]

theorem joinAll_eq (alike : Alike joins events events') :
    joinAll joins events = joinAll joins events' := by
  simpa using alike []

theorem split {type : EventType} (chunk : joins type = true) (front back : List Char)
    (toolIndex : Int) :
    Alike joins [⟨type, front ++ back, toolIndex⟩]
      [⟨type, front, toolIndex⟩, ⟨type, back, toolIndex⟩] := by
  intro later
  simp only [joinAll, cons_append, nil_append, foldr_cons]
  cases later.foldr (join joins) [] with
  | nil => simp [join, chunk]
  | cons next rest =>
    by_cases same : type = next.type ∧ toolIndex = next.toolIndex
    · obtain ⟨_, _, _⟩ := next
      obtain ⟨rfl, rfl⟩ := same
      simp [join, chunk]
    · simp [join, chunk, same]

end Alike

end SemanticEvent

open SemanticEvent

def ParserEngineConfig.isChunk : EventType → Bool
  | .textChunk | .reasoningChunk | .toolName | .argValueChunk => true
  | .reasoningStart | .reasoningEnd | .toolCallStart | .toolCallEnd => false

namespace ParserMachine

variable {machine : ParserMachine} {joins : EventType → Bool}

structure JoinsContent (machine : ParserMachine) (joins : EventType → Bool) : Prop where
  args : joins .argValueChunk = true
  content : ∀ state type, machine.config.contentEvents state = some type → joins type = true

section Args

theorem flushSafeArgs_frame :
    machine.flushSafeArgs.2.state = machine.state ∧
      machine.flushSafeArgs.2.config = machine.config := by
  unfold flushSafeArgs
  split <;> exact ⟨rfl, rfl⟩

theorem feedArgsChar_frame (char : Char) :
    (machine.feedArgsChar char).2.state = machine.state ∧
      (machine.feedArgsChar char).2.config = machine.config := by
  unfold feedArgsChar
  simp only
  -- Every branch but that of the held bracket ends in a flush.
  repeat' split
  all_goals first
    | exact ⟨rfl, rfl⟩
    | exact flushSafeArgs_frame

theorem feedArgsText_config (text : List Char) :
    (machine.feedArgsText text).2.config = machine.config := by
  induction text generalizing machine with
  | nil => rfl
  | cons char text ih => exact ih.trans (feedArgsChar_frame char).2

end Args

section Config

theorem emitForState_config (text : List Char) :
    (machine.emitForState text).2.config = machine.config := by
  unfold emitForState
  repeat' split
  all_goals first
    | rfl
    | exact feedArgsText_config text

theorem onContent_config (text : List Char) :
    (machine.onContent text).2.config = machine.config := by
  unfold onContent
  split
  · rfl
  · exact emitForState_config text

theorem transitionEvents_config (fromHeader : Bool) (messageHeader value : List Char)
    (events : List EventType) :
    (transitionEvents fromHeader messageHeader value machine events).2.config =
      machine.config := by
  induction events generalizing machine with
  | nil => rfl
  | cons type events ih =>
    have counted : (machine.startTool type).config = machine.config := by
      unfold startTool
      split <;> rfl
    have rest := @ih (machine.startTool type)
    unfold transitionEvents
    simp only
    repeat' split
    all_goals exact rest.trans counted

theorem onTerminal_config (terminal : Terminal) (value : List Char) :
    (machine.onTerminal terminal value).2.config = machine.config := by
  unfold onTerminal skipTool applyTransition
  simp only
  repeat' split
  all_goals first
    | rfl
    | exact emitForState_config value
    | exact transitionEvents_config ..

theorem processLexToken_config (token : LexToken) :
    (machine.processLexToken token).2.config = machine.config := by
  unfold processLexToken
  split
  · exact onContent_config _
  · exact onTerminal_config ..

end Config

def Same (joins : EventType → Bool) (left right : List SemanticEvent × ParserMachine) : Prop :=
  Alike joins left.1 right.1 ∧ left.2 = right.2

theorem emitForState_cons (joining : machine.JoinsContent joins) (char : Char) {text : List Char} :
    let first := machine.emitForState [char]
    let rest := first.2.emitForState text
    Same joins (machine.emitForState (char :: text)) (first.1 ++ rest.1, rest.2) := by
  by_cases header : machine.state = .messageHeader
  · simp [emitForState, header, Same, Alike.refl]
  · by_cases args : machine.state = .toolArgs
    · by_cases json : machine.config.toolArgsJson = true
      · have frame := @feedArgsChar_frame machine char
        simp [emitForState, args, json, feedArgsText, frame, Same, Alike.refl]
      · simp only [emitForState, args, json, reduceCtorEq, if_true, if_false]
        exact ⟨Alike.split joining.args [char] text _, rfl⟩
    · cases type : machine.config.contentEvents machine.state with
      | none => simp [emitForState, header, args, type, Same, Alike.refl]
      | some contentType =>
        simp only [emitForState, header, args, type, if_false]
        exact ⟨Alike.split (joining.content _ _ type) [char] text _, rfl⟩

namespace Same

variable {left right other : List SemanticEvent × ParserMachine}

theorem refl (result : List SemanticEvent × ParserMachine) : Same joins result result :=
  ⟨Alike.refl _, rfl⟩

theorem trans (first : Same joins left right) (second : Same joins right other) :
    Same joins left other :=
  ⟨first.1.trans second.1, first.2.trans second.2⟩

theorem after {events events' : List SemanticEvent} (first : Alike joins events events')
    (next : Same joins left right) :
    Same joins (events ++ left.1, left.2) (events' ++ right.1, right.2) :=
  ⟨first.append next.1, next.2⟩

end Same

theorem JoinsContent.of_config {machine' : ParserMachine} (joining : machine.JoinsContent joins)
    (same : machine'.config = machine.config) : machine'.JoinsContent joins :=
  ⟨joining.args, fun state type => by rw [same]; exact joining.content state type⟩

theorem processLexTokens_append (tokens more : List LexToken) :
    let first := machine.processLexTokens tokens
    let rest := first.2.processLexTokens more
    machine.processLexTokens (tokens ++ more) = (first.1 ++ rest.1, rest.2) := by
  induction tokens generalizing machine with
  | nil => rfl
  | cons token tokens ih => simp [processLexTokens, ih]

section

variable (joining : machine.JoinsContent joins)

include joining

theorem onContent_explode (text : List Char) :
    Same joins (machine.onContent text)
      (machine.processLexTokens (contentTokens text)) := by
  induction text generalizing machine with
  | nil => exact Same.refl _
  | cons char text ih =>
    have single : machine.processLexToken ⟨contentTerminal, [char]⟩ =
        machine.emitForState [char] := by
      simp [processLexToken, onContent]
    have unfolded : machine.processLexTokens (contentTokens (char :: text)) =
        ((machine.emitForState [char]).1 ++
          ((machine.emitForState [char]).2.processLexTokens (contentTokens text)).1,
          ((machine.emitForState [char]).2.processLexTokens
            (contentTokens text)).2) := by
      rw [← single]
      rfl
    rw [unfolded]
    by_cases last : text = []
    · subst last
      simp [onContent, contentTokens, processLexTokens, Same.refl]
    · have rest := ih (joining.of_config (emitForState_config [char]))
      have split := @emitForState_cons machine joins joining char text
      rw [onContent, if_neg last] at rest
      rw [onContent, if_neg (cons_ne_nil _ _)]
      exact split.trans (rest.after (Alike.refl _))

theorem processLexToken_explode (token : LexToken) :
    Same joins (machine.processLexToken token) (machine.processLexTokens token.explode) := by
  by_cases content : token.terminal = contentTerminal
  · have exploded : token.explode = contentTokens token.value := by
      simp [explode, contentTokens, content]
    rw [exploded, processLexToken, if_pos (.inl content)]
    exact onContent_explode joining token.value
  · have whole : token.explode = [token] := by simp [explode, content]
    rw [whole]
    simp [processLexTokens, Same.refl]

theorem processLexTokens_explode (tokens : List LexToken) :
    Same joins (machine.processLexTokens tokens)
      (machine.processLexTokens (tokens.flatMap explode)) := by
  induction tokens generalizing machine with
  | nil => exact Same.refl _
  | cons token tokens ih =>
    have first := processLexToken_explode joining token
    have rest := ih (joining.of_config (processLexToken_config token))
    rw [flatMap_cons, processLexTokens_append]
    rw [first.2] at rest
    rw [processLexTokens, first.2]
    exact rest.after first.1

end

end ParserMachine

namespace StreamingParserEngine

open ParserMachine

variable {engine : StreamingParserEngine}

theorem feed_tokens {text : List Char} (some_text : text ≠ []) :
    ∃ tokens lexer, engine.feed text = ((engine.machine.processLexTokens tokens).1,
          ⟨(engine.machine.processLexTokens tokens).2, lexer⟩) ∧
      lexer.shape = engine.lexer.shape ∧
      ∀ more rest, LexerShape.Lexes engine.lexer.shape (lexer.buffer ++ more) rest →
        LexerShape.Lexes engine.lexer.shape (engine.lexer.buffer ++ text ++ more)
          (tokens.flatMap explode ++ rest) := by
  have emitted : ∀ {value : List Char}, value ≠ [] →
      engine.machine.processLexTokens [⟨contentTerminal, value⟩] =
        engine.machine.emitForState value := by
    intro value some_value
    simp [processLexTokens, processLexToken, onContent, some_value]
  by_cases plain : text ≠ [] ∧ engine.lexer.buffer = [] ∧
      ∀ char ∈ text, char ∉ engine.lexer.shape.literalFirstChars
  · refine ⟨[⟨contentTerminal, text⟩], engine.lexer, ?_, rfl, ?_⟩
    · rw [emitted some_text, feed, if_pos plain]
    · intro more rest lexes
      rw [plain.2.1, nil_append] at lexes ⊢
      simpa [explode_content] using lexes_plain plain.2.2 lexes
  · refine ⟨(engine.lexer.feed text).1, (engine.lexer.feed text).2, ?_,
      IncrementalLexer.feed_shape text, fun more rest => IncrementalLexer.feed_lexes text⟩
    rw [feed, if_neg plain, if_neg some_text]
    simp only
    split
    · rename_i token single
      rw [single]
      split
      · rename_i content
        have member : token ∈ (engine.lexer.feed text).1 := by simp [single]
        have some_value := IncrementalLexer.feed_values some_text token member
        obtain ⟨terminal, value⟩ := token
        obtain rfl : terminal = contentTerminal := content
        rw [emitted some_value]
      · rfl
    · rfl

def endingEvents (machine : ParserMachine) : List SemanticEvent :=
  machine.heldArgs.1 ++ machine.heldArgs.2.closingEvents.1

theorem streamEvents_tokens {chunks : List (List Char)} (nonempty : [] ∉ chunks) :
    ∃ tokens, streamEvents engine chunks = (engine.machine.processLexTokens tokens).1 ++
          endingEvents (engine.machine.processLexTokens tokens).2 ∧
      LexerShape.Lexes engine.lexer.shape (engine.lexer.buffer ++ chunks.flatten)
        (tokens.flatMap explode) := by
  induction chunks generalizing engine with
  | nil =>
    refine ⟨engine.lexer.flush.1, ?_, ?_⟩
    · simp [streamEvents, finish, endingEvents]
    · simpa using engine.lexer.flush_lexes
  | cons chunk chunks ih =>
    simp only [mem_cons, not_or] at nonempty
    obtain ⟨tokens, lexer, fed, shape, lexes⟩ := @feed_tokens engine chunk (Ne.symm nonempty.1)
    obtain ⟨later, events, rest⟩ :=
      @ih ⟨(engine.machine.processLexTokens tokens).2, lexer⟩ nonempty.2
    refine ⟨tokens ++ later, ?_, ?_⟩
    · rw [streamEvents, fed, processLexTokens_append]
      simp only
      rw [events, append_assoc]
    · rw [shape] at rest
      have whole := lexes _ _ rest
      simpa only [flatMap_append, flatten_cons, append_assoc] using whole

theorem parseComplete_eq (text : List Char) :
    engine.parseComplete text = engine.streamEvents (if text = [] then [] else [text]) := by
  by_cases empty : text = []
  · simp [parseComplete, empty, feed, streamEvents]
  · simp [parseComplete, empty, streamEvents]

theorem streamEvents_chunks (engine : StreamingParserEngine) (joins : EventType → Bool)
    (joining : engine.machine.JoinsContent joins) (chunks : List (List Char))
    (nonempty : [] ∉ chunks) :
    joinAll joins (engine.streamEvents chunks) =
      joinAll joins (engine.parseComplete chunks.flatten) := by
  have whole_nonempty : ([] : List Char) ∉
      (if chunks.flatten = [] then [] else [chunks.flatten]) := by
    split
    · simp
    · rename_i some_text
      simpa using Ne.symm some_text
  have whole_flatten :
      (if chunks.flatten = [] then [] else [chunks.flatten]).flatten = chunks.flatten := by
    split
    · rename_i empty
      rw [empty, flatten_nil]
    · simp
  rw [parseComplete_eq]
  obtain ⟨tokens, events, lexes⟩ := @streamEvents_tokens engine _ nonempty
  obtain ⟨tokens', events', lexes'⟩ := @streamEvents_tokens engine _ whole_nonempty
  rw [whole_flatten] at lexes'
  have exploded := lexes.unique lexes'
  have streamed := processLexTokens_explode joining tokens
  have complete := processLexTokens_explode joining tokens'
  rw [exploded] at streamed
  rw [events, events', streamed.2, complete.2]
  have alike : Alike joins (engine.machine.processLexTokens tokens).1
      (engine.machine.processLexTokens tokens').1 :=
    fun later => (streamed.1 later).trans (complete.1 later).symm
  exact (alike.append (Alike.refl _)).joinAll_eq

def tagged : StreamingParserEngine :=
  create
    { terminals := [("CALL", ['<', 'c']), ("CLOSE", ['<', 'c', '>']), ("END", ['<', '/'])]
      transitions := fun
        | .content, "CALL" => some ⟨.toolArgs, [.toolCallStart], false⟩
        | .toolArgs, "END" => some ⟨.content, [.toolCallEnd], false⟩
        | _, _ => none
      contentEvents := ParserEngineConfig.defaultContentEvents
      initialState := .content
      toolArgsJson := true }
    List.length [] [] false none

theorem streamEvents_chunks_tagged :
    joinAll ParserEngineConfig.isChunk
        (tagged.streamEvents [['a', '<'], ['c'], ['\x7b', '\x7d'], [' ', '<'], ['/', 'b']]) =
      joinAll ParserEngineConfig.isChunk
        (tagged.parseComplete ['a', '<', 'c', '\x7b', '\x7d', ' ', '<', '/', 'b']) :=
  streamEvents_chunks tagged ParserEngineConfig.isChunk
    ⟨rfl, fun state type => by cases state <;> cases type <;> decide⟩
    [['a', '<'], ['c'], ['\x7b', '\x7d'], [' ', '<'], ['/', 'b']] (by decide)

end StreamingParserEngine

end VllmEngine
