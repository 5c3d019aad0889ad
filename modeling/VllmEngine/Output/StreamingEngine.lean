import VllmEngine.Output.IncrementalLexer

set_option autoImplicit false

namespace VllmEngine

inductive EventType where
  | textChunk
  | reasoningStart
  | reasoningChunk
  | reasoningEnd
  | toolCallStart
  | toolName
  | argValueChunk
  | toolCallEnd
  deriving DecidableEq

structure SemanticEvent where
  type : EventType
  value : List Char
  toolIndex : Int
  deriving DecidableEq

inductive ParserState where
  | content
  | reasoning
  | messageHeader
  | toolPreamble
  | toolName
  | toolArgs
  | toolBetween
  deriving DecidableEq

def ParserState.all : List ParserState :=
  [content, reasoning, messageHeader, toolPreamble, toolName, toolArgs, toolBetween]

def ParserState.isTool : ParserState → Bool
  | toolPreamble | toolName | toolArgs | toolBetween => true
  | content | reasoning | messageHeader => false

structure Transition where
  nextState : ParserState
  events : List EventType
  skipInTokenIdMode : Bool

structure ParserEngineConfig where
  terminals : List (Terminal × List Char)
  transitions : ParserState → Terminal → Option Transition
  contentEvents : ParserState → Option EventType
  initialState : ParserState
  toolArgsJson : Bool

namespace ParserEngineConfig

def defaultContentEvents : ParserState → Option EventType
  | .content => some .textChunk
  | .reasoning => some .reasoningChunk
  | .toolName => some .toolName
  | .toolArgs => some .argValueChunk
  | .messageHeader | .toolPreamble | .toolBetween => none

end ParserEngineConfig

def dropTerminal : Terminal := "__DROP__"

structure ParserMachine where
  config : ParserEngineConfig
  hasDrops : Bool
  tokenIdTerminalNames : List Terminal
  skipToolParsing : Bool
  state : ParserState
  toolIndex : Int
  everHadTokenIds : Bool
  messageHeaderBuffer : List Char
  argsBuffer : List Char
  argsSafeEnd : Nat
  argsBraceDepth : Nat
  argsInString : Bool
  argsEscapeNext : Bool

-- The scanner passes text through when a delta has no token ids.
structure StreamingParserEngine where
  machine : ParserMachine
  lexer : IncrementalLexer

namespace ParserMachine

variable (machine : ParserMachine)

def toolTerminal (terminal : Terminal) : Bool :=
  ParserState.all.any fun state =>
    (machine.config.transitions state terminal).any fun transition =>
      transition.nextState.isTool || state.isTool

def event (type : EventType) (value : List Char) : SemanticEvent :=
  ⟨type, value, machine.toolIndex⟩

def flushSafeArgs : List SemanticEvent × ParserMachine :=
  if machine.argsSafeEnd = 0 then
    ([], machine)
  else
    ([machine.event .argValueChunk (machine.argsBuffer.take machine.argsSafeEnd)],
      { machine with argsBuffer := machine.argsBuffer.drop machine.argsSafeEnd, argsSafeEnd := 0 })

def markSafe : ParserMachine :=
  { machine with argsSafeEnd := machine.argsBuffer.length }

def feedArgsChar (char : Char) : List SemanticEvent × ParserMachine :=
  let machine := { machine with argsBuffer := machine.argsBuffer ++ [char] }
  if machine.argsEscapeNext then
    { machine with argsEscapeNext := false }.markSafe.flushSafeArgs
  else if machine.argsInString then
    if char = '\\' then
      { machine with argsEscapeNext := true }.markSafe.flushSafeArgs
    else if char = '"' then
      { machine with argsInString := false }.markSafe.flushSafeArgs
    else
      machine.markSafe.flushSafeArgs
  else if char = '"' then
    { machine with argsInString := true }.markSafe.flushSafeArgs
  else if char = '\x7b' ∨ char = '[' then
    { machine with argsBraceDepth := machine.argsBraceDepth + 1 }.markSafe.flushSafeArgs
  else if char = '\x7d' ∨ char = ']' then
    let machine := { machine with argsBraceDepth := machine.argsBraceDepth - 1 }
    if machine.argsBraceDepth = 0 then
      ([], machine)
    else
      machine.markSafe.flushSafeArgs
  else
    machine.markSafe.flushSafeArgs

def feedArgsText (machine : ParserMachine) :
    List Char → List SemanticEvent × ParserMachine
  | [] => ([], machine)
  | char :: text =>
    let fed := machine.feedArgsChar char
    let rest := fed.2.feedArgsText text
    (fed.1 ++ rest.1, rest.2)

def emitForState (text : List Char) : List SemanticEvent × ParserMachine :=
  if machine.state = .messageHeader then
    ([], { machine with messageHeaderBuffer := machine.messageHeaderBuffer ++ text })
  else if machine.state = .toolArgs then
    if machine.config.toolArgsJson then
      machine.feedArgsText text
    else
      ([machine.event .argValueChunk text], machine)
  else
    match machine.config.contentEvents machine.state with
    | some contentType => ([machine.event contentType text], machine)
    | none => ([], machine)

def onContent (text : List Char) : List SemanticEvent × ParserMachine :=
  if text = [] then ([], machine) else machine.emitForState text

def startTool (eventType : EventType) : ParserMachine :=
  if eventType = .toolCallStart then { machine with toolIndex := machine.toolIndex + 1 }
  else machine

def transitionEvents (fromHeader : Bool) (messageHeader value : List Char)
    (machine : ParserMachine) : List EventType → List SemanticEvent × ParserMachine
  | [] => ([], machine)
  | eventType :: eventTypes =>
    let machine := machine.startTool eventType
    let eventValue := if fromHeader ∧ eventType = .textChunk then messageHeader else value
    let rest := transitionEvents fromHeader messageHeader value machine eventTypes
    if eventType = .textChunk ∧ eventValue = [] then rest
    else (machine.event eventType eventValue :: rest.1, rest.2)

def applyTransition (transition : Transition) (value : List Char) :
    List SemanticEvent × ParserMachine :=
  let leavesArgs := machine.state = .toolArgs ∧ transition.nextState ≠ .toolArgs ∧
    machine.argsBuffer ≠ []
  let held := if leavesArgs then [machine.event .argValueChunk machine.argsBuffer] else []
  let argsBuffer := if leavesArgs then [] else machine.argsBuffer
  let fromHeader : Bool := machine.state = .messageHeader
  let messageHeader := if fromHeader then machine.messageHeaderBuffer else []
  let messageHeaderBuffer := if fromHeader then [] else machine.messageHeaderBuffer
  let emitted := transitionEvents fromHeader messageHeader value
    { machine with
      argsBuffer := argsBuffer
      messageHeaderBuffer := messageHeaderBuffer
      state := transition.nextState }
    transition.events
  let machine := emitted.2
  if machine.state = .toolArgs then
    (held ++ emitted.1,
      { machine with
        argsBraceDepth := 0, argsInString := false, argsEscapeNext := false, argsSafeEnd := 0 })
  else
    (held ++ emitted.1, machine)

def skipTool (transition : Transition) (value : List Char) :
    List SemanticEvent × ParserMachine :=
  if machine.state = .messageHeader then
    ([machine.event .textChunk value],
      { machine with state := .content, messageHeaderBuffer := [] })
  else if .reasoningEnd ∈ transition.events then
    ([machine.event .reasoningEnd value, machine.event .textChunk value],
      { machine with state := .content })
  else
    match machine.config.contentEvents machine.state with
    | some contentType => ([machine.event contentType value], machine)
    | none => ([], machine)

def onTerminal (terminal : Terminal) (value : List Char) :
    List SemanticEvent × ParserMachine :=
  match machine.config.transitions machine.state terminal with
  | none =>
    if machine.hasDrops ∧ terminal = dropTerminal then ([], machine) else machine.emitForState value
  | some transition =>
    if machine.skipToolParsing ∧ machine.toolTerminal terminal then
      machine.skipTool transition value
    else if transition.skipInTokenIdMode ∧ machine.everHadTokenIds then
      machine.emitForState value
    else
      machine.applyTransition transition value

def processLexToken (token : LexToken) : List SemanticEvent × ParserMachine :=
  if token.terminal = contentTerminal ∨
      machine.everHadTokenIds ∧ token.terminal ∈ machine.tokenIdTerminalNames then
    machine.onContent token.value
  else
    machine.onTerminal token.terminal token.value

def processLexTokens (machine : ParserMachine) :
    List LexToken → List SemanticEvent × ParserMachine
  | [] => ([], machine)
  | token :: tokens =>
    let first := machine.processLexToken token
    let rest := first.2.processLexTokens tokens
    (first.1 ++ rest.1, rest.2)

def closingEvents : List SemanticEvent × ParserMachine :=
  match machine.state with
  | .toolPreamble | .toolArgs | .toolName | .toolBetween =>
    (if 0 ≤ machine.toolIndex then [machine.event .toolCallEnd []] else [],
      { machine with state := .content })
  | .reasoning => ([machine.event .reasoningEnd []], { machine with state := .content })
  | .messageHeader =>
    (if machine.messageHeaderBuffer ≠ [] then
        [machine.event .textChunk machine.messageHeaderBuffer] else [],
      { machine with state := .content, messageHeaderBuffer := [] })
  | .content => ([], machine)

def heldArgs : List SemanticEvent × ParserMachine :=
  if machine.argsBuffer ≠ [] then
    ([machine.event .argValueChunk machine.argsBuffer],
      { machine with argsBuffer := [], argsSafeEnd := 0 })
  else
    ([], machine)

end ParserMachine

namespace StreamingParserEngine

def lexerShape (config : ParserEngineConfig) (patternLength : List Char → Nat)
    (dropTexts : List (List Char)) : LexerShape :=
  .ofTerminals ((config.terminals.map fun terminal =>
      ⟨terminal.1, true, terminal.2, patternLength terminal.2⟩) ++
    dropTexts.map fun text => ⟨dropTerminal, true, text, patternLength text⟩)

def create (config : ParserEngineConfig) (patternLength : List Char → Nat)
    (dropTexts : List (List Char)) (tokenIdTerminalNames : List Terminal)
    (skipToolParsing : Bool) (initialState : Option ParserState) : StreamingParserEngine where
  machine :=
    { config := config
      hasDrops := !dropTexts.isEmpty
      tokenIdTerminalNames := tokenIdTerminalNames
      skipToolParsing := skipToolParsing
      state := initialState.getD config.initialState
      toolIndex := -1
      everHadTokenIds := false
      messageHeaderBuffer := []
      argsBuffer := []
      argsSafeEnd := 0
      argsBraceDepth := 0
      argsInString := false
      argsEscapeNext := false }
  lexer := ⟨lexerShape config patternLength dropTexts, []⟩

variable (engine : StreamingParserEngine)

def feed (deltaText : List Char) : List SemanticEvent × StreamingParserEngine :=
  if deltaText ≠ [] ∧ engine.lexer.buffer = [] ∧
      ∀ char ∈ deltaText, char ∉ engine.lexer.shape.literalFirstChars then
    let emitted := engine.machine.emitForState deltaText
    (emitted.1, ⟨emitted.2, engine.lexer⟩)
  else if deltaText = [] then
    ([], engine)
  else
    let lexed := engine.lexer.feed deltaText
    let processed := match lexed.1 with
      | [token] =>
        if token.terminal = contentTerminal then engine.machine.emitForState token.value
        else engine.machine.processLexTokens [token]
      | tokens => engine.machine.processLexTokens tokens
    (processed.1, ⟨processed.2, lexed.2⟩)

def finish : List SemanticEvent × StreamingParserEngine :=
  let flushed := engine.lexer.flush
  let processed := engine.machine.processLexTokens flushed.1
  let held := processed.2.heldArgs
  let closed := held.2.closingEvents
  (processed.1 ++ held.1 ++ closed.1, ⟨closed.2, flushed.2⟩)

def streamEvents (engine : StreamingParserEngine) : List (List Char) → List SemanticEvent
  | [] => engine.finish.1
  | chunk :: chunks =>
    let fed := engine.feed chunk
    fed.1 ++ fed.2.streamEvents chunks

def parseComplete (text : List Char) : List SemanticEvent :=
  let fed := engine.feed text
  fed.1 ++ fed.2.finish.1

end StreamingParserEngine

end VllmEngine
