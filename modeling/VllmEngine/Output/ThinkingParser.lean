import VllmEngine.Shared.Find

set_option autoImplicit false

namespace VllmEngine

variable {Token : Type} [DecidableEq Token]

structure DeltaMessage where
  reasoning : Option (List Char)
  content : Option (List Char)
  deriving DecidableEq

structure BaseThinkingReasoningParser (Token : Type) where
  startToken : List Char
  endToken : List Char
  startTokenId : Token
  endTokenId : Token
  startToken_ne : startToken ≠ []
  endToken_ne : endToken ≠ []
  ids_ne : startTokenId ≠ endTokenId

namespace BaseThinkingReasoningParser

variable (parser : BaseThinkingReasoningParser Token)

def orNone (text : List Char) : Option (List Char) :=
  if text = [] then none else some text

def extractReasoningStreaming (_previousText _currentText deltaText : List Char)
    (previousTokenIds _currentTokenIds deltaTokenIds : List Token) : Option DeltaMessage :=
  if deltaTokenIds = [parser.startTokenId] ∨ deltaTokenIds = [parser.endTokenId] then
    none
  else if parser.startTokenId ∈ previousTokenIds then
    if parser.endTokenId ∈ deltaTokenIds then
      let endIndex := pyFind deltaText parser.endToken 0
      let reasoning := pySlice deltaText 0 endIndex
      let content := pySlice deltaText (endIndex + parser.endToken.length) deltaText.length
      some ⟨some reasoning, orNone content⟩
    else if parser.endTokenId ∈ previousTokenIds then
      some ⟨none, some deltaText⟩
    else
      some ⟨some deltaText, none⟩
  else if parser.startTokenId ∈ deltaTokenIds then
    if parser.endTokenId ∈ deltaTokenIds then
      let startIndex := pyFind deltaText parser.startToken 0
      let endIndex := pyFind deltaText parser.endToken 0
      let reasoning := pySlice deltaText (startIndex + parser.startToken.length) endIndex
      let content := pySlice deltaText (endIndex + parser.endToken.length) deltaText.length
      some ⟨some reasoning, orNone content⟩
    else
      some ⟨some deltaText, none⟩
  else
    some ⟨none, some deltaText⟩

def extractReasoning (modelOutput : List Char) : Option (List Char) × Option (List Char) :=
  let parts := pyPartition modelOutput parser.startToken
  let modelOutput := if parts.2.1 ≠ [] then parts.2.2 else parts.1
  if findIndex parser.endToken modelOutput = none then
    (some modelOutput, none)
  else
    let parts := pyPartition modelOutput parser.endToken
    (some parts.1, orNone parts.2.2)

variable (text : Token → List Char)

def texts (tokens : List Token) : List Char :=
  tokens.flatMap text

def messageOf (previous delta : List Token) : Option DeltaMessage :=
  parser.extractReasoningStreaming (texts text previous) (texts text (previous ++ delta))
    (texts text delta) previous (previous ++ delta) delta

def messages (text : Token → List Char) :
    List Token → List (List Token) → List (Option DeltaMessage)
  | _, [] => []
  | previous, delta :: deltas =>
    parser.messageOf text previous delta :: messages text (previous ++ delta) deltas

def messageReasoning (message : Option DeltaMessage) : List Char :=
  (message.bind DeltaMessage.reasoning).getD []

def messageContent (message : Option DeltaMessage) : List Char :=
  (message.bind DeltaMessage.content).getD []

def StreamsAlike (deltas : List (List Token)) : Prop :=
  let stream := parser.messages text [] deltas
  let whole := parser.extractReasoning (texts text deltas.flatten)
  stream.flatMap messageReasoning = whole.1.getD [] ∧
    stream.flatMap messageContent = whole.2.getD []

instance (text : Token → List Char) (deltas : List (List Token)) :
    Decidable (parser.StreamsAlike text deltas) :=
  inferInstanceAs (Decidable (_ ∧ _))

def EndAlone (tokens : List Token) : Prop :=
  ∀ i, OccursAt parser.endToken (texts text tokens) i →
    ∃ before after, tokens = before ++ parser.endTokenId :: after ∧ i = (texts text before).length

structure Marked (text : Token → List Char) (tokens : List Token) : Prop where
  start_text : text parser.startTokenId = parser.startToken
  end_text : text parser.endTokenId = parser.endToken
  begins : tokens.head? = some parser.startTokenId
  once : tokens.count parser.endTokenId ≤ 1
  alone : parser.EndAlone text tokens

end BaseThinkingReasoningParser

end VllmEngine
