import VllmEngine.Output.ThinkingParser

set_option autoImplicit false

namespace VllmEngine

namespace Structured

structure ReasoningParser where
  isReasoningEnd : List Int → Bool
  isReasoningEndStreaming : List Int → List Int → Bool

structure Request where
  promptTokenIds : List Int
  allTokenIds : List Int
  numComputedTokens : Int
  numOutputPlaceholders : Int
  reasoner : Option ReasoningParser
  reasoningEnded : Option Bool
  reasoningEndTokenIndex : Option Int

structure StructuredOutputManager where
  enableInReasoning : Bool

variable (manager : StructuredOutputManager) (request : Request)

namespace StructuredOutputManager

def shouldFillBitmask : Bool × Request :=
  match request.reasoner with
  | none => (true, request)
  | some reasoner =>
    if manager.enableInReasoning then
      (true, request)
    else
      let ended := request.reasoningEnded.getD (reasoner.isReasoningEnd request.promptTokenIds)
      (ended, { request with reasoningEnded := some ended })

def findReasoningEndIndex (reasoner : ReasoningParser) (allTokenIds : List Int) (start : Nat) :
    Int :=
  let found := (List.range' start (allTokenIds.length - start)).find? fun idx =>
    reasoner.isReasoningEndStreaming (allTokenIds.take (idx + 1)) [allTokenIds.getD idx 0]
  match found with
  | some idx => idx
  | none => allTokenIds.length - 1

-- Where the window of `should_advance` starts.
def deltaStart (newTokenIds : List Int) : Nat :=
  if newTokenIds ≠ [] then
    request.allTokenIds.length - newTokenIds.length
  else
    let deltaFrom := request.numComputedTokens - request.numOutputPlaceholders
    if 0 ≤ deltaFrom then deltaFrom.toNat else (request.allTokenIds.length + deltaFrom).toNat

def shouldAdvance (newTokenIds : List Int) : Bool × Request :=
  match request.reasoner with
  | none => (true, request)
  | some reasoner =>
    if manager.enableInReasoning then
      (true, request)
    else if request.reasoningEnded = some true then
      (true, request)
    else
      let start := deltaStart request newTokenIds
      let deltaIds := if newTokenIds ≠ [] then newTokenIds else request.allTokenIds.drop start
      if reasoner.isReasoningEndStreaming request.allTokenIds deltaIds then
        let endIndex := findReasoningEndIndex reasoner request.allTokenIds start
        (true, { request with
          reasoningEnded := some true
          reasoningEndTokenIndex := some endIndex })
      else
        (false, request)

def trimReasoningForAdvance (newTokenIds : List Int) : List Int :=
  match request.reasoningEndTokenIndex with
  | none => newTokenIds
  | some endIdx =>
    let firstIdx : Int := request.allTokenIds.length - newTokenIds.length
    let numReasoning := endIdx + 1 - firstIdx
    if numReasoning ≤ 0 then newTokenIds else newTokenIds.drop numReasoning.toNat

end StructuredOutputManager

end Structured

namespace BaseThinkingReasoningParser

variable (parser : BaseThinkingReasoningParser Int)

def isReasoningEnd (inputIds : List Int) : Bool :=
  match inputIds.reverse.find? fun id => id = parser.startTokenId ∨ id = parser.endTokenId with
  | some id => id = parser.endTokenId
  | none => false

def reasoner : Structured.ReasoningParser where
  isReasoningEnd := parser.isReasoningEnd
  isReasoningEndStreaming _ deltaIds := parser.endTokenId ∈ deltaIds

end BaseThinkingReasoningParser

end VllmEngine
