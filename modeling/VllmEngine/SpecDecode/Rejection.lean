import VllmEngine.Shared.Ragged

set_option autoImplicit false

namespace VllmEngine

open Ragged

def placeholderTokenId : Int := -1

structure SpecDecodeMetadata where
  draftTokenIds : List Int
  numDraftTokens : List Nat
  cuNumDraftTokens : List Nat
  targetLogitsIndices : List Int
  bonusLogitsIndices : List Int
  logitsIndices : List Int
  deriving DecidableEq, Repr

namespace SpecDecodeMetadata

def maxSpecLen (metadata : SpecDecodeMetadata) : Nat := metadata.numDraftTokens.foldr max 0

end SpecDecodeMetadata

def calcSpecDecodeMetadata (numDraftTokens cuNumScheduledTokens : List Nat)
    (inputIds : List Int) : SpecDecodeMetadata :=
  let numSampledTokens := numDraftTokens.map (· + 1)
  let cuNumSampledTokens := cumsum numSampledTokens
  let ends (totals : List Nat) : List Int :=
    List.zipWith (fun total count : Nat => (total : Int) - (count : Int)) totals numSampledTokens
  let logitsIndices :=
    List.zipWith (· + ·) (repeatEach (ends cuNumScheduledTokens) numSampledTokens)
      (aranges numSampledTokens)
  let targetLogitsIndices :=
    List.zipWith (· + ·) (repeatEach (ends cuNumSampledTokens) numDraftTokens)
      (aranges numDraftTokens)
  let inputs := logitsIndices.map (Ragged.pyGet inputIds)
  { draftTokenIds := targetLogitsIndices.map fun index => Ragged.pyGet inputs (index + 1)
    numDraftTokens := numDraftTokens
    cuNumDraftTokens := cumsum numDraftTokens
    targetLogitsIndices := targetLogitsIndices
    bonusLogitsIndices := cuNumSampledTokens.map fun total : Nat => (total : Int) - 1
    logitsIndices := logitsIndices }

def greedyRound (draftTokenIds targetArgmax : List Int) (startIdx : Nat)
    (state : List Int × Bool) (pos : Nat) : List Int × Bool :=
  if state.2 then state
  else
    let targetArgmaxId := targetArgmax.getD (startIdx + pos) 0
    (state.1.set pos targetArgmaxId, decide (draftTokenIds.getD (startIdx + pos) 0 ≠ targetArgmaxId))

def rejectionGreedySampleKernel (outputTokenIds : List Int) (cuNumDraftTokens : List Nat)
    (draftTokenIds targetArgmax bonusTokenIds : List Int) (reqIdx : Nat) : List Int :=
  let startIdx := if reqIdx = 0 then 0 else cuNumDraftTokens.getD (reqIdx - 1) 0
  let endIdx := cuNumDraftTokens.getD reqIdx 0
  let numDraftTokens := endIdx - startIdx
  let state := (List.range numDraftTokens).foldl
    (greedyRound draftTokenIds targetArgmax startIdx) (outputTokenIds, false)
  if state.2 then state.1 else state.1.set numDraftTokens (bonusTokenIds.getD reqIdx 0)

-- Of the logits only the place of the maximum of each row is used.
def rejectionSample (metadata : SpecDecodeMetadata) (argmax : List Int) : List (List Int) :=
  let bonusTokenIds := metadata.bonusLogitsIndices.map (Ragged.pyGet argmax)
  let targetArgmax := metadata.targetLogitsIndices.map (Ragged.pyGet argmax)
  (List.range metadata.numDraftTokens.length).map
    (rejectionGreedySampleKernel (List.replicate (metadata.maxSpecLen + 1) placeholderTokenId)
      metadata.cuNumDraftTokens metadata.draftTokenIds targetArgmax bonusTokenIds)

def parseOutput (vocabSize : Nat) (discarded : List Bool) (outputTokenIds : List (List Int)) :
    List (List Int) :=
  List.zipWith
    (fun discard row =>
      if discard then []
      else row.filter fun token => token ≠ placeholderTokenId ∧ token < (vocabSize : Int))
    discarded outputTokenIds

-- `argmaxOf` has the place of the maximum of the logits of each input token.
def sampleStep (vocabSize : Nat) (numDraftTokens numScheduledTokens : List Nat)
    (discarded : List Bool) (inputIds argmaxOf : List Int) : List (List Int) :=
  let cuNumTokens := cumsum numScheduledTokens
  if numDraftTokens.all (· = 0) then
    List.zipWith
      (fun (discard : Bool) (total : Nat) =>
        if discard then [] else [Ragged.pyGet argmaxOf ((total : Int) - 1)])
      discarded cuNumTokens
  else
    let metadata := calcSpecDecodeMetadata numDraftTokens cuNumTokens inputIds
    parseOutput vocabSize discarded
      (rejectionSample metadata (metadata.logitsIndices.map (Ragged.pyGet argmaxOf)))

end VllmEngine
