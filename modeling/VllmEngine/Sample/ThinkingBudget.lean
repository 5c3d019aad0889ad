import VllmEngine.Worker.BatchUpdate
import VllmEngine.Shared.Dict

set_option autoImplicit false

namespace VllmEngine

structure ThinkState where
  inThink : Bool
  inEnd : Bool
  checkCountDown : Int
  thinkCount : Int
  endCount : Nat
  promptTokIds : Option (List Int)
  outputTokIds : List Int
  thinkingTokenBudget : Int
  prevOutputLength : Nat
  specTokenIds : List Int
  forceIndex : List Int
  startThinking : Int
  endThinking : Int
  inSpecMode : Bool
  bonusTokenForced : Bool
  continueThinking : Bool
  scanOffset : Nat
  deriving DecidableEq, Repr

structure ThinkMarkers where
  thinkStartTokenIds : List Int
  thinkEndTokenIds : List Int
  deriving DecidableEq, Repr

def findLastFrom (targetList tokenIds : List Int) : Nat → Int
  | 0 => if targetList.take tokenIds.length = tokenIds then 0 else -1
  | i + 1 =>
    if (targetList.drop (i + 1)).take tokenIds.length = tokenIds then ((i + 1 : Nat) : Int)
    else findLastFrom targetList tokenIds i

def findLastSequenceIndex (targetList tokenIds : List Int) : Int :=
  if tokenIds.isEmpty then -1
  else if targetList.length < tokenIds.length then -1
  else findLastFrom targetList tokenIds (targetList.length - tokenIds.length)

def longestOverlap (outputTokens markerTokens : List Int) : Nat → Nat
  | 0 => 0
  | overlap + 1 =>
    if outputTokens.drop (outputTokens.length - (overlap + 1)) = markerTokens.take (overlap + 1)
    then overlap + 1
    else longestOverlap outputTokens markerTokens overlap

def longestMarkerPrefixSuffix (outputTokens markerTokens : List Int) : Nat :=
  longestOverlap outputTokens markerTokens (min outputTokens.length (markerTokens.length - 1))

def forcePosition (remaining : Int) (specLen : Nat) : Int :=
  if 0 < remaining ∧ remaining < specLen then remaining
  else if remaining ≤ 0 then 0
  else specLen

namespace ThinkMarkers

variable (markers : ThinkMarkers)

variable (state : ThinkState)

def resetAfterThinkingBlock : ThinkState :=
  let outputLength := state.outputTokIds.length
  let startOverlap := longestMarkerPrefixSuffix state.outputTokIds markers.thinkStartTokenIds
  let endBoundary :=
    if 0 ≤ state.endThinking then state.endThinking + (markers.thinkEndTokenIds.length : Int) else 0
  { state with
    inThink := false
    thinkCount := 0
    continueThinking := false
    startThinking := -1
    endThinking := -1
    scanOffset := max endBoundary.toNat (outputLength - startOverlap)
    prevOutputLength := outputLength
    checkCountDown := state.thinkingTokenBudget }

def initStateEntry (promptTokIds : Option (List Int)) (thinkingTokenBudget : Nat) : ThinkState :=
  let prompt := promptTokIds.getD []
  let lastStart := findLastSequenceIndex prompt markers.thinkStartTokenIds
  let lastEnd := findLastSequenceIndex prompt markers.thinkEndTokenIds
  let budget : Int := thinkingTokenBudget
  -- without prompt tokens both searches give -1
  let inThink : Bool := lastEnd < lastStart
  let thinkCount : Int :=
    if inThink then prompt.length - (lastStart + markers.thinkStartTokenIds.length) else 0
  { inThink := inThink
    inEnd := inThink && budget - thinkCount ≤ 0
    checkCountDown := if inThink then budget - thinkCount else budget
    thinkCount := thinkCount
    endCount := 0
    promptTokIds := promptTokIds
    outputTokIds := []
    thinkingTokenBudget := budget
    prevOutputLength := 0
    specTokenIds := []
    forceIndex := []
    startThinking := if inThink then prompt.length - thinkCount - 1 else -1
    endThinking := -1
    inSpecMode := false
    bonusTokenForced := false
    continueThinking := inThink
    scanOffset := 0 }

def scan (marker : List Int) : Int :=
  let found := findLastSequenceIndex (state.outputTokIds.drop state.scanOffset) marker
  if 0 ≤ found then found + state.scanOffset else found

def locate : ThinkState :=
  { state with
    startThinking :=
      if state.startThinking = -1 then scan state markers.thinkStartTokenIds
      else state.startThinking
    endThinking :=
      if state.endThinking = -1 then scan state markers.thinkEndTokenIds else state.endThinking }

def sampledTokensFromPreviousStep : Int :=
  if state.continueThinking then state.outputTokIds.length - state.prevOutputLength
  else if state.prevOutputLength = 0 then
    state.outputTokIds.length - markers.thinkStartTokenIds.length
  else state.outputTokIds.length - state.prevOutputLength

def recount (absoluteStartPos absoluteEndPos : Int) (state : ThinkState) : ThinkState :=
  let startLen : Int := markers.thinkStartTokenIds.length
  let currentLength : Int := state.outputTokIds.length
  let entered : ThinkState :=
    { state with
      inThink := true
      thinkCount := currentLength - (absoluteStartPos + startLen) }
  let left := markers.resetAfterThinkingBlock
    { state with inThink := false, thinkCount := 0, continueThinking := false }
  if 0 ≤ absoluteStartPos ∧ 0 ≤ absoluteEndPos then
    if absoluteEndPos < absoluteStartPos then entered else left
  else if 0 ≤ absoluteStartPos ∧ !state.continueThinking then entered
  else if 0 ≤ absoluteEndPos then left
  else if state.inThink then
    let thinkTokensInPrompt : Int :=
      (state.promptTokIds.getD []).length - (absoluteStartPos + startLen)
    { state with thinkCount := currentLength + thinkTokensInPrompt }
  else state

def checkBudget : ThinkState :=
  let state :=
    { state with
      checkCountDown :=
        if state.inThink then max 0 (state.thinkingTokenBudget - state.thinkCount)
        else state.thinkingTokenBudget }
  let totalThinkingTokens : Int := state.thinkCount + (state.specTokenIds.length : Int) + 1
  if state.inThink ∧ state.thinkingTokenBudget < totalThinkingTokens then
    { state with
      inThink := false
      inEnd := true
      endCount := 0
      checkCountDown := state.thinkingTokenBudget
      forceIndex :=
        [forcePosition (state.thinkingTokenBudget - state.thinkCount) state.specTokenIds.length] }
  else state

def matchDrafts : List Int → Nat → Nat → Nat × Option Nat
  | [], _, endCount => (endCount, none)
  | tokenId :: rest, i, endCount =>
    match markers.thinkEndTokenIds[endCount + 1]? with
    | some expected =>
      if tokenId = expected then matchDrafts rest (i + 1) (endCount + 1)
      else (endCount + 1, some i)
    | none => matchDrafts rest (i + 1) (endCount + 1)

def forceEnd : ThinkState :=
  let (endCount, forced) := markers.matchDrafts state.specTokenIds 0 state.endCount
  let state :=
    match forced with
    | some i => { state with endCount := endCount, forceIndex := [(i : Int)] }
    | none =>
      { state with
        endCount := endCount + 1
        forceIndex := [(state.specTokenIds.length : Int)] }
  if markers.thinkEndTokenIds.length ≤ state.endCount then
    { state with
      inEnd := false
      endCount := 0
      checkCountDown := state.thinkingTokenBudget
      startThinking := -1
      endThinking := -1
      thinkCount := 0
      continueThinking := false
      scanOffset := state.outputTokIds.length }
  else state

def processNewTokens : ThinkState :=
  let newTokens := state.outputTokIds.drop state.prevOutputLength
  let state := { state with prevOutputLength := state.outputTokIds.length }
  let absoluteStartPos := state.startThinking
  let absoluteEndPos :=
    if state.continueThinking ∧ -1 < state.endThinking then
      state.endThinking + ((state.promptTokIds.getD []).length : Int)
    else state.endThinking
  -- the rejection sampler may have rejected a token before the end marker
  let state :=
    if state.inEnd ∧ state.endCount = 0 ∧ markers.thinkEndTokenIds.head?.all (· ∉ newTokens) then
      { state with inThink := true, inEnd := false, endCount := 0, bonusTokenForced := false }
    else state
  if state.inEnd then markers.forceEnd state
  else checkBudget (markers.recount absoluteStartPos absoluteEndPos state)

def updateThinkState : ThinkState :=
  if state.thinkingTokenBudget = -1 then state
  else if markers.thinkEndTokenIds.isEmpty then
    { state with thinkingTokenBudget := -1, inEnd := false, forceIndex := [] }
  else
    let state := markers.locate state
    if !state.inEnd ∧ 0 ≤ state.startThinking ∧ 0 ≤ state.endThinking ∧
        state.startThinking < state.endThinking ∧ !state.continueThinking then
      markers.resetAfterThinkingBlock
        { state with inThink := false, thinkCount := 0, continueThinking := false }
    else if state.startThinking = -1 then state
    else
      let currentStepCountdown :=
        state.checkCountDown - markers.sampledTokensFromPreviousStep state
      let predictedCountdown := currentStepCountdown - state.specTokenIds.length - 1
      let naturalEndWithContinue : Bool := state.continueThinking ∧ state.endThinking ≠ -1
      if !state.inEnd ∧ 0 ≤ predictedCountdown ∧ -1 < state.startThinking ∧
          !naturalEndWithContinue then
        { state with
          checkCountDown := currentStepCountdown
          prevOutputLength := state.outputTokIds.length }
      else if state.outputTokIds.isEmpty then
        if state.inEnd then { state with forceIndex := [0] } else state
      else if state.outputTokIds.length ≤ state.prevOutputLength then
        if state.inEnd then
          { state with
            forceIndex := [forcePosition (state.thinkingTokenBudget - state.thinkCount)
              state.specTokenIds.length] }
        else state
      else markers.processNewTokens state

def refresh (inSpecMode : Bool) (outputTokIds specTokenIds : List Int) (state : ThinkState) :
    ThinkState :=
  markers.updateThinkState
    { state with outputTokIds, specTokenIds, inSpecMode, forceIndex := [] }

variable (predictBonusToken : Bool)

-- `none` means that the request is passed over.
def beforeForcing (state : ThinkState) : Option ThinkState :=
  if !state.inEnd then none
  else
    let position := state.forceIndex.head?
    if predictBonusToken ∧ position.any (fun index => index < (state.specTokenIds.length : Int))
    then none
    else
      let state := if predictBonusToken then { state with forceIndex := [0] } else state
      some (if 0 < state.endCount then { state with bonusTokenForced := false } else state)

def forced (state : ThinkState) : List (Int × Int) :=
  match beforeForcing predictBonusToken state with
  | none => []
  | some state =>
    if state.bonusTokenForced then []
    else
      match markers.thinkEndTokenIds[state.endCount]? with
      | none => []
      | some token => state.forceIndex.map fun position => (position, token)

def afterForcing (state : ThinkState) : ThinkState :=
  match beforeForcing predictBonusToken state with
  | none => state
  | some next =>
    if predictBonusToken ∧ markers.forced predictBonusToken state ≠ [] then
      if 0 < next.endCount then { next with bonusTokenForced := false, forceIndex := [] }
      else { next with bonusTokenForced := true }
    else next

end ThinkMarkers

structure ThinkingBudgetStateHolder where
  markers : ThinkMarkers
  maxNumSeqs : Nat
  numSpecTokens : Nat
  state : AList fun _ : Nat => ThinkState

namespace ThinkingBudgetStateHolder

def create (markers : ThinkMarkers) (maxNumSeqs numSpecTokens : Nat) :
    ThinkingBudgetStateHolder where
  markers := markers
  maxNumSeqs := maxNumSeqs
  numSpecTokens := numSpecTokens
  state := ∅

variable (holder : ThinkingBudgetStateHolder)

def inSpecMode : Bool := 0 < holder.numSpecTokens

def maskCapacity : Nat :=
  if 0 < holder.numSpecTokens then holder.maxNumSeqs * (holder.numSpecTokens + 1)
  else holder.maxNumSeqs

def newEntry (markers : ThinkMarkers) (outputs : RequestId → List Int) (added : AddedRequest) :
    Option ThinkState :=
  added.params.thinkingTokenBudget.map fun budget =>
    { markers.initStateEntry (added.promptTokIds.map fun ids => ids.map Int.ofNat) budget with
      outputTokIds := outputs added.outputTokIdsOf
      specTokenIds := [] }

def syncAdded (markers : ThinkMarkers) (outputs : RequestId → List Int)
    (state : AList fun _ : Nat => ThinkState) (added : AddedRequest) :
    AList fun _ : Nat => ThinkState :=
  match newEntry markers outputs added with
  | some entry => state.insert added.index entry
  | none => state.erase added.index

def syncMoved (state : AList fun _ : Nat => ThinkState) (moved : MovedRequest) :
    AList fun _ : Nat => ThinkState :=
  match moved.direction with
  | .swap =>
    let state1 := state.lookup moved.first
    let state2 := state.lookup moved.second
    let state := state1.elim state fun entry => state.insert moved.second entry
    state2.elim state fun entry => state.insert moved.first entry
  | .unidirectional =>
    (state.lookup moved.first).elim (state.erase moved.first) fun entry =>
      (state.erase moved.first).insert moved.second entry

def syncBatch (outputs : RequestId → List Int) : Option BatchUpdate → ThinkingBudgetStateHolder
  | none => holder
  | some update =>
    let state := update.removed.foldl (fun state index => state.erase index) holder.state
    let state := update.added.foldl (syncAdded holder.markers outputs) state
    { holder with state := update.moved.foldl syncMoved state }

def updateState (outputTokenIds : List (List Int))
    (specTokenIds : List (List Int)) : ThinkingBudgetStateHolder :=
  { holder with
    state := Dict.mapValues (fun seqIdx state =>
      match outputTokenIds[seqIdx]? with
      | none => state
      | some output =>
        holder.markers.refresh holder.inSpecMode output (specTokenIds.getD seqIdx []) state)
      holder.state }

def cuNumTokens (holder : ThinkingBudgetStateHolder) (predictBonusToken : Bool)
    (specTokenIds : List (List Int)) : Nat → Nat
  | 0 => 0
  | index + 1 =>
    holder.cuNumTokens predictBonusToken specTokenIds index +
      if holder.inSpecMode && !predictBonusToken then (specTokenIds.getD index []).length else 1

def applyToLogits (numRows : Nat) (predictBonusToken : Bool)
    (specTokenIds : List (List Int)) : List (Int × Int) × ThinkingBudgetStateHolder :=
  let forcedAt (seqIdx : Nat) : List (Int × Int) :=
    (((holder.state.lookup seqIdx).elim [] (holder.markers.forced predictBonusToken)).map
      fun entry =>
        ((holder.cuNumTokens predictBonusToken specTokenIds seqIdx : Int) + entry.1,
          entry.2)).filter
      fun entry => entry.1 < (holder.maskCapacity : Int) && entry.1 < (numRows : Int)
  ((holder.state.keys.insertionSort (· ≤ ·)).flatMap forcedAt,
    { holder with
      state := Dict.mapValues (fun _ state => holder.markers.afterForcing predictBonusToken state)
        holder.state })

end ThinkingBudgetStateHolder

end VllmEngine
