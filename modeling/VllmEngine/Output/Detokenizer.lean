import VllmEngine.Shared.Find

set_option autoImplicit false

namespace VllmEngine

structure StopMatch where
  stopStr : List Char
  stopIndex : Nat
  endIndex : Nat
  deriving DecidableEq

namespace StopMatch

def better (outputText : List Char) (newCharCount : Nat) (best : Option StopMatch)
    (stopStr : List Char) : Option StopMatch :=
  let stopIndex := pyFind outputText stopStr (1 - (newCharCount : Int) - stopStr.length)
  if stopIndex = -1 then
    best
  else
    let found := ⟨stopStr, stopIndex.toNat, stopIndex.toNat + stopStr.length⟩
    match best with
    | none => some found
    | some previous => if found.endIndex < previous.endIndex then some found else best

end StopMatch

-- The matched stop string and the length to truncate to, minus one for no truncation.
def checkStopStrings (outputText : List Char) (newCharCount : Nat) (stop : List (List Char))
    (includeInOutput : Bool) : Option (List Char × Int) :=
  if newCharCount = 0 ∨ stop = [] then
    none
  else
    match stop.foldl (StopMatch.better outputText newCharCount) none with
    | none => none
    | some best =>
      if includeInOutput then
        if best.endIndex ≥ outputText.length then
          some (best.stopStr, -1)
        else
          some (best.stopStr, best.endIndex)
      else
        some (best.stopStr, best.stopIndex)

structure BaseIncrementalDetokenizer (Token : Type) where
  stop : List (List Char)
  minTokens : Nat
  includeStopStrInOutput : Bool
  decodeNext : Token → List Char
  tokenIds : List Token
  outputText : List Char

namespace BaseIncrementalDetokenizer

variable {Token : Type}

variable (detokenizer : BaseIncrementalDetokenizer Token)

def numOutputTokens : Nat :=
  detokenizer.tokenIds.length

def decodeToken (state : BaseIncrementalDetokenizer Token × Nat) (newTokenId : Token) :
    BaseIncrementalDetokenizer Token × Nat :=
  let detokenizer :=
    { state.1 with
      tokenIds := state.1.tokenIds ++ [newTokenId]
      outputText := state.1.outputText ++ state.1.decodeNext newTokenId }
  if detokenizer.minTokens ≠ 0 ∧ detokenizer.numOutputTokens ≤ detokenizer.minTokens then
    (detokenizer, detokenizer.outputText.length)
  else
    (detokenizer, state.2)

def evaluateStop (stopCheckOffset : Nat) : Option (List Char) × BaseIncrementalDetokenizer Token :=
  if detokenizer.stop ≠ [] ∧ detokenizer.numOutputTokens > detokenizer.minTokens then
    match checkStopStrings detokenizer.outputText
        (detokenizer.outputText.length - stopCheckOffset) detokenizer.stop
        detokenizer.includeStopStrInOutput with
    | none => (none, detokenizer)
    | some (stopString, truncateTo) =>
      if truncateTo ≠ -1 then
        (some stopString,
          { detokenizer with outputText := pySlice detokenizer.outputText 0 truncateTo })
      else
        (some stopString, detokenizer)
  else
    (none, detokenizer)

def countSkipped (skipped : List Token) : BaseIncrementalDetokenizer Token :=
  { detokenizer with tokenIds := detokenizer.tokenIds ++ skipped }

def update (newTokenIds : List Token)
    (stopTerminated : Bool) : Option (List Char) × BaseIncrementalDetokenizer Token :=
  if newTokenIds = [] then
    (none, detokenizer)
  else if stopTerminated ∧ !detokenizer.includeStopStrInOutput then
    let decoded := newTokenIds.dropLast.foldl decodeToken
      (detokenizer, detokenizer.outputText.length)
    (decoded.1.countSkipped newTokenIds.getLast?.toList).evaluateStop decoded.2
  else
    let decoded := newTokenIds.foldl decodeToken (detokenizer, detokenizer.outputText.length)
    decoded.1.evaluateStop decoded.2

-- Only the last call can be for a request that a stop token has ended.
def updates (detokenizer : BaseIncrementalDetokenizer Token) (stopTerminated : Bool) :
    List (List Token) → Option (List Char) × BaseIncrementalDetokenizer Token
  | [] => (none, detokenizer)
  | [newTokenIds] => detokenizer.update newTokenIds stopTerminated
  | newTokenIds :: group :: groups =>
    match detokenizer.update newTokenIds false with
    | (some stopString, stopped) => (some stopString, stopped)
    | (none, continued) => continued.updates stopTerminated (group :: groups)

def stopBufferLength : Nat :=
  if detokenizer.stop ≠ [] ∧ !detokenizer.includeStopStrInOutput then
    (detokenizer.stop.map List.length).foldr max 0 - 1
  else
    0

end BaseIncrementalDetokenizer

structure TextStream (Token : Type) extends BaseIncrementalDetokenizer Token where
  lastOutputTextOffset : Nat

namespace TextStream

variable {Token : Type}

def getNextOutputText (stream : TextStream Token) (finished delta : Bool) :
    List Char × TextStream Token :=
  let bufferLength := if finished then 0 else stream.stopBufferLength
  if !delta then
    if bufferLength = 0 then
      (stream.outputText, stream)
    else
      (pySlice stream.outputText 0 (-(bufferLength : Int)), stream)
  else
    let length := (stream.outputText.length : Int) - bufferLength
    if stream.lastOutputTextOffset < length then
      (pySlice stream.outputText stream.lastOutputTextOffset length,
        { stream with lastOutputTextOffset := length.toNat })
    else
      ([], stream)

def deltas (stream : TextStream Token) (stopTerminated : Bool) :
    List (List Token) → List (List Char) × BaseIncrementalDetokenizer Token
  | [] => ([], stream.toBaseIncrementalDetokenizer)
  | [newTokenIds] =>
    let updated := (stream.update newTokenIds stopTerminated).2
    ([(getNextOutputText ⟨updated, stream.lastOutputTextOffset⟩ true true).1], updated)
  | newTokenIds :: group :: groups =>
    match stream.update newTokenIds false with
    | (some _, stopped) =>
      ([(getNextOutputText ⟨stopped, stream.lastOutputTextOffset⟩ true true).1], stopped)
    | (none, continued) =>
      let (delta, stream) :=
        getNextOutputText ⟨continued, stream.lastOutputTextOffset⟩ false true
      let (later, final) := stream.deltas stopTerminated (group :: groups)
      (delta :: later, final)

end TextStream

end VllmEngine
