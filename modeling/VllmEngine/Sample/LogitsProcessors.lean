import VllmEngine.Worker.BatchUpdate
import VllmEngine.Shared.Dict

set_option autoImplicit false

namespace VllmEngine

open Function

structure MinPLogitsProcessor where
  -- The value a `float32` tensor keeps of a Python float.
  toFloat32 : ℚ → ℚ
  useDoubleTensor : Bool
  minPCount : Int
  minPCpu : Nat → ℚ
  minPDevice : Nat → ℚ
  minPSize : Nat

namespace MinPLogitsProcessor

def create (toFloat32 : ℚ → ℚ) (useDoubleTensor : Bool) : MinPLogitsProcessor where
  toFloat32 := toFloat32
  useDoubleTensor := useDoubleTensor
  minPCount := 0
  minPCpu := fun _ => 0
  minPDevice := fun _ => 0
  minPSize := 0

variable (processor : MinPLogitsProcessor)

-- What `min_p` holds for a row. Without a tensor of its own the device reads the CPU tensor.
def minP (row : Nat) : ℚ :=
  if processor.useDoubleTensor then processor.minPDevice row else processor.minPCpu row

def addMinP (current : Bool × MinPLogitsProcessor) (added : AddedRequest) :
    Bool × MinPLogitsProcessor :=
  let (needsUpdate, processor) := current
  let minP := added.params.minP
  let minPBefore := processor.minPCpu added.index
  if minPBefore ≠ processor.toFloat32 minP then
    (true, { processor with
      minPCpu := update processor.minPCpu added.index (processor.toFloat32 minP)
      minPCount :=
        if minP ≠ 0 ∧ minPBefore = 0 then processor.minPCount + 1
        else if minP = 0 ∧ minPBefore ≠ 0 then processor.minPCount - 1
        else processor.minPCount })
  else (needsUpdate, processor)

def removeMinP (index : Nat) : MinPLogitsProcessor :=
  if processor.minPCpu index ≠ 0 then
    { processor with
      minPCpu := update processor.minPCpu index 0
      minPCount := processor.minPCount - 1 }
  else processor

def moveMinP (current : Bool × MinPLogitsProcessor) (moved : MovedRequest) :
    Bool × MinPLogitsProcessor :=
  let (needsUpdate, processor) := current
  let minPA := processor.minPCpu moved.first
  let minPB := processor.minPCpu moved.second
  let processor :=
    if minPA ≠ minPB then
      let minPCpu := update processor.minPCpu moved.second minPA
      { processor with
        minPCpu :=
          if moved.direction = .swap then update minPCpu moved.first minPB else minPCpu }
    else processor
  (needsUpdate || minPA ≠ minPB,
    if moved.direction = .unidirectional then
      { processor with
        minPCpu :=
          if minPA ≠ 0 then update processor.minPCpu moved.first 0 else processor.minPCpu
        minPCount := if minPB ≠ 0 then processor.minPCount - 1 else processor.minPCount }
    else processor)

def updateTensor (size : Nat) (needsUpdate : Bool) (processor : MinPLogitsProcessor) :
    MinPLogitsProcessor :=
  if processor.minPCount ≠ 0 ∧ (needsUpdate ∨ processor.minPSize ≠ size) then
    { processor with
      minPSize := size
      minPDevice :=
        if processor.useDoubleTensor then
          fun row => if row < size then processor.minPCpu row else processor.minPDevice row
        else processor.minPDevice }
  else processor

def updateState : Option BatchUpdate → MinPLogitsProcessor
  | none => processor
  | some update =>
    let (needsUpdate, processor) := update.added.foldl addMinP (false, processor)
    let (needsUpdate, processor) :=
      if processor.minPCount ≠ 0 then
        update.moved.foldl moveMinP
          (needsUpdate || !update.removed.isEmpty, update.removed.foldl removeMinP processor)
      else (needsUpdate, processor)
    updateTensor update.batchSize needsUpdate processor

end MinPLogitsProcessor

section DictUpdates

variable {T : Type}

def addEntry (newState : AddedRequest → Option T) (current : Bool × AList fun _ : Nat => T)
    (added : AddedRequest) : Bool × AList fun _ : Nat => T :=
  match newState added with
  | some state => (true, current.2.insert added.index state)
  | none => (current.1 || (current.2.lookup added.index).isSome, current.2.erase added.index)

def removeEntry (truthy : T → Bool) (current : Bool × AList fun _ : Nat => T) (index : Nat) :
    Bool × AList fun _ : Nat => T :=
  (current.1 || (current.2.lookup index).any truthy, current.2.erase index)

def moveEntries (current : Bool × AList fun _ : Nat => T) (moved : MovedRequest) :
    Bool × AList fun _ : Nat => T :=
  let (updated, entries) := current
  let aEntry := entries.lookup moved.first
  let entries := entries.erase moved.first
  let bEntry := entries.lookup moved.second
  let entries := entries.erase moved.second
  let entries := aEntry.elim entries fun entry => entries.insert moved.second entry
  (updated || aEntry.isSome || bEntry.isSome,
    if moved.direction = .swap then bEntry.elim entries fun entry => entries.insert moved.first entry
    else entries)

def processDictUpdates (truthy : T → Bool) (newState : AddedRequest → Option T)
    (reqEntries : AList fun _ : Nat => T) :
    Option BatchUpdate → Bool × AList fun _ : Nat => T
  | none => (false, reqEntries)
  | some update =>
    let current := update.added.foldl (addEntry newState) (false, reqEntries)
    if current.2.entries.isEmpty then current
    else
      let current := update.removed.foldl (removeEntry truthy) current
      update.moved.foldl moveEntries current

end DictUpdates

structure LogitBiasLogitsProcessor where
  biases : AList fun _ : Nat => List (Nat × ℚ)
  biasTensors : List (Nat × Nat × ℚ)

namespace LogitBiasLogitsProcessor

def create : LogitBiasLogitsProcessor := ⟨∅, []⟩

def newBias (params : SamplingParams) : Option (List (Nat × ℚ)) :=
  params.logitBias.filter fun bias => !bias.isEmpty

def tensors (biases : AList fun _ : Nat => List (Nat × ℚ)) : List (Nat × Nat × ℚ) :=
  biases.entries.flatMap fun entry => entry.2.map fun bias => (entry.1, bias.1, bias.2)

def updateState (processor : LogitBiasLogitsProcessor) (update : Option BatchUpdate) :
    LogitBiasLogitsProcessor :=
  let (needsUpdate, biases) :=
    processDictUpdates (fun bias => !bias.isEmpty) (fun added => newBias added.params)
      processor.biases update
  ⟨biases, if needsUpdate then tensors biases else processor.biasTensors⟩

end LogitBiasLogitsProcessor

-- An entry of `min_toks`. It refers to the list of output tokens of its request.
structure MinTokensEntry where
  minTokens : Nat
  outputTokIdsOf : RequestId
  stopTokenIds : List Nat
  deriving DecidableEq, Repr

structure MinTokensLogitsProcessor where
  minToks : AList fun _ : Nat => MinTokensEntry
  logitsSlice : List (Nat × Nat)

namespace MinTokensLogitsProcessor

def create : MinTokensLogitsProcessor := ⟨∅, []⟩

def addRequest (params : SamplingParams) (outputTokIdsOf : RequestId) (numOutputTokens : Nat) :
    Option MinTokensEntry :=
  if params.minTokens = 0 ∨ params.minTokens ≤ numOutputTokens then none
  else some ⟨params.minTokens, outputTokIdsOf, params.allStopTokenIds⟩

def slice (minToks : AList fun _ : Nat => MinTokensEntry) : List (Nat × Nat) :=
  minToks.entries.flatMap fun entry => entry.2.stopTokenIds.map fun token => (entry.1, token)

def attained (outputs : RequestId → List Int) (minToks : AList fun _ : Nat => MinTokensEntry) :
    List Nat :=
  (minToks.entries.filter fun entry =>
    entry.2.minTokens ≤ (outputs entry.2.outputTokIdsOf).length).map (·.1)

def updateState (processor : MinTokensLogitsProcessor) (outputs : RequestId → List Int)
    (update : Option BatchUpdate) : MinTokensLogitsProcessor :=
  let (needsUpdate, minToks) :=
    processDictUpdates (fun _ => true)
      (fun added => addRequest added.params added.outputTokIdsOf
        (outputs added.outputTokIdsOf).length)
      processor.minToks update
  let toRemove := attained outputs minToks
  let minToks := toRemove.foldl (fun minToks index => minToks.erase index) minToks
  ⟨minToks, if needsUpdate || !toRemove.isEmpty then slice minToks else processor.logitsSlice⟩

end MinTokensLogitsProcessor

end VllmEngine
