import VllmEngine.Hashing.Session
import VllmEngine.Shared.Outcome
import Mathlib.Data.List.Sort
import Mathlib.Algebra.Order.Ring.Unbundled.Rat

set_option autoImplicit false

namespace VllmEngine

inductive SamplingType where
  | greedy
  | random
  | randomSeed
  deriving DecidableEq, Repr

structure SamplingParams where
  temperature : ℚ
  seed : Option Int
  topP : ℚ
  topK : Int
  minP : ℚ
  frequencyPenalty : ℚ
  presencePenalty : ℚ
  repetitionPenalty : ℚ
  minTokens : Nat
  allStopTokenIds : List Nat
  logitBias : Option (List (Nat × ℚ))
  allowedTokenIds : Option (List Nat)
  badWordsTokenIds : Option (List (List Nat))
  thinkingTokenBudget : Option Nat
  deriving DecidableEq, Repr

namespace SamplingParams

def samplingEps : ℚ := 1 / 100000

def samplingType (params : SamplingParams) : SamplingType :=
  if params.temperature < samplingEps then .greedy
  else if params.seed.isSome then .randomSeed
  else .random

end SamplingParams

structure CachedRequestState where
  reqId : RequestId
  promptTokenIds : Option (List TokenId)
  promptEmbeds : Option (List Bytes)
  promptIsTokenIds : Option (List Bool)
  samplingParams : SamplingParams
  generator : Option Nat
  blockIds : List (List Nat)
  numComputedTokens : Nat
  outputTokenIds : List Int
  loraRequest : Option LoRARequest
  prevNumDraftLen : Nat
  deriving DecidableEq, Repr

namespace CachedRequestState

def numPromptTokens (request : CachedRequestState) : Nat :=
  match request.promptTokenIds, request.promptEmbeds with
  | some tokens, _ => tokens.length
  | none, some embeds => embeds.length
  | none, none => 0

def numTokens (request : CachedRequestState) : Nat :=
  request.numPromptTokens + request.outputTokenIds.length

theorem numPromptTokens_of_length {request : CachedRequestState} {count : Nat}
    (measured : lengthFromPromptTokenIdsOrEmbeds request.promptTokenIds request.promptEmbeds =
      .ok count) : count = request.numPromptTokens := by
  unfold lengthFromPromptTokenIdsOrEmbeds at measured
  unfold numPromptTokens
  cases tokens : request.promptTokenIds <;> cases embeds : request.promptEmbeds <;>
    simp only [tokens, embeds] at measured ⊢
  · cases measured
  · exact (Except.ok.inj measured).symm
  · exact (Except.ok.inj measured).symm
  · split at measured
    · cases measured
    · exact (Except.ok.inj measured).symm

end CachedRequestState

inductive MoveDirectionality where
  | unidirectional
  | swap
  deriving DecidableEq, Repr

-- The output tokens are the request's own list, of which the processors hold a reference.
structure AddedRequest where
  index : Nat
  params : SamplingParams
  promptTokIds : Option (List TokenId)
  outputTokIdsOf : RequestId
  deriving DecidableEq, Repr

structure MovedRequest where
  first : Nat
  second : Nat
  direction : MoveDirectionality
  deriving DecidableEq, Repr

structure BatchUpdate where
  batchSize : Nat
  removed : List Nat
  added : List AddedRequest
  moved : List MovedRequest
  deriving DecidableEq, Repr

structure BatchUpdateBuilder where
  removedRows : List Nat
  isRemovedSorted : Bool
  added : List AddedRequest
  moved : List MovedRequest
  batchChanged : Bool
  deriving DecidableEq, Repr

namespace BatchUpdateBuilder

def empty : BatchUpdateBuilder where
  removedRows := []
  isRemovedSorted := false
  added := []
  moved := []
  batchChanged := false

variable (builder : BatchUpdateBuilder)

def ensureRemovedSorted : BatchUpdateBuilder :=
  if builder.isRemovedSorted then builder
  else
    { builder with
      removedRows := builder.removedRows.insertionSort (· ≥ ·)
      isRemovedSorted := true }

def removedAppend (index : Nat) : Except PyError BatchUpdateBuilder :=
  if builder.isRemovedSorted then
    .error (.runtimeError "Cannot register new removed request after self.removed has been read.")
  else
    .ok { builder with
      removedRows := builder.removedRows ++ [index]
      batchChanged := true }

def removed : BatchUpdateBuilder := builder.ensureRemovedSorted

def peekRemoved : Option Nat × BatchUpdateBuilder :=
  if builder.removedRows.isEmpty then (none, builder)
  else
    let builder := builder.ensureRemovedSorted
    (builder.removedRows.getLast?, builder)

def popRemoved : Option Nat × BatchUpdateBuilder :=
  if builder.removedRows.isEmpty then (none, builder)
  else
    let builder := builder.ensureRemovedSorted
    (builder.removedRows.getLast?, { builder with removedRows := builder.removedRows.dropLast })

def getAndReset (batchSize : Nat) : Option BatchUpdate × BatchUpdateBuilder :=
  let builder := { builder with isRemovedSorted := false, batchChanged := false }
  if builder.removedRows.isEmpty && builder.moved.isEmpty && builder.added.isEmpty then
    (none, builder)
  else
    (some {
      batchSize := batchSize
      removed := builder.removedRows
      added := builder.added
      moved := builder.moved },
      { builder with removedRows := [], moved := [], added := [] })

def holes : List Nat :=
  builder.ensureRemovedSorted.removedRows.reverse

end BatchUpdateBuilder

end VllmEngine
