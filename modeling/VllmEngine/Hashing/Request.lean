import Mathlib.Tactic.Common

set_option autoImplicit false

namespace VllmEngine

abbrev TokenId := Nat
abbrev RequestId := Nat
abbrev Bytes := List UInt8

-- `outOfFuel` is no exception of the source: it marks a loop that was cut off.
inductive PyError where
  | assertionError
  | valueError (message : String)
  | runtimeError (message : String)
  | indexError
  | keyError
  | notImplementedError (message : String)
  | outOfFuel
  deriving DecidableEq, Repr

def pyAssert (condition : Bool) : Except PyError Unit :=
  if condition then .ok () else .error .assertionError

@[simp] theorem pyAssert_eq_ok {condition : Bool} {value : Unit} :
    pyAssert condition = .ok value ↔ condition = true := by
  cases condition <;> simp [pyAssert]

structure PlaceholderRange where
  offset : Nat
  length : Nat
  deriving DecidableEq, Repr

structure MultiModalFeatureSpec where
  identifier : String
  mmPosition : PlaceholderRange
  deriving DecidableEq, Repr

namespace MultiModalFeatureSpec

def offset (feature : MultiModalFeatureSpec) : Nat := feature.mmPosition.offset

def stop (feature : MultiModalFeatureSpec) : Nat :=
  feature.mmPosition.offset + feature.mmPosition.length

theorem offset_le_stop (feature : MultiModalFeatureSpec) : feature.offset ≤ feature.stop :=
  Nat.le_add_right _ _

end MultiModalFeatureSpec

inductive RequestStatus where
  | waiting
  | waitingForStructuredOutputGrammar
  | waitingForRemoteKvs
  | waitingForStreamingReq
  | running
  | preempted
  | finishedStopped
  | finishedLengthCapped
  | finishedAborted
  | finishedIgnored
  | finishedError
  | finishedRepetition
  deriving DecidableEq, Repr

namespace RequestStatus

def isFinished : RequestStatus → Bool
  | .waiting | .waitingForStructuredOutputGrammar | .waitingForRemoteKvs
  | .waitingForStreamingReq | .running | .preempted => false
  | .finishedStopped | .finishedLengthCapped | .finishedAborted | .finishedIgnored
  | .finishedError | .finishedRepetition => true

end RequestStatus

structure LoRARequest where
  loraName : String
  loraIntId : Nat
  deriving DecidableEq, Repr

structure Request (H : Type) where
  requestId : RequestId
  promptTokenIds : Option (List TokenId)
  promptEmbeds : Option (List Bytes)
  numPromptTokens : Nat
  outputTokenIds : List TokenId
  allTokenIds : List TokenId
  numComputedTokens : Nat
  cacheSalt : Option String
  mmFeatures : List MultiModalFeatureSpec
  loraRequest : Option LoRARequest
  blockHashes : List H
  deriving DecidableEq, Repr

namespace Request

variable {H : Type}

def numTokens (request : Request H) : Nat := request.allTokenIds.length

end Request

structure StreamingUpdate where
  mmFeatures : Option (List MultiModalFeatureSpec)
  promptTokenIds : Option (List TokenId)
  deriving DecidableEq, Repr

end VllmEngine
