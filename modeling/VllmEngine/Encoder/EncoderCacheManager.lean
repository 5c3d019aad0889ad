import VllmEngine.Hashing.Request
import VllmEngine.Shared.OrderedDict
import VllmEngine.Shared.Outcome
import Mathlib.Data.Finset.Basic

set_option autoImplicit false

namespace VllmEngine

abbrev MmHash := String

def PlaceholderRange.getNumEmbeds (range : PlaceholderRange) (isEmbed : Option (List Bool)) : Nat :=
  match isEmbed with
  | none => range.length
  | some mask => mask.count true

structure EncoderInput extends MultiModalFeatureSpec where
  isEmbed : Option (List Bool)

def EncoderInput.getNumEmbeds (input : EncoderInput) : Nat :=
  input.mmPosition.getNumEmbeds input.isEmbed

structure EncoderRequest where
  requestId : RequestId
  mmFeatures : List EncoderInput

namespace EncoderRequest

def mmFeature (request : EncoderRequest) (inputId : Nat) :
    Except PyError EncoderInput :=
  match request.mmFeatures[inputId]? with
  | none => .error .indexError
  | some feature => .ok feature

def getNumEncoderEmbeds (request : EncoderRequest) (inputId : Nat) :
    Except PyError Nat := do
  pyAssert (inputId < request.mmFeatures.length)
  let feature ← request.mmFeature inputId
  return feature.getNumEmbeds

end EncoderRequest

structure EncoderCacheManager where
  cacheSize : Nat
  numFreeSlots : Int
  numFreeableSlots : Int
  cached : OrderedDict MmHash (Finset RequestId)
  requestCachedIds : OrderedDict RequestId (List Nat)
  freeable : OrderedDict MmHash Nat
  freed : List MmHash

namespace EncoderCacheManager

def create (cacheSize : Nat) : EncoderCacheManager where
  cacheSize := cacheSize
  numFreeSlots := cacheSize
  numFreeableSlots := cacheSize
  cached := .empty
  requestCachedIds := .empty
  freeable := .empty
  freed := []

variable (manager : EncoderCacheManager)

def reset : EncoderCacheManager :=
  { manager with
    cached := .empty
    requestCachedIds := .empty
    freeable := .empty
    freed := []
    numFreeSlots := manager.cacheSize
    numFreeableSlots := manager.cacheSize }

def addCachedId (requestId : RequestId) (inputId : Nat) : EncoderCacheManager :=
  let ids := (manager.requestCachedIds.get? requestId).getD []
  { manager with
    requestCachedIds := manager.requestCachedIds.insert requestId
      (if inputId ∈ ids then ids else ids ++ [inputId]) }

def addReference (mmHash : MmHash) (references : Finset RequestId)
    (requestId : RequestId) : EncoderCacheManager :=
  { manager with cached := manager.cached.insert mmHash (insert requestId references) }

def popFreeable (mmHash : MmHash) : Except PyError EncoderCacheManager :=
  match manager.freeable.get? mmHash with
  | none => .error .keyError
  | some numEncoderEmbeds =>
    .ok { manager with
      freeable := manager.freeable.erase mmHash
      numFreeableSlots := manager.numFreeableSlots - numEncoderEmbeds }

def checkAndUpdateCache (request : EncoderRequest)
    (inputId : Nat) : Except PyError (Bool × EncoderCacheManager) := do
  let feature ← request.mmFeature inputId
  match manager.cached.get? feature.identifier with
  | none => return (false, manager)
  | some references =>
    let manager ←
      if references = ∅ then manager.popFreeable feature.identifier else pure manager
    let manager := manager.addReference feature.identifier references request.requestId
    return (true, manager.addCachedId request.requestId inputId)

def evictEntry (mmHash : MmHash) (numFreeEmbeds : Nat)
    (rest : OrderedDict MmHash Nat) : EncoderCacheManager :=
  { manager with
    freeable := rest
    cached := manager.cached.erase mmHash
    freed := manager.freed ++ [mmHash]
    numFreeSlots := manager.numFreeSlots + numFreeEmbeds }

def evictUntil (manager : EncoderCacheManager) (needed : Int) :
    Except PyError EncoderCacheManager :=
  if manager.numFreeSlots < needed then
    match popped : manager.freeable.popFirst? with
    | none => .error .keyError
    | some ((mmHash, numFreeEmbeds), rest) =>
      have shorter : rest.entries.length < manager.freeable.entries.length := by
        rw [OrderedDict.entries_of_popFirst? popped]
        exact Nat.lt_succ_self _
      if mmHash ∈ manager.cached.keys then
        evictUntil (manager.evictEntry mmHash numFreeEmbeds rest) needed
      else
        .error .keyError
  else
    .ok manager
termination_by manager.freeable.entries.length

def canAllocate (request : EncoderRequest)
    (inputId : Nat) (encoderComputeBudget numEmbedsToSchedule : Int) :
    Except PyError (Bool × EncoderCacheManager) := do
  let numEncoderEmbeds ← request.getNumEncoderEmbeds inputId
  if encoderComputeBudget < numEncoderEmbeds then
    return (false, manager)
  let needed : Int := numEncoderEmbeds + numEmbedsToSchedule
  if needed ≤ manager.numFreeSlots then
    return (true, manager)
  if manager.numFreeableSlots < needed then
    return (false, manager)
  let manager ← manager.evictUntil needed
  return (true, manager)

def allocate (request : EncoderRequest)
    (inputId : Nat) : Except PyError EncoderCacheManager := do
  let feature ← request.mmFeature inputId
  let references := (manager.cached.get? feature.identifier).getD ∅
  let numEncoderEmbeds ← request.getNumEncoderEmbeds inputId
  pyAssert (numEncoderEmbeds ≤ manager.numFreeSlots)
  pyAssert (numEncoderEmbeds ≤ manager.numFreeableSlots)
  let manager := manager.addReference feature.identifier references request.requestId
  let manager := manager.addCachedId request.requestId inputId
  return { manager with
    numFreeSlots := manager.numFreeSlots - numEncoderEmbeds
    numFreeableSlots := manager.numFreeableSlots - numEncoderEmbeds }

def getCachedInputIds (requestId : RequestId) : List Nat :=
  (manager.requestCachedIds.get? requestId).getD []

def dropCachedId (requestId : RequestId) (inputId : Nat) : EncoderCacheManager :=
  match manager.requestCachedIds.get? requestId with
  | none => manager
  | some ids =>
    let ids := ids.filter (· ≠ inputId)
    { manager with
      requestCachedIds :=
        if ids = [] then manager.requestCachedIds.erase requestId
        else manager.requestCachedIds.insert requestId ids }

def freeEncoderInput (request : EncoderRequest)
    (inputId : Nat) : Except PyError EncoderCacheManager := do
  let feature ← request.mmFeature inputId
  let manager := manager.dropCachedId request.requestId inputId
  match manager.cached.get? feature.identifier with
  | none => return manager
  | some references =>
    if references = ∅ then
      return manager
    let references := references.erase request.requestId
    let manager := { manager with cached := manager.cached.insert feature.identifier references }
    if references = ∅ then
      let numEncoderEmbeds ← request.getNumEncoderEmbeds inputId
      return { manager with
        freeable := manager.freeable.insert feature.identifier numEncoderEmbeds
        numFreeableSlots := manager.numFreeableSlots + numEncoderEmbeds }
    return manager

def freeEncoderInputs (request : EncoderRequest)
    (inputIds : List Nat) : Except PyError EncoderCacheManager :=
  inputIds.foldlM (fun manager inputId => manager.freeEncoderInput request inputId) manager

def free (request : EncoderRequest) : Except PyError EncoderCacheManager :=
  manager.freeEncoderInputs request (manager.getCachedInputIds request.requestId)

def getFreedMmHashes : List MmHash × EncoderCacheManager :=
  (manager.freed, { manager with freed := [] })

end EncoderCacheManager

end VllmEngine
