import VllmEngine.KVCache.Spec
import VllmEngine.Shared.Stride

set_option autoImplicit false

namespace VllmEngine

structure OffloadKey (Hash : Type) where
  blockHash : Hash
  groupIdx : Nat
  deriving DecidableEq, Repr

structure GroupOffloadConfig where
  groupIdx : Nat
  tokensPerBlock : Nat
  tokensPerChunk : Nat
  hashesPerChunk : Nat
  -- `none` for full attention.
  slidingWindowSizeInChunks : Option Nat
  alignmentChunkCount : Option Nat
  isEagleGroup : Bool
  deriving DecidableEq, Repr

def isStoreReachableSwaChunk (absoluteChunkIndex storableChunkCount : Nat)
    (alignmentChunkCount slidingWindowChunks : Option Nat) (isEagleGroup : Bool) :
    Except PyError Bool :=
  match alignmentChunkCount with
  | none => .ok true
  | some alignmentChunkCount =>
    match slidingWindowChunks with
    | none => .error .assertionError
    | some slidingWindowChunks =>
      let positionInSegment := absoluteChunkIndex % alignmentChunkCount
      let segmentStart := absoluteChunkIndex - positionInSegment
      let actualSegmentLength : Int :=
        min (alignmentChunkCount : Int) ((storableChunkCount : Int) - segmentStart)
      let reachableTail : Int := slidingWindowChunks + (if isEagleGroup then 1 else 0)
      .ok (decide (actualSegmentLength - reachableTail ≤ positionInSegment))

structure SchedulerOffloadConfig where
  kvGroupConfigs : List GroupOffloadConfig
  blocksPerChunk : Nat
  numWorkers : Nat
  offloadPromptOnly : Bool
  positive : 0 < blocksPerChunk
  indexed : kvGroupConfigs.map GroupOffloadConfig.groupIdx = List.range kvGroupConfigs.length

structure OffloadRequest (Hash : Type) where
  requestId : RequestId
  status : RequestStatus
  numTokens : Nat
  numPromptTokens : Nat
  numComputedTokens : Nat
  blockHashes : List Hash
  deriving DecidableEq, Repr

structure RequestGroupState (Hash : Type) where
  offloadKeys : List (OffloadKey Hash)
  blockIds : List Nat
  nextStoredChunkIdx : Nat
  numHitChunks : Nat
  deriving DecidableEq, Repr

structure RequestOffloadState (Hash : Type) where
  req : OffloadRequest Hash
  groupStates : List (RequestGroupState Hash)
  maxOffloadTokens : Option Nat
  numLocallyComputedTokens : Nat
  transferJobs : List Nat
  finishedSignaled : Bool
  deriving DecidableEq, Repr

variable {Hash : Type}

namespace RequestGroupState

def updateOffloadKeys (state : RequestGroupState Hash) (group : GroupOffloadConfig)
    (blockHashes : List Hash) : RequestGroupState Hash :=
  let start := group.hashesPerChunk * state.offloadKeys.length + group.hashesPerChunk - 1
  let hashes := stride blockHashes start blockHashes.length group.hashesPerChunk
  { state with
    offloadKeys := state.offloadKeys ++ hashes.map fun hash => ⟨hash, group.groupIdx⟩ }

def storableChunks (state : RequestGroupState Hash) (config : SchedulerOffloadConfig)
    (group : GroupOffloadConfig) (req : OffloadRequest Hash) (numOffloadableTokens : Nat) : Nat :=
  let numChunks := numOffloadableTokens / group.tokensPerChunk
  let isDecoding := req.numPromptTokens < numOffloadableTokens
  let numChunks := if group.isEagleGroup && isDecoding then numChunks - 1 else numChunks
  min numChunks (state.blockIds.length / config.blocksPerChunk)

end RequestGroupState

namespace RequestOffloadState

variable (status : RequestOffloadState Hash)

def groups (config : SchedulerOffloadConfig) : List (GroupOffloadConfig × RequestGroupState Hash) :=
  config.kvGroupConfigs.zip status.groupStates

def updateOffloadKeys (status : RequestOffloadState Hash) (config : SchedulerOffloadConfig) :
    RequestOffloadState Hash :=
  { status with
    groupStates := (status.groups config).map fun (group, state) =>
      state.updateOffloadKeys group status.req.blockHashes }

def advanceStoredIdx (config : SchedulerOffloadConfig)
    (numOffloadableTokens : Nat) : RequestOffloadState Hash :=
  { status with
    groupStates := (status.groups config).map fun (group, state) =>
      { state with
        nextStoredChunkIdx := max state.nextStoredChunkIdx
          (state.storableChunks config group status.req numOffloadableTokens) } }

def calcNumOffloadableTokens (config : SchedulerOffloadConfig) (numComputedTokens : Nat) : Nat :=
  let num := min numComputedTokens status.req.numTokens
  let num := match status.maxOffloadTokens with
    | some maxOffloadTokens => min num maxOffloadTokens
    | none => num
  if config.offloadPromptOnly then min num status.req.numPromptTokens else num

structure Keyed (status : RequestOffloadState Hash) (config : SchedulerOffloadConfig) : Prop where
  distinct : status.req.blockHashes.Nodup
  leading : List.Forall₂ (fun (group : GroupOffloadConfig) (state : RequestGroupState Hash) =>
      state.offloadKeys <+: (stride status.req.blockHashes (group.hashesPerChunk - 1)
        status.req.blockHashes.length group.hashesPerChunk).map fun hash => ⟨hash, group.groupIdx⟩)
    config.kvGroupConfigs status.groupStates

end RequestOffloadState

end VllmEngine
