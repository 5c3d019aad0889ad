import VllmEngine.Offload.StoreJob

set_option autoImplicit false

namespace VllmEngine

structure KVTensor where
  dataPtr : Nat
  rowStride : Nat
  rowSize : Nat
  nonempty : 0 < rowSize
  apart : rowSize ≤ rowStride

structure CanonicalKVCacheRef where
  tensorIdx : Nat
  pageSizeBytes : Nat
  deriving DecidableEq, Repr

structure CopyOp where
  src : Nat
  dst : Nat
  size : Nat
  deriving DecidableEq, Repr

-- `output[:] = values` for an output of the given length: one value is broadcast.
def assignAll (length : Nat) (values : List Nat) : Except PyError (List Nat) :=
  if values.length = length then .ok values
  else match values with
    | [value] => .ok (List.replicate length value)
    | _ => .error (.valueError "could not broadcast input array")

def KVTensor.slotPtr (tensor : KVTensor) (blocksPerChunk block subBlock : Nat) : Nat :=
  tensor.dataPtr + block * tensor.rowStride + subBlock * (tensor.rowSize / blocksPerChunk)

def computeSubBlockPtrs (blockIds : List Nat) (blocksPerChunk numSubBlocks : Nat)
    (tensor : KVTensor) (skipCount : Nat) : Except PyError (List Nat) := do
  pyAssert (skipCount < blocksPerChunk)
  if blocksPerChunk = 1 then
    assignAll numSubBlocks
      ((blockIds.take numSubBlocks).map fun block => tensor.dataPtr + block * tensor.rowStride)
  else do
    pyAssert (tensor.rowSize % blocksPerChunk = 0)
    let flat := blockIds.flatMap fun block =>
      (List.range blocksPerChunk).map (tensor.slotPtr blocksPerChunk block)
    assignAll numSubBlocks (slice flat skipCount (skipCount + numSubBlocks))

-- A row of a CPU tensor holds `blocksPerChunk` rows of the GPU tensor.
structure SingleDirectionOffloadingHandler where
  gpuTensors : List KVTensor
  cpuTensors : List KVTensor
  blocksPerChunk : Nat
  kvCacheGroupsDataRefs : List (List CanonicalKVCacheRef)
  gpuToCpu : Bool
  positive : 0 < blocksPerChunk
  sameLength : gpuTensors.length = cpuTensors.length
  paged : ∀ pair ∈ gpuTensors.zip cpuTensors, pair.2.rowSize = pair.1.rowSize * blocksPerChunk
  referenced : ∀ refs ∈ kvCacheGroupsDataRefs, refs ≠ [] ∧
    ∀ ref ∈ refs, ref.tensorIdx < gpuTensors.length

structure TransferCursor where
  srcOffset : Nat
  dstOffset : Nat
  ops : List CopyOp
  deriving DecidableEq, Repr

namespace SingleDirectionOffloadingHandler

variable (handler : SingleDirectionOffloadingHandler)

def srcTensors : List KVTensor :=
  if handler.gpuToCpu then handler.gpuTensors else handler.cpuTensors

def dstTensors : List KVTensor :=
  if handler.gpuToCpu then handler.cpuTensors else handler.gpuTensors

def srcBlocksPerChunk : Nat :=
  if handler.gpuToCpu then 1 else handler.blocksPerChunk

def dstBlocksPerChunk : Nat :=
  if handler.gpuToCpu then handler.blocksPerChunk else 1

def tensorAt (tensors : List KVTensor) (index : Nat) : Except PyError KVTensor :=
  match tensors[index]? with
  | none => .error .indexError
  | some tensor => .ok tensor

def transferRef (groupSize : Nat)
    (groupSrc groupDst : List Nat) (srcSkip dstSkip : Nat) (ref : CanonicalKVCacheRef) :
    Except PyError (List CopyOp) := do
  let srcTensor ← tensorAt handler.srcTensors ref.tensorIdx
  let src ← computeSubBlockPtrs groupSrc handler.srcBlocksPerChunk groupSize srcTensor srcSkip
  let dstTensor ← tensorAt handler.dstTensors ref.tensorIdx
  let dst ← computeSubBlockPtrs groupDst handler.dstBlocksPerChunk groupSize dstTensor dstSkip
  return List.zipWith (fun src dst => { src, dst, size := ref.pageSizeBytes }) src dst

def transferGroup (srcBlocks dstBlocks : List Nat)
    (cursor : TransferCursor) (group : (Nat × Nat) × List CanonicalKVCacheRef) :
    Except PyError TransferCursor := do
  let ((groupSize, blockIdx), refs) := group
  if groupSize = 0 then
    return cursor
  let srcSkip := blockIdx % handler.srcBlocksPerChunk
  let dstSkip := blockIdx % handler.dstBlocksPerChunk
  let dstEndOffset := cursor.dstOffset + cdiv (groupSize + dstSkip) handler.dstBlocksPerChunk
  pyAssert (dstEndOffset ≤ dstBlocks.length)
  let srcEndOffset := cursor.srcOffset + cdiv (groupSize + srcSkip) handler.srcBlocksPerChunk
  pyAssert (srcEndOffset ≤ srcBlocks.length)
  let groupSrc := slice srcBlocks cursor.srcOffset srcEndOffset
  let groupDst := slice dstBlocks cursor.dstOffset dstEndOffset
  let ops ← refs.mapM (handler.transferRef groupSize groupSrc groupDst srcSkip dstSkip)
  return { srcOffset := srcEndOffset, dstOffset := dstEndOffset, ops := cursor.ops ++ ops.flatten }

def transferAsync (gpuSpec : GPULoadStoreSpec)
    (cpuBlocks : List Nat) : Except PyError (List CopyOp) := do
  let srcBlocks := if handler.gpuToCpu then gpuSpec.blockIds else cpuBlocks
  let dstBlocks := if handler.gpuToCpu then cpuBlocks else gpuSpec.blockIds
  let refs := handler.kvCacheGroupsDataRefs
  pyAssert (gpuSpec.groupSizes.length = refs.length)
  pyAssert (gpuSpec.blockIndices.length = refs.length)
  let numCopyOps := (List.zipWith (fun size refs => size * refs.length) gpuSpec.groupSizes refs).sum
  let cursor ← ((gpuSpec.groupSizes.zip gpuSpec.blockIndices).zip refs).foldlM
    (handler.transferGroup srcBlocks dstBlocks) { srcOffset := 0, dstOffset := 0, ops := [] }
  pyAssert (cursor.srcOffset = srcBlocks.length)
  pyAssert (cursor.dstOffset = dstBlocks.length)
  pyAssert (cursor.ops.length = numCopyOps)
  return cursor.ops

end SingleDirectionOffloadingHandler

end VllmEngine
