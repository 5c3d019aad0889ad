import VllmEngine.KVCache.PrefixIndex
import VllmEngine.KVCache.Spec

set_option autoImplicit false

namespace VllmEngine

variable {H : Type}

-- `resolve_block_hashes` for a lookup: fine-grained managers keep the raw hashes when the hit may
-- end inside a block.
def lookupBlockHashes (blockHashes : List H) (hashBlockSize blockSize alignmentTokens : Nat)
    (supportsFineGrainedHashLookup : Bool) : Except PyError (List H) :=
  if blockSize ≠ hashBlockSize ∧ supportsFineGrainedHashLookup ∧ alignmentTokens < blockSize ∧
      blockSize % alignmentTokens = 0 then
    .ok blockHashes
  else resolveBlockHashes blockHashes hashBlockSize blockSize

def computedBlocks (groupIds : List Nat) (rows : List (List BlockRef)) : List (List BlockRef) :=
  (List.range groupIds.length).map fun j => rows.map fun row => row.getD j .nullBlock

def nullRow (groupIds : List Nat) : List BlockRef := groupIds.map fun _ => .nullBlock

namespace FullAttentionManager

variable (lookup : H → Option (List BlockRef))

def cachedRun : List H → List (List BlockRef)
  | [] => []
  | blockHash :: rest =>
    match lookup blockHash with
    | none => []
    | some row => row :: cachedRun rest

def cachedTail (blockHashes : List H) (first : Nat) : Nat → Option (Nat × List BlockRef)
  | 0 => none
  | count + 1 =>
    match blockHashes[first + count]?.bind lookup with
    | some row => some (first + count, row)
    | none => cachedTail blockHashes first count

def extendTail (blockHashes : List H) (maxLength blockSize alignmentTokens : Nat)
    (rows : List (List BlockRef)) : List (List BlockRef) × Nat :=
  let scaleFactor := blockSize / alignmentTokens
  let firstPartialIdx := rows.length * scaleFactor
  let maxPartialIdx := min (min (firstPartialIdx + scaleFactor - 1) (maxLength / alignmentTokens))
    blockHashes.length
  match cachedTail lookup blockHashes firstPartialIdx (maxPartialIdx - firstPartialIdx) with
  | some (fineIdx, row) => (rows ++ [row], (fineIdx + 1) * alignmentTokens)
  | none => (rows, rows.length * blockSize)

def trimHit (rows : List (List BlockRef)) (hitLength blockSize alignmentTokens : Nat)
    (dropEagleBlock : Bool) : List (List BlockRef) × Nat :=
  let dropped :=
    if dropEagleBlock ∧ hitLength > 0 then hitLength - min alignmentTokens blockSize else hitLength
  let aligned := dropped - dropped % alignmentTokens
  (rows.take (cdiv aligned blockSize), aligned)

def findLongestCacheHit (blockHashes : List H) (maxLength hashBlockSize blockSize : Nat)
    (dropEagleBlock : Bool) (alignmentTokens : Nat) :
    Except PyError (List (List BlockRef) × Nat) := do
  let blockHashes ←
    lookupBlockHashes blockHashes hashBlockSize blockSize alignmentTokens true
  if alignmentTokens < blockSize ∧ blockSize % alignmentTokens = 0 then
    let fullBlockHashes ← resolveBlockHashes blockHashes alignmentTokens blockSize
    let rows := cachedRun lookup (fullBlockHashes.take (maxLength / blockSize))
    let (rows, hitLength) := extendTail lookup blockHashes maxLength blockSize alignmentTokens rows
    return trimHit rows hitLength blockSize alignmentTokens dropEagleBlock
  else
    let rows := cachedRun lookup (blockHashes.take (maxLength / blockSize))
    return trimHit rows (rows.length * blockSize) blockSize alignmentTokens dropEagleBlock

end FullAttentionManager

namespace SlidingWindowManager

def contiguousBlocksForHit (windowSize blockSize : Nat) (useEagle : Bool) : Nat :=
  cdiv (windowSize - 1) blockSize + if useEagle then 1 else 0

variable (lookup : H → Option (List BlockRef))

-- The rows, the length of the last run of cached blocks, and whether the run is long enough.
def scanWindow (blockHashes : List H) (blockSize alignmentTokens contiguousBlocks : Nat)
    (dropEagleBlock : Bool) :
    Nat → List (List BlockRef) → Nat → Except PyError (List (List BlockRef) × Nat × Bool)
  | 0, rows, run => .ok (rows, run, false)
  | i + 1, rows, run => do
    let blockHash ← pyGet blockHashes i
    match lookup blockHash with
    | none =>
      scanWindow blockHashes blockSize alignmentTokens contiguousBlocks dropEagleBlock i rows 0
    | some row =>
      let postPopBlocks := if dropEagleBlock then i else i + 1
      if run = 0 ∧ blockSize ≠ alignmentTokens ∧ postPopBlocks * blockSize % alignmentTokens ≠ 0 then
        scanWindow blockHashes blockSize alignmentTokens contiguousBlocks dropEagleBlock i rows run
      else if run + 1 ≥ contiguousBlocks then
        return ((rows.set i row).take (i + (run + 1)), run + 1, true)
      else
        scanWindow blockHashes blockSize alignmentTokens contiguousBlocks dropEagleBlock i
          (rows.set i row) (run + 1)

def alignedCount (blockSize alignmentTokens : Nat) : Nat → Nat
  | 0 => 0
  | count + 1 =>
    if blockSize ≠ alignmentTokens ∧ (count + 1) * blockSize % alignmentTokens ≠ 0 then
      alignedCount blockSize alignmentTokens count
    else count + 1

def alignRows (blockSize alignmentTokens : Nat) (rows : List (List BlockRef)) :
    List (List BlockRef) :=
  rows.take (alignedCount blockSize alignmentTokens rows.length)

def finishScan (blockSize alignmentTokens : Nat) (dropEagleBlock : Bool)
    (rows : List (List BlockRef)) (run : Nat) (matchFound : Bool) : List (List BlockRef) :=
  let rows := if matchFound then rows else alignRows blockSize alignmentTokens (rows.take run)
  if dropEagleBlock ∧ rows ≠ [] then alignRows blockSize alignmentTokens rows.dropLast else rows

def findLongestCacheHit (blockHashes : List H) (maxLength hashBlockSize blockSize : Nat)
    (slidingWindow : Nat) (groupIds : List Nat) (dropEagleBlock : Bool) (alignmentTokens : Nat) :
    Except PyError (List (List BlockRef) × Nat) := do
  pyAssert (alignmentTokens % blockSize = 0)
  let blockHashes ←
    lookupBlockHashes blockHashes hashBlockSize blockSize alignmentTokens false
  let contiguousBlocks := contiguousBlocksForHit slidingWindow blockSize dropEagleBlock
  let maxNumBlocks := maxLength / blockSize
  let (rows, run, matchFound) ←
    scanWindow lookup blockHashes blockSize alignmentTokens contiguousBlocks dropEagleBlock
      maxNumBlocks (List.replicate maxNumBlocks (nullRow groupIds)) 0
  let rows := finishScan blockSize alignmentTokens dropEagleBlock rows run matchFound
  return (rows, rows.length * blockSize)

end SlidingWindowManager

namespace ChunkedLocalAttentionManager

variable (lookup : H → Option (List BlockRef))

def cachedFrom (blockHashes : List H) : Nat → Nat → Except PyError (List (List BlockRef))
  | _, 0 => .ok []
  | i, count + 1 => do
    let blockHash ← pyGet blockHashes i
    match lookup blockHash with
    | none => return []
    | some row =>
      let rows ← cachedFrom blockHashes (i + 1) count
      return row :: rows

def findLongestCacheHit (blockHashes : List H) (maxLength hashBlockSize blockSize : Nat)
    (attentionChunkSize : Nat) (groupIds : List Nat) (dropEagleBlock : Bool)
    (alignmentTokens : Nat) : Except PyError (List (List BlockRef) × Nat) := do
  pyAssert (dropEagleBlock = false)
  pyAssert (blockSize = alignmentTokens)
  let blockHashes ←
    lookupBlockHashes blockHashes hashBlockSize blockSize alignmentTokens false
  let maxNumBlocks := maxLength / blockSize
  let localAttentionStartIdx := maxLength / attentionChunkSize * attentionChunkSize
  let localAttentionStartBlockIdx := localAttentionStartIdx / blockSize
  -- blocks before the chunk of the next token count as computed
  let cached ← cachedFrom lookup blockHashes localAttentionStartBlockIdx
    (maxNumBlocks - localAttentionStartBlockIdx)
  let rows := List.replicate localAttentionStartBlockIdx (nullRow groupIds) ++ cached
  return (rows, rows.length * blockSize)

end ChunkedLocalAttentionManager

namespace MambaManager

variable (lookup : H → Option (List BlockRef))

def findPartial (blockHashes : List H) (groupIds : List Nat) (scaleFactor hashBlockSize : Nat) :
    Nat → List (List BlockRef) × Nat
  | 0 => ([], 0)
  | fineIdx + 1 =>
    match blockHashes[fineIdx]?.bind lookup with
    | some row =>
      (List.replicate (fineIdx / scaleFactor) (nullRow groupIds) ++ [row],
        (fineIdx + 1) * hashBlockSize)
    | none => findPartial blockHashes groupIds scaleFactor hashBlockSize fineIdx

def findFull (blockHashes : List H) (groupIds : List Nat) (blockSize alignmentTokens : Nat) :
    Nat → Except PyError (List (List BlockRef) × Nat)
  | 0 => .ok ([], 0)
  | i + 1 => do
    let blockHash ← pyGet blockHashes i
    match lookup blockHash with
    | none => findFull blockHashes groupIds blockSize alignmentTokens i
    | some row =>
      if blockSize ≠ alignmentTokens ∧ (i + 1) * blockSize % alignmentTokens ≠ 0 then
        findFull blockHashes groupIds blockSize alignmentTokens i
      else return (List.replicate i (nullRow groupIds) ++ [row], (i + 1) * blockSize)

def findLongestCacheHit (blockHashes : List H) (maxLength hashBlockSize blockSize : Nat)
    (groupIds : List Nat) (alignmentTokens : Nat) :
    Except PyError (List (List BlockRef) × Nat) := do
  let blockHashes ←
    lookupBlockHashes blockHashes hashBlockSize blockSize alignmentTokens true
  if alignmentTokens < blockSize ∧ blockSize % alignmentTokens = 0 then
    return findPartial lookup blockHashes groupIds (blockSize / alignmentTokens) alignmentTokens
      (min (maxLength / alignmentTokens) blockHashes.length)
  else
    findFull lookup blockHashes groupIds blockSize alignmentTokens (maxLength / blockSize)

end MambaManager

def findCachedRows (lookup : H → Option (List BlockRef)) (hashBlockSize : Nat)
    (blockHashes : List H) (maxLength : Nat) (groupIds : List Nat) (spec : KVCacheSpec)
    (dropEagleBlock : Bool) (alignmentTokens dcpWorldSize : Nat) :
    Except PyError (List (List BlockRef) × Nat) :=
  match spec.kind with
  | .fullAttention | .rswa _ =>
    FullAttentionManager.findLongestCacheHit lookup blockHashes maxLength hashBlockSize
      (spec.managerBlockSize dcpWorldSize) dropEagleBlock alignmentTokens
  | .slidingWindow slidingWindow =>
    SlidingWindowManager.findLongestCacheHit lookup blockHashes maxLength hashBlockSize
      spec.blockSize slidingWindow groupIds dropEagleBlock alignmentTokens
  | .chunkedLocalAttention attentionChunkSize =>
    ChunkedLocalAttentionManager.findLongestCacheHit lookup blockHashes maxLength hashBlockSize
      spec.blockSize attentionChunkSize groupIds dropEagleBlock alignmentTokens
  | .mamba _ _ =>
    MambaManager.findLongestCacheHit lookup blockHashes maxLength hashBlockSize spec.blockSize
      groupIds alignmentTokens
  | .crossAttention =>
    throw (.notImplementedError "CrossAttentionManager does not support caching")

def findLongestCacheHit (index : PrefixIndex H) (hashBlockSize : Nat) (blockHashes : List H)
    (maxLength : Nat) (groupIds : List Nat) (spec : KVCacheSpec) (dropEagleBlock : Bool)
    (alignmentTokens dcpWorldSize : Nat) : Except PyError (List (List BlockRef) × Nat) := do
  let (rows, hitLength) ← findCachedRows (fun blockHash => index.getCachedBlock blockHash groupIds)
    hashBlockSize blockHashes maxLength groupIds spec dropEagleBlock alignmentTokens dcpWorldSize
  return (computedBlocks groupIds rows, hitLength)

end VllmEngine
