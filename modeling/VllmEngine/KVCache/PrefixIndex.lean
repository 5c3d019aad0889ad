import VllmEngine.Hashing.BlockHash
import VllmEngine.KVCache.Block

set_option autoImplicit false

namespace VllmEngine

open Function

structure PoolConfig (H : Type) where
  numGpuBlocks : Nat
  enableCaching : Bool
  hashBlockSize : Nat
  enableKvCacheEvents : Bool
  hasher : Hasher H

inductive KVCacheEvent (H : Type) where
  | blockStored (blockHashes : List H) (parentBlockHash : Option H) (tokenIds : List TokenId)
      (blockSize : Nat) (loraId : Option Nat) (loraName : Option String)
      (extraKeys : Option (List (Option (List ExtraKey)))) (groupIdx : Nat)
  | blockRemoved (blockHash : H) (groupIdx : Nat)
  | allBlocksCleared
  deriving DecidableEq, Repr

-- The part of a `BlockPool` that serves prefix caching.
structure PrefixIndex (H : Type) where
  blockHash : BlockRef → Option (BlockHashWithGroupId H)
  blockHashNumTokens : BlockRef → Option Nat
  cachedBlockHashToBlock : BlockHashToBlockMap H
  cachedBlockHashesByBlock : BlockRef → Option (List (BlockHashWithGroupId H))
  kvEventQueue : List (KVCacheEvent H)

variable {H : Type}

def resolveBlockHashes (blockHashes : List H) (hashBlockSize blockSize : Nat) :
    Except PyError (List H) := do
  if blockSize = hashBlockSize then
    return blockHashes
  pyAssert (blockSize % hashBlockSize = 0)
  let scaleFactor := blockSize / hashBlockSize
  -- the last hash within a block already chains over the whole prefix
  return (List.range (blockHashes.length / scaleFactor)).filterMap fun idx =>
    blockHashes[(idx + 1) * scaleFactor - 1]?

namespace PrefixIndex

def empty : PrefixIndex H :=
  { blockHash := fun _ => none
    blockHashNumTokens := fun _ => none
    cachedBlockHashToBlock := .empty
    cachedBlockHashesByBlock := fun _ => none
    kvEventQueue := [] }

variable (index : PrefixIndex H)

def setBlockHash (block : BlockRef) (key : BlockHashWithGroupId H)
    (numTokens : Option Nat) : Except PyError (PrefixIndex H) := do
  pyAssert ((index.blockHash block).isNone && (index.blockHashNumTokens block).isNone)
  return { index with
    blockHash := update index.blockHash block (some key)
    blockHashNumTokens := update index.blockHashNumTokens block numTokens }

def resetHash (block : BlockRef) : PrefixIndex H :=
  { index with
    blockHash := update index.blockHash block none
    blockHashNumTokens := update index.blockHashNumTokens block none }

def emit (event : KVCacheEvent H) : PrefixIndex H :=
  { index with kvEventQueue := index.kvEventQueue ++ [event] }

variable (config : PoolConfig H)

def emitBlockRemovedEvents (index : PrefixIndex H)
    (blockHashes : List (BlockHashWithGroupId H)) : PrefixIndex H :=
  if config.enableKvCacheEvents then
    blockHashes.foldl (fun index key => index.emit (.blockRemoved key.blockHash key.groupId)) index
  else index

def buildBlockStoredEvent (request : Request H) (blockHashes : List H)
    (parentBlockHash : Option H) (startTokenIdx endTokenIdx blockSize kvCacheGroupId : Nat)
    (extraKeysList : List (Option (List ExtraKey))) : KVCacheEvent H :=
  .blockStored blockHashes parentBlockHash
    (request.allTokenIds.extract startTokenIdx endTokenIdx) blockSize
    (request.loraRequest.map LoRARequest.loraIntId) (request.loraRequest.map LoRARequest.loraName)
    (if extraKeysList.isEmpty then none else some extraKeysList) kvCacheGroupId

def getCachedBlock (blockHash : H) (kvCacheGroupIds : List Nat) : Option (List BlockRef) :=
  kvCacheGroupIds.mapM fun groupId => index.cachedBlockHashToBlock.getOneBlock ⟨blockHash, groupId⟩

theorem getCachedBlock_contain {index : PrefixIndex H} {blockHash : H} {groupIds : List Nat}
    {blocks : List BlockRef} (found : index.getCachedBlock blockHash groupIds = some blocks) :
    List.Forall₂ (fun groupId block =>
      index.cachedBlockHashToBlock.contain ⟨blockHash, groupId⟩ block = true) groupIds blocks := by
  induction groupIds generalizing blocks with
  | nil =>
    simp [getCachedBlock] at found
    subst found
    exact .nil
  | cons groupId rest ih =>
    simp only [getCachedBlock, List.mapM_cons, Option.bind_eq_bind,
      Option.bind_eq_some_iff, Option.pure_def, Option.some.injEq] at found
    obtain ⟨block, first, _, tail, rfl⟩ := found
    exact .cons (BlockHashToBlockMap.contain_of_getOneBlock first) (ih tail)

variable [DecidableEq H]

def popHashes (block : BlockRef) : List (BlockHashWithGroupId H) → BlockHashToBlockMap H →
    List (BlockHashWithGroupId H) × BlockHashToBlockMap H
  | [], map => ([], map)
  | key :: rest, map =>
    let (found, map) := map.pop key block
    let (removed, map) := popHashes block rest map
    (if found then key :: removed else removed, map)

def blockHashesOf (block : BlockRef) : List (BlockHashWithGroupId H) :=
  (index.blockHash block).toList ++ (index.cachedBlockHashesByBlock block).getD []

def removeCachedBlockHashes (block : BlockRef) : List (BlockHashWithGroupId H) × PrefixIndex H :=
  let blockHashes := index.blockHashesOf block
  let index := { index with
    cachedBlockHashesByBlock := update index.cachedBlockHashesByBlock block none }
  if blockHashes = [] then ([], index)
  else
    let (removed, map) := popHashes block blockHashes index.cachedBlockHashToBlock
    (removed, { index with cachedBlockHashToBlock := map }.resetHash block)

def insertBlockHash (key : BlockHashWithGroupId H) (block : BlockRef)
    (numTokens : Option Nat) : Except PyError (PrefixIndex H) := do
  if index.blockHash block = some key then
    return index
  if index.cachedBlockHashToBlock.contain key block then
    return index
  let index ←
    if (index.blockHash block).isNone then index.setBlockHash block key numTokens
    else
      pure { index with
        cachedBlockHashesByBlock := update index.cachedBlockHashesByBlock block
          (some (((index.cachedBlockHashesByBlock block).getD []).insert key)) }
  return { index with cachedBlockHashToBlock := index.cachedBlockHashToBlock.insert key block }

def maybeEvictCachedBlock (index : PrefixIndex H) (block : BlockRef) : PrefixIndex H :=
  let (evicted, index) := index.removeCachedBlockHashes block
  index.emitBlockRemovedEvents config evicted

def skipped (block : BlockRef) (blockMask : Option (List Bool)) (idx : Nat) : Bool :=
  block.isNull || blockMask.any fun mask => !mask.getD idx true

def promote (index : PrefixIndex H) (block : BlockRef)
    (numHashTokens : Nat) : Except PyError (PrefixIndex H) :=
  if (index.blockHash block).isSome then do
    pyAssert ((index.blockHashNumTokens block).any (· < numHashTokens))
    return index.maybeEvictCachedBlock config block
  else
    return index

def cacheFullBlocksFrom (config : PoolConfig H) (newBlockHashes : List H)
    (numCachedBlocks blockSize kvCacheGroupId : Nat) (blockMask : Option (List Bool)) :
    Nat → List BlockRef → PrefixIndex H → Except PyError (PrefixIndex H × List H)
  | _, [], index => .ok (index, [])
  | i, block :: rest, index =>
    if skipped block blockMask i then
      cacheFullBlocksFrom config newBlockHashes numCachedBlocks blockSize kvCacheGroupId blockMask
        (i + 1) rest index
    else do
      let blockHash ← pyGet newBlockHashes i
      let numHashTokens := (numCachedBlocks + i + 1) * blockSize
      let index ← index.promote config block numHashTokens
      let index ← index.insertBlockHash ⟨blockHash, kvCacheGroupId⟩ block (some numHashTokens)
      let (index, newHashes) ← cacheFullBlocksFrom config newBlockHashes numCachedBlocks blockSize
        kvCacheGroupId blockMask (i + 1) rest index
      return (index, blockHash :: newHashes)

def storedExtraKeys (config : PoolConfig H) (request : Request H) (blocks : List BlockRef)
    (numCachedBlocks blockSize : Nat) (blockMask : Option (List Bool)) :
    List Nat → Int → Except PyError (List (Option (List ExtraKey)))
  | [], _ => .ok []
  | i :: rest, currMmIdx => do
    let block ← pyGet blocks i
    if skipped block blockMask (i - numCachedBlocks) then
      storedExtraKeys config request blocks numCachedBlocks blockSize blockMask rest currMmIdx
    else
      let (extraKeys, currMmIdx) := generateBlockHashExtraKeys config.hasher request
        (i * blockSize) (i * blockSize + blockSize) currMmIdx
      let others ←
        storedExtraKeys config request blocks numCachedBlocks blockSize blockMask rest currMmIdx
      return extraKeys :: others

def parentBlockHashAt (blockHashes : List H) (numCachedBlocks : Nat) : Except PyError (Option H) :=
  if numCachedBlocks = 0 then return none
  else some <$> pyGet blockHashes (numCachedBlocks - 1)

def cacheFullBlocks (index : PrefixIndex H) (request : Request H)
    (blocks : List BlockRef) (numCachedBlocks numFullBlocks blockSize kvCacheGroupId : Nat)
    (blockMask : Option (List Bool)) : Except PyError (PrefixIndex H) := do
  if numCachedBlocks ≥ numFullBlocks then
    return index
  let newFullBlocks := blocks.extract numCachedBlocks numFullBlocks
  pyAssert (blockMask.all (·.length = newFullBlocks.length))
  let blockHashes ← resolveBlockHashes request.blockHashes config.hashBlockSize blockSize
  let (index, newHashes) ← cacheFullBlocksFrom config (blockHashes.drop numCachedBlocks)
    numCachedBlocks blockSize kvCacheGroupId blockMask 0 newFullBlocks index
  if config.enableKvCacheEvents then
    let parentBlockHash ← parentBlockHashAt blockHashes numCachedBlocks
    let extraKeysList ← storedExtraKeys config request blocks numCachedBlocks blockSize blockMask
      (List.range' numCachedBlocks (numFullBlocks - numCachedBlocks)) 0
    return index.emit (buildBlockStoredEvent request newHashes parentBlockHash
      (numCachedBlocks * blockSize) (numFullBlocks * blockSize) blockSize kvCacheGroupId
      extraKeysList)
  else return index

def getPartialBlockHash (request : Request H) (numTokens : Nat) : Except PyError H := do
  pyAssert (numTokens % config.hashBlockSize = 0)
  let numHashBlocks := numTokens / config.hashBlockSize
  pyAssert (0 < numHashBlocks ∧ numHashBlocks ≤ request.blockHashes.length)
  pyGet request.blockHashes (numHashBlocks - 1)

def getPartialBlockParentHashAndStart (request : Request H)
    (numTokens : Nat) : Except PyError (Option H × Nat) :=
  let numHashBlocks := numTokens / config.hashBlockSize
  let blockStart := (numHashBlocks - 1) * config.hashBlockSize
  if numHashBlocks > 1 then do
    let parentHash ← pyGet request.blockHashes (numHashBlocks - 2)
    return (some parentHash, blockStart)
  else
    return (none, blockStart)

def cachePartialBlock (index : PrefixIndex H) (request : Request H)
    (block : BlockRef) (numTokens kvCacheGroupId blockSize : Nat) :
    Except PyError (Option (BlockHashWithGroupId H) × PrefixIndex H) := do
  if block.isNull then
    return (none, index)
  pyAssert (blockSize > config.hashBlockSize)
  pyAssert (blockSize % config.hashBlockSize = 0)
  pyAssert (numTokens % blockSize ≠ 0)
  let blockHash ← getPartialBlockHash config request numTokens
  let numHashBlocks := numTokens / config.hashBlockSize
  let key : BlockHashWithGroupId H := ⟨blockHash, kvCacheGroupId⟩
  let alreadyCached := index.blockHash block = some key ∨
    index.cachedBlockHashToBlock.contain key block
  let index :=
    -- an entry for a shorter prefix gives way to the longer one
    if ¬alreadyCached ∧ (index.blockHash block).isSome ∧
        (index.blockHashNumTokens block).any (· < numHashBlocks * config.hashBlockSize) then
      index.maybeEvictCachedBlock config block
    else index
  let index ← index.insertBlockHash key block (some (numHashBlocks * config.hashBlockSize))
  if config.enableKvCacheEvents ∧ ¬alreadyCached then
    let (parentHash, blockStart) ← getPartialBlockParentHashAndStart config request numTokens
    let currMmIdx : Int := if blockStart > 0 then -1 else 0
    let (extraKeys, _) :=
      generateBlockHashExtraKeys config.hasher request blockStart numTokens currMmIdx
    return (some key, index.emit (buildBlockStoredEvent request [blockHash] parentHash blockStart
      numTokens (numTokens - blockStart) kvCacheGroupId [extraKeys]))
  else return (some key, index)

def insertBlockHashes (block : BlockRef) (numTokens : Option Nat) :
    List (BlockHashWithGroupId H) → PrefixIndex H → Except PyError (PrefixIndex H)
  | [], index => .ok index
  | key :: rest, index => do
    let index ← index.insertBlockHash key block numTokens
    insertBlockHashes block numTokens rest index

def moveBlockHashes (srcBlock dstBlock : BlockRef) : Except PyError (PrefixIndex H) := do
  pyAssert (index.blockHash dstBlock).isNone
  pyAssert (index.cachedBlockHashesByBlock dstBlock).isNone
  let numTokens := index.blockHashNumTokens srcBlock
  let (removed, index) := index.removeCachedBlockHashes srcBlock
  insertBlockHashes dstBlock numTokens removed index

end PrefixIndex

end VllmEngine
