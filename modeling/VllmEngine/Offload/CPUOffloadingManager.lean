import VllmEngine.Offload.CachePolicy
import VllmEngine.Shared.Run

set_option autoImplicit false

namespace VllmEngine

variable {Key : Type} [DecidableEq Key]

inductive LookupResult where
  | miss
  | hitPending
  | hit
  deriving DecidableEq, Repr

structure PrepareStoreOutput (Key : Type) where
  keysToStore : List Key
  storeSpec : List Nat
  evictedKeys : List Key
  deriving DecidableEq, Repr

structure CPUOffloadingManager (Key : Type) where
  numBlocks : Nat
  numAllocatedBlocks : Nat
  freeList : List Nat
  policy : CachePolicy Key
  numEvictableCacheBlocks : Int
  numWritePendingBlocks : Int
  storeThreshold : Int
  maxTrackerSize : Int
  storesSkippedInCurrentBatch : Nat
  allocationSizesInCurrentBatch : List Nat
  counts : Option (OrderedDict Key Int)

inductive CachePolicyName where
  | lru
  | arc
  deriving DecidableEq, Repr

namespace CPUOffloadingManager

def create (numBlocks : Nat) (cachePolicy : CachePolicyName) (storeThreshold maxTrackerSize : Int) :
    CPUOffloadingManager Key where
  numBlocks := numBlocks
  numAllocatedBlocks := 0
  freeList := []
  policy :=
    match cachePolicy with
    | .lru => .lru .create
    | .arc => .arc (.create numBlocks)
  numEvictableCacheBlocks := 0
  numWritePendingBlocks := 0
  storeThreshold := storeThreshold
  maxTrackerSize := maxTrackerSize
  storesSkippedInCurrentBatch := 0
  allocationSizesInCurrentBatch := []
  counts := if 2 ≤ storeThreshold then some .empty else none

variable (manager : CPUOffloadingManager Key)

def getNumFreeBlocks : Int :=
  manager.freeList.length + manager.numBlocks - manager.numAllocatedBlocks

def allocateBlocks (count : Nat) : Except PyError (List BlockStatus × CPUOffloadingManager Key) := do
  let numFresh := min count (manager.numBlocks - manager.numAllocatedBlocks)
  let numReused := count - numFresh
  pyAssert (numReused ≤ manager.freeList.length)
  let fresh := List.range' manager.numAllocatedBlocks numFresh
  let reused := (manager.freeList.reverse.take numReused)
  return ((fresh ++ reused).map BlockStatus.create,
    { manager with
      numAllocatedBlocks := manager.numAllocatedBlocks + numFresh
      freeList := manager.freeList.take (manager.freeList.length - numReused) })

def freeBlock (block : BlockStatus) : CPUOffloadingManager Key :=
  { manager with freeList := manager.freeList ++ [block.blockId] }

def track (counts : OrderedDict Key Int) (maxTrackerSize : Int) (key : Key) :
    Except PyError (OrderedDict Key Int) :=
  match counts.get? key with
  | some count => .ok ((counts.moveToEnd key).insert key (count + 1))
  | none =>
    if maxTrackerSize ≤ counts.keys.length then
      match counts.popFirst? with
      | none => .error .keyError
      | some (_, rest) => .ok (rest.insert key 1)
    else
      .ok (counts.insert key 1)

def trackLookup (key : Key) : Except PyError (CPUOffloadingManager Key) :=
  match manager.counts with
  | none => .ok manager
  | some counts => do
    let counts ← track counts manager.maxTrackerSize key
    return { manager with counts := some counts }

def answer (key : Key) : LookupResult :=
  match manager.policy.get key with
  | none => .miss
  | some block => if block.isReady then .hit else .hitPending

def lookup (key : Key) : Except PyError (LookupResult × CPUOffloadingManager Key) := do
  let manager ← manager.trackLookup key
  return (manager.answer key, manager)

def touch (manager : CPUOffloadingManager Key) (keys : List Key) : CPUOffloadingManager Key :=
  { manager with policy := manager.policy.touch keys }

def prepareLoadKey (key : Key) : Except PyError (CPUOffloadingManager Key) :=
  match manager.policy.get key with
  | none => .error .assertionError
  | some block => do
    pyAssert block.isReady
    let manager ←
      if block.refCnt = 0 then do
        let policy ← manager.policy.markNonEvictable key
        pyAssert (0 ≤ manager.numEvictableCacheBlocks - 1)
        pure { manager with
          policy := policy
          numEvictableCacheBlocks := manager.numEvictableCacheBlocks - 1 }
      else
        pure manager
    return { manager with
      policy := manager.policy.assign key { block with refCnt := cInt32 (block.refCnt + 1) } }

def prepareLoad (keys : List Key) : Except PyError (CPUOffloadingManager Key) :=
  keys.foldlM prepareLoadKey manager

def completeLoadKey (key : Key) : Except PyError (CPUOffloadingManager Key) :=
  match manager.policy.get key with
  | none => .error .assertionError
  | some block => do
    pyAssert (0 < block.refCnt)
    let block := { block with refCnt := cInt32 (block.refCnt - 1) }
    let manager := { manager with policy := manager.policy.assign key block }
    if block.refCnt = 0 then
      return { manager with
        numEvictableCacheBlocks := manager.numEvictableCacheBlocks + 1
        policy := manager.policy.markEvictable key }
    return manager

def completeLoad (keys : List Key) : Except PyError (CPUOffloadingManager Key) :=
  keys.foldlM completeLoadKey manager

def wanted (keys : List Key) : List Key :=
  match manager.counts with
  | none => keys
  | some counts => keys.filter fun key => manager.storeThreshold ≤ (counts.get? key).getD 0

def storing (keys : List Key) : List Key :=
  (manager.wanted keys).filter fun key => (manager.policy.get key).isNone

def makeRoom (keys keysToStore : List Key) :
    Except PyError (Option (List Key × CPUOffloadingManager Key)) := do
  let numBlocksToEvict := keysToStore.length - manager.getNumFreeBlocks
  if numBlocksToEvict ≤ 0 then
    return some ([], manager)
  if manager.numEvictableCacheBlocks < numBlocksToEvict then
    return none
  let evicted ← manager.policy.evict numBlocksToEvict.toNat keys
  match evicted with
  | none => return none
  | some (evicted, policy) =>
    let left := manager.numEvictableCacheBlocks - evicted.length
    pyAssert (0 ≤ left)
    let manager := { manager with policy := policy, numEvictableCacheBlocks := left }
    return some (evicted.map Prod.fst,
      evicted.foldl (fun manager entry => manager.freeBlock entry.2) manager)

def prepareStore (keys : List Key) :
    Except PyError (Option (PrepareStoreOutput Key) × CPUOffloadingManager Key) := do
  let wanted := manager.wanted keys
  let keysToStore := manager.storing keys
  let manager :=
    { manager with
      storesSkippedInCurrentBatch :=
        manager.storesSkippedInCurrentBatch + (keys.length - wanted.length) }
  if keysToStore = [] then
    return (some ⟨[], [], []⟩, manager)
  let manager :=
    { manager with
      allocationSizesInCurrentBatch :=
        manager.allocationSizesInCurrentBatch ++ [keysToStore.length] }
  match ← manager.makeRoom wanted keysToStore with
  | none => return (none, manager)
  | some (toEvict, manager) =>
    let allocated ← manager.allocateBlocks keysToStore.length
    pyAssert (allocated.1.length = keysToStore.length)
    let manager := allocated.2
    let policy := (keysToStore.zip allocated.1).foldl
      (fun policy entry => policy.insert entry.1 entry.2) manager.policy
    return (some ⟨keysToStore, allocated.1.map BlockStatus.blockId, toEvict⟩,
      { manager with
        policy := policy
        numWritePendingBlocks := manager.numWritePendingBlocks + keysToStore.length })

def completeStoreKey (success : Bool) (manager : CPUOffloadingManager Key) (key : Key) :
    Except PyError (CPUOffloadingManager Key) :=
  match manager.policy.get key with
  | none => .ok manager
  | some block =>
    if block.isReady then
      .ok manager
    else if success then
      .ok { manager with
        policy := (manager.policy.assign key { block with refCnt := 0 }).markEvictable key
        numWritePendingBlocks := manager.numWritePendingBlocks - 1
        numEvictableCacheBlocks := manager.numEvictableCacheBlocks + 1 }
    else do
      let policy ← manager.policy.remove key
      return { manager with
        policy := policy
        numWritePendingBlocks := manager.numWritePendingBlocks - 1 }.freeBlock block

def completeStore (keys : List Key) (success : Bool) : Except PyError (CPUOffloadingManager Key) :=
  keys.foldlM (completeStoreKey success) manager

def resetCache : CPUOffloadingManager Key :=
  { manager with
    policy := manager.policy.clear
    numEvictableCacheBlocks := 0
    numWritePendingBlocks := 0
    freeList := []
    numAllocatedBlocks := 0 }

end CPUOffloadingManager

structure OffloadPool (Key : Type) where
  manager : CPUOffloadingManager Key
  loads : List (List Key)
  stores : List (List Key)

inductive OffloadPoolOp (Key : Type) where
  | lookup (key : Key)
  | touch (keys : List Key)
  | prepareLoad (keys : List Key)
  | completeLoad (keys : List Key)
  | prepareStore (keys : List Key)
  | completeStore (keys : List Key) (success : Bool)
  | resetCache

namespace OffloadPool

def create (numBlocks : Nat) (cachePolicy : CachePolicyName) (storeThreshold maxTrackerSize : Int) :
    OffloadPool Key :=
  ⟨.create numBlocks cachePolicy storeThreshold maxTrackerSize, [], []⟩

def loadable (pool : OffloadPool Key) (key : Key) : Bool :=
  match pool.manager.policy.get key with
  | none => false
  | some block => block.isReady

-- `none` as error marks an operation that is never issued, `some` an exception of the code.
def step (pool : OffloadPool Key) :
    OffloadPoolOp Key → Except (Option PyError) (OffloadPool Key)
  | .lookup key => do
    let found ← (pool.manager.lookup key).mapError some
    return { pool with manager := found.2 }
  | .touch keys => .ok { pool with manager := pool.manager.touch keys }
  | .prepareLoad keys =>
    if keys.all pool.loadable then do
      let manager ← (pool.manager.prepareLoad keys).mapError some
      return { pool with manager := manager, loads := keys :: pool.loads }
    else
      .error none
  | .completeLoad keys =>
    if keys ∈ pool.loads then do
      let manager ← (pool.manager.completeLoad keys).mapError some
      return { pool with manager := manager, loads := pool.loads.erase keys }
    else
      .error none
  | .prepareStore keys =>
    if keys.Nodup then do
      let prepared ← (pool.manager.prepareStore keys).mapError some
      match prepared.1 with
      | none => return { pool with manager := prepared.2 }
      | some output =>
        return { pool with manager := prepared.2, stores := output.keysToStore :: pool.stores }
    else
      .error none
  | .completeStore keys success =>
    if keys ∈ pool.stores then do
      let manager ← (pool.manager.completeStore keys success).mapError some
      return { pool with manager := manager, stores := pool.stores.erase keys }
    else
      .error none
  -- Completions of jobs from before the reset are dropped.
  | .resetCache => .ok ⟨pool.manager.resetCache, [], []⟩

end OffloadPool

end VllmEngine
