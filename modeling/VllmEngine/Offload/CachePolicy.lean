import VllmEngine.Hashing.Request
import VllmEngine.Shared.OrderedDict
import VllmEngine.Shared.Outcome

set_option autoImplicit false

namespace VllmEngine

def cInt32 (value : Int) : Int := (value + 2 ^ 31) % 2 ^ 32 - 2 ^ 31

theorem cInt32_of_bounds {value : Int} (lower : -2 ^ 31 ≤ value) (upper : value < 2 ^ 31) :
    cInt32 value = value := by
  unfold cInt32
  omega

-- `ref_cnt` is -1 while the block is being stored, else the number of loads that read it.
structure BlockStatus where
  refCnt : Int
  blockId : Nat
  deriving DecidableEq, Repr

namespace BlockStatus

def create (blockId : Nat) : BlockStatus := ⟨-1, blockId⟩

def isReady (block : BlockStatus) : Bool := 0 ≤ block.refCnt

end BlockStatus

variable {Key : Type} [DecidableEq Key]

abbrev Eviction (Key Policy : Type) := Option (List (Key × BlockStatus) × Policy)

structure LRUCachePolicy (Key : Type) where
  evictableBlocks : OrderedDict Key Unit
  blocks : OrderedDict Key BlockStatus

namespace LRUCachePolicy

def create : LRUCachePolicy Key := ⟨.empty, .empty⟩

def get (policy : LRUCachePolicy Key) (key : Key) : Option BlockStatus := policy.blocks.get? key

def insert (policy : LRUCachePolicy Key) (key : Key) (block : BlockStatus) : LRUCachePolicy Key :=
  { blocks := policy.blocks.insert key block
    evictableBlocks :=
      if block.refCnt = 0 then policy.evictableBlocks.insert key () else policy.evictableBlocks }

variable (policy : LRUCachePolicy Key)

def remove (key : Key) : Except PyError (LRUCachePolicy Key) :=
  if key ∈ policy.blocks.keys then
    .ok { blocks := policy.blocks.erase key, evictableBlocks := policy.evictableBlocks.erase key }
  else
    .error .keyError

def touch (keys : List Key) : LRUCachePolicy Key :=
  keys.reverse.foldl
    (fun policy key =>
      { policy with evictableBlocks := policy.evictableBlocks.moveToEnd key })
    policy

def clear (_ : LRUCachePolicy Key) : LRUCachePolicy Key := create

def collect (policy : LRUCachePolicy Key) (protectedKeys : List Key) :
    Nat → List Key → Except PyError (List (Key × BlockStatus))
  | 0, _ => .ok []
  | _, [] => .ok []
  | n + 1, key :: rest =>
    if key ∈ protectedKeys then
      collect policy protectedKeys (n + 1) rest
    else
      match policy.blocks.get? key with
      | none => .error .keyError
      | some block => do
        pyAssert (block.refCnt = 0)
        let candidates ← collect policy protectedKeys n rest
        return (key, block) :: candidates

def deleteAll (keys : List Key) : LRUCachePolicy Key :=
  keys.foldl
    (fun policy key =>
      { evictableBlocks := policy.evictableBlocks.erase key, blocks := policy.blocks.erase key })
    policy

def evict (n : Nat) (protectedKeys : List Key) :
    Except PyError (Eviction Key (LRUCachePolicy Key)) := do
  let candidates ← policy.collect protectedKeys n policy.evictableBlocks.keys
  if candidates.length < n then
    return none
  return some (candidates, policy.deleteAll (candidates.map Prod.fst))

def markEvictable (key : Key) : LRUCachePolicy Key :=
  { policy with evictableBlocks := policy.evictableBlocks.insert key () }

def markNonEvictable (key : Key) : Except PyError (LRUCachePolicy Key) :=
  if key ∈ policy.evictableBlocks.keys then
    .ok { policy with evictableBlocks := policy.evictableBlocks.erase key }
  else
    .error .keyError

def assign (key : Key) (block : BlockStatus) : LRUCachePolicy Key :=
  { policy with blocks := policy.blocks.replace key block }

end LRUCachePolicy

-- The arithmetic of a target size, which is a `float` in the code.
class TargetSize (Size : Type) extends Add Size, Sub Size, Div Size, Min Size, Max Size where
  ofNat : Nat → Size
  toNat : Size → Nat

instance : TargetSize Float where
  ofNat := Nat.toFloat
  toNat size := size.toUInt64.toNat

structure ARCCachePolicy (Key : Type) (Size : Type := Float) where
  cacheCapacity : Nat
  targetT1Size : Size
  t1 : OrderedDict Key BlockStatus
  t2 : OrderedDict Key BlockStatus
  b1 : OrderedDict Key Unit
  b2 : OrderedDict Key Unit

namespace ARCCachePolicy

variable {Size : Type} [TargetSize Size]

def create (cacheCapacity : Nat) : ARCCachePolicy Key Size where
  cacheCapacity := cacheCapacity
  targetT1Size := TargetSize.ofNat 0
  t1 := .empty
  t2 := .empty
  b1 := .empty
  b2 := .empty

def get (policy : ARCCachePolicy Key Size) (key : Key) : Option BlockStatus :=
  (policy.t1.get? key).or (policy.t2.get? key)

def insert (policy : ARCCachePolicy Key Size) (key : Key) (block : BlockStatus) : ARCCachePolicy Key Size :=
  { policy with
    t1 := policy.t1.insert key block
    b1 := policy.b1.erase key
    b2 := policy.b2.erase key }

variable (policy : ARCCachePolicy Key Size)

def remove (key : Key) : ARCCachePolicy Key Size :=
  if key ∈ policy.t1.keys then { policy with t1 := policy.t1.erase key }
  else { policy with t2 := policy.t2.erase key }

def delta (first second : OrderedDict Key Unit) : Size :=
  max (TargetSize.ofNat 1)
    (TargetSize.ofNat first.keys.length / TargetSize.ofNat second.keys.length)

def touchKey (key : Key) : ARCCachePolicy Key Size :=
  match policy.t1.get? key with
  | some block =>
    let t1 := policy.t1.erase key
    if block.isReady then { policy with t1 := t1, t2 := policy.t2.insert key block }
    else { policy with t1 := t1.insert key block }
  | none =>
    if key ∈ policy.t2.keys then
      { policy with t2 := policy.t2.moveToEnd key }
    else if key ∈ policy.b1.keys then
      { policy with
        targetT1Size :=
          min (policy.targetT1Size + delta policy.b2 policy.b1) (TargetSize.ofNat policy.cacheCapacity)
        b1 := policy.b1.moveToEnd key }
    else if key ∈ policy.b2.keys then
      { policy with
        targetT1Size := max (policy.targetT1Size - delta policy.b1 policy.b2) (TargetSize.ofNat 0)
        b2 := policy.b2.moveToEnd key }
    else
      policy

def touch (keys : List Key) : ARCCachePolicy Key Size :=
  keys.reverse.foldl touchKey policy

def clear : ARCCachePolicy Key Size := create policy.cacheCapacity

def firstIdle (blocks : OrderedDict Key BlockStatus) (protectedKeys selected : List Key) :
    Option (Key × BlockStatus) :=
  blocks.entries.find? fun entry =>
    entry.2.refCnt = 0 ∧ entry.1 ∉ protectedKeys ∧ entry.1 ∉ selected

def candidate (protectedKeys selected : List Key)
    (virtualT1Size : Nat) : Option ((Key × BlockStatus) × Bool) :=
  let fromT1 :=
    if TargetSize.toNat policy.targetT1Size ≤ virtualT1Size then
      firstIdle policy.t1 protectedKeys selected
    else
      none
  match fromT1 with
  | some entry => some (entry, true)
  | none => (firstIdle policy.t2 protectedKeys selected).map fun entry => (entry, false)

def candidates (policy : ARCCachePolicy Key Size) (protectedKeys : List Key) :
    Nat → List Key → Nat → Option (List ((Key × BlockStatus) × Bool))
  | 0, _, _ => some []
  | n + 1, selected, virtualT1Size =>
    match policy.candidate protectedKeys selected virtualT1Size with
    | none => none
    | some found =>
      (policy.candidates protectedKeys n (selected ++ [found.1.1])
        (if found.2 then virtualT1Size - 1 else virtualT1Size)).map (found :: ·)

def ghost (found : (Key × BlockStatus) × Bool) : ARCCachePolicy Key Size :=
  if found.2 then
    { policy with t1 := policy.t1.erase found.1.1, b1 := policy.b1.insert found.1.1 () }
  else
    { policy with t2 := policy.t2.erase found.1.1, b2 := policy.b2.insert found.1.1 () }

def trim : ARCCachePolicy Key Size :=
  { policy with
    b1 := policy.b1.dropFirst (policy.b1.keys.length - policy.cacheCapacity)
    b2 := policy.b2.dropFirst (policy.b2.keys.length - policy.cacheCapacity) }

def evict (n : Nat) (protectedKeys : List Key) : Eviction Key (ARCCachePolicy Key Size) :=
  if n = 0 then
    some ([], policy)
  else
    (policy.candidates protectedKeys n [] policy.t1.keys.length).map fun found =>
      (found.map Prod.fst, (found.foldl ghost policy).trim)

def assign (key : Key) (block : BlockStatus) : ARCCachePolicy Key Size :=
  if key ∈ policy.t1.keys then { policy with t1 := policy.t1.replace key block }
  else { policy with t2 := policy.t2.replace key block }

end ARCCachePolicy

inductive CachePolicy (Key : Type) (Size : Type := Float) where
  | lru (policy : LRUCachePolicy Key)
  | arc (policy : ARCCachePolicy Key Size)

namespace CachePolicy

variable {Size : Type} [TargetSize Size]

def get : CachePolicy Key Size → Key → Option BlockStatus
  | .lru policy, key => policy.get key
  | .arc policy, key => policy.get key

def insert : CachePolicy Key Size → Key → BlockStatus → CachePolicy Key Size
  | .lru policy, key, block => .lru (policy.insert key block)
  | .arc policy, key, block => .arc (policy.insert key block)

def remove : CachePolicy Key Size → Key → Except PyError (CachePolicy Key Size)
  | .lru policy, key => .lru <$> policy.remove key
  | .arc policy, key => .ok (.arc (policy.remove key))

def touch : CachePolicy Key Size → List Key → CachePolicy Key Size
  | .lru policy, keys => .lru (policy.touch keys)
  | .arc policy, keys => .arc (policy.touch keys)

def clear : CachePolicy Key Size → CachePolicy Key Size
  | .lru policy => .lru policy.clear
  | .arc policy => .arc policy.clear

def evict : CachePolicy Key Size → Nat → List Key → Except PyError (Eviction Key (CachePolicy Key Size))
  | .lru policy, n, protectedKeys => do
    let evicted ← policy.evict n protectedKeys
    return evicted.map fun evicted => (evicted.1, .lru evicted.2)
  | .arc policy, n, protectedKeys =>
    .ok ((policy.evict n protectedKeys).map fun evicted => (evicted.1, .arc evicted.2))

def markEvictable : CachePolicy Key Size → Key → CachePolicy Key Size
  | .lru policy, key => .lru (policy.markEvictable key)
  | .arc policy, _ => .arc policy

def markNonEvictable : CachePolicy Key Size → Key → Except PyError (CachePolicy Key Size)
  | .lru policy, key => .lru <$> policy.markNonEvictable key
  | .arc policy, _ => .ok (.arc policy)

def assign : CachePolicy Key Size → Key → BlockStatus → CachePolicy Key Size
  | .lru policy, key, block => .lru (policy.assign key block)
  | .arc policy, key, block => .arc (policy.assign key block)

end CachePolicy

end VllmEngine
