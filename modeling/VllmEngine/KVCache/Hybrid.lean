import VllmEngine.KVCache.CacheHit

set_option autoImplicit false

namespace VllmEngine.HybridKVCacheCoordinator

variable {H : Type}

structure Search where
  hitBlocksByGroup : Nat → Option (List BlockRef)
  hitLengthByGroup : Nat → Nat
  eagleVerified : List Nat
  currHitLength : Nat
  longestHitLength : Nat

def Search.initial (maxCacheHitLength : Nat) : Search where
  hitBlocksByGroup _ := none
  hitLengthByGroup _ := 0
  eagleVerified := []
  currHitLength := maxCacheHitLength
  longestHitLength := 0

def storeHits (search : Search) (hitLength : Nat) : List (Nat × List BlockRef) → Search
  | [] => search
  | (groupId, blocks) :: rest =>
    storeHits
      { search with
        hitBlocksByGroup := Function.update search.hitBlocksByGroup groupId (some blocks)
        hitLengthByGroup := Function.update search.hitLengthByGroup groupId hitLength }
      hitLength rest

variable (config : CoordinatorConfig)

def eagleMargin (spec : KVCacheSpec) : Nat :=
  let groupBlockSize := spec.managerBlockSize config.dcpWorldSize
  if config.enablePartialHashHits ∧ spec.supportsFineGrainedHashLookup ∧
      groupBlockSize > config.hashBlockSize then config.hashBlockSize
  else groupBlockSize

def dropEagleBlock (idx : Nat) (group : SpecGroup) (search : Search) : Bool :=
  group.useEagle && !search.eagleVerified.contains idx

def maxLookupLength (maxCacheHitLength idx : Nat) (group : SpecGroup) (search : Search) : Nat :=
  if dropEagleBlock idx group search ∧ ¬group.spec.isMamba then
    min (search.currHitLength + eagleMargin config group.spec) maxCacheHitLength
  else search.currHitLength

def visitGroup (index : PrefixIndex H) (blockHashes : List H)
    (maxCacheHitLength idx : Nat) (group : SpecGroup) (search : Search) :
    Except PyError Search :=
  let firstGroupId := group.groupIds.headD 0
  if group.spec.isFullAttention ∧ (search.hitBlocksByGroup firstGroupId).isSome then
    .ok { search with
      currHitLength := min search.currHitLength (search.hitLengthByGroup firstGroupId) }
  else do
    let (hitBlocks, newHitLength) ← findLongestCacheHit index config.hashBlockSize blockHashes
      (maxLookupLength config maxCacheHitLength idx group search) group.groupIds group.spec
      (dropEagleBlock idx group search) config.cacheHitAlignmentTokens config.dcpWorldSize
    let eagleVerified :=
      if dropEagleBlock idx group search then idx :: search.eagleVerified
      else if newHitLength < search.currHitLength then []
      else search.eagleVerified
    return storeHits
      { search with
        eagleVerified
        currHitLength := newHitLength
        longestHitLength := max search.longestHitLength newHitLength }
      newHitLength (group.groupIds.zip hitBlocks)

def visitGroups (config : CoordinatorConfig) (index : PrefixIndex H) (blockHashes : List H)
    (maxCacheHitLength : Nat) : Nat → List SpecGroup → Search → Except PyError Search
  | _, [], search => .ok search
  | idx, group :: rest, search => do
    let search ← visitGroup config index blockHashes maxCacheHitLength idx group search
    visitGroups config index blockHashes maxCacheHitLength (idx + 1) rest search

def isSimpleHybrid (groups : List SpecGroup) : Bool :=
  groups.length = 2 && groups.head?.any (·.spec.isFullAttention)

def reconcile (config : CoordinatorConfig) (index : PrefixIndex H) (blockHashes : List H)
    (maxCacheHitLength : Nat) : Nat → Nat → Search → Except PyError (Nat × Search)
  | 0, _, _ => .error .outOfFuel
  | fuel + 1, hitLength, search => do
    let search ← visitGroups config index blockHashes maxCacheHitLength 0 config.attentionGroups
      { search with currHitLength := hitLength }
    if search.currHitLength ≥ hitLength then
      return (hitLength, search)
    else if isSimpleHybrid config.attentionGroups then
      return (search.currHitLength, search)
    else reconcile config index blockHashes maxCacheHitLength fuel search.currHitLength search

def truncateFirst (hitLength : Nat) (search : Search) : Nat → Option (List BlockRef) :=
  match config.attentionGroups.head? with
  | none => search.hitBlocksByGroup
  | some first =>
    if first.spec.isFullAttention then
      let numBlocks := cdiv hitLength (first.spec.managerBlockSize config.dcpWorldSize)
      fun groupId =>
        if groupId ∈ first.groupIds then (search.hitBlocksByGroup groupId).map (·.take numBlocks)
        else search.hitBlocksByGroup groupId
    else search.hitBlocksByGroup

def findLongestCacheHit (index : PrefixIndex H) (blockHashes : List H) (maxCacheHitLength : Nat) :
    Except PyError (List (List BlockRef) × Nat × Int) := do
  let (hitLength, search) ← reconcile config index blockHashes maxCacheHitLength
    (maxCacheHitLength + 1) maxCacheHitLength (.initial maxCacheHitLength)
  let hitBlocksByGroup := truncateFirst config hitLength search
  return ((List.range config.kvCacheGroups.length).map fun groupId =>
      (hitBlocksByGroup groupId).getD [],
    hitLength, (search.longestHitLength : Int) - hitLength)

end VllmEngine.HybridKVCacheCoordinator
