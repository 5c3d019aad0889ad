import VllmEngine.Hashing.Request

set_option autoImplicit false

namespace VllmEngine

def pyGet {Item : Type} (items : List Item) (index : Nat) : Except PyError Item :=
  match items[index]? with
  | some item => .ok item
  | none => .error .indexError

@[simp] theorem pyGet_eq_ok {Item : Type} {items : List Item} {index : Nat} {item : Item} :
    pyGet items index = .ok item ↔ items[index]? = some item := by
  cases found : items[index]? <;> simp [pyGet, found]

-- A pool's block is named by its `block_id`; the other two are the sentinels of the free list.
inductive BlockRef where
  | block (blockId : Nat)
  | fakeFreeListHead
  | fakeFreeListTail
  deriving DecidableEq, Repr

namespace BlockRef

def nullBlock : BlockRef := .block 0

def isNull (ref : BlockRef) : Bool := ref = nullBlock

@[simp] theorem nullBlock_ne_fakeFreeListTail : nullBlock ≠ fakeFreeListTail := by decide

@[simp] theorem isNull_eq_true {ref : BlockRef} : ref.isNull = true ↔ ref = nullBlock := by
  simp [isNull]

end BlockRef

-- `make_block_hash_with_group_id` appends the group id in a fixed number of bytes, so the bytes
-- determine the two parts.
structure BlockHashWithGroupId (H : Type) where
  blockHash : H
  groupId : Nat
  deriving DecidableEq, Repr

-- A value of the prefix-cache dictionary: one block, or a `dict` of blocks by id in insertion
-- order.
inductive CachedBlocks where
  | single (block : BlockRef)
  | dict (blocks : List BlockRef)
  deriving DecidableEq, Repr

namespace CachedBlocks

def contain (block : BlockRef) : CachedBlocks → Bool
  | .single only => only = block
  | .dict blocks => blocks.contains block

def first : CachedBlocks → Option BlockRef
  | .single only => some only
  | .dict blocks => blocks.head?

def insert (block : BlockRef) : CachedBlocks → CachedBlocks
  | .single only => .dict (if only = block then [block] else [only, block])
  | .dict blocks => .dict (if block ∈ blocks then blocks else blocks ++ [block])

def remove (block : BlockRef) : CachedBlocks → Option CachedBlocks
  | .single only => if only = block then none else some (.single only)
  | .dict blocks =>
    let rest := blocks.filter (· ≠ block)
    if rest = [] then none else some (.dict rest)

theorem contain_insert (blocks : CachedBlocks) (block other : BlockRef) :
    (blocks.insert block).contain other = (blocks.contain other || decide (other = block)) := by
  cases blocks with
  | single only => by_cases same : only = block <;> simp [insert, contain, same, eq_comm]
  | dict blocks =>
    by_cases member : block ∈ blocks
    · simp only [insert, contain]
      grind
    · simp [insert, contain, member]

theorem contain_remove (blocks : CachedBlocks) (block other : BlockRef) :
    ((blocks.remove block).any fun rest => rest.contain other) =
      (blocks.contain other && decide (other ≠ block)) := by
  cases blocks with
  | single only => by_cases same : only = block <;> simp [remove, contain] <;> grind
  | dict blocks =>
    by_cases empty : blocks.filter (· ≠ block) = []
    · have all : ∀ member ∈ blocks, member = block := by
        simpa [List.filter_eq_nil_iff] using empty
      simp only [remove, contain]
      grind
    · simp only [remove, contain]
      grind

end CachedBlocks

structure BlockHashToBlockMap (H : Type) where
  cache : BlockHashWithGroupId H → Option CachedBlocks

namespace BlockHashToBlockMap

variable {H : Type}

def empty : BlockHashToBlockMap H := { cache := fun _ => none }

def getOneBlock (map : BlockHashToBlockMap H) (key : BlockHashWithGroupId H) : Option BlockRef :=
  (map.cache key).bind CachedBlocks.first

def contain (map : BlockHashToBlockMap H) (key : BlockHashWithGroupId H) (block : BlockRef) :
    Bool :=
  (map.cache key).any fun blocks => blocks.contain block

variable [DecidableEq H] {map : BlockHashToBlockMap H}

def insert (map : BlockHashToBlockMap H) (key : BlockHashWithGroupId H) (block : BlockRef) :
    BlockHashToBlockMap H :=
  { cache := Function.update map.cache key (some
      (match map.cache key with
      | none => .single block
      | some blocks => blocks.insert block)) }

def pop (map : BlockHashToBlockMap H) (key : BlockHashWithGroupId H) (block : BlockRef) :
    Bool × BlockHashToBlockMap H :=
  (map.contain key block,
    { cache := Function.update map.cache key
        ((map.cache key).bind fun blocks => blocks.remove block) })

def NoEmptyDict (map : BlockHashToBlockMap H) : Prop :=
  ∀ key, map.cache key ≠ some (.dict [])

omit [DecidableEq H] in
@[simp] theorem contain_empty (key : BlockHashWithGroupId H) (block : BlockRef) :
    (empty : BlockHashToBlockMap H).contain key block = false := rfl

theorem contain_insert (map : BlockHashToBlockMap H) (key other : BlockHashWithGroupId H)
    (block held : BlockRef) :
    (map.insert key block).contain other held =
      (map.contain other held || decide (other = key ∧ held = block)) := by
  by_cases same : other = key
  · subst same
    cases stored : map.cache other with
    | none => simp [contain, insert, stored, CachedBlocks.contain, eq_comm]
    | some blocks => simp [contain, insert, stored, CachedBlocks.contain_insert]
  · simp [contain, insert, same]

theorem contain_pop (map : BlockHashToBlockMap H) (key other : BlockHashWithGroupId H)
    (block held : BlockRef) :
    (map.pop key block).2.contain other held =
      (map.contain other held && decide (¬(other = key ∧ held = block))) := by
  by_cases same : other = key
  · subst same
    cases stored : map.cache other with
    | none => simp [contain, pop, stored]
    | some blocks => simp [contain, pop, stored, CachedBlocks.contain_remove]
  · simp [contain, pop, same]

theorem noEmptyDict_insert (kept : map.NoEmptyDict)
    (key : BlockHashWithGroupId H) (block : BlockRef) : (map.insert key block).NoEmptyDict := by
  intro other
  by_cases same : other = key
  · subst same
    cases stored : map.cache other with
    | none => simp [insert, stored]
    | some blocks =>
      cases blocks with
      | single only =>
        by_cases equal : only = block <;> simp [insert, stored, CachedBlocks.insert, equal]
      | dict blocks =>
        have nonempty : blocks ≠ [] := fun empty => kept other (by rw [stored, empty])
        by_cases member : block ∈ blocks <;>
          simp [insert, stored, CachedBlocks.insert, member, nonempty]
  · simpa [insert, same] using kept other

theorem noEmptyDict_pop (kept : map.NoEmptyDict)
    (key : BlockHashWithGroupId H) (block : BlockRef) : (map.pop key block).2.NoEmptyDict := by
  intro other
  by_cases same : other = key
  · subst same
    cases stored : map.cache other with
    | none => simp [pop, stored]
    | some blocks =>
      cases blocks with
      | single only =>
        by_cases equal : only = block <;> simp [pop, stored, CachedBlocks.remove]
      | dict blocks => simp [pop, stored, CachedBlocks.remove]
  · simpa [pop, same] using kept other

omit [DecidableEq H] in
theorem contain_of_getOneBlock {key : BlockHashWithGroupId H}
    {block : BlockRef} (found : map.getOneBlock key = some block) : map.contain key block = true := by
  cases stored : map.cache key with
  | none => simp [getOneBlock, stored] at found
  | some blocks =>
    cases blocks with
    | single only =>
      simpa [getOneBlock, contain, stored, CachedBlocks.first, CachedBlocks.contain] using found
    | dict blocks =>
      have head : blocks.head? = some block := by
        simpa [getOneBlock, stored, CachedBlocks.first] using found
      simpa [contain, stored, CachedBlocks.contain] using List.mem_of_head? head

end BlockHashToBlockMap

end VllmEngine
