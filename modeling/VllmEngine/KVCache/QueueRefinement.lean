import VllmEngine.KVCache.FreeQueue
import VllmEngine.Shared.Run

set_option autoImplicit false

namespace VllmEngine.FreeKVCacheBlockQueue

open DoublyLinked List Run

-- The loop of `get_all_free_blocks`, for fewer than `fuel` blocks.
def readFrom (links : Links BlockRef) : Nat → BlockRef → Option (List BlockRef)
  | 0, _ => none
  | fuel + 1, block =>
    match links.next block with
    | none => some []
    | some next => (readFrom links fuel next).map (block :: ·)

def getAllFreeBlocks (queue : FreeKVCacheBlockQueue) (fuel : Nat) :
    Except PyError (Option (List BlockRef)) :=
  match queue.links.next .fakeFreeListHead with
  | none =>
    .error (.runtimeError "next_free_block of fake_free_list_head should always exist")
  | some first => .ok (readFrom queue.links fuel first)

inductive QueueOp where
  | popleft
  | popleftN (n : Int)
  | remove (block : BlockRef)
  | append (block : BlockRef)
  | appendN (blocks : List BlockRef)
  | prependN (blocks : List BlockRef)

def step (state : List BlockRef × FreeKVCacheBlockQueue) :
    QueueOp → Except PyError (List BlockRef × FreeKVCacheBlockQueue)
  | .popleft => do
    let (block, queue) ← state.2.popleft
    return (state.1 ++ [block], queue)
  | .popleftN n => do
    let (blocks, queue) ← state.2.popleftN n
    return (state.1 ++ blocks, queue)
  | .remove block => return (state.1, ← state.2.remove block)
  | .append block => return (state.1, ← state.2.append block)
  | .appendN blocks => return (state.1, ← state.2.appendN blocks)
  | .prependN blocks => return (state.1, ← state.2.prependN blocks)

def QueueOp.apply (deque : List BlockRef × List BlockRef) :
    QueueOp → Except PyError (List BlockRef × List BlockRef)
  | .popleft =>
    match deque.2 with
    | [] => .error (.valueError "No free blocks available")
    | first :: rest => .ok (deque.1 ++ [first], rest)
  | .popleftN n =>
    if n ≤ deque.2.length then
      .ok (deque.1 ++ deque.2.take n.toNat, deque.2.drop n.toNat)
    else .error .assertionError
  | .remove block => .ok (deque.1, deque.2.erase block)
  | .append block => .ok (deque.1, deque.2 ++ [block])
  | .appendN blocks => .ok (deque.1, deque.2 ++ blocks)
  | .prependN blocks => .ok (deque.1, blocks ++ deque.2)

def Distinct (blocks : List BlockRef) : Prop :=
  (.fakeFreeListHead :: (blocks ++ [.fakeFreeListTail])).Nodup

instance (blocks : List BlockRef) : Decidable (Distinct blocks) :=
  inferInstanceAs (Decidable (List.Nodup _))

def QueueOp.Allowed (deque : List BlockRef × List BlockRef) : QueueOp → Prop
  | .popleft => True
  | .popleftN n => 0 ≤ n
  | .remove block => block ∈ deque.2
  | .append block => Distinct (deque.2 ++ [block])
  | .appendN blocks => Distinct (deque.2 ++ blocks)
  | .prependN blocks => Distinct (blocks ++ deque.2)

instance (deque : List BlockRef × List BlockRef) : ∀ op, Decidable (QueueOp.Allowed deque op)
  | .popleft => inferInstanceAs (Decidable True)
  | .popleftN n => inferInstanceAs (Decidable (0 ≤ n))
  | .remove block => inferInstanceAs (Decidable (block ∈ deque.2))
  | .append _ | .appendN _ | .prependN _ => inferInstanceAs (Decidable (Distinct _))

structure Mirrors (state : List BlockRef × FreeKVCacheBlockQueue)
    (deque : List BlockRef × List BlockRef) : Prop where
  popped : state.1 = deque.1
  represents : state.2.Represents deque.2
  read : ∀ fuel, deque.2.length < fuel → state.2.getAllFreeBlocks fuel = .ok (some deque.2)

variable {queue : FreeKVCacheBlockQueue} {blocks popped : List BlockRef}

theorem readFrom_of_threads {links : Links BlockRef} {first : BlockRef} {rest : List BlockRef}
    {fuel : Nat} (threads : links.Threads (blocks ++ [.fakeFreeListTail]))
    (ends : links.next .fakeFreeListTail = none)
    (shape : blocks ++ [.fakeFreeListTail] = first :: rest) (enough : blocks.length < fuel) :
    readFrom links fuel first = some blocks := by
  obtain ⟨fuel, rfl⟩ := Nat.exists_eq_add_one_of_ne_zero (Nat.ne_zero_of_lt enough)
  induction blocks generalizing first rest fuel with
  | nil =>
    cases shape
    simp only [readFrom, ends]
  | cons block later ih =>
    cases shape
    obtain ⟨second, others, tail⟩ := rightEnd_exists later
    rw [cons_append, tail] at threads
    obtain ⟨⟨next, _⟩, threads⟩ := List.isChain_cons_cons.mp threads
    rw [length_cons] at enough
    obtain ⟨fuel, rfl⟩ := Nat.exists_eq_add_one_of_ne_zero (show fuel ≠ 0 by omega)
    rw [readFrom, next]
    dsimp only
    rw [ih (tail ▸ threads) tail fuel (by omega), Option.map_some]

theorem Represents.mirrors (represents : queue.Represents blocks) :
    Mirrors (popped, queue) (popped, blocks) := by
  refine ⟨rfl, represents, fun fuel enough => ?_⟩
  obtain ⟨first, rest, shape⟩ := rightEnd_exists blocks
  have threads := represents.threads
  have ends := represents.noNext .fakeFreeListTail represents.disjoint.2.1 (by simp)
  rw [shape] at threads
  obtain ⟨⟨next, _⟩, threads⟩ := List.isChain_cons_cons.mp threads
  unfold getAllFreeBlocks
  rw [next]
  dsimp only
  rw [readFrom_of_threads (shape ▸ threads) ends shape enough]

theorem append_represents {block : BlockRef} (represents : queue.Represents blocks)
    (distinct : Distinct (blocks ++ [block])) :
    ∃ after, queue.append block = .ok after ∧ after.Represents (blocks ++ [block]) := by
  obtain ⟨after, run, represented⟩ := appendN_represents represents distinct
  refine ⟨after, ?_, represented⟩
  unfold appendN at run
  unfold append
  rw [if_neg (cons_ne_nil block [])] at run
  cases last : queue.links.prev .fakeFreeListTail with
  | none =>
    rw [last] at run
    cases run
  | some last' =>
    rw [last] at run
    exact run

theorem step_simulates (state : List BlockRef × FreeKVCacheBlockQueue)
    (deque : List BlockRef × List BlockRef) (op : QueueOp) (mirrors : Mirrors state deque)
    (allowed : ∀ next, op.apply deque = .ok next → op.Allowed deque) :
    Simulates Mirrors (step state op) (op.apply deque) := by
  obtain ⟨popped, queue⟩ := state
  obtain ⟨_, blocks⟩ := deque
  obtain ⟨rfl, represents, _⟩ := mirrors
  dsimp only at represents
  cases op with
  | popleft =>
    cases blocks with
    | nil =>
      have first : queue.links.next .fakeFreeListHead = some .fakeFreeListTail :=
        (List.isChain_cons_cons.mp represents.threads).1.1
      have counted : queue.numFreeBlocks = 0 := represents.count
      simp only [step, popleft, first, pyAssert, counted]
      rfl
    | cons first rest =>
      obtain ⟨after, run, represented⟩ := popleft_represents represents
      simp only [step, run]
      exact represented.mirrors
  | popleftN n =>
    unfold QueueOp.apply at allowed ⊢
    dsimp only at allowed ⊢
    split
    · rename_i within
      have nonneg : 0 ≤ n := allowed _ (if_pos within)
      have length : ((blocks.take n.toNat).length : Int) = n := by
        rw [length_take]
        omega
      rw [← take_append_drop n.toNat blocks] at represents
      obtain ⟨after, run, represented⟩ := popleftN_represents represents
      rw [length] at run
      simp only [step, run]
      exact represented.mirrors
    · rename_i more
      have counted := represents.count
      have some : n ≠ 0 := by omega
      have few : ¬ queue.numFreeBlocks ≥ n := by omega
      simp only [step, popleftN, some, pyAssert, few]
      rfl
  | remove block =>
    obtain ⟨front, back, _, shape, erased⟩ := exists_erase_eq (allowed _ rfl)
    dsimp only at shape erased
    obtain ⟨after, run, represented⟩ := remove_represents (shape ▸ represents)
    simp only [step, run, QueueOp.apply, erased]
    exact represented.mirrors
  | append block =>
    obtain ⟨after, run, represented⟩ := append_represents represents (allowed _ rfl)
    simp only [step, run]
    exact represented.mirrors
  | appendN added =>
    obtain ⟨after, run, represented⟩ := appendN_represents represents (allowed _ rfl)
    simp only [step, run]
    exact represented.mirrors
  | prependN added =>
    obtain ⟨after, run, represented⟩ := prependN_represents represents (allowed _ rfl)
    simp only [step, run]
    exact represented.mirrors

theorem free_queue_refines_deque {blocks : List BlockRef} {ops : List QueueOp}
    (distinct : Distinct blocks)
    (meets : Meets QueueOp.apply QueueOp.Allowed ([], blocks) ops) :
    Simulates Mirrors (ops.foldlM step ([], create blocks))
      (ops.foldlM QueueOp.apply ([], blocks)) :=
  simulates_of_meets step_simulates meets (represents_create distinct).mirrors

theorem free_queue_refines_deque_reused :
    Simulates Mirrors
      ([.popleftN 2, .remove (.block 3), .prependN [.block 1], .append (.block 3)].foldlM step
        ([], create [.block 0, .block 1, .block 2, .block 3]))
      (.ok ([.block 0, .block 1], [.block 1, .block 2, .block 3])) :=
  free_queue_refines_deque (by decide) (by decide)

-- A block that is listed twice is read once, and a negative count moves the counter only.
theorem queue_counter_apart :
    (create [.block 0, .block 0]).getAllFreeBlocks 3 = .ok (some [.block 0]) ∧
      (create [.block 0, .block 0]).numFreeBlocks = 2 ∧
      (step ([], create [.block 0]) (.popleftN (-1))).map (·.2.numFreeBlocks) = .ok 2 ∧
      QueueOp.apply ([], [.block 0]) (.popleftN (-1)) = .ok ([], [.block 0]) := by
  decide

end VllmEngine.FreeKVCacheBlockQueue
