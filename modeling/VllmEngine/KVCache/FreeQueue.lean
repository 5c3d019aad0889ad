import VllmEngine.KVCache.Block
import VllmEngine.Shared.DoublyLinked

set_option autoImplicit false

namespace VllmEngine

open DoublyLinked List Links Links.Threads

structure FreeKVCacheBlockQueue where
  numFreeBlocks : Int
  links : Links BlockRef

namespace FreeKVCacheBlockQueue

def create (blocks : List BlockRef) : FreeKVCacheBlockQueue :=
  let links := Links.linkAll { next := fun _ => none, prev := fun _ => none } blocks
  { numFreeBlocks := blocks.length
    links :=
      match blocks.head?, blocks.getLast? with
      | some first, some last =>
        (links.link .fakeFreeListHead first).link last .fakeFreeListTail
      | _, _ => links.link .fakeFreeListHead .fakeFreeListTail }

def popleft (queue : FreeKVCacheBlockQueue) :
    Except PyError (BlockRef × FreeKVCacheBlockQueue) :=
  match queue.links.next .fakeFreeListHead with
  | none | some .fakeFreeListTail => do
    pyAssert (queue.numFreeBlocks = 0)
    throw (.valueError "No free blocks available")
  | some first =>
    match queue.links.next first with
    | none =>
      throw (.runtimeError
        "Invalid block found in popleft() which doesn't have a valid next_free_block")
    | some second =>
      return (first,
        { numFreeBlocks := queue.numFreeBlocks - 1
          links := (queue.links.link .fakeFreeListHead second).unlink first })

def popBlocks : Nat → Option BlockRef → Links BlockRef →
    Except PyError (List BlockRef × Option BlockRef × Links BlockRef)
  | 0, current, links => .ok ([], current, links)
  | _ + 1, none, _ => .error .assertionError
  | count + 1, some block, links => do
    let (popped, current, links) ← popBlocks count (links.next block) (links.unlink block)
    return (block :: popped, current, links)

variable (queue : FreeKVCacheBlockQueue) {blocks : List BlockRef}

def popleftN (n : Int) : Except PyError (List BlockRef × FreeKVCacheBlockQueue) := do
  if n = 0 then
    return ([], queue)
  pyAssert (queue.numFreeBlocks ≥ n)
  -- `range(n)` is empty for a negative `n`, but the counter has moved
  let (popped, current, links) ←
    popBlocks n.toNat (queue.links.next .fakeFreeListHead) queue.links
  return (popped,
    { numFreeBlocks := queue.numFreeBlocks - n
      links :=
        match current with
        | none => links
        | some block => links.link .fakeFreeListHead block })

def remove (queue : FreeKVCacheBlockQueue) (block : BlockRef) :
    Except PyError FreeKVCacheBlockQueue :=
  match queue.links.prev block, queue.links.next block with
  | some before, some after =>
    .ok
      { numFreeBlocks := queue.numFreeBlocks - 1
        links := (queue.links.link before after).unlink block }
  | _, _ => .error (.runtimeError "remove() called on an invalid block")

def append (block : BlockRef) : Except PyError FreeKVCacheBlockQueue :=
  match queue.links.prev .fakeFreeListTail with
  | none =>
    .error (.runtimeError "prev_free_block of fake_free_list_tail should always exist")
  | some last =>
    .ok
      { numFreeBlocks := queue.numFreeBlocks + 1
        links := (queue.links.link last block).link block .fakeFreeListTail }

def prependN (blocks : List BlockRef) : Except PyError FreeKVCacheBlockQueue :=
  if blocks = [] then .ok queue
  else
    match queue.links.next .fakeFreeListHead with
    | none => .error .assertionError
    | some first =>
      .ok
        { numFreeBlocks := queue.numFreeBlocks + blocks.length
          links := queue.links.linkAll (.fakeFreeListHead :: (blocks ++ [first])) }

def appendN (blocks : List BlockRef) : Except PyError FreeKVCacheBlockQueue :=
  if blocks = [] then .ok queue
  else
    match queue.links.prev .fakeFreeListTail with
    | none => .error .assertionError
    | some last =>
      .ok
        { numFreeBlocks := queue.numFreeBlocks + blocks.length
          links := queue.links.linkAll (last :: (blocks ++ [.fakeFreeListTail])) }

structure Represents (queue : FreeKVCacheBlockQueue) (blocks : List BlockRef) : Prop where
  threads : queue.links.Threads (.fakeFreeListHead :: (blocks ++ [.fakeFreeListTail]))
  nodup : (.fakeFreeListHead :: (blocks ++ [.fakeFreeListTail])).Nodup
  count : queue.numFreeBlocks = blocks.length
  noNext : ∀ block ∉ blocks, block ≠ .fakeFreeListHead → queue.links.next block = none
  noPrev : ∀ block ∉ blocks, block ≠ .fakeFreeListTail → queue.links.prev block = none

theorem represents_create (nodup : (.fakeFreeListHead :: (blocks ++ [.fakeFreeListTail])).Nodup) :
    (create blocks).Represents blocks := by
  rcases eq_nil_or_concat' blocks with rfl | ⟨front, last, rfl⟩
  · refine ⟨?_, nodup, rfl, ?_, ?_⟩
    · exact threads_linkAll _ nodup
    · intro block _ notHead
      simp [create, linkAll, notHead]
    · intro block _ notTail
      simp [create, linkAll, notTail]
  · have inner : (front ++ [last]).Nodup := by grind
    obtain ⟨first, rest, shape⟩ : ∃ first rest, front ++ [last] = first :: rest :=
      exists_cons_of_ne_nil (by simp)
    have headed : (front ++ [last]).head? = some first := by rw [shape]; rfl
    have created : (create (front ++ [last])).links =
        ((linkAll { next := fun _ => none, prev := fun _ => none } (front ++ [last])).link
          .fakeFreeListHead first).link last .fakeFreeListTail := by
      simp [create, headed]
    refine ⟨?_, nodup, rfl, ?_, ?_⟩
    · -- the head is linked in front of the threaded blocks, then the tail behind them
      have threaded := threads_linkAll { next := fun _ => none, prev := fun _ => none } inner
      rw [created]
      rw [shape] at threaded nodup ⊢
      have withHead := relink [] [] rest (.singleton BlockRef.fakeFreeListHead)
        threaded (by grind)
      rw [nil_append, nil_append, ← shape, ← cons_append] at withHead
      have withTail := relink (.fakeFreeListHead :: front) [] [] withHead
        (.singleton BlockRef.fakeFreeListTail) (by grind)
      rw [← shape]
      simpa [linkAll] using withTail
    · intro block outside notHead
      have notLast : block ≠ last := by grind
      rw [created, link_next, if_neg notLast, link_next, if_neg notHead, linkAll_next]
      grind
    · intro block outside notTail
      have notFirst : block ≠ first := by grind
      rw [created, link_prev, if_neg notTail, link_prev, if_neg notFirst, linkAll_prev]
      grind

variable {queue : FreeKVCacheBlockQueue} {back : List BlockRef}

theorem Represents.disjoint (represents : queue.Represents blocks) :
    .fakeFreeListHead ∉ blocks ∧ .fakeFreeListTail ∉ blocks ∧ blocks.Nodup := by
  have nodup := represents.nodup
  grind

theorem Represents.replace {after : FreeKVCacheBlockQueue}
    (front removed middle back : List BlockRef) {before rest : List BlockRef}
    {last first : BlockRef} (represents : queue.Represents (front ++ (removed ++ back)))
    (leftEnd : .fakeFreeListHead :: front = before ++ [last])
    (rightEnd : back ++ [.fakeFreeListTail] = first :: rest)
    (nodup : (.fakeFreeListHead :: (front ++ (middle ++ back) ++ [.fakeFreeListTail])).Nodup)
    (gone : ∀ block ∈ removed, block ∉ middle)
    (count : after.numFreeBlocks = queue.numFreeBlocks - removed.length + middle.length)
    (next : ∀ block, after.links.next block = if block ∈ removed then none else
      (queue.links.linkAll (last :: (middle ++ [first]))).next block)
    (prev : ∀ block, after.links.prev block = if block ∈ removed then none else
      (queue.links.linkAll (last :: (middle ++ [first]))).prev block) :
    after.Represents (front ++ (middle ++ back)) := by
  have oldNodes : BlockRef.fakeFreeListHead :: (front ++ (removed ++ back) ++ [.fakeFreeListTail]) =
      before ++ last :: (removed ++ first :: rest) := by
    rw [← rightEnd, append_cons before, ← leftEnd]
    simp
  have newNodes : BlockRef.fakeFreeListHead :: (front ++ (middle ++ back) ++ [.fakeFreeListTail]) =
      before ++ last :: (middle ++ first :: rest) := by
    rw [← rightEnd, append_cons before, ← leftEnd]
    simp
  have oldNodup := represents.nodup
  have threads := represents.threads
  rw [oldNodes] at threads oldNodup
  have outside : ∀ block ∈ removed, block ∉ before ++ last :: (middle ++ first :: rest) := by
    intro block member
    grind
  have relinked : (queue.links.linkAll (last :: (middle ++ [first]))).Threads
      (before ++ last :: (middle ++ first :: rest)) := by
    obtain ⟨left, tail⟩ := (threads_split before).mp threads
    have right := ((threads_split (last :: removed)).mp tail).2
    exact relink before middle rest left right (newNodes ▸ nodup)
  refine ⟨?_, nodup, ?_, ?_, ?_⟩
  · rw [newNodes]
    apply relinked.congr
    · intro block member
      have inside := dropLast_subset _ member
      rw [next, if_neg fun lost => outside block lost inside]
    · intro block member
      have inside := mem_of_mem_tail member
      rw [prev, if_neg fun lost => outside block lost inside]
  · have counted := represents.count
    simp only [length_append] at counted ⊢
    omega
  · intro block unlinked notHead
    rw [next]
    split
    · rfl
    · have notLast : block ∉ BlockRef.fakeFreeListHead :: front := by grind
      rw [linkAll_next, represents.noNext block (by grind) notHead]
      rw [← cons_append, dropLast_concat]
      grind
  · intro block unlinked notTail
    rw [prev]
    split
    · rfl
    · have notFirst : block ∉ back ++ [BlockRef.fakeFreeListTail] := by grind
      rw [linkAll_prev, represents.noPrev block (by grind) notTail]
      grind

theorem leftEnd_exists (front : List BlockRef) :
    ∃ before last, BlockRef.fakeFreeListHead :: front = before ++ [last] :=
  ⟨_, _, (dropLast_append_getLast (cons_ne_nil _ _)).symm⟩

theorem rightEnd_exists (back : List BlockRef) :
    ∃ first rest, back ++ [BlockRef.fakeFreeListTail] = first :: rest :=
  exists_cons_of_ne_nil (by simp)

theorem popBlocks_of_threads {links : Links BlockRef} {taken rest : List BlockRef}
    {stop : BlockRef} (threads : links.Threads (taken ++ stop :: rest))
    (nodup : (taken ++ stop :: rest).Nodup) :
    ∃ after, popBlocks taken.length (taken ++ stop :: rest).head? links =
        .ok (taken, some stop, after) ∧
      (∀ block, after.next block = if block ∈ taken then none else links.next block) ∧
      ∀ block, after.prev block = if block ∈ taken then none else links.prev block := by
  induction taken generalizing links with
  | nil => exact ⟨links, rfl, by simp, by simp⟩
  | cons first taken ih =>
    obtain ⟨fresh, tailNodup⟩ := List.nodup_cons.mp nodup
    have second : links.next first = (taken ++ stop :: rest).head? := by
      cases taken with
      | nil => exact (List.isChain_cons_cons.mp threads).1.1
      | cons second taken => exact (List.isChain_cons_cons.mp threads).1.1
    have tailThreads : links.Threads (taken ++ stop :: rest) := List.IsChain.tail threads
    obtain ⟨after, popped, next, prev⟩ := ih (tailThreads.unlink fresh) tailNodup
    refine ⟨after, ?_, ?_, ?_⟩
    · rw [length_cons, cons_append, head?_cons, popBlocks, second, popped]
      rfl
    · intro block
      rw [next, unlink_next]
      grind
    · intro block
      rw [prev, unlink_prev]
      grind

theorem popleftN_represents {taken : List BlockRef} (represents : queue.Represents (taken ++ back))
    :
    ∃ after, queue.popleftN taken.length = .ok (taken, after) ∧ after.Represents back := by
  rcases eq_nil_or_concat' taken with rfl | _
  · exact ⟨queue, rfl, by simpa using represents⟩
  obtain ⟨stop, rest, rightEnd⟩ := rightEnd_exists back
  have nodup := represents.nodup
  have threads := represents.threads
  have shape : taken ++ back ++ [BlockRef.fakeFreeListTail] = taken ++ stop :: rest := by
    rw [append_assoc, rightEnd]
  have first : queue.links.next .fakeFreeListHead = (taken ++ stop :: rest).head? := by
    rw [shape] at threads
    cases popped : taken ++ stop :: rest with
    | nil => simp at popped
    | cons first others =>
      rw [popped] at threads
      exact (List.isChain_cons_cons.mp threads).1.1
  obtain ⟨links, run, next, prev⟩ := popBlocks_of_threads
    (shape ▸ List.IsChain.tail threads) (shape ▸ (List.nodup_cons.mp nodup).2)
  refine ⟨{ numFreeBlocks := queue.numFreeBlocks - taken.length,
            links := links.link .fakeFreeListHead stop }, ?_, ?_⟩
  · have nonzero : (taken.length : Int) ≠ 0 := by grind
    have counted : queue.numFreeBlocks ≥ taken.length := by
      have := represents.count
      grind
    simp only [popleftN, nonzero, counted, first, Int.toNat_natCast, run]
    rfl
  · have alone : [BlockRef.fakeFreeListHead] = [] ++ [.fakeFreeListHead] := rfl
    apply Represents.replace [] taken [] back represents alone rightEnd
    · grind
    · simp
    · simp
    · intro block
      rw [link_next, next]
      simp only [nil_append, linkAll, link_next]
      grind
    · intro block
      rw [link_prev, prev]
      simp only [nil_append, linkAll, link_prev]
      grind

theorem popleft_represents {first : BlockRef} (represents : queue.Represents (first :: back)) :
    ∃ after, queue.popleft = .ok (first, after) ∧ after.Represents back := by
  obtain ⟨second, _, rightEnd⟩ := rightEnd_exists back
  have nodup := represents.nodup
  have threads := represents.threads
  rw [cons_append, rightEnd] at threads
  obtain ⟨⟨headNext, _⟩, tail⟩ := List.isChain_cons_cons.mp threads
  have firstNext := (List.isChain_cons_cons.mp tail).1.1
  have notTail : first ≠ .fakeFreeListTail := by grind
  refine ⟨{ numFreeBlocks := queue.numFreeBlocks - 1,
            links := (queue.links.link .fakeFreeListHead second).unlink first }, ?_, ?_⟩
  · unfold popleft
    rw [headNext]
    split
    · rename_i none
      cases none
    · rename_i same
      cases same
      exact absurd rfl notTail
    · rename_i found _ same
      cases same
      rw [firstNext]
      rfl
  · have alone : [BlockRef.fakeFreeListHead] = [] ++ [.fakeFreeListHead] := rfl
    apply Represents.replace [] [first] [] back represents alone rightEnd
    · grind
    · simp
    · simp
    · intro block
      simp [linkAll]
    · intro block
      simp [linkAll]

theorem Represents.next_mem (represents : queue.Represents blocks)
    {block following : BlockRef} (found : queue.links.next block = some following) :
    following ∈ blocks ++ [BlockRef.fakeFreeListTail] := by
  have inside : block ∈ BlockRef.fakeFreeListHead :: blocks := by
    by_contra outside
    simp only [mem_cons, not_or] at outside
    rw [represents.noNext block outside.2 outside.1] at found
    cases found
  obtain ⟨left, right, split⟩ := append_of_mem inside
  obtain ⟨first, rest, rightEnd⟩ := rightEnd_exists right
  have nodes : BlockRef.fakeFreeListHead :: (blocks ++ [.fakeFreeListTail]) =
      left ++ block :: first :: rest := by
    rw [← cons_append, split, append_assoc, cons_append, rightEnd]
  have threads := represents.threads
  rw [nodes] at threads
  rw [threads.adjacent.1] at found
  cases found
  have tail : blocks ++ [BlockRef.fakeFreeListTail] = (left ++ block :: following :: rest).tail := by
    rw [← nodes]
    rfl
  rw [tail]
  cases left with
  | nil => simp
  | cons head left => simp

theorem remove_represents {front : List BlockRef} {block : BlockRef}
    (represents : queue.Represents (front ++ block :: back)) :
    ∃ after, queue.remove block = .ok after ∧ after.Represents (front ++ back) := by
  obtain ⟨before, last, leftEnd⟩ := leftEnd_exists front
  obtain ⟨first, rest, rightEnd⟩ := rightEnd_exists back
  have nodup := represents.nodup
  have threads := represents.threads
  have nodes : BlockRef.fakeFreeListHead :: (front ++ block :: back ++ [.fakeFreeListTail]) =
      before ++ last :: block :: first :: rest := by
    rw [← rightEnd, append_cons before, ← leftEnd]
    simp
  rw [nodes] at threads
  have prev : queue.links.prev block = some last := threads.adjacent.2
  have next : queue.links.next block = some first :=
    (adjacent (append_cons before last _ ▸ threads)).1
  refine ⟨{ numFreeBlocks := queue.numFreeBlocks - 1,
            links := (queue.links.link last first).unlink block }, ?_, ?_⟩
  · simp [remove, prev, next]
  · apply Represents.replace front [block] [] back represents leftEnd rightEnd
    · grind
    · simp
    · simp
    · intro other
      simp [linkAll]
    · intro other
      simp [linkAll]

theorem prependN_represents {added : List BlockRef} (represents : queue.Represents back)
    (nodup : (.fakeFreeListHead :: (added ++ back ++ [.fakeFreeListTail])).Nodup) :
    ∃ after, queue.prependN added = .ok after ∧ after.Represents (added ++ back) := by
  rcases eq_or_ne added [] with rfl | nonempty
  · exact ⟨queue, rfl, represents⟩
  obtain ⟨_, _, rightEnd⟩ := rightEnd_exists back
  have threads := represents.threads
  rw [rightEnd] at threads
  have next := (List.isChain_cons_cons.mp threads).1.1
  have alone : [BlockRef.fakeFreeListHead] = [] ++ [.fakeFreeListHead] := rfl
  refine ⟨_, by simp [prependN, nonempty, next]; rfl, ?_⟩
  apply Represents.replace [] [] added back represents alone rightEnd nodup
  · simp
  · simp
  · simp
  · simp

theorem appendN_represents {front added : List BlockRef} (represents : queue.Represents front)
    (nodup : (.fakeFreeListHead :: (front ++ added ++ [.fakeFreeListTail])).Nodup) :
    ∃ after, queue.appendN added = .ok after ∧ after.Represents (front ++ added) := by
  rcases eq_or_ne added [] with rfl | nonempty
  · exact ⟨queue, rfl, by simpa using represents⟩
  obtain ⟨_, last, leftEnd⟩ := leftEnd_exists front
  have threads := represents.threads
  rw [← cons_append, leftEnd, append_assoc] at threads
  have prev : queue.links.prev .fakeFreeListTail = some last := threads.adjacent.2
  have alone : [] ++ [BlockRef.fakeFreeListTail] = .fakeFreeListTail :: [] := rfl
  refine ⟨_, by simp [appendN, nonempty, prev]; rfl, ?_⟩
  suffices spliced : Represents _ (front ++ (added ++ [])) by simpa using spliced
  apply Represents.replace front [] added [] (by simpa using represents) leftEnd alone
    (by simpa using nodup)
  · simp
  · simp
  · simp
  · simp

end FreeKVCacheBlockQueue

end VllmEngine
