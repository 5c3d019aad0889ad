import Mathlib.Data.List.Chain
import Mathlib.Data.List.Nodup

set_option autoImplicit false

namespace VllmEngine.DoublyLinked

open Function List

variable {Node : Type} [DecidableEq Node]

structure Links (Node : Type) where
  next : Node → Option Node
  prev : Node → Option Node

namespace Links

variable (links : Links Node) {node following : Node} {nodes : List Node}

def link (left right : Node) : Links Node :=
  { next := update links.next left (some right)
    prev := update links.prev right (some left) }

def unlink (node : Node) : Links Node :=
  { next := update links.next node none
    prev := update links.prev node none }

def linkAll (links : Links Node) : List Node → Links Node
  | left :: right :: rest => (links.link left right).linkAll (right :: rest)
  | _ => links

def Threads (nodes : List Node) : Prop :=
  nodes.IsChain fun left right => links.next left = some right ∧ links.prev right = some left

@[simp] theorem link_next (left right node : Node) :
    (links.link left right).next node = if node = left then some right else links.next node := by
  simp [link, update_apply]

@[simp] theorem link_prev (left right node : Node) :
    (links.link left right).prev node = if node = right then some left else links.prev node := by
  simp [link, update_apply]

@[simp] theorem unlink_next (removed node : Node) :
    (links.unlink removed).next node = if node = removed then none else links.next node := by
  simp [unlink, update_apply]

@[simp] theorem unlink_prev (removed node : Node) :
    (links.unlink removed).prev node = if node = removed then none else links.prev node := by
  simp [unlink, update_apply]

theorem linkAll_next (nodes : List Node) {node : Node}
    (outside : node ∉ nodes.dropLast) : (links.linkAll nodes).next node = links.next node := by
  induction nodes generalizing links with
  | nil => rfl
  | cons left rest ih =>
    cases rest with
    | nil => rfl
    | cons right rest =>
      simp only [dropLast_cons_cons, mem_cons, not_or] at outside
      rw [linkAll, ih _ outside.2, link_next, if_neg outside.1]

theorem linkAll_prev (nodes : List Node) {node : Node}
    (outside : node ∉ nodes.tail) : (links.linkAll nodes).prev node = links.prev node := by
  induction nodes generalizing links with
  | nil => rfl
  | cons left rest ih =>
    cases rest with
    | nil => rfl
    | cons right rest =>
      simp only [tail_cons, mem_cons, not_or] at outside
      rw [linkAll, ih _ outside.2, link_prev, if_neg outside.1]

theorem linkAll_next_cases (nodes : List Node)
    (found : (links.linkAll nodes).next node = some following) :
    following ∈ nodes.tail ∨ links.next node = some following := by
  induction nodes generalizing links with
  | nil => exact .inr found
  | cons left rest ih =>
    cases rest with
    | nil => exact .inr found
    | cons right rest =>
      rcases ih _ found with inside | before
      · exact .inl (mem_cons_of_mem right inside)
      · rw [link_next] at before
        split at before
        · cases before
          exact .inl mem_cons_self
        · exact .inr before

omit [DecidableEq Node] in
theorem Threads.congr {links links' : Links Node} (threads : links.Threads nodes)
    (next : ∀ node ∈ nodes.dropLast, links'.next node = links.next node)
    (prev : ∀ node ∈ nodes.tail, links'.prev node = links.prev node) : links'.Threads nodes := by
  induction nodes with
  | nil => exact .nil
  | cons left rest ih =>
    cases rest with
    | nil => exact .singleton left
    | cons right rest =>
      simp only [Threads, isChain_cons_cons] at threads ⊢
      refine ⟨⟨?_, ?_⟩, ?_⟩
      · rw [next left (by simp), threads.1.1]
      · rw [prev right (by simp), threads.1.2]
      · apply ih threads.2
        · intro node member
          exact next node (by simp [member])
        · intro node member
          exact prev node (mem_cons_of_mem right member)

theorem threads_linkAll (nodup : nodes.Nodup) :
    (links.linkAll nodes).Threads nodes := by
  induction nodes generalizing links with
  | nil => exact .nil
  | cons left rest ih =>
    cases rest with
    | nil => exact .singleton left
    | cons right rest =>
      obtain ⟨fresh, tailNodup⟩ := List.nodup_cons.mp nodup
      have outside : right ∉ rest := (List.nodup_cons.mp tailNodup).1
      simp only [Threads, isChain_cons_cons]
      refine ⟨⟨?_, ?_⟩, ih _ tailNodup⟩
      · rw [linkAll, linkAll_next _ _ fun member => fresh (dropLast_subset _ member)]
        simp
      · rw [linkAll, linkAll_prev _ _ outside]
        simp

omit [DecidableEq Node] in
theorem threads_split {links : Links Node} (left : List Node) {right : List Node} {node : Node} :
    links.Threads (left ++ node :: right) ↔
      links.Threads (left ++ [node]) ∧ links.Threads (node :: right) :=
  isChain_split

omit [DecidableEq Node] in
theorem Threads.adjacent {links : Links Node} {left right : List Node}
    (threads : links.Threads (left ++ node :: following :: right)) :
    links.next node = some following ∧ links.prev following = some node := by
  have pair := ((threads_split left).mp threads).2
  exact (List.isChain_cons_cons.mp pair).1

theorem Threads.unlink {links : Links Node} {removed : Node}
    (threads : links.Threads nodes) (outside : removed ∉ nodes) :
    (links.unlink removed).Threads nodes := by
  apply threads.congr
  · intro node member
    have differs : node ≠ removed := by
      rintro rfl
      exact outside (dropLast_subset _ member)
    rw [unlink_next, if_neg differs]
  · intro node member
    have differs : node ≠ removed := by
      rintro rfl
      exact outside (mem_of_mem_tail member)
    rw [unlink_prev, if_neg differs]

theorem Threads.relink {links : Links Node} (left middle right : List Node) {first last : Node}
    (before : links.Threads (left ++ [first])) (after : links.Threads (last :: right))
    (nodup : (left ++ first :: (middle ++ last :: right)).Nodup) :
    (links.linkAll (first :: (middle ++ [last]))).Threads
      (left ++ first :: (middle ++ last :: right)) := by
  have inner : (first :: (middle ++ [last])).Nodup := by
    grind
  have changedNext : (first :: (middle ++ [last])).dropLast = first :: middle := by
    rw [← cons_append, dropLast_concat]
  rw [threads_split]
  refine ⟨?_, ?_⟩
  · apply before.congr
    · intro node member
      apply linkAll_next
      rw [changedNext]
      grind
    · intro node member
      apply linkAll_prev
      have inside : node ∈ left ++ [first] := mem_of_mem_tail member
      simp only [tail_cons]
      grind
  · apply (threads_split (first :: middle)).mpr
    refine ⟨threads_linkAll links inner, ?_⟩
    apply after.congr
    · intro node member
      apply linkAll_next
      rw [changedNext]
      have inside : node ∈ last :: right := dropLast_subset _ member
      grind
    · intro node member
      apply linkAll_prev
      grind

end Links

end VllmEngine.DoublyLinked
