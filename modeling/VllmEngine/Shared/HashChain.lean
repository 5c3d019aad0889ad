import Mathlib.Data.List.Basic

set_option autoImplicit false

namespace VllmEngine.HashChain

variable {Digest Block : Type}

def chain (hash : Digest × Block → Digest) : Digest → List Block → List Digest
  | _, [] => []
  | parent, block :: rest => hash (parent, block) :: chain hash (hash (parent, block)) rest

variable {hash : Digest × Block → Digest}

variable (parent : Digest) {index : Nat}

@[simp] theorem chain_nil : chain hash parent [] = [] := rfl

@[simp] theorem chain_cons (block : Block) (rest : List Block) : chain hash parent (block :: rest) =
      hash (parent, block) :: chain hash (hash (parent, block)) rest := rfl

@[simp] theorem chain_length (blocks : List Block) :
    (chain hash parent blocks).length = blocks.length := by
  induction blocks generalizing parent with
  | nil => rfl
  | cons block rest ih => simp [ih]

theorem chain_append (front back : List Block) : chain hash parent (front ++ back) =
      chain hash parent front ++
        chain hash ((chain hash parent front).getLast?.getD parent) back := by
  induction front generalizing parent with
  | nil => simp
  | cons block rest ih =>
    simp only [List.cons_append, chain_cons, ih, List.getLast?_cons, Option.getD_some]

theorem chain_getElem?_zero (blocks : List Block) :
    (chain hash parent blocks)[0]? = blocks[0]?.map fun block => hash (parent, block) := by
  cases blocks <;> simp

theorem chain_getElem?_succ {parent digest : Digest} {blocks : List Block} {block : Block}
    (previous : (chain hash parent blocks)[index]? = some digest)
    (present : blocks[index + 1]? = some block) :
    (chain hash parent blocks)[index + 1]? = some (hash (digest, block)) := by
  induction blocks generalizing parent index with
  | nil => simp at present
  | cons head rest ih =>
    simp only [chain_cons, List.getElem?_cons_succ] at present ⊢
    cases index with
    | zero =>
      simp only [chain_cons, List.getElem?_cons_zero, Option.some.injEq] at previous
      rw [chain_getElem?_zero, present, previous]
      rfl
    | succ index => exact ih previous present

theorem chain_injective (injective : Function.Injective hash) (parent : Digest) :
    Function.Injective (chain hash parent) := by
  intro left
  induction left generalizing parent with
  | nil => intro right same; cases right <;> simp_all
  | cons block rest ih =>
    intro right same
    cases right with
    | nil => simp at same
    | cons other others =>
      simp only [chain_cons, List.cons.injEq] at same
      obtain ⟨rfl⟩ : block = other := congrArg Prod.snd (injective same.1)
      rw [ih _ same.2]

theorem take_eq_of_digest_eq (injective : Function.Injective hash) {parent parent' : Digest}
    {left right : List Block} {digest : Digest}
    (leftDigest : (chain hash parent left)[index]? = some digest)
    (rightDigest : (chain hash parent' right)[index]? = some digest) :
    parent = parent' ∧ left.take (index + 1) = right.take (index + 1) := by
  -- The digest pins the last block and the digest before it; recursion runs on the index with
  -- both starting digests free.
  induction index generalizing parent parent' left right with
  | zero =>
    cases left with
    | nil => simp at leftDigest
    | cons block rest =>
      cases right with
      | nil => simp at rightDigest
      | cons other others =>
        simp only [chain_cons, List.getElem?_cons_zero, Option.some.injEq] at leftDigest rightDigest
        have same := injective (leftDigest.trans rightDigest.symm)
        simpa using same
  | succ index ih =>
    cases left with
    | nil => simp at leftDigest
    | cons block rest =>
      cases right with
      | nil => simp at rightDigest
      | cons other others =>
        obtain ⟨parents, blocks⟩ := ih leftDigest rightDigest
        have same := injective parents
        simp only [Prod.mk.injEq] at same
        exact ⟨same.1, by rw [List.take_succ_cons, List.take_succ_cons, same.2, blocks]⟩

end VllmEngine.HashChain
