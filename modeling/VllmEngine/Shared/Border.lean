import Mathlib.Data.List.Infix

set_option autoImplicit false

namespace VllmEngine

open List

variable {A : Type} {tokens : List A} {cap i l other : Nat}

-- The first `l` tokens are also the last of the first `i`, and not all of them.
def Border (tokens : List A) (i l : Nat) : Prop :=
  l < i ∧ tokens.take l <:+ tokens.take i

namespace Border

theorem zero : Border tokens (i + 1) 0 := ⟨i.succ_pos, nil_suffix⟩

theorem trans (border : Border tokens i l) (inner : Border tokens l other) :
    Border tokens i other :=
  ⟨inner.1.trans border.1, inner.2.trans border.2⟩

theorem inside (border : Border tokens i l) (shorter : Border tokens i other) (lt : other < l) :
    Border tokens l other := by
  refine ⟨lt, suffix_of_suffix_length_le shorter.2 border.2 ?_⟩
  rw [length_take, length_take]
  omega

theorem succ (within : i < tokens.length) :
    Border tokens (i + 1) (l + 1) ↔ Border tokens i l ∧ tokens[l]? = tokens[i]? := by
  unfold Border
  rw [Nat.add_lt_add_iff_right, and_assoc]
  refine and_congr_right fun lt => ?_
  rw [take_succ_eq_append_getElem within, take_succ_eq_append_getElem (lt.trans within),
    ← reverse_prefix, reverse_append, reverse_append, reverse_singleton, reverse_singleton,
    singleton_append, singleton_append, cons_prefix_cons, reverse_prefix,
    getElem?_eq_getElem within, getElem?_eq_getElem (lt.trans within), Option.some.injEq, and_comm]

end Border

-- The longest border, of those with at most `cap` tokens.
structure Longest (tokens : List A) (cap i l : Nat) : Prop where
  border : Border tokens i l
  longest : ∀ other ≤ cap, Border tokens i other → other ≤ l

end VllmEngine
