import VllmEngine.KVCache.Reconcile

set_option autoImplicit false

namespace VllmEngine

open Outcome

variable {H : Type} {lookup : H → Option (List BlockRef)} {blockHashes : List H}
  {hashBlockSize blockSize alignment maxLength : Nat}

namespace FullAttentionManager

section

variable (all : ∀ blockHash, (lookup blockHash).isSome)

include all

theorem cachedRun_all (hashes : List H) :
    (cachedRun lookup hashes).length = hashes.length := by
  induction hashes with
  | nil => rfl
  | cons first rest ih =>
    obtain ⟨_, found⟩ := Option.isSome_iff_exists.mp (all first)
    simp [cachedRun, found, ih]

theorem cachedTail_all {first count : Nat} (within : first + count < blockHashes.length) :
    ∃ row, cachedTail lookup blockHashes first (count + 1) = some (first + count, row) := by
  obtain ⟨row, found⟩ := Option.isSome_iff_exists.mp (all (blockHashes.get ⟨_, within⟩))
  refine ⟨row, ?_⟩
  unfold cachedTail
  rw [List.getElem?_eq_getElem within, Option.bind_some]
  simp only [List.get_eq_getElem] at found
  rw [found]

theorem extendTail_all (sizes : Sizes alignment blockSize alignment)
    (hashed : maxLength / alignment ≤ blockHashes.length) {rows : List (List BlockRef)}
    (count : rows.length = maxLength / blockSize) :
    (extendTail lookup blockHashes maxLength blockSize alignment rows).2 =
      maxLength / alignment * alignment := by
  have positive := sizes.hashPositive
  obtain ⟨scale, rfl⟩ := sizes.divides
  have scalePositive : 0 < scale := Nat.pos_of_mul_pos_left sizes.blockPositive
  have quotient : maxLength / (alignment * scale) = maxLength / alignment / scale :=
    (Nat.div_div_eq_div_mul maxLength alignment scale).symm
  have whole : rows.length * scale ≤ maxLength / alignment := by
    rw [count, quotient]
    exact Nat.div_mul_le_self _ _
  have inside : maxLength / alignment < rows.length * scale + scale := by
    rw [count, quotient]
    have := Nat.lt_div_mul_add scalePositive (a := maxLength / alignment)
    omega
  have bound : min (min (rows.length * scale + scale - 1) (maxLength / alignment))
      blockHashes.length = maxLength / alignment := by omega
  unfold extendTail
  simp only [Nat.mul_div_cancel_left _ positive, bound]
  obtain exact | ⟨extra, more⟩ : maxLength / alignment - rows.length * scale = 0 ∨
      ∃ extra, maxLength / alignment - rows.length * scale = extra + 1 := by
    rcases Nat.eq_zero_or_eq_succ_pred (maxLength / alignment - rows.length * scale) with none | some
    · exact .inl none
    · exact .inr ⟨_, some⟩
  · have same : rows.length * scale = maxLength / alignment := by omega
    simp only [exact, cachedTail]
    rw [← same]
    ring
  · have within : rows.length * scale + extra < blockHashes.length := by omega
    obtain ⟨_, found⟩ := cachedTail_all all within
    have last : rows.length * scale + extra + 1 = maxLength / alignment := by omega
    simp only [more, found, last]

theorem findLongestCacheHit_all (sizes : Sizes hashBlockSize blockSize alignment)
    (hashed : maxLength / hashBlockSize ≤ blockHashes.length) (dropEagleBlock : Bool) :
    ∃ rows, findLongestCacheHit lookup blockHashes maxLength hashBlockSize blockSize
      dropEagleBlock alignment = .ok (trimHit rows
        (maxLength / min alignment blockSize * min alignment blockSize) blockSize alignment
        dropEagleBlock) := by
  obtain ⟨view, resolved, viewed⟩ := resolveBlockHashes_spec blockHashes sizes.hashPositive
    sizes.blockPositive sizes.divides
  have enough := view_length sizes.hashPositive sizes.blockPositive sizes.divides viewed hashed
  have count : (cachedRun lookup (view.take (maxLength / blockSize))).length =
      maxLength / blockSize := by
    rw [cachedRun_all all, List.length_take]
    omega
  by_cases fine : alignment < blockSize ∧ blockSize % alignment = 0
  · obtain rfl := sizes.fine fine.1
    have coarse : blockSize ≠ alignment := fine.1.ne'
    have tail := extendTail_all all sizes hashed count
    refine ⟨(extendTail lookup blockHashes maxLength blockSize alignment
      (cachedRun lookup (view.take (maxLength / blockSize)))).1, ?_⟩
    rw [Nat.min_eq_left fine.1.le, ← tail]
    simp only [findLongestCacheHit, lookupBlockHashes, coarse, fine, ne_eq, not_false_eq_true,
      and_self, if_true, ok_bind, resolved]
    rfl
  · have raw : lookupBlockHashes blockHashes hashBlockSize blockSize alignment true = .ok view := by
      unfold lookupBlockHashes
      rw [if_neg (by tauto), resolved]
    have unit : min alignment blockSize = blockSize := by
      apply Nat.min_eq_right
      by_contra below
      have same := sizes.fine (by omega)
      exact fine ⟨by omega, by rw [same]; exact Nat.mod_eq_zero_of_dvd sizes.divides⟩
    refine ⟨cachedRun lookup (view.take (maxLength / blockSize)), ?_⟩
    rw [unit]
    nth_rewrite 2 [← count]
    simp only [findLongestCacheHit, raw, fine]
    rfl

end

theorem alignment_le_sub_mod {length : Nat} (positive : 0 < alignment)
    (le : alignment ≤ length) : alignment ≤ length - length % alignment := by
  have parts := Nat.div_add_mod length alignment
  have quotient : 1 ≤ length / alignment := (Nat.le_div_iff_mul_le positive).mpr (by omega)
  have := Nat.mul_le_mul_left alignment quotient
  omega

theorem trimHit_reaches (rows : List (List BlockRef)) {dropEagleBlock : Bool}
    (sizes : Sizes hashBlockSize blockSize alignment)
    (reach : alignment + (if dropEagleBlock then min alignment blockSize else 0) ≤ maxLength) :
    alignment ≤ (trimHit rows (maxLength / min alignment blockSize * min alignment blockSize)
      blockSize alignment dropEagleBlock).2 := by
  have alignmentPositive := sizes.alignmentPositive
  have blockPositive := sizes.blockPositive
  obtain ⟨unit, same⟩ : ∃ unit, unit = min alignment blockSize := ⟨_, rfl⟩
  have divides : unit ∣ alignment := by
    rcases sizes.fits with rfl | multiple
    · have := Nat.le_of_dvd blockPositive sizes.divides
      rw [same, Nat.min_eq_left this]
    · have := Nat.le_of_dvd alignmentPositive multiple
      rw [same, Nat.min_eq_right this]
      exact multiple
  rw [← same] at reach ⊢
  -- the reach is a multiple of the unit, so rounding the limit down keeps it
  have raw : alignment + (if dropEagleBlock then unit else 0) ≤ maxLength / unit * unit := by
    have multiple : unit ∣ alignment + (if dropEagleBlock then unit else 0) := by
      split
      · exact Nat.dvd_add divides (Nat.dvd_refl unit)
      · simpa using divides
    calc alignment + (if dropEagleBlock then unit else 0)
        = (alignment + (if dropEagleBlock then unit else 0)) / unit * unit :=
          (Nat.div_mul_cancel multiple).symm
      _ ≤ maxLength / unit * unit := Nat.mul_le_mul_right _ (Nat.div_le_div_right reach)
  generalize maxLength / unit * unit = rawLength at raw
  unfold trimHit
  rw [← same]
  have dropped : alignment ≤
      (if dropEagleBlock = true ∧ rawLength > 0 then rawLength - unit else rawLength) := by
    cases dropEagleBlock with
    | false => simpa using raw
    | true =>
      simp only [if_true] at raw ⊢
      split <;> omega
  exact alignment_le_sub_mod alignmentPositive dropped

end FullAttentionManager

namespace SlidingWindowManager

variable {dropEagleBlock : Bool}

theorem scanWindow_none (none : ∀ blockHash, lookup blockHash = none) {need : Nat}
    {i : Nat} {rows final : List (List BlockRef)} {run : Nat} {matchFound : Bool}
    (scanned : scanWindow lookup blockHashes blockSize alignment need dropEagleBlock i rows 0 =
      .ok (final, run, matchFound)) : run = 0 ∧ matchFound = false := by
  induction i with
  | zero =>
    cases scanned
    exact ⟨rfl, rfl⟩
  | succ i ih =>
    simp only [scanWindow, none, bind_eq_ok] at scanned
    obtain ⟨blockHash, _, rest⟩ := scanned
    exact ih rest

theorem findLongestCacheHit_none (none : ∀ blockHash, lookup blockHash = none) {window : Nat}
    {groupIds : List Nat} {rows : List (List BlockRef)} {hitLength : Nat}
    (run : findLongestCacheHit lookup blockHashes maxLength hashBlockSize blockSize window groupIds
      dropEagleBlock alignment = .ok (rows, hitLength)) : hitLength = 0 := by
  simp only [findLongestCacheHit, bind_eq_ok] at run
  obtain ⟨_, _, _, _, ⟨_, _, _⟩, scanned, _, rfl⟩ := run
  obtain ⟨rfl, rfl⟩ := scanWindow_none none scanned
  simp [finishScan, alignRows]

end SlidingWindowManager

namespace ChunkedLocalAttentionManager

variable {rows : List (List BlockRef)}

theorem cachedFrom_none (none : ∀ blockHash, lookup blockHash = none) {i count : Nat}
    (run : cachedFrom lookup blockHashes i count = .ok rows) :
    rows = [] := by
  cases count with
  | zero =>
    cases run
    rfl
  | succ count =>
    simp only [cachedFrom, none, bind_eq_ok, pure_eq_ok] at run
    obtain ⟨_, _, rfl⟩ := run
    rfl

theorem findLongestCacheHit_none (none : ∀ blockHash, lookup blockHash = none) {chunk : Nat}
    {groupIds : List Nat} {dropEagleBlock : Bool} {hitLength : Nat}
    (run : findLongestCacheHit lookup blockHashes maxLength hashBlockSize blockSize chunk groupIds
      dropEagleBlock alignment = .ok (rows, hitLength)) :
    hitLength = maxLength / chunk * chunk / blockSize * blockSize := by
  simp only [findLongestCacheHit, bind_eq_ok] at run
  obtain ⟨_, _, _, _, _, _, _, found, _, rfl⟩ := run
  obtain rfl := cachedFrom_none none found
  simp

end ChunkedLocalAttentionManager

end VllmEngine
