import VllmEngine.KVCache.CacheHit
import VllmEngine.Shared.Outcome

set_option autoImplicit false

namespace VllmEngine

open Outcome List Nat

variable {H A B : Type} {cached : Nat → A → Prop} {items : List A} {kind : SpecKind}

-- `cached n item`: the item is cached under the hash of the first `n` tokens.
def ValidHit (kind : SpecKind) (blockSize length : Nat) (cached : Nat → A → Prop)
    (items : List A) : Prop :=
  match kind with
  | .fullAttention | .rswa _ =>
    -- an entry covers its whole block, or the hit ends inside the part it covers
    ∀ i item, items[i]? = some item → ∃ n, cached n item ∧ n ≤ (i + 1) * blockSize ∧
      min ((i + 1) * blockSize) length ≤ n
  | .slidingWindow window =>
    ∀ i item, items[i]? = some item → length + 1 < (i + 1) * blockSize + window →
      cached ((i + 1) * blockSize) item
  | .mamba .. => 0 < length → ∃ item, items.getLast? = some item ∧ cached length item
  | .chunkedLocalAttention _ | .crossAttention => True

structure Hit (kind : SpecKind) (blockSize length : Nat) (cached : Nat → A → Prop)
    (items : List A) : Prop where
  count : items.length = cdiv length blockSize
  valid : ValidHit kind blockSize length cached items

theorem Hit.map {blockSize length : Nat} {cached' : Nat → B → Prop} {change : A → B}
    (hit : Hit kind blockSize length cached items)
    (keeps : ∀ n item, cached n item → cached' n (change item)) :
    Hit kind blockSize length cached' (items.map change) := by
  have valid := hit.valid
  refine ⟨by simpa using hit.count, ?_⟩
  cases kind with
  | fullAttention | rswa _ =>
    intro i item found
    simp only [getElem?_map, Option.map_eq_some_iff] at found
    obtain ⟨original, at_i, rfl⟩ := found
    obtain ⟨n, held, bounds⟩ := valid i original at_i
    exact ⟨n, keeps n original held, bounds⟩
  | slidingWindow window =>
    intro i item found inside
    simp only [getElem?_map, Option.map_eq_some_iff] at found
    obtain ⟨original, at_i, rfl⟩ := found
    exact keeps _ original (valid i original at_i inside)
  | mamba mode blocks =>
    intro positive
    obtain ⟨item, last, held⟩ := valid positive
    exact ⟨change item, by simp [last], keeps length item held⟩
  | chunkedLocalAttention _ => trivial
  | crossAttention => trivial

theorem Hit.truncate {blockSize length shorter : Nat}
    (full : kind = .fullAttention ∨ ∃ window, kind = .rswa window)
    (hit : Hit kind blockSize length cached items) (le : shorter ≤ length) :
    Hit kind blockSize shorter cached (items.take (cdiv shorter blockSize)) := by
  refine ⟨?_, ?_⟩
  · rw [length_take, hit.count]
    exact min_eq_left (cdiv_mono blockSize le)
  · rcases full with rfl | ⟨window, rfl⟩
    all_goals
      intro i item found
      rw [getElem?_take] at found
      split at found
      · obtain ⟨n, held, below, _⟩ := hit.valid i item found
        exact ⟨n, held, below, by omega⟩
      · cases found

def RowCached (lookup : H → Option (List BlockRef)) (blockHashes : List H) (hashBlockSize n : Nat)
    (row : List BlockRef) : Prop :=
  0 < n ∧ hashBlockSize ∣ n ∧
    ∃ blockHash, blockHashes[n / hashBlockSize - 1]? = some blockHash ∧ lookup blockHash = some row

theorem filterMap_range_getElem? {found : Nat → Option H} {count : Nat}
    (present : ∀ i < count, (found i).isSome) :
    ((List.range count).filterMap found).length = count ∧
      ∀ i < count, ((List.range count).filterMap found)[i]? = found i := by
  induction count with
  | zero => simp
  | succ count ih =>
    obtain ⟨length, earlier⟩ := ih fun i below => present i (by omega)
    obtain ⟨last, stored⟩ := Option.isSome_iff_exists.mp (present count (by omega))
    have appended : (List.range (count + 1)).filterMap found =
        (List.range count).filterMap found ++ [last] := by
      simp [range_succ, stored]
    rw [appended]
    refine ⟨by simp [length], fun i below => ?_⟩
    rcases Nat.lt_succ_iff_lt_or_eq.mp below with inside | rfl
    · rw [getElem?_append_left (by omega), earlier i inside]
    · rw [getElem?_append_right (by omega), length, stored]
      simp

theorem scaled_getElem? (blockHashes : List H) {scale : Nat} (positive : 0 < scale) (i : Nat) :
    ((List.range (blockHashes.length / scale)).filterMap fun idx =>
      blockHashes[(idx + 1) * scale - 1]?)[i]? = blockHashes[(i + 1) * scale - 1]? := by
  have boundary (idx : Nat) : 0 < (idx + 1) * scale := mul_pos (succ_pos idx) positive
  have within (idx : Nat) : idx < blockHashes.length / scale ↔
      (idx + 1) * scale ≤ blockHashes.length := le_div_iff_mul_le positive
  have present (idx : Nat) (inside : idx < blockHashes.length / scale) :
      (blockHashes[(idx + 1) * scale - 1]?).isSome := by
    have := (within idx).mp inside
    have := boundary idx
    simp
    omega
  obtain ⟨length, equal⟩ := filterMap_range_getElem? present
  by_cases inside : i < blockHashes.length / scale
  · exact equal i inside
  · have past := mt (within i).mpr inside
    rw [getElem?_eq_none (by omega), getElem?_eq_none (by omega)]

def Viewed (blockHashes : List H) (hashBlockSize blockSize : Nat) (view : List H) : Prop :=
  ∀ i, view[i]? = blockHashes[(i + 1) * blockSize / hashBlockSize - 1]?

theorem resolveBlockHashes_spec (blockHashes : List H) {hashBlockSize blockSize : Nat}
    (positive : 0 < hashBlockSize) (blockPositive : 0 < blockSize)
    (divides : hashBlockSize ∣ blockSize) :
    ∃ view, resolveBlockHashes blockHashes hashBlockSize blockSize = .ok view ∧
      Viewed blockHashes hashBlockSize blockSize view := by
  obtain ⟨scale, rfl⟩ := divides
  have scalePositive : 0 < scale := Nat.pos_of_mul_pos_left blockPositive
  have boundary (i : Nat) : (i + 1) * (hashBlockSize * scale) / hashBlockSize = (i + 1) * scale := by
    rw [Nat.mul_left_comm, Nat.mul_div_cancel_left _ positive]
  by_cases same : hashBlockSize * scale = hashBlockSize
  · refine ⟨blockHashes, by simp [resolveBlockHashes, same], fun i => ?_⟩
    have one : scale = 1 := by
      have := Nat.eq_of_mul_eq_mul_left positive (same.trans (Nat.mul_one _).symm)
      exact this
    rw [boundary, one]
    simp
  · refine ⟨(List.range (blockHashes.length / scale)).filterMap fun idx =>
      blockHashes[(idx + 1) * scale - 1]?, ?_, fun i => ?_⟩
    · simp [resolveBlockHashes, same, Nat.mul_div_cancel_left _ positive]
    · rw [boundary]
      exact scaled_getElem? blockHashes scalePositive i

theorem view_length {blockHashes view : List H} {hashBlockSize blockSize maxLength : Nat}
    (positive : 0 < hashBlockSize) (blockPositive : 0 < blockSize)
    (divides : hashBlockSize ∣ blockSize)
    (viewed : Viewed blockHashes hashBlockSize blockSize view)
    (hashed : maxLength / hashBlockSize ≤ blockHashes.length) :
    maxLength / blockSize ≤ view.length := by
  by_contra short
  have inside : (view.length + 1) * blockSize ≤ maxLength :=
    (Nat.le_div_iff_mul_le blockPositive).mp (by omega)
  have boundary : 0 < (view.length + 1) * blockSize / hashBlockSize := by
    apply Nat.div_pos _ positive
    have := Nat.le_of_dvd blockPositive divides
    nlinarith
  have below := Nat.div_le_div_right inside (c := hashBlockSize)
  have stored := viewed view.length
  rw [getElem?_eq_none le_rfl, getElem?_eq_getElem (by omega)] at stored
  cases stored

structure Sizes (hashBlockSize blockSize alignment : Nat) : Prop where
  hashPositive : 0 < hashBlockSize
  blockPositive : 0 < blockSize
  alignmentPositive : 0 < alignment
  divides : hashBlockSize ∣ blockSize
  fits : alignment = hashBlockSize ∨ blockSize ∣ alignment

variable {lookup : H → Option (List BlockRef)} {blockHashes : List H}
  {hashBlockSize blockSize alignment maxLength : Nat}

theorem Sizes.fine (sizes : Sizes hashBlockSize blockSize alignment)
    (below : alignment < blockSize) : alignment = hashBlockSize := by
  rcases sizes.fits with same | multiple
  · exact same
  · exact absurd (le_of_dvd sizes.alignmentPositive multiple) (by omega)

theorem lookupBlockHashes_spec (blockHashes : List H)
    (sizes : Sizes hashBlockSize blockSize alignment) (supports : Bool)
    (coarse : ¬(supports = true ∧ alignment < blockSize ∧ blockSize % alignment = 0)) :
    ∃ view, lookupBlockHashes blockHashes hashBlockSize blockSize alignment supports = .ok view ∧
      Viewed blockHashes hashBlockSize blockSize view := by
  unfold lookupBlockHashes
  rw [if_neg fun fine => coarse fine.2]
  exact resolveBlockHashes_spec blockHashes sizes.hashPositive sizes.blockPositive sizes.divides

theorem exists_pyGet {view : List H} {i : Nat} (within : i < view.length) :
    ∃ blockHash, view[i]? = some blockHash ∧ pyGet view i = .ok blockHash :=
  ⟨_, getElem?_eq_getElem within, pyGet_eq_ok.mpr (getElem?_eq_getElem within)⟩

namespace FullAttentionManager

theorem cachedRun_length (hashes : List H) : (cachedRun lookup hashes).length ≤ hashes.length := by
  induction hashes with
  | nil => simp [cachedRun]
  | cons first rest ih =>
    unfold cachedRun
    split
    · simp
    · simpa using ih

variable {row : List BlockRef} {rows : List (List BlockRef)}

theorem cachedRun_getElem? {hashes : List H} {i : Nat}
    (found : (cachedRun lookup hashes)[i]? = some row) :
    ∃ blockHash, hashes[i]? = some blockHash ∧ lookup blockHash = some row := by
  induction hashes generalizing i with
  | nil => simp [cachedRun] at found
  | cons first rest ih =>
    unfold cachedRun at found
    split at found
    · simp at found
    · rename_i firstRow hit
      cases i with
      | zero =>
        exact ⟨first, rfl, found ▸ hit⟩
      | succ i => exact ih (by simpa using found)

theorem cachedTail_spec {first count fineIdx : Nat}
    (found : cachedTail lookup blockHashes first count = some (fineIdx, row)) :
    first ≤ fineIdx ∧ fineIdx < first + count ∧
      ∃ blockHash, blockHashes[fineIdx]? = some blockHash ∧ lookup blockHash = some row := by
  induction count with
  | zero => simp [cachedTail] at found
  | succ count ih =>
    unfold cachedTail at found
    split at found
    · rename_i hitRow hit
      obtain ⟨rfl, rfl⟩ := found
      exact ⟨by omega, by omega, Option.bind_eq_some_iff.mp hit⟩
    · obtain ⟨lower, _, held⟩ := ih found
      exact ⟨lower, by omega, held⟩

structure RawHit (lookup : H → Option (List BlockRef)) (blockHashes : List H)
    (hashBlockSize blockSize alignment maxLength : Nat) (rows : List (List BlockRef))
    (hitLength : Nat) : Prop where
  le : hitLength ≤ maxLength
  unit : min alignment blockSize ∣ hitLength
  hit : Hit .fullAttention blockSize hitLength (RowCached lookup blockHashes hashBlockSize) rows

theorem rawHit_run (sizes : Sizes hashBlockSize blockSize alignment) {view : List H}
    (viewed : Viewed blockHashes hashBlockSize blockSize view) :
    RawHit lookup blockHashes hashBlockSize blockSize alignment maxLength
      (cachedRun lookup (view.take (maxLength / blockSize)))
      ((cachedRun lookup (view.take (maxLength / blockSize))).length * blockSize) := by
  have blockPositive := sizes.blockPositive
  have few : (cachedRun lookup (view.take (maxLength / blockSize))).length ≤
      maxLength / blockSize := by
    refine Nat.le_trans (cachedRun_length _) ?_
    simp
  refine ⟨(Nat.le_div_iff_mul_le blockPositive).mp few, ?_, ?_, ?_⟩
  · apply Nat.dvd_mul_left_of_dvd
    rcases sizes.fits with rfl | multiple
    · rw [Nat.min_eq_left (Nat.le_of_dvd blockPositive sizes.divides)]
      exact sizes.divides
    · rw [Nat.min_eq_right (Nat.le_of_dvd sizes.alignmentPositive multiple)]
  · rw [cdiv_mul _ blockPositive]
  · intro i row found
    obtain ⟨blockHash, stored, hit⟩ := cachedRun_getElem? found
    refine ⟨(i + 1) * blockSize, ⟨by positivity, ?_, blockHash, ?_, hit⟩, le_rfl, by omega⟩
    · exact Nat.dvd_mul_left_of_dvd sizes.divides (i + 1)
    · rw [getElem?_take] at stored
      split at stored
      · rw [← viewed]
        exact stored
      · cases stored

theorem rawHit_extendTail (sizes : Sizes hashBlockSize blockSize alignment)
    (below : alignment < blockSize)
    (run : RawHit lookup blockHashes hashBlockSize blockSize alignment maxLength rows
      (rows.length * blockSize)) :
    RawHit lookup blockHashes hashBlockSize blockSize alignment maxLength
      (extendTail lookup blockHashes maxLength blockSize alignment rows).1
      (extendTail lookup blockHashes maxLength blockSize alignment rows).2 := by
  unfold extendTail
  dsimp only
  split
  · rename_i fineIdx row found
    obtain ⟨first, last, blockHash, stored, hit⟩ := cachedTail_spec found
    obtain rfl := sizes.fine below
    obtain ⟨scale, rfl⟩ := sizes.divides
    have positive := sizes.hashPositive
    rw [Nat.mul_div_cancel_left _ positive] at first last
    have within : fineIdx + 1 ≤ maxLength / alignment := by omega
    have above : rows.length * (alignment * scale) < (fineIdx + 1) * alignment := by
      nlinarith
    have under : (fineIdx + 1) * alignment ≤ (rows.length + 1) * (alignment * scale) := by
      have : fineIdx + 1 ≤ (rows.length + 1) * scale := by
        rw [add_mul, one_mul]
        omega
      nlinarith
    refine ⟨(le_div_iff_mul_le positive).mp within, ?_, ?_, ?_⟩
    · rw [min_eq_left below.le]
      exact dvd_mul_left _ _
    · rw [cdiv_eq_succ sizes.blockPositive above under]
      simp
    · intro i item entry
      rw [getElem?_append] at entry
      split at entry
      · rename_i early
        obtain ⟨n, cached, upper, _⟩ := run.hit.valid i item entry
        refine ⟨n, cached, upper, ?_⟩
        have : (i + 1) * (alignment * scale) ≤ rows.length * (alignment * scale) :=
          mul_le_mul_right _ early
        omega
      · rename_i late
        have last : i = rows.length ∧ item = row := by
          rcases lt_or_ge rows.length i with _ | _
          · rw [getElem?_eq_none (by simp; omega)] at entry
            cases entry
          · have same : i = rows.length := by omega
            subst same
            simpa [eq_comm] using entry
        obtain ⟨rfl, rfl⟩ := last
        refine ⟨(fineIdx + 1) * alignment, ⟨by positivity, dvd_mul_left _ _, blockHash, ?_, hit⟩,
          under, by omega⟩
        rw [Nat.mul_div_cancel _ positive]
        exact stored
  · exact run

theorem trimHit_spec {hitLength : Nat}
    (raw : RawHit lookup blockHashes hashBlockSize blockSize alignment maxLength rows hitLength)
    (dropEagleBlock : Bool) :
    (trimHit rows hitLength blockSize alignment dropEagleBlock).2 ≤
        maxLength - (if dropEagleBlock then min alignment blockSize else 0) ∧
      alignment ∣ (trimHit rows hitLength blockSize alignment dropEagleBlock).2 ∧
      Hit .fullAttention blockSize (trimHit rows hitLength blockSize alignment dropEagleBlock).2
        (RowCached lookup blockHashes hashBlockSize)
        (trimHit rows hitLength blockSize alignment dropEagleBlock).1 := by
  have le := raw.le
  have shorter : (trimHit rows hitLength blockSize alignment dropEagleBlock).2 ≤ hitLength := by
    unfold trimHit
    dsimp only
    split <;> omega
  refine ⟨?_, ?_, raw.hit.truncate (.inl rfl) shorter⟩
  · cases dropEagleBlock with
    | false =>
      simp only [Bool.false_eq_true]
      exact le_trans shorter le
    | true =>
      simp only [trimHit, true_and, if_true]
      split <;> omega
  · exact dvd_sub_mod _

theorem findLongestCacheHit_raw (lookup : H → Option (List BlockRef)) (blockHashes : List H)
    (maxLength : Nat) (sizes : Sizes hashBlockSize blockSize alignment) (dropEagleBlock : Bool) :
    ∃ rows hitLength, RawHit lookup blockHashes hashBlockSize blockSize alignment maxLength rows
        hitLength ∧
      findLongestCacheHit lookup blockHashes maxLength hashBlockSize blockSize dropEagleBlock
        alignment = .ok (trimHit rows hitLength blockSize alignment dropEagleBlock) := by
  by_cases fine : alignment < blockSize ∧ blockSize % alignment = 0
  · obtain ⟨view, resolved, viewed⟩ := resolveBlockHashes_spec blockHashes sizes.hashPositive
      sizes.blockPositive sizes.divides
    obtain rfl := sizes.fine fine.1
    have coarse : blockSize ≠ alignment := fine.1.ne'
    refine ⟨_, _, rawHit_extendTail sizes fine.1 (rawHit_run sizes viewed), ?_⟩
    simp only [findLongestCacheHit, lookupBlockHashes, coarse, fine, ne_eq, not_false_eq_true,
      and_self, if_true, ok_bind, resolved]
    rfl
  · obtain ⟨view, raw, viewed⟩ := lookupBlockHashes_spec blockHashes sizes true
      fun both => fine both.2
    refine ⟨_, _, rawHit_run sizes viewed, ?_⟩
    simp only [findLongestCacheHit, raw, fine]
    rfl

theorem findLongestCacheHit_spec (lookup : H → Option (List BlockRef)) (blockHashes : List H)
    (maxLength : Nat) (sizes : Sizes hashBlockSize blockSize alignment) (dropEagleBlock : Bool) :
    ∃ rows hitLength, findLongestCacheHit lookup blockHashes maxLength hashBlockSize blockSize
        dropEagleBlock alignment = .ok (rows, hitLength) ∧
      hitLength ≤ maxLength - (if dropEagleBlock then min alignment blockSize else 0) ∧
      alignment ∣ hitLength ∧
      Hit .fullAttention blockSize hitLength (RowCached lookup blockHashes hashBlockSize) rows := by
  obtain ⟨rows, hitLength, raw, found⟩ :=
    findLongestCacheHit_raw lookup blockHashes maxLength sizes dropEagleBlock
  exact ⟨_, _, found, trimHit_spec raw dropEagleBlock⟩

end FullAttentionManager

namespace MambaManager

theorem findPartial_spec (lookup : H → Option (List BlockRef)) (blockHashes : List H)
    (groupIds : List Nat) {scale unit : Nat} (count : Nat) (scalePositive : 0 < scale) (unitPositive : 0 < unit) :
    ∀ rows hitLength, findPartial lookup blockHashes groupIds scale unit count = (rows, hitLength) →
      hitLength ≤ count * unit ∧ unit ∣ hitLength ∧ rows.length = cdiv hitLength (unit * scale) ∧
      (0 < hitLength → ∃ row, rows.getLast? = some row ∧
        RowCached lookup blockHashes unit hitLength row) := by
  induction count with
  | zero =>
    intro rows hitLength found
    obtain ⟨rfl, rfl⟩ := found
    refine ⟨by omega, dvd_zero _, ?_, by omega⟩
    simp [cdiv]
  | succ fineIdx ih =>
    intro rows hitLength found
    unfold findPartial at found
    split at found
    · rename_i row hit
      obtain ⟨blockHash, stored, cached⟩ := Option.bind_eq_some_iff.mp hit
      obtain ⟨rfl, rfl⟩ := found
      refine ⟨le_rfl, dvd_mul_left _ _, ?_, fun _ => ⟨row, by simp, ?_⟩⟩
      · have quotient := div_add_mod fineIdx scale
        have remainder := mod_lt fineIdx scalePositive
        have low : scale * (fineIdx / scale) * unit < (fineIdx + 1) * unit :=
          mul_lt_mul_of_pos_right (by omega) unitPositive
        have high : (fineIdx + 1) * unit ≤ (scale * (fineIdx / scale) + scale) * unit :=
          mul_le_mul_right unit (by omega)
        rw [@cdiv_eq_succ _ _ (fineIdx / scale) (by positivity)]
        · simp
        · calc fineIdx / scale * (unit * scale) = scale * (fineIdx / scale) * unit := by ring
            _ < (fineIdx + 1) * unit := low
        · calc (fineIdx + 1) * unit ≤ (scale * (fineIdx / scale) + scale) * unit := high
            _ = (fineIdx / scale + 1) * (unit * scale) := by ring
      · refine ⟨by positivity, dvd_mul_left _ _, blockHash, ?_, cached⟩
        rw [Nat.mul_div_cancel _ unitPositive]
        exact stored
    · obtain ⟨_, rest⟩ := ih rows hitLength found
      refine ⟨?_, rest⟩
      nlinarith

theorem findFull_spec (lookup : H → Option (List BlockRef)) {view : List H}
    (groupIds : List Nat) {count : Nat} (sizes : Sizes hashBlockSize blockSize alignment)
    (viewed : Viewed blockHashes hashBlockSize blockSize view)
    (enough : count ≤ view.length) :
    ∃ rows hitLength, findFull lookup view groupIds blockSize alignment count =
        .ok (rows, hitLength) ∧
      hitLength ≤ count * blockSize ∧ (alignment = blockSize ∨ alignment ∣ hitLength) ∧
      blockSize ∣ hitLength ∧ rows.length = cdiv hitLength blockSize ∧
      (0 < hitLength → ∃ row, rows.getLast? = some row ∧
        RowCached lookup blockHashes hashBlockSize hitLength row) := by
  induction count with
  | zero => exact ⟨[], 0, rfl, by omega, by simp, by simp, by simp [cdiv], by omega⟩
  | succ i ih =>
    obtain ⟨rows, hitLength, found, _, rest⟩ := ih (by omega)
    have shorter : hitLength ≤ (i + 1) * blockSize := by nlinarith
    obtain ⟨blockHash, stored, got⟩ := exists_pyGet (by omega : i < view.length)
    cases hit : lookup blockHash with
    | none =>
      refine ⟨rows, hitLength, ?_, shorter, rest⟩
      simpa only [findFull, got, ok_bind, hit] using found
    | some row =>
      by_cases skip : blockSize ≠ alignment ∧ (i + 1) * blockSize % alignment ≠ 0
      · refine ⟨rows, hitLength, ?_, shorter, rest⟩
        simpa only [findFull, got, ok_bind, hit, skip, ne_eq, not_false_eq_true, and_self,
          if_true] using found
      · refine ⟨List.replicate i (nullRow groupIds) ++ [row], (i + 1) * blockSize, ?_, le_rfl, ?_,
          dvd_mul_left _ _, ?_, ?_⟩
        · simp only [findFull, got, ok_bind, hit, skip]
          rfl
        · by_cases same : alignment = blockSize
          · exact .inl same
          · have aligned : (i + 1) * blockSize % alignment = 0 := by
              by_contra nonzero
              exact skip ⟨Ne.symm same, nonzero⟩
            exact .inr (dvd_of_mod_eq_zero aligned)
        · rw [cdiv_mul _ sizes.blockPositive]
          simp
        · intro positive
          refine ⟨row, by simp, positive, ?_, blockHash, ?_, hit⟩
          · exact Nat.dvd_mul_left_of_dvd sizes.divides (i + 1)
          · rw [← viewed]
            exact stored

theorem findLongestCacheHit_spec (lookup : H → Option (List BlockRef)) (blockHashes : List H)
    (sizes : Sizes hashBlockSize blockSize alignment) (groupIds : List Nat)
    (hashed : maxLength / hashBlockSize ≤ blockHashes.length)
    (mode : MambaCacheMode) (numSpeculativeBlocks : Nat) :
    ∃ rows hitLength, findLongestCacheHit lookup blockHashes maxLength hashBlockSize blockSize
        groupIds alignment = .ok (rows, hitLength) ∧
      hitLength ≤ maxLength ∧ alignment ∣ hitLength ∧
      Hit (.mamba mode numSpeculativeBlocks) blockSize hitLength
        (RowCached lookup blockHashes hashBlockSize) rows := by
  have hashPositive := sizes.hashPositive
  by_cases fine : alignment < blockSize ∧ blockSize % alignment = 0
  · obtain rfl := sizes.fine fine.1
    have coarse : blockSize ≠ alignment := fine.1.ne'
    have scaled : alignment * (blockSize / alignment) = blockSize :=
      Nat.mul_div_cancel' sizes.divides
    have scalePositive : 0 < blockSize / alignment := div_pos fine.1.le hashPositive
    obtain ⟨le, aligned, count, last⟩ := findPartial_spec lookup blockHashes groupIds
      (min (maxLength / alignment) blockHashes.length) scalePositive hashPositive _ _ rfl
    refine ⟨_, _, ?_, ?_, aligned, ?_, last⟩
    · simp only [findLongestCacheHit, lookupBlockHashes, coarse, fine, ne_eq]
      rfl
    · have := div_mul_le_self maxLength alignment
      have := mul_le_mul_right alignment
        (min_le_left (maxLength / alignment) blockHashes.length)
      omega
    · rw [count, scaled]
  · obtain ⟨view, raw, viewed⟩ := lookupBlockHashes_spec blockHashes sizes true
      fun both => fine both.2
    have enough := view_length hashPositive sizes.blockPositive sizes.divides viewed hashed
    obtain ⟨rows, hitLength, found, le, aligned, blocks, count, last⟩ :=
      findFull_spec lookup groupIds sizes viewed enough
    refine ⟨rows, hitLength, ?_, ?_, ?_, count, last⟩
    · simpa only [findLongestCacheHit, raw, fine, if_false, ok_bind] using found
    · exact le_trans le (div_mul_le_self maxLength blockSize)
    · rcases aligned with rfl | aligned
      · exact blocks
      · exact aligned

end MambaManager

namespace ChunkedLocalAttentionManager

theorem cachedFrom_spec (lookup : H → Option (List BlockRef)) {view : List H} (i count : Nat)
    (enough : i + count ≤ view.length) :
    ∃ rows, cachedFrom lookup view i count = .ok rows ∧ rows.length ≤ count := by
  induction count generalizing i with
  | zero => exact ⟨[], rfl, by simp⟩
  | succ count ih =>
    obtain ⟨rows, found, few⟩ := ih (i + 1) (by omega)
    obtain ⟨blockHash, stored, got⟩ := exists_pyGet (by omega : i < view.length)
    cases hit : lookup blockHash with
    | none => exact ⟨[], by simp [cachedFrom, got, hit], by simp⟩
    | some row =>
      refine ⟨row :: rows, ?_, by simpa using few⟩
      simp only [cachedFrom, got, ok_bind, hit, found]
      rfl

theorem findLongestCacheHit_spec (lookup : H → Option (List BlockRef)) (blockHashes : List H)
    (sizes : Sizes hashBlockSize blockSize blockSize) (groupIds : List Nat)
    (hashed : maxLength / hashBlockSize ≤ blockHashes.length) (attentionChunkSize : Nat) :
    ∃ rows hitLength, findLongestCacheHit lookup blockHashes maxLength hashBlockSize blockSize
        attentionChunkSize groupIds false blockSize = .ok (rows, hitLength) ∧
      hitLength ≤ maxLength ∧ blockSize ∣ hitLength ∧
      maxLength / attentionChunkSize * attentionChunkSize / blockSize * blockSize ≤ hitLength ∧
      Hit (.chunkedLocalAttention attentionChunkSize) blockSize hitLength
        (RowCached lookup blockHashes hashBlockSize) rows := by
  have blockPositive := sizes.blockPositive
  obtain ⟨view, raw, viewed⟩ := lookupBlockHashes_spec blockHashes sizes false nofun
  have enough := view_length sizes.hashPositive blockPositive sizes.divides viewed hashed
  have start : maxLength / attentionChunkSize * attentionChunkSize / blockSize ≤
      maxLength / blockSize :=
    Nat.div_le_div_right (Nat.div_mul_le_self maxLength attentionChunkSize)
  obtain ⟨cached, found, _⟩ := cachedFrom_spec lookup
    (maxLength / attentionChunkSize * attentionChunkSize / blockSize)
    (maxLength / blockSize - maxLength / attentionChunkSize * attentionChunkSize / blockSize)
    (le_trans (by omega) enough)
  let rows := List.replicate (maxLength / attentionChunkSize * attentionChunkSize / blockSize)
    (nullRow groupIds) ++ cached
  refine ⟨rows, rows.length * blockSize, ?_, ?_, ?_, ?_, ?_, trivial⟩
  · simp only [findLongestCacheHit, ok_bind, raw, found]
    rfl
  · rw [length_append, length_replicate]
    exact (le_div_iff_mul_le blockPositive).mp (by omega)
  · exact dvd_mul_left _ _
  · rw [length_append, length_replicate]
    exact mul_le_mul_right _ (by omega)
  · rw [cdiv_mul _ blockPositive]

end ChunkedLocalAttentionManager

end VllmEngine
