import VllmEngine.KVCache.HitSpec

set_option autoImplicit false

namespace VllmEngine.SlidingWindowManager

open List Nat

variable {H : Type} {lookup : H → Option (List BlockRef)} {blockHashes view : List H}
  {hashBlockSize blockSize alignment : Nat} {dropEagleBlock : Bool}

structure Scanned (lookup : H → Option (List BlockRef)) (blockHashes : List H)
    (hashBlockSize blockSize alignment : Nat) (dropEagleBlock : Bool) (i : Nat)
    (rows : List (List BlockRef)) (run : Nat) : Prop where
  fits : i + run ≤ rows.length
  cached : ∀ p row, i ≤ p → p < i + run → rows[p]? = some row →
    RowCached lookup blockHashes hashBlockSize ((p + 1) * blockSize) row
  aligned : 0 < run → alignment ∣ (if dropEagleBlock then i + run - 1 else i + run) * blockSize

variable {rows : List (List BlockRef)} {run : Nat} {i : Nat} {row : List BlockRef} {p : Nat}

theorem scanned_restart (fits : i ≤ rows.length) :
    Scanned lookup blockHashes hashBlockSize blockSize alignment dropEagleBlock i rows 0 :=
  ⟨fits, fun p row lower upper => by omega, by omega⟩

theorem Scanned.extend
    (scanned : Scanned lookup blockHashes hashBlockSize blockSize alignment dropEagleBlock (i + 1)
      rows run) (cached : RowCached lookup blockHashes hashBlockSize ((i + 1) * blockSize) row)
    (start : run = 0 → alignment ∣ (if dropEagleBlock then i else i + 1) * blockSize) :
    Scanned lookup blockHashes hashBlockSize blockSize alignment dropEagleBlock i
      (rows.set i row) (run + 1) := by
  have fits := scanned.fits
  refine ⟨by simp; omega, ?_, fun _ => ?_⟩
  · intro p found lower upper stored
    rw [getElem?_set] at stored
    split at stored
    · rename_i same
      subst same
      split at stored
      · cases stored
        exact cached
      · cases stored
    · exact scanned.cached p found (by omega) (by omega) stored
  · rcases Nat.eq_zero_or_pos run with rfl | positive
    · have := start rfl
      cases dropEagleBlock <;> simpa using this
    · have := scanned.aligned positive
      rw [show i + 1 + run = i + (run + 1) by omega] at this
      exact this

def ScanEnd (lookup : H → Option (List BlockRef)) (blockHashes : List H)
    (hashBlockSize blockSize alignment need : Nat) (dropEagleBlock : Bool) (numBlocks : Nat)
    (rows : List (List BlockRef)) (run : Nat) (matchFound : Bool) : Prop :=
  if matchFound then
    ∃ i, Scanned lookup blockHashes hashBlockSize blockSize alignment dropEagleBlock i rows run ∧
      rows.length = i + run ∧ need ≤ run ∧ 0 < run ∧ rows.length ≤ numBlocks
  else
    Scanned lookup blockHashes hashBlockSize blockSize alignment dropEagleBlock 0 rows run ∧
      rows.length = numBlocks

theorem scanWindow_spec (need : Nat) (sizes : Sizes hashBlockSize blockSize alignment)
    (viewed : Viewed blockHashes hashBlockSize blockSize view)
    (enough : i ≤ view.length)
    (scanned : Scanned lookup blockHashes hashBlockSize blockSize alignment dropEagleBlock i rows
      run) :
    ∃ rows' run' matchFound, scanWindow lookup view blockSize alignment need dropEagleBlock i rows
        run = .ok (rows', run', matchFound) ∧
      ScanEnd lookup blockHashes hashBlockSize blockSize alignment need dropEagleBlock rows.length
        rows' run' matchFound := by
  induction i generalizing rows run with
  | zero => exact ⟨rows, run, false, rfl, scanned, rfl⟩
  | succ i ih =>
    have fits := scanned.fits
    obtain ⟨blockHash, stored, got⟩ := exists_pyGet (by omega : i < view.length)
    cases hit : lookup blockHash with
    | none =>
      simp only [scanWindow, got, Outcome.ok_bind, hit]
      exact ih (by omega) (scanned_restart (by omega))
    | some row =>
      have cached : RowCached lookup blockHashes hashBlockSize ((i + 1) * blockSize) row := by
        have positive := sizes.blockPositive
        refine ⟨by positivity, Nat.dvd_mul_left_of_dvd sizes.divides _, blockHash, ?_, hit⟩
        rw [← viewed]
        exact stored
      by_cases skip : run = 0 ∧ blockSize ≠ alignment ∧
          (if dropEagleBlock then i else i + 1) * blockSize % alignment ≠ 0
      · simp only [scanWindow, got, Outcome.ok_bind, hit]
        rw [if_pos skip, skip.1]
        exact ih (by omega) (scanned_restart (by omega))
      · have extended := scanned.extend cached (by
          intro none
          by_cases same : blockSize = alignment
          · rw [same]
            exact dvd_mul_left _ _
          · by_contra unaligned
            exact skip ⟨none, same, fun zero => unaligned (dvd_of_mod_eq_zero zero)⟩)
        simp only [scanWindow, got, Outcome.ok_bind, hit]
        rw [if_neg skip]
        split
        · rename_i long
          refine ⟨_, _, true, rfl, ?_⟩
          have extendedFits := extended.fits
          refine ⟨i, ⟨?_, ?_, extended.aligned⟩, ?_, long, by omega, ?_⟩
          · simp at extendedFits ⊢
            omega
          · intro p item lower upper found
            rw [getElem?_take_of_lt upper] at found
            exact extended.cached p item lower upper found
          · simp at extendedFits ⊢
            omega
          · simp
        · have rest := ih (by omega) extended
          rw [length_set] at rest
          exact rest

theorem alignedCount_le (count : Nat) : alignedCount blockSize alignment count ≤ count := by
  induction count with
  | zero => simp [alignedCount]
  | succ count ih =>
    unfold alignedCount
    split
    · omega
    · exact le_rfl

theorem alignedCount_dvd (count : Nat) :
    alignment ∣ alignedCount blockSize alignment count * blockSize := by
  induction count with
  | zero => simp [alignedCount]
  | succ count ih =>
    unfold alignedCount
    split
    · exact ih
    · rename_i keep
      by_cases same : blockSize = alignment
      · rw [same]
        exact dvd_mul_left _ _
      · by_contra unaligned
        exact keep ⟨same, fun zero => unaligned (dvd_of_mod_eq_zero zero)⟩

theorem alignedCount_of_dvd {count : Nat} (aligned : alignment ∣ count * blockSize) :
    alignedCount blockSize alignment count = count := by
  cases count with
  | zero => rfl
  | succ count =>
    unfold alignedCount
    rw [if_neg]
    rintro ⟨_, nonzero⟩
    exact nonzero (mod_eq_zero_of_dvd aligned)

theorem alignRows_length (rows : List (List BlockRef)) :
    (alignRows blockSize alignment rows).length = alignedCount blockSize alignment rows.length := by
  rw [alignRows, length_take]
  exact min_eq_left (alignedCount_le rows.length)

theorem alignRows_getElem?
    (found : (alignRows blockSize alignment rows)[p]? = some row) : rows[p]? = some row := by
  rw [alignRows, getElem?_take] at found
  split at found
  · exact found
  · cases found

theorem dropLast_getElem? (found : rows.dropLast[p]? = some row) :
    rows[p]? = some row := by
  rw [getElem?_dropLast] at found
  split at found
  · exact found
  · cases found

theorem window_hit {window : Nat} (first : Nat) (positive : 0 < blockSize)
    (cached : ∀ p row, first ≤ p → rows[p]? = some row →
      RowCached lookup blockHashes hashBlockSize ((p + 1) * blockSize) row)
    (covered : first = 0 ∨ first + cdiv (window - 1) blockSize ≤ rows.length) :
    Hit (.slidingWindow window) blockSize (rows.length * blockSize)
      (RowCached lookup blockHashes hashBlockSize) rows := by
  refine ⟨(cdiv_mul _ positive).symm, ?_⟩
  intro p row found inside
  apply cached p row _ found
  rcases covered with rfl | enough
  · exact zero_le p
  · -- a block before the run lies before the window
    by_contra before
    have early : (p + 1) * blockSize ≤ first * blockSize := mul_le_mul_right _ (by omega)
    have wide := le_cdiv_mul (window - 1) positive
    have total : first * blockSize + cdiv (window - 1) blockSize * blockSize ≤
        rows.length * blockSize := by
      rw [← add_mul]
      exact mul_le_mul_right _ enough
    omega

theorem finishScan_spec {numBlocks window : Nat} {matchFound : Bool} (positive : 0 < blockSize)
    (ended : ScanEnd lookup blockHashes hashBlockSize blockSize alignment
      (contiguousBlocksForHit window blockSize dropEagleBlock) dropEagleBlock numBlocks rows run
      matchFound) :
    ∃ hits, finishScan blockSize alignment dropEagleBlock rows run matchFound = hits ∧
      hits.length ≤ numBlocks - (if dropEagleBlock then 1 else 0) ∧
      alignment ∣ hits.length * blockSize ∧
      Hit (.slidingWindow window) blockSize (hits.length * blockSize)
        (RowCached lookup blockHashes hashBlockSize) hits := by
  cases matchFound with
  | true =>
    obtain ⟨i, scanned, length, long, nonempty, few⟩ := ended
    have aligned := scanned.aligned nonempty
    have cached (p : Nat) (row : List BlockRef) (lower : i ≤ p) (found : rows[p]? = some row) :
        RowCached lookup blockHashes hashBlockSize ((p + 1) * blockSize) row := by
      obtain ⟨inside, _⟩ := List.getElem?_eq_some_iff.mp found
      exact scanned.cached p row lower (by omega) found
    unfold contiguousBlocksForHit at long
    cases dropEagleBlock with
    | false =>
      refine ⟨rows, by simp [finishScan], by simpa using few, ?_,
        window_hit i positive cached (.inr ?_)⟩
      · simpa [length] using aligned
      · simp at long
        omega
    | true =>
      have some : rows ≠ [] := by
        rintro rfl
        simp at length
        omega
      simp only [if_true] at aligned long
      have kept : alignRows blockSize alignment rows.dropLast = rows.dropLast := by
        rw [alignRows, length_dropLast, length, alignedCount_of_dvd aligned, ← length,
          ← length_dropLast, take_length]
      refine ⟨rows.dropLast, by simp [finishScan, some, kept], ?_, ?_, window_hit i positive
        (fun p row lower found => cached p row lower (dropLast_getElem? found)) (.inr ?_)⟩
      · rw [length_dropLast, if_pos rfl]
        omega
      · simpa [length] using aligned
      · rw [length_dropLast]
        omega
  | false =>
    obtain ⟨scanned, length⟩ := ended
    set start := alignRows blockSize alignment (rows.take run) with starts
    have short : start.length ≤ numBlocks := by
      rw [starts, alignRows_length]
      refine le_trans (alignedCount_le _) ?_
      simp
      omega
    have startCached (p : Nat) (row : List BlockRef) (found : start[p]? = some row) :
        RowCached lookup blockHashes hashBlockSize ((p + 1) * blockSize) row := by
      have inTake := alignRows_getElem? found
      rw [getElem?_take] at inTake
      split at inTake
      · exact scanned.cached p row (zero_le p) (by omega) inTake
      · cases inTake
    by_cases pops : dropEagleBlock = true ∧ start ≠ []
    · refine ⟨alignRows blockSize alignment start.dropLast, ?_, ?_, ?_, window_hit 0 positive ?_
        (.inl rfl)⟩
      · simp [finishScan, ← starts, pops]
      · rw [alignRows_length, if_pos pops.1]
        refine le_trans (alignedCount_le _) ?_
        rw [length_dropLast]
        omega
      · rw [alignRows_length]
        exact alignedCount_dvd _
      · intro p row _ found
        exact startCached p row (dropLast_getElem? (alignRows_getElem? found))
    · refine ⟨start, ?_, ?_, ?_, window_hit 0 positive (fun p row _ => startCached p row)
        (.inl rfl)⟩
      · simp only [finishScan, Bool.false_eq_true, if_false]
        rw [if_neg pops]
      · split
        · rename_i drop
          have empty : start = [] := by
            by_contra nonempty
            exact pops ⟨drop, nonempty⟩
          simp [empty]
        · exact short
      · rw [starts, alignRows_length]
        exact alignedCount_dvd _

theorem findLongestCacheHit_spec (lookup : H → Option (List BlockRef)) (blockHashes : List H)
    {maxLength : Nat} (sizes : Sizes hashBlockSize blockSize alignment)
    (multiple : blockSize ∣ alignment) (groupIds : List Nat)
    (hashed : maxLength / hashBlockSize ≤ blockHashes.length) (window : Nat)
    (dropEagleBlock : Bool) :
    ∃ rows hitLength, findLongestCacheHit lookup blockHashes maxLength hashBlockSize blockSize
        window groupIds dropEagleBlock alignment = .ok (rows, hitLength) ∧
      hitLength ≤ maxLength - (if dropEagleBlock then blockSize else 0) ∧ alignment ∣ hitLength ∧
      Hit (.slidingWindow window) blockSize hitLength
        (RowCached lookup blockHashes hashBlockSize) rows := by
  have positive := sizes.blockPositive
  obtain ⟨view, raw, viewed⟩ := lookupBlockHashes_spec blockHashes sizes false nofun
  have enough := view_length sizes.hashPositive positive sizes.divides viewed hashed
  have initial : Scanned lookup blockHashes hashBlockSize blockSize alignment dropEagleBlock
      (maxLength / blockSize) (List.replicate (maxLength / blockSize) (nullRow groupIds)) 0 :=
    scanned_restart (by simp)
  obtain ⟨rows, run, matchFound, scan, ended⟩ := scanWindow_spec
    (contiguousBlocksForHit window blockSize dropEagleBlock) sizes viewed enough initial
  rw [length_replicate] at ended
  obtain ⟨hits, finished, few, aligned, hit⟩ := finishScan_spec positive ended
  refine ⟨hits, hits.length * blockSize, ?_, ?_, aligned, hit⟩
  · have divides : alignment % blockSize = 0 := Nat.mod_eq_zero_of_dvd multiple
    simp only [findLongestCacheHit, divides, Outcome.ok_bind, raw, scan, finished]
    rfl
  · have blocks := Nat.div_mul_le_self maxLength blockSize
    have scaled := Nat.mul_le_mul_right blockSize few
    cases dropEagleBlock with
    | false =>
      simp only [Bool.false_eq_true, if_false, Nat.sub_zero] at scaled ⊢
      omega
    | true =>
      simp only [if_true, Nat.sub_mul] at scaled ⊢
      omega

end VllmEngine.SlidingWindowManager
