import VllmEngine.Shared.Border
import VllmEngine.Shared.Occurs

set_option autoImplicit false

namespace VllmEngine

open List Border

variable {A : Type}

structure NgramScan where
  lps : Nat → Nat
  longestNgram : Nat
  position : Nat
  prevLps : Nat
  i : Nat

namespace NgramScan

def start : NgramScan where
  lps := fun _ => 0
  longestNgram := 0
  position := 0
  prevLps := 0
  i := 1

def next [DecidableEq A] (tokens : List A) (maxNgram : Nat) (scan : NgramScan) : NgramScan :=
  if tokens[scan.prevLps]? = tokens[scan.i]? then
    let prevLps := scan.prevLps + 1
    let longer := scan.longestNgram ≤ prevLps
    let lps := if scan.i < maxNgram then Function.update scan.lps scan.i prevLps else scan.lps
    { lps
      longestNgram := if longer then prevLps else scan.longestNgram
      position := if longer then scan.i else scan.position
      prevLps := if prevLps = maxNgram then lps (maxNgram - 1) else prevLps
      i := scan.i + 1 }
  else if scan.prevLps ≠ 0 then { scan with prevLps := scan.lps (scan.prevLps - 1) }
  else { scan with i := scan.i + 1 }

def loop [DecidableEq A] (tokens : List A) (maxNgram : Nat) :
    Nat → NgramScan → Option NgramScan
  | 0, scan => if scan.i < tokens.length then none else some scan
  | fuel + 1, scan =>
    if scan.i < tokens.length then loop tokens maxNgram fuel (scan.next tokens maxNgram)
    else some scan

end NgramScan

def NgramScan.rest (tokens : List A) (scan : NgramScan) : Nat :=
  2 * (tokens.length - scan.i) + scan.prevLps

def findLongestMatchedNgramAndProposeTokens [DecidableEq A] (originTokens : List A)
    (minNgram maxNgram : Nat) (maxModelLen k : Int) : Option (List A) :=
  let totalToken := originTokens.length
  if totalToken < minNgram then some [] else
  let k := min k (maxModelLen - totalToken)
  if k ≤ 0 then some [] else do
  let scan ← NgramScan.loop originTokens.reverse maxNgram (2 * totalToken) .start
  if scan.longestNgram < minNgram then return []
  let startPosition := totalToken - 1 - scan.position + scan.longestNgram
  let k := min k.toNat (totalToken - startPosition)
  return (originTokens.drop startPosition).take k

-- Every border that could go on with a longer n-gram was tried, and the best n-gram ends at
-- `position`.
structure NgramScan.Scanned (tokens : List A) (maxNgram : Nat) (scan : NgramScan) : Prop where
  border : Border tokens scan.i scan.prevLps
  small : scan.prevLps < maxNgram
  tried : ∀ l < maxNgram, Border tokens scan.i l → tokens[l]? = tokens[scan.i]? → l ≤ scan.prevLps
  table : ∀ j < scan.i, j < maxNgram → Longest tokens maxNgram (j + 1) (scan.lps j)
  blank : ∀ j, scan.i ≤ j → scan.lps j = 0
  best : ∀ j ≤ scan.i, ∀ l ≤ maxNgram, 0 < l → Border tokens j l →
    l < scan.longestNgram ∨ l = scan.longestNgram ∧ j ≤ scan.position + 1
  found : 0 < scan.longestNgram → scan.longestNgram ≤ maxNgram ∧ scan.position < tokens.length ∧
    Border tokens (scan.position + 1) scan.longestNgram

namespace NgramScan.Scanned

variable {tokens : List A} {maxNgram : Nat} {scan : NgramScan}
  (scanned : scan.Scanned tokens maxNgram)

include scanned

theorem extended (within : scan.i < tokens.length) {l : Nat} (fits : l < maxNgram)
    (border : Border tokens (scan.i + 1) (l + 1)) :
    l ≤ scan.prevLps ∧ tokens[l]? = tokens[scan.i]? := by
  obtain ⟨inner, same⟩ := (Border.succ within).mp border
  exact ⟨scanned.tried l fits inner same, same⟩

theorem grow (within : scan.i < tokens.length)
    (same : tokens[scan.prevLps]? = tokens[scan.i]?) :
    Longest tokens maxNgram (scan.i + 1) (scan.prevLps + 1) := by
  refine ⟨(Border.succ within).mpr ⟨scanned.border, same⟩, fun other fits border => ?_⟩
  cases other with
  | zero => exact Nat.zero_le _
  | succ l => exact Nat.succ_le_succ (scanned.extended within fits border).1

theorem table_succ {l : Nat} (last : Longest tokens maxNgram (scan.i + 1) l) {lps : Nat → Nat}
    (kept : ∀ j ≠ scan.i, lps j = scan.lps j) (stored : scan.i < maxNgram → lps scan.i = l) :
    ∀ j < scan.i + 1, j < maxNgram → Longest tokens maxNgram (j + 1) (lps j) := by
  intro j earlier fits
  by_cases here : j = scan.i
  · subst here
    rw [stored fits]
    exact last
  · rw [kept j here]
    exact scanned.table j (by omega) fits

variable [DecidableEq A]

theorem matched (within : scan.i < tokens.length)
    (same : tokens[scan.prevLps]? = tokens[scan.i]?) :
    (scan.next tokens maxNgram).Scanned tokens maxNgram ∧
      (scan.next tokens maxNgram).rest tokens < scan.rest tokens := by
  have last := scanned.grow within same
  have before := scanned.border.1
  have small := scanned.small
  unfold next
  rw [if_pos same]
  dsimp only
  generalize stored : (if scan.i < maxNgram then
    Function.update scan.lps scan.i (scan.prevLps + 1) else scan.lps) = lps
  have kept (j : Nat) (other : j ≠ scan.i) : lps j = scan.lps j := by
    rw [← stored]
    split
    · exact Function.update_of_ne other _ _
    · rfl
  have table := scanned.table_succ last kept fun fits => by
    rw [← stored, if_pos fits, Function.update_self]
  generalize next : (if scan.prevLps + 1 = maxNgram then lps (maxNgram - 1)
    else scan.prevLps + 1) = prevLps
  -- a match of full length goes on with the longest shorter one
  obtain ⟨border, short, tried, grown⟩ : Border tokens (scan.i + 1) prevLps ∧
      prevLps < maxNgram ∧ (∀ l < maxNgram, Border tokens (scan.i + 1) l → l ≤ prevLps) ∧
      prevLps ≤ scan.prevLps + 1 := by
    rw [← next]
    split
    · next full =>
      have shorter := table (maxNgram - 1) (by omega) (by omega)
      rw [Nat.sub_add_cancel (by omega)] at shorter
      rw [full] at last
      refine ⟨last.border.trans shorter.border, shorter.border.1, fun l fits inner => ?_,
        full ▸ shorter.border.1.le⟩
      exact shorter.longest l fits.le (last.border.inside inner fits)
    · exact ⟨last.border, by omega, fun l fits => last.longest l fits.le, le_rfl⟩
  refine ⟨⟨border, short, fun l fits inner _ => tried l fits inner, table,
    fun j (later : scan.i + 1 ≤ j) => ?_,
    fun j (earlier : j ≤ scan.i + 1) l fits positive inner => ?_, ?_⟩, ?_⟩
  · exact (kept j (by omega)).trans (scanned.blank j (by omega))
  · dsimp only
    have bound : j = scan.i + 1 → l ≤ scan.prevLps + 1 := by
      rintro rfl
      exact last.longest l fits inner
    have older : j ≤ scan.i → _ := fun older => scanned.best j older l fits positive inner
    split <;> omega
  · split
    · exact fun _ => ⟨small, within, last.border⟩
    · exact scanned.found
  · dsimp only [rest]
    omega

theorem mismatched (within : scan.i < tokens.length)
    (different : tokens[scan.prevLps]? ≠ tokens[scan.i]?) :
    (scan.next tokens maxNgram).Scanned tokens maxNgram ∧
      (scan.next tokens maxNgram).rest tokens < scan.rest tokens := by
  have before := scanned.border.1
  have small := scanned.small
  unfold next
  rw [if_neg different]
  split
  · next nonzero =>
    have shorter := scanned.table (scan.prevLps - 1) (by omega) (by omega)
    rw [Nat.sub_add_cancel (Nat.pos_of_ne_zero nonzero)] at shorter
    refine ⟨{ scanned with
      border := scanned.border.trans shorter.border
      small := shorter.border.1.trans small
      tried := fun l fits inner same => ?_ }, Nat.add_lt_add_left shorter.border.1 _⟩
    have other : l ≠ scan.prevLps := by
      rintro rfl
      exact different same
    have bound := scanned.tried l fits inner same
    exact shorter.longest l fits.le (scanned.border.inside inner (by omega))
  · next zero =>
    rw [not_not] at zero
    have none (l : Nat) (fits : l ≤ maxNgram) (border : Border tokens (scan.i + 1) l) :
        l ≤ 0 := by
      cases l with
      | zero => exact le_rfl
      | succ l =>
        obtain ⟨bound, same⟩ := scanned.extended within fits border
        rw [Nat.le_antisymm bound (by omega)] at same
        exact absurd same different
    have last : Longest tokens maxNgram (scan.i + 1) 0 := ⟨Border.zero, none⟩
    refine ⟨⟨zero ▸ last.border, small, fun l fits inner _ => ?_,
      scanned.table_succ last (fun _ _ => rfl) fun _ => scanned.blank _ le_rfl,
      fun j (later : scan.i + 1 ≤ j) => scanned.blank j (by omega),
      fun j (earlier : j ≤ scan.i + 1) l fits positive inner => ?_, scanned.found⟩, ?_⟩
    · exact (none l fits.le inner).trans (Nat.zero_le _)
    · have older : j ≠ scan.i + 1 := by
        rintro rfl
        exact absurd (none l fits inner) (by omega)
      exact scanned.best j (by omega) l fits positive inner
    · dsimp only [rest]
      omega

theorem run {fuel : Nat} (enough : scan.rest tokens ≤ fuel) :
    ∃ last, loop tokens maxNgram fuel scan = some last ∧ last.Scanned tokens maxNgram ∧
      tokens.length ≤ last.i := by
  induction fuel generalizing scan with
  | zero =>
    rw [loop, if_neg (by unfold rest at enough; omega)]
    exact ⟨scan, rfl, scanned, by unfold rest at enough; omega⟩
  | succ fuel ih =>
    rw [loop]
    split
    · next within =>
      obtain ⟨after, less⟩ : (scan.next tokens maxNgram).Scanned tokens maxNgram ∧
          (scan.next tokens maxNgram).rest tokens < scan.rest tokens := by
        by_cases same : tokens[scan.prevLps]? = tokens[scan.i]?
        · exact scanned.matched within same
        · exact scanned.mismatched within same
      exact ih after (by omega)
    · next ended => exact ⟨scan, rfl, scanned, Nat.le_of_not_lt ended⟩

end NgramScan.Scanned

def OccursEarlier (tokens : List A) (n start : Nat) : Prop :=
  start < tokens.length - n ∧ OccursAt (tokens.drop (tokens.length - n)) tokens start

instance [DecidableEq A] (tokens : List A) (n start : Nat) :
    Decidable (OccursEarlier tokens n start) :=
  inferInstanceAs (Decidable (_ ∧ _))

theorem occursEarlier_iff {tokens : List A} {n start : Nat} (within : start ≤ tokens.length) :
    OccursEarlier tokens n start ↔ Border tokens.reverse (tokens.length - start) n := by
  unfold OccursEarlier OccursAt Border
  rw [take_reverse, take_reverse, reverse_suffix, Nat.sub_sub_self within]
  constructor
  · rintro ⟨before, _, occurs⟩
    exact ⟨by omega, occurs⟩
  · rintro ⟨before, occurs⟩
    exact ⟨by omega, within, occurs⟩

theorem scanned_start (tokens : List A) {maxNgram : Nat} (positive : 0 < maxNgram) :
    NgramScan.start.Scanned tokens maxNgram where
  border := Border.zero
  small := positive
  tried := fun _ _ inner _ => Nat.le_of_lt_succ inner.1
  table := by
    intro j first _
    obtain rfl : j = 0 := Nat.lt_one_iff.mp first
    exact ⟨Border.zero, fun _ _ inner => Nat.le_of_lt_succ inner.1⟩
  blank := fun _ _ => rfl
  best := fun j (first : j ≤ 1) l _ positive inner => by
    have := inner.1
    omega
  found := nofun

theorem ngram_earliest_longest [DecidableEq A] (originTokens : List A) {minNgram maxNgram : Nat}
    (positive : 1 ≤ minNgram) (ordered : minNgram ≤ maxNgram) (maxModelLen k : Int) :
    (∀ n start, minNgram ≤ n → n ≤ maxNgram → OccursEarlier originTokens n start →
      (∀ longer start', n < longer → longer ≤ maxNgram →
        ¬OccursEarlier originTokens longer start') →
      (∀ earlier < start, ¬OccursEarlier originTokens n earlier) →
      findLongestMatchedNgramAndProposeTokens originTokens minNgram maxNgram maxModelLen k =
        some ((originTokens.drop (start + n)).take
          (min k (maxModelLen - originTokens.length)).toNat)) ∧
    ((∀ n start, minNgram ≤ n → n ≤ maxNgram → ¬OccursEarlier originTokens n start) →
      findLongestMatchedNgramAndProposeTokens originTokens minNgram maxNgram maxModelLen k =
        some []) := by
  have enough : NgramScan.start.rest originTokens.reverse ≤ 2 * originTokens.length := by
    rw [NgramScan.rest, length_reverse]
    exact Nat.mul_le_mul_left 2 (Nat.sub_le _ _)
  obtain ⟨scan, ran, scanned, ended⟩ :=
    (scanned_start originTokens.reverse (positive.trans ordered)).run enough
  rw [length_reverse] at ended
  have found : 0 < scan.longestNgram → scan.longestNgram ≤ maxNgram ∧
      scan.position < originTokens.length ∧ OccursEarlier originTokens scan.longestNgram
        (originTokens.length - 1 - scan.position) := by
    intro some
    obtain ⟨fits, within, border⟩ := scanned.found some
    rw [length_reverse] at within
    refine ⟨fits, within, (occursEarlier_iff (by omega)).mpr ?_⟩
    rwa [Nat.sub_sub, Nat.sub_sub_self (by omega), Nat.add_comm]
  unfold findLongestMatchedNgramAndProposeTokens
  simp only [ran, Option.bind_eq_bind, Option.bind_some]
  constructor
  · intro n start least fits occurs longest earliest
    have before := occurs.1
    have border := (occursEarlier_iff (by omega)).mp occurs
    have best := scanned.best _ (by omega) n fits (by omega) border
    obtain ⟨bound, within, other⟩ := found (by omega)
    have same : n = scan.longestNgram := by
      by_contra different
      exact longest _ _ (by omega) bound other
    subst same
    have first : originTokens.length - 1 - scan.position = start := by
      by_contra different
      exact earliest _ (by omega) other
    rw [if_neg (by omega), first]
    split
    · next full => rw [Int.toNat_of_nonpos full, take_zero]
    · rw [if_neg (by omega)]
      congr 1
      rw [take_eq_take_iff, length_drop]
      omega
  · intro absent
    split
    · rfl
    split
    · rfl
    rw [if_pos]
    · rfl
    by_contra long
    obtain ⟨fits, _, occurs⟩ := found (by omega)
    exact absent _ _ (by omega) fits occurs

theorem ngram_earliest_longest_two_tokens :
    findLongestMatchedNgramAndProposeTokens [1, 2, 3, 1, 2, 4, 1, 2] 1 2 10 4 = some [3, 1] := by
  refine (ngram_earliest_longest _ le_rfl (by decide) 10 4).1 2 0 (by decide) le_rfl ?_ ?_ (by simp)
  · decide
  · intro longer _ above fits
    omega

end VllmEngine
