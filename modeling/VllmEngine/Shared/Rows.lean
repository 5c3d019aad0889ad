import Mathlib.Data.List.Sort

set_option autoImplicit false

namespace VllmEngine.Rows

open Function List

variable {A B : Type}

variable (rows : Nat → A)

def copy (source target : Nat) : Nat → A :=
  update rows target (rows source)

def swap (first second : Nat) : Nat → A :=
  update (update rows first (rows second)) second (rows first)

def move (rows : Nat → Option A) (source target : Nat) : Nat → Option A :=
  update (copy rows source target) source none

@[simp] theorem copy_target (source target : Nat) :
    copy rows source target target = rows source := by
  simp [copy]

theorem copy_other (source target row : Nat) (other : row ≠ target) :
    copy rows source target row = rows row := by
  simp [copy, other]

@[simp] theorem swap_first (first second : Nat) : swap rows first second first = rows second := by
  by_cases same : first = second
  · simp [swap, same]
  · simp [swap, same]

@[simp] theorem swap_second (first second : Nat) : swap rows first second second = rows first := by
  simp [swap]

theorem swap_other (first second row : Nat) (notFirst : row ≠ first)
    (notSecond : row ≠ second) : swap rows first second row = rows row := by
  simp [swap, notFirst, notSecond]

theorem move_source (rows : Nat → Option A) (source target : Nat) :
    move rows source target source = none := by
  simp [move]

theorem move_target (rows : Nat → Option A) (source target : Nat) (apart : target ≠ source) :
    move rows source target target = rows source := by
  simp [move, apart]

theorem move_other (rows : Nat → Option A) (source target row : Nat) (notSource : row ≠ source)
    (notTarget : row ≠ target) : move rows source target row = rows row := by
  simp [move, notSource, copy_other rows source target row notTarget]

def exchanged (first second row : Nat) : Nat :=
  if row = first then second else if row = second then first else row

theorem swap_apply (first second row : Nat) :
    swap rows first second row = rows (exchanged first second row) := by
  unfold exchanged
  split
  · next same => rw [same, swap_first]
  · split
    · next same => rw [same, swap_second]
    · next notFirst notSecond => exact swap_other rows first second row notFirst notSecond

def lastLive (holes : List Nat) : Nat → Nat
  | 0 => 0
  | last + 1 => if last + 1 ∈ holes then lastLive holes last else last + 1

def compactionMoves : List Nat → Nat → List (Nat × Nat)
  | [], _ => []
  | hole :: holes, last =>
    let source := lastLive (hole :: holes) last
    if source ≤ hole then [] else (source, hole) :: compactionMoves holes (source - 1)

def applyMoves (rows : Nat → Option A) (moves : List (Nat × Nat)) : Nat → Option A :=
  moves.foldl (fun rows way => move rows way.1 way.2) rows

variable {moves : List (Nat × Nat)} {holes : List Nat} {row : Nat}

theorem exists_of_applyMoves {rows : Nat → Option A} {value : A}
    (here : applyMoves rows moves row = some value) :
    ∃ place, rows place = some value := by
  induction moves generalizing rows with
  | nil => exact ⟨row, here⟩
  | cons way moves ih =>
    obtain ⟨place, found⟩ := ih here
    dsimp only at found
    by_cases isSource : place = way.1
    · rw [isSource, move_source] at found
      cases found
    · by_cases isTarget : place = way.2
      · subst isTarget
        rw [move_target _ _ _ isSource] at found
        exact ⟨way.1, found⟩
      · rw [move_other _ _ _ _ isSource isTarget] at found
        exact ⟨place, found⟩

theorem lastLive_congr {others : List Nat} (same : ∀ row, row ∈ holes ↔ row ∈ others) (last : Nat) :
    lastLive holes last = lastLive others last := by
  induction last with
  | zero => rfl
  | succ last ih =>
    unfold lastLive
    rw [ih]
    exact if_congr (same (last + 1)) rfl rfl

theorem lastLive_le (holes : List Nat) (last : Nat) : lastLive holes last ≤ last := by
  induction last with
  | zero => exact Nat.le_refl 0
  | succ last ih =>
    unfold lastLive
    split
    · omega
    · exact Nat.le_refl _

theorem lastLive_eq_zero_or_not_mem (holes : List Nat) (last : Nat) :
    lastLive holes last = 0 ∨ lastLive holes last ∉ holes := by
  induction last with
  | zero => exact .inl rfl
  | succ last ih =>
    unfold lastLive
    split
    · exact ih
    · next live => exact .inr live

theorem mem_of_lastLive_lt (holes : List Nat) (last row : Nat) (above : lastLive holes last < row)
    (within : row ≤ last) : row ∈ holes := by
  induction last with
  | zero => omega
  | succ last ih =>
    unfold lastLive at above
    split at above
    · next hole =>
      by_cases top : row = last + 1
      · exact top ▸ hole
      · exact ih above (by omega)
    · omega

theorem lastLive_not_mem (holes : List Nat) (last live : Nat) (notHole : live ∉ holes)
    (within : live ≤ last) : lastLive holes last ∉ holes ∧ live ≤ lastLive holes last := by
  have reaches : live ≤ lastLive holes last := by
    by_contra above
    exact notHole (mem_of_lastLive_lt holes last live (by omega) within)
  refine ⟨?_, reaches⟩
  rcases lastLive_eq_zero_or_not_mem holes last with _ | notMember
  · have same : live = lastLive holes last := by omega
    exact same ▸ notHole
  · exact notMember

structure Gaps (rows : Nat → Option A) (holes : List Nat) (last : Nat) : Prop where
  sorted : holes.Pairwise (· < ·)
  hole : ∀ row ≤ last, rows row = none ↔ row ∈ holes
  above : ∀ row, last < row → rows row = none

theorem Gaps.step {rows : Nat → Option A} {hole : Nat} {last source : Nat}
    (gaps : Gaps rows (hole :: holes) last) (top : lastLive (hole :: holes) last = source)
    (moves : hole < source) :
    source ≤ last ∧ rows source ≠ none ∧ rows hole = none ∧
      Gaps (move rows source hole) holes (source - 1) := by
  have within : source ≤ last := top ▸ lastLive_le _ _
  have notHole : source ∉ hole :: holes := by
    rcases lastLive_eq_zero_or_not_mem (hole :: holes) last with _ | notMember
    · omega
    · exact top ▸ notMember
  have live : rows source ≠ none := fun empty => notHole ((gaps.hole source within).mp empty)
  have empty : rows hole = none :=
    (gaps.hole hole (by omega)).mpr mem_cons_self
  refine ⟨within, live, empty, ?_⟩
  have ordered := gaps.sorted
  rw [pairwise_cons] at ordered
  constructor
  · exact ordered.2
  · intro row bounded
    by_cases target : row = hole
    · subst target
      rw [move_target _ _ _ (by omega)]
      constructor
      · exact fun none => absurd none live
      · exact fun member => absurd (ordered.1 row member) (lt_irrefl row)
    · rw [move_other _ _ _ _ (by omega) target, gaps.hole row (by omega)]
      simp [target]
  · intro row higher
    by_cases moved : row = source
    · rw [moved, move_source]
    · rw [move_other _ _ _ _ moved (by omega)]
      by_cases covered : row ≤ last
      · exact (gaps.hole row covered).mpr
          (mem_of_lastLive_lt _ last row (by omega) covered)
      · exact gaps.above row (by omega)

def Dense (rows : Nat → Option A) (count : Nat) : Prop :=
  ∀ row, rows row = none ↔ count ≤ row

theorem Gaps.dense {rows : Nat → Option A} {last live : Nat} (gaps : Gaps rows holes last)
    (within : live ≤ last) (some : rows live ≠ none) :
    ∃ count, Dense (applyMoves rows (compactionMoves holes last)) count := by
  induction holes generalizing rows last live with
  | nil =>
    refine ⟨last + 1, fun row => ?_⟩
    constructor
    · intro empty
      by_contra below
      exact absurd ((gaps.hole row (by omega)).mp empty) not_mem_nil
    · intro above
      exact gaps.above row (by omega)
  | cons hole holes ih =>
    unfold compactionMoves
    have notHole : live ∉ hole :: holes := fun member => some ((gaps.hole live within).mpr member)
    obtain ⟨topLive, above⟩ := lastLive_not_mem (hole :: holes) last live notHole within
    by_cases stop : lastLive (hole :: holes) last ≤ hole
    · rw [if_pos stop]
      refine ⟨lastLive (hole :: holes) last + 1, fun row => ?_⟩
      have top := lastLive_le (hole :: holes) last
      constructor
      · intro empty
        by_contra below
        have member := (gaps.hole row (by omega)).mp empty
        rcases List.mem_cons.mp member with _ | later
        · have equal : lastLive (hole :: holes) last = hole := by omega
          rw [equal] at topLive
          exact topLive mem_cons_self
        · have lower := (List.pairwise_cons.mp gaps.sorted).1 row later
          omega
      · intro higher
        by_cases covered : row ≤ last
        · exact (gaps.hole row covered).mpr (mem_of_lastLive_lt _ last row (by omega) covered)
        · exact gaps.above row (by omega)
    · rw [if_neg stop]
      obtain ⟨_, sourceLive, _, gapsLeft⟩ := gaps.step rfl (by omega)
      have target : move rows (lastLive (hole :: holes) last) hole hole ≠ none := by
        rw [move_target _ _ _ (by omega)]
        exact sourceLive
      have below : hole ≤ lastLive (hole :: holes) last - 1 := by omega
      exact ih gapsLeft below target

theorem compactionMoves_spec (sorted : holes.Pairwise (· < ·)) (last : Nat) :
    (∀ way ∈ compactionMoves holes last, way.1 ≤ last ∧ way.2 ∈ holes ∧ way.2 < way.1) ∧
      ((compactionMoves holes last).flatMap fun way => [way.1, way.2]).Nodup ∧
      (compactionMoves holes last).map (·.2) =
        holes.take (compactionMoves holes last).length := by
  induction holes generalizing last with
  | nil => simp [compactionMoves]
  | cons hole holes ih =>
    obtain ⟨first, later⟩ := List.pairwise_cons.mp sorted
    unfold compactionMoves
    by_cases stop : lastLive (hole :: holes) last ≤ hole
    · simp [stop]
    · rw [if_neg stop]
      have top := lastLive_le (hole :: holes) last
      obtain ⟨bounds, distinct, targets⟩ := ih later (lastLive (hole :: holes) last - 1)
      refine ⟨fun way member => ?_, ?_, ?_⟩
      · rcases List.mem_cons.mp member with rfl | member
        · exact ⟨top, mem_cons_self, by omega⟩
        · obtain ⟨below, isHole, lower⟩ := bounds way member
          exact ⟨by omega, mem_cons_of_mem hole isHole, lower⟩
      · -- later sources lie below this one and later targets above its target
        have apart : ∀ row ∈ (compactionMoves holes (lastLive (hole :: holes) last - 1)).flatMap
            (fun way => [way.1, way.2]), row ≠ lastLive (hole :: holes) last ∧ row ≠ hole := by
          intro row member
          obtain ⟨way, inRest, isRow⟩ := List.mem_flatMap.mp member
          obtain ⟨below, isHole, lower⟩ := bounds way inRest
          have above := first way.2 isHole
          simp only [mem_cons, not_mem_nil, or_false] at isRow
          omega
        rw [flatMap_cons, nodup_append]
        refine ⟨?_, distinct, fun row isOwn other isLater => ?_⟩
        · simp only [nodup_cons, mem_singleton, not_mem_nil, not_false_iff, nodup_nil, and_true]
          omega
        · have := apart other isLater
          simp only [mem_cons, not_mem_nil, or_false] at isOwn
          omega
      · rw [map_cons, length_cons, take_succ_cons, targets]

variable {Key : Type}

-- Nothing is said of the stale rows.
def Follows (blank : A) (own : Key → A) (occupant : Nat → Option Key) (stale : Nat → Prop)
    (rows : Nat → A) : Prop :=
  ∀ row, ¬stale row → rows row = (occupant row).elim blank own

def shift (blank : A) (rows : Nat → A) (source target : Nat) : Nat → A :=
  update (copy rows source target) source blank

theorem shift_other (blank : A) (rows : Nat → A) {source target row : Nat} (notSource : row ≠ source)
    (notTarget : row ≠ target) : shift blank rows source target row = rows row := by
  simp [shift, notSource, copy_other rows source target row notTarget]

variable {blank : A} {own : Key → A} {occupant : Nat → Option Key} {stale stale' : Nat → Prop}
  {rows : Nat → A} {way : Nat × Nat}

theorem Follows.mono (follows : Follows blank own occupant stale rows)
    (covered : ∀ row, stale row → stale' row) : Follows blank own occupant stale' rows :=
  fun row fresh => follows row fun old => fresh (covered row old)

theorem Follows.put (follows : Follows blank own occupant stale rows) (row : Nat) (key : Key)
    (covered : ∀ other, other ≠ row → stale other → stale' other) :
    Follows blank own (update occupant row (some key)) stale'
      (update rows row (own key)) := by
  intro other fresh
  by_cases same : other = row
  · subst same
    rw [update_self, update_self]
    rfl
  · rw [update_of_ne same, update_of_ne same]
    exact follows other fun old => fresh (covered other same old)

theorem foldl_update_blank (blank : A) (cleared : List Nat) (rows : Nat → A) (row : Nat) :
    cleared.foldl (fun rows row => update rows row blank) rows row =
      if row ∈ cleared then blank else rows row := by
  induction cleared generalizing rows with
  | nil => simp
  | cons first rest ih =>
    rw [foldl_cons, ih]
    by_cases same : row = first
    · subst same
      simp
    · simp [same]

theorem Follows.clear (follows : Follows blank own occupant stale rows) (cleared : List Nat)
    (empty : ∀ row ∈ cleared, occupant row = none) :
    Follows blank own occupant (fun row => stale row ∧ row ∉ cleared)
      (cleared.foldl (fun rows row => update rows row blank) rows) := by
  intro row fresh
  rw [foldl_update_blank]
  split
  · next isCleared =>
    rw [empty row isCleared]
    rfl
  · next notCleared => exact follows row fun old => fresh ⟨old, notCleared⟩

theorem Follows.shift (follows : Follows blank own occupant stale rows) {source target : Nat}
    (fresh : ¬stale source) (apart : target ≠ source)
    (covered : ∀ row, row ≠ target → stale row → stale' row) :
    Follows blank own (move occupant source target) stale' (shift blank rows source target) := by
  intro row freshAfter
  by_cases isSource : row = source
  · subst isSource
    rw [move_source]
    exact update_self _ _ _
  · by_cases isTarget : row = target
    · subst isTarget
      rw [move_target _ _ _ apart]
      unfold Rows.shift
      rw [update_of_ne isSource, copy_target]
      exact follows source fresh
    · rw [shift_other blank rows isSource isTarget, move_other _ _ _ _ isSource isTarget]
      exact follows row fun old => freshAfter (covered row isTarget old)

theorem Follows.swap (follows : Follows blank own occupant (fun _ => False) rows)
    (first second : Nat) :
    Follows blank own (Rows.swap occupant first second) (fun _ => False)
      (Rows.swap rows first second) := by
  intro row fresh
  rw [swap_apply, swap_apply]
  exact follows _ fresh

theorem source_not_target (distinct : (moves.flatMap fun way => [way.1, way.2]).Nodup)
    (member : way ∈ moves) : way.1 ∉ moves.map (·.2) := by
  induction moves with
  | nil => exact absurd member not_mem_nil
  | cons first moves ih =>
    rw [flatMap_cons, nodup_append] at distinct
    obtain ⟨own, rest, apart⟩ := distinct
    rw [map_cons, mem_cons, not_or]
    rcases List.mem_cons.mp member with rfl | later
    · simp only [nodup_cons, mem_singleton] at own
      refine ⟨own.1, fun isTarget => ?_⟩
      obtain ⟨other, isMove, same⟩ := List.mem_map.mp isTarget
      apply apart way.1 (by simp) way.1 _ rfl
      exact List.mem_flatMap.mpr ⟨other, isMove, by simp [same]⟩
    · refine ⟨fun same => ?_, ih rest later⟩
      exact apart first.2 (by simp) way.1 (List.mem_flatMap.mpr ⟨way, later, by simp⟩) same.symm

theorem applyMoves_other (rows : Nat → Option A)
    (other : row ∉ moves.flatMap fun way => [way.1, way.2]) :
    applyMoves rows moves row = rows row := by
  induction moves generalizing rows with
  | nil => rfl
  | cons way moves ih =>
    rw [flatMap_cons, mem_append, not_or] at other
    refine (ih _ other.2).trans ?_
    apply move_other
    · exact fun same => other.1 (by simp [same])
    · exact fun same => other.1 (by simp [same])

theorem applyMoves_source (rows : Nat → Option A)
    (distinct : (moves.flatMap fun way => [way.1, way.2]).Nodup)
    (member : way ∈ moves) : applyMoves rows moves way.1 = none := by
  induction moves generalizing rows with
  | nil => exact absurd member not_mem_nil
  | cons first moves ih =>
    rw [flatMap_cons, nodup_append] at distinct
    rcases List.mem_cons.mp member with rfl | later
    · have untouched := applyMoves_other (move rows way.1 way.2) fun isLater =>
        distinct.2.2 way.1 (by simp) way.1 isLater rfl
      exact untouched.trans (move_source rows way.1 way.2)
    · exact ih _ distinct.2.1 later

theorem Follows.shifts (distinct : (moves.flatMap fun way => [way.1, way.2]).Nodup)
    (follows : Follows blank own occupant (· ∈ moves.map (·.2)) rows) :
    Follows blank own (applyMoves occupant moves) (fun _ => False)
      (moves.foldl (fun rows way => Rows.shift blank rows way.1 way.2) rows) := by
  induction moves generalizing occupant rows with
  | nil =>
    intro row _
    exact follows row not_mem_nil
  | cons way moves ih =>
    have fresh := source_not_target distinct mem_cons_self
    have ends : way.2 ≠ way.1 := by
      rw [map_cons, mem_cons, not_or] at fresh
      exact Ne.symm fresh.1
    rw [flatMap_cons, nodup_append] at distinct
    apply ih distinct.2.1
    apply follows.shift fresh ends
    intro row notTarget member
    rw [map_cons, mem_cons] at member
    exact member.resolve_left notTarget

end VllmEngine.Rows
