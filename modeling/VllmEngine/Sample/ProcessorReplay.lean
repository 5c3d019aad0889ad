import VllmEngine.Sample.LogitsProcessors
import VllmEngine.Sample.ThinkingBudget
import VllmEngine.Worker.BatchReplay

set_option autoImplicit false

namespace VllmEngine

open Function BatchState List Rows Dict

variable {A : Type}

def ProperMove (_ : Nat → A) (moved : MovedRequest) : Prop :=
  moved.direction = .unidirectional → moved.first ≠ moved.second

theorem foldl_replayMove {A State : Type} {blank : A} {good : (Nat → A) → MovedRequest → Prop}
    (view : State → Nat → A) {change : State → MovedRequest → State}
    (same : ∀ state moved, good (view state) moved →
      view (change state moved) = replayMove blank (view state) moved)
    {state : State} {moves : List MovedRequest} (along : Along blank good (view state) moves) :
    view (moves.foldl change state) = moves.foldl (replayMove blank) (view state) := by
  induction moves generalizing state with
  | nil => rfl
  | cons moved moves ih =>
    have step := same state moved along.1
    rw [foldl_cons, foldl_cons, ← step]
    apply ih
    rw [step]
    exact along.2

theorem replayMove_blank (blank : A) (moved : MovedRequest) :
    replayMove blank (fun _ => blank) moved = fun _ => blank := by
  unfold replayMove
  split
  · funext row
    rw [swap_apply]
  · funext row
    unfold shift copy
    simp

theorem foldl_replayMove_blank (blank : A) (moves : List MovedRequest) :
    moves.foldl (replayMove blank) (fun _ => blank) = fun _ => blank :=
  foldl_fixed' (replayMove_blank blank) moves

theorem replayRemoved_blank (blank : A) (removed : List Nat) :
    replayRemoved blank (fun _ => blank) removed = fun _ => blank := by
  funext row
  unfold replayRemoved
  rw [foldl_update_blank, ite_self]

section DictUpdates

variable {T : Type} {current : Bool × AList fun _ : Nat => T}

def asTable (entries : AList fun _ : Nat => T) : Nat → Option T := fun row => entries.lookup row

section

variable (entries : AList fun _ : Nat => T)

include entries

theorem asTable_insert (row : Nat) (entry : T) :
    asTable (entries.insert row entry) = update (asTable entries) row (some entry) :=
  lookup_insert entries row entry

theorem asTable_erase (row : Nat) :
    asTable (entries.erase row) = update (asTable entries) row none :=
  lookup_erase entries row

theorem asTable_foldl_erase (rows : List Nat) :
    asTable (rows.foldl (fun entries row => entries.erase row) entries) =
      replayRemoved none (asTable entries) rows :=
  (foldl_hom asTable fun entries row => (asTable_erase entries row).symm).symm

end

theorem asTable_empty {entries : AList fun _ : Nat => T} (empty : entries.entries = []) :
    asTable entries = fun _ => none := by
  have same : entries = ∅ := AList.ext empty
  rw [same]
  rfl

theorem addEntry_table (newState : AddedRequest → Option T)
    (current : Bool × AList fun _ : Nat => T) (added : AddedRequest) :
    asTable (addEntry newState current added).2 =
      update (asTable current.2) added.index (newState added) := by
  unfold addEntry
  cases newState added with
  | some state => exact asTable_insert _ _ _
  | none => exact asTable_erase _ _

theorem moveEntries_table {moved : MovedRequest} (proper : ProperMove (asTable current.2) moved) :
    asTable (moveEntries current moved).2 = replayMove none (asTable current.2) moved := by
  obtain ⟨_, entries⟩ := current
  have lookup : (entries.erase moved.first).lookup moved.second =
      update (asTable entries) moved.first none moved.second :=
    congrFun (lookup_erase entries moved.first) moved.second
  -- with no entry left for either row, the two are put back where they belong
  have cleared : asTable ((entries.erase moved.first).erase moved.second) =
      update (update (asTable entries) moved.first none) moved.second none := by
    rw [asTable_erase, asTable_erase]
  have second : asTable ((entries.lookup moved.first).elim
      ((entries.erase moved.first).erase moved.second)
      fun entry => ((entries.erase moved.first).erase moved.second).insert moved.second entry) =
        update (update (asTable entries) moved.first none) moved.second
          (asTable entries moved.first) := by
    unfold asTable at cleared ⊢
    cases found : entries.lookup moved.first with
    | none => exact cleared
    | some entry =>
      dsimp only [Option.elim]
      rw [lookup_insert, cleared, update_idem]
  unfold moveEntries replayMove
  cases direction : moved.direction with
  | unidirectional =>
    have apart := proper direction
    dsimp only
    rw [if_neg (by simp)]
    refine second.trans ?_
    exact update_comm apart _ _ _
  | swap =>
    dsimp only
    rw [if_pos rfl, lookup]
    unfold Rows.swap
    by_cases same : moved.first = moved.second
    · rw [← same, update_self]
      rw [← same] at second
      refine second.trans ?_
      rw [update_idem, update_idem]
    · rw [update_of_ne (Ne.symm same)]
      cases found : asTable entries moved.second with
      | none => exact second
      | some entry =>
        refine (asTable_insert _ _ _).trans ?_
        rw [second, update_comm (Ne.symm same), update_idem]

variable (truthy : T → Bool) (newState : AddedRequest → Option T)

theorem addEntry_foldl_table (current : Bool × AList fun _ : Nat => T) (added : List AddedRequest) :
    asTable (added.foldl (addEntry newState) current).2 =
      replayAdded newState (asTable current.2) added :=
  (foldl_hom (fun current : Bool × AList fun _ : Nat => T => asTable current.2)
    fun current entry => (addEntry_table newState current entry).symm).symm

theorem removeEntry_foldl_table (current : Bool × AList fun _ : Nat => T) (removed : List Nat) :
    asTable (removed.foldl (removeEntry truthy) current).2 =
      replayRemoved none (asTable current.2) removed :=
  (foldl_hom (fun current : Bool × AList fun _ : Nat => T => asTable current.2)
    fun current row => (asTable_erase current.2 row).symm).symm

variable {reqEntries : AList fun _ : Nat => T}

theorem processDictUpdates_table {update : BatchUpdate}
    (along : Along none ProperMove (replayRemoved none
      (replayAdded newState (asTable reqEntries) update.added) update.removed)
      update.moved) :
    asTable (processDictUpdates truthy newState reqEntries (some update)).2 =
      update.replay none newState (asTable reqEntries) := by
  unfold processDictUpdates BatchUpdate.replay
  dsimp only
  have added := addEntry_foldl_table newState (false, reqEntries) update.added
  rw [← added] at along ⊢
  split
  · next empty =>
    rw [asTable_empty (isEmpty_iff.mp empty)]
    rw [replayRemoved_blank, foldl_replayMove_blank]
  · rw [← removeEntry_foldl_table truthy] at along ⊢
    exact foldl_replayMove (fun current : Bool × AList fun _ : Nat => T => asTable current.2)
      (fun _ _ proper => moveEntries_table proper) along

def Unchanged (reqEntries : AList fun _ : Nat => T) (current : Bool × AList fun _ : Nat => T) :
    Prop :=
  current.1 = false → current.2 = reqEntries

theorem addEntry_unchanged (current : Bool × AList fun _ : Nat => T) (added : AddedRequest)
    (still : Unchanged reqEntries current) :
    Unchanged reqEntries (addEntry newState current added) := by
  unfold addEntry
  cases newState added with
  | some state => exact fun updated => nomatch updated
  | none =>
    intro same
    rw [Bool.or_eq_false_iff, Option.isSome_eq_false_iff, Option.isNone_iff_eq_none] at same
    exact (erase_of_lookup_none same.2).trans (still same.1)

theorem removeEntry_unchanged
    (truth : ∀ row entry, reqEntries.lookup row = some entry → truthy entry = true)
    (current : Bool × AList fun _ : Nat => T) (row : Nat) (still : Unchanged reqEntries current) :
    Unchanged reqEntries (removeEntry truthy current row) := by
  intro same
  unfold removeEntry at same ⊢
  rw [Bool.or_eq_false_iff] at same
  have before := still same.1
  have absent : current.2.lookup row = none := by
    cases found : current.2.lookup row with
    | none => rfl
    | some entry =>
      rw [found, Option.any_some, truth row entry (before ▸ found)] at same
      exact absurd same.2 (by simp)
  exact (erase_of_lookup_none absent).trans before

theorem moveEntries_unchanged (current : Bool × AList fun _ : Nat => T) (moved : MovedRequest)
    (still : Unchanged reqEntries current) : Unchanged reqEntries (moveEntries current moved) := by
  intro same
  unfold moveEntries at same ⊢
  dsimp only at same ⊢
  simp only [Bool.or_eq_false_iff, Option.isSome_eq_false_iff, Option.isNone_iff_eq_none] at same
  obtain ⟨⟨flag, first⟩, second⟩ := same
  rw [second, first]
  simp only [Option.elim]
  rw [erase_of_lookup_none first] at second ⊢
  rw [erase_of_lookup_none second, ite_self]
  exact still flag

theorem processDictUpdates_unchanged
    (truth : ∀ row entry, reqEntries.lookup row = some entry → truthy entry = true)
    (update : Option BatchUpdate) :
    Unchanged reqEntries (processDictUpdates truthy newState reqEntries update) := by
  cases update with
  | none => exact fun _ => rfl
  | some update =>
    have added : Unchanged reqEntries (update.added.foldl (addEntry newState) (false, reqEntries)) :=
      foldlRecOn _ _ (fun _ => rfl) fun current still entry _ =>
        addEntry_unchanged newState current entry still
    unfold processDictUpdates
    dsimp only
    split
    · exact added
    · refine foldlRecOn _ _ ?_ fun current still moved _ => moveEntries_unchanged current moved still
      exact foldlRecOn _ _ added fun current still row _ =>
        removeEntry_unchanged truthy truth current row still

end DictUpdates

namespace ThinkingBudgetStateHolder

def TrackedMove (rows : Nat → Option ThinkState) (moved : MovedRequest) : Prop :=
  match moved.direction with
  | .swap => (rows moved.first).isSome = (rows moved.second).isSome
  | .unidirectional =>
    moved.first ≠ moved.second ∧ (rows moved.first = none → rows moved.second = none)

theorem syncMoved_table {state : AList fun _ : Nat => ThinkState} {moved : MovedRequest}
    (tracked : TrackedMove (asTable state) moved) :
    asTable (syncMoved state moved) = replayMove none (asTable state) moved := by
  unfold TrackedMove at tracked
  unfold syncMoved replayMove
  cases direction : moved.direction with
  | unidirectional =>
    rw [direction] at tracked
    obtain ⟨apart, covered⟩ := tracked
    unfold shift copy
    cases found : state.lookup moved.first with
    | none =>
      have second := covered found
      refine (asTable_erase _ _).trans ?_
      rw [show asTable state moved.first = none from found, ← second, update_eq_self]
    | some entry =>
      refine (asTable_insert _ _ _).trans ?_
      rw [asTable_erase, update_comm apart, show asTable state moved.first = some entry from found]
  | swap =>
    rw [direction] at tracked
    unfold Rows.swap
    unfold asTable at tracked
    cases first : state.lookup moved.first with
    | none =>
      rw [first] at tracked
      have second : state.lookup moved.second = none := by simpa using tracked.symm
      rw [second]
      simp only [Option.elim]
      have atFirst : asTable state moved.first = none := first
      have atSecond : asTable state moved.second = none := second
      rw [atFirst, atSecond]
      funext row
      by_cases isSecond : row = moved.second
      · rw [isSecond, update_self, atSecond]
      · rw [update_of_ne isSecond]
        by_cases isFirst : row = moved.first
        · rw [isFirst, update_self, atFirst]
        · rw [update_of_ne isFirst]
    | some entry =>
      rw [first] at tracked
      obtain ⟨other, second⟩ := Option.isSome_iff_exists.mp tracked.symm
      rw [second]
      refine (asTable_insert _ _ _).trans ?_
      rw [show asTable state moved.first = some entry from first,
        show asTable state moved.second = some other from second]
      refine (congrArg (fun table => update table moved.first (some other))
        (asTable_insert _ _ _)).trans ?_
      by_cases same : moved.first = moved.second
      · rw [← same] at second ⊢
        rw [update_idem, update_idem, Option.some.inj (first.symm.trans second)]
      · exact update_comm (Ne.symm same) _ _ _

theorem syncAdded_table (markers : ThinkMarkers) (outputs : RequestId → List Int)
    (state : AList fun _ : Nat => ThinkState) (added : List AddedRequest) :
    asTable (added.foldl (syncAdded markers outputs) state) =
      replayAdded (newEntry markers outputs) (asTable state) added := by
  refine (foldl_hom asTable fun state entry => ?_).symm
  unfold syncAdded
  cases newEntry markers outputs entry with
  | some state => exact (asTable_insert _ _ _).symm
  | none => exact (asTable_erase _ _).symm

theorem syncBatch_table {holder : ThinkingBudgetStateHolder} {outputs : RequestId → List Int}
    {update : BatchUpdate} (apart : ∀ entry ∈ update.added, entry.index ∉ update.removed)
    (along : Along none TrackedMove (replayRemoved none (replayAdded
      (newEntry holder.markers outputs) (asTable holder.state) update.added) update.removed)
      update.moved) :
    asTable (holder.syncBatch outputs (some update)).state =
      update.replay none (newEntry holder.markers outputs) (asTable holder.state) := by
  -- removals and additions touch different rows, so their order does not matter
  have commute : replayAdded (newEntry holder.markers outputs)
      (replayRemoved none (asTable holder.state) update.removed) update.added =
        replayRemoved none (replayAdded (newEntry holder.markers outputs)
          (asTable holder.state) update.added) update.removed := by
    funext row
    unfold replayRemoved
    rw [foldl_update_blank]
    split
    · next removed =>
      rw [replayAdded_other _ _ fun entry member same =>
        apart entry member (same ▸ removed), foldl_update_blank, if_pos removed]
    · next kept =>
      apply replayAdded_congr
      rw [foldl_update_blank, if_neg kept]
  unfold syncBatch BatchUpdate.replay
  rw [← commute, ← asTable_foldl_erase, ← syncAdded_table] at along ⊢
  exact foldl_replayMove asTable (fun _ _ tracked => syncMoved_table tracked) along

end ThinkingBudgetStateHolder

end VllmEngine
