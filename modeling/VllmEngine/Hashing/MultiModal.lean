import VllmEngine.Hashing.BlockHash
import Mathlib.Order.Lattice.Nat

set_option autoImplicit false

namespace VllmEngine

open List

variable {H : Type}

namespace MultiModalFeatureSpec

def Overlaps (feature : MultiModalFeatureSpec) (startTokenIdx endTokenIdx : Nat) : Prop :=
  feature.offset < endTokenIdx ∧ startTokenIdx < feature.stop

instance (feature : MultiModalFeatureSpec) (startTokenIdx endTokenIdx : Nat) :
    Decidable (feature.Overlaps startTokenIdx endTokenIdx) :=
  inferInstanceAs (Decidable (_ ∧ _))

def key (startTokenIdx : Nat) (feature : MultiModalFeatureSpec) : ExtraKey :=
  .mm feature.identifier ((feature.offset : Int) - startTokenIdx)

end MultiModalFeatureSpec

def MmSorted (features : List MultiModalFeatureSpec) : Prop :=
  features.Pairwise fun earlier later => earlier.stop ≤ later.offset

instance (features : List MultiModalFeatureSpec) : Decidable (MmSorted features) :=
  inferInstanceAs (Decidable (List.Pairwise _ _))

def overlapKeys (features : List MultiModalFeatureSpec) (startTokenIdx endTokenIdx : Nat) :
    List ExtraKey :=
  (features.filter fun feature => decide (feature.Overlaps startTokenIdx endTokenIdx)).map
    (·.key startTokenIdx)

theorem overlapKeys_append (front back : List MultiModalFeatureSpec)
    (startTokenIdx endTokenIdx : Nat) :
    overlapKeys (front ++ back) startTokenIdx endTokenIdx =
      overlapKeys front startTokenIdx endTokenIdx ++ overlapKeys back startTokenIdx endTokenIdx := by
  simp [overlapKeys]

variable {features : List MultiModalFeatureSpec} {startTokenIdx : Nat} {endTokenIdx : Nat}

theorem overlapKeys_eq_nil :
    overlapKeys features startTokenIdx endTokenIdx = [] ↔
      ∀ feature ∈ features, ¬ feature.Overlaps startTokenIdx endTokenIdx := by
  simp [overlapKeys]

theorem overlapKeys_cons (feature : MultiModalFeatureSpec) (rest : List MultiModalFeatureSpec)
    (startTokenIdx endTokenIdx : Nat) :
    overlapKeys (feature :: rest) startTokenIdx endTokenIdx =
      if feature.Overlaps startTokenIdx endTokenIdx then
        feature.key startTokenIdx :: overlapKeys rest startTokenIdx endTokenIdx
      else overlapKeys rest startTokenIdx endTokenIdx := by
  by_cases overlaps : feature.Overlaps startTokenIdx endTokenIdx <;>
    simp [overlapKeys, overlaps]

theorem overlapKeys_drop {passed : Nat} (endTokenIdx : Nat)
    (ended : ∀ feature ∈ features.take passed, feature.stop ≤ startTokenIdx) :
    overlapKeys (features.drop passed) startTokenIdx endTokenIdx =
      overlapKeys features startTokenIdx endTokenIdx := by
  have none : overlapKeys (features.take passed) startTokenIdx endTokenIdx = [] := by
    rw [overlapKeys_eq_nil]
    intro feature member overlaps
    have := ended feature member
    have := overlaps.2
    omega
  conv_rhs => rw [← take_append_drop passed features, overlapKeys_append, none]
  rfl

theorem mmKeysFrom_keys (sorted : MmSorted features) (startTokenIdx endTokenIdx currMmIdx : Nat) :
    (mmKeysFrom startTokenIdx endTokenIdx features currMmIdx).1 =
      overlapKeys features startTokenIdx endTokenIdx := by
  induction features generalizing currMmIdx with
  | nil => rfl
  | cons feature rest ih =>
    obtain ⟨later, sortedRest⟩ := pairwise_cons.mp sorted
    have range : feature.offset ≤ feature.stop := feature.offset_le_stop
    -- Once the loop stops, no later feature starts inside the block.
    have clear (bound : endTokenIdx ≤ feature.stop) :
        overlapKeys rest startTokenIdx endTokenIdx = [] := by
      rw [overlapKeys_eq_nil]
      intro other member overlaps
      have := later other member
      have := overlaps.1
      omega
    rw [overlapKeys_cons]
    by_cases reached : endTokenIdx > feature.offset
    · by_cases passed : startTokenIdx ≥ feature.stop
      · have outside : ¬ feature.Overlaps startTokenIdx endTokenIdx := fun overlaps => by
          have := overlaps.2
          omega
        rw [if_neg outside, ← ih sortedRest (currMmIdx + 1)]
        simp only [mmKeysFrom]
        rw [if_pos reached, if_pos passed]
      · have inside : feature.Overlaps startTokenIdx endTokenIdx := ⟨reached, by omega⟩
        rw [if_pos inside]
        simp only [mmKeysFrom]
        rw [if_pos reached, if_neg passed]
        by_cases ends : endTokenIdx ≥ feature.stop
        · rw [if_pos ends, ← ih sortedRest (currMmIdx + 1)]
          rfl
        · rw [if_neg ends, clear (by omega)]
          rfl
    · have outside : ¬ feature.Overlaps startTokenIdx endTokenIdx := fun overlaps =>
        reached overlaps.1
      rw [if_neg outside, clear (by omega)]
      simp only [mmKeysFrom]
      rw [if_neg reached]

section

variable (features : List MultiModalFeatureSpec)

theorem mmKeysFrom_next (ordered : startTokenIdx ≤ endTokenIdx) (currMmIdx : Nat) :
    ∃ passed, (mmKeysFrom startTokenIdx endTokenIdx features currMmIdx).2 = currMmIdx + passed ∧
      ∀ feature ∈ features.take passed, feature.stop ≤ endTokenIdx := by
  induction features generalizing currMmIdx with
  | nil => exact ⟨0, rfl, by simp⟩
  | cons feature rest ih =>
    obtain ⟨passed, next, ended⟩ := ih (currMmIdx + 1)
    have advance (ends : feature.stop ≤ endTokenIdx) :
        ∀ other ∈ (feature :: rest).take (passed + 1), other.stop ≤ endTokenIdx := by
      intro other member
      rcases mem_cons.mp member with rfl | member
      · exact ends
      · exact ended other member
    simp only [mmKeysFrom]
    split
    · split
      next gone =>
        have ends : feature.stop ≤ startTokenIdx := gone
        exact ⟨passed + 1, by rw [next]; omega, advance (ends.trans ordered)⟩
      next =>
        split
        next ends => exact ⟨passed + 1, by rw [next]; omega, advance ends⟩
        next => exact ⟨0, rfl, by simp⟩
    · exact ⟨0, rfl, by simp⟩

def TracksItems (features items : List MultiModalFeatureSpec) (mmIdx : Int)
    (startTokenIdx : Nat) : Prop :=
  ∀ start stop, startTokenIdx ≤ start →
    overlapKeys (features.drop (firstMmIdx features mmIdx)) start stop =
      overlapKeys items start stop

theorem tracksItems_all (startTokenIdx : Nat) : TracksItems features features 0 startTokenIdx := by
  intro start stop _
  simp [firstMmIdx]

theorem tracksItems_last (startTokenIdx : Nat) :
    TracksItems features features.getLast?.toList (-1) startTokenIdx := by
  intro start stop _
  have suffix : features.drop (firstMmIdx features (-1)) = features.getLast?.toList := by
    cases features using reverseRecOn with
    | nil => rfl
    | append_singleton front last =>
      have index : firstMmIdx (front ++ [last]) (-1) = front.length := by
        simp only [firstMmIdx, length_append, length_singleton]
        omega
      simp [index]
  rw [suffix]

end

theorem MmSorted.drop (sorted : MmSorted features) (count : Nat) : MmSorted (features.drop count) :=
  List.Pairwise.sublist (drop_sublist count features) sorted

theorem MmSorted.stop_le_last (sorted : MmSorted features) {last feature : MultiModalFeatureSpec}
    (final : features.getLast? = some last) (member : feature ∈ features) :
    feature.stop ≤ last.stop := by
  obtain ⟨_, rfl⟩ := getLast?_eq_some_iff.mp final
  rcases mem_append.mp member with early | final
  · have := (pairwise_append.mp sorted).2.2 feature early last (by simp)
    exact this.trans last.offset_le_stop
  · rw [mem_singleton.mp final]

theorem genMmExtraHashKeys_tracks {request : Request H} {items : List MultiModalFeatureSpec}
    (sorted : MmSorted request.mmFeatures) {mmIdx : Int} (ordered : startTokenIdx ≤ endTokenIdx)
    (tracks : TracksItems request.mmFeatures items mmIdx startTokenIdx) :
    (genMmExtraHashKeys request startTokenIdx endTokenIdx mmIdx).1 =
        overlapKeys items startTokenIdx endTokenIdx ∧
      TracksItems request.mmFeatures items
        (genMmExtraHashKeys request startTokenIdx endTokenIdx mmIdx).2 endTokenIdx := by
  have later : TracksItems request.mmFeatures items mmIdx endTokenIdx := fun start stop bound =>
    tracks start stop (ordered.trans bound)
  have now := tracks startTokenIdx endTokenIdx le_rfl
  simp only [genMmExtraHashKeys]
  split
  next empty =>
    have : request.mmFeatures = [] := getLast?_eq_none_iff.mp empty
    exact ⟨by simpa [this, overlapKeys] using now, later⟩
  next last final =>
    split
    next gone =>
      refine ⟨?_, later⟩
      rw [← now, eq_comm, overlapKeys_eq_nil]
      intro feature member overlaps
      have bound := sorted.stop_le_last final (mem_of_mem_drop member)
      have := overlaps.2
      omega
    next =>
      refine ⟨(mmKeysFrom_keys (sorted.drop _) _ _ _).trans now, fun start stop bound => ?_⟩
      obtain ⟨passed, next, ended⟩ := mmKeysFrom_next
        (request.mmFeatures.drop (firstMmIdx request.mmFeatures mmIdx)) ordered
        (firstMmIdx request.mmFeatures mmIdx)
      have index : firstMmIdx request.mmFeatures
          ((firstMmIdx request.mmFeatures mmIdx + passed : Nat) : Int) =
            firstMmIdx request.mmFeatures mmIdx + passed := by
        simp [firstMmIdx]; omega
      rw [← later start stop bound]
      simp only [next]
      rw [index, ← drop_drop]
      exact overlapKeys_drop stop fun feature member => (ended feature member).trans bound

end VllmEngine
