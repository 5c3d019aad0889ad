import VllmEngine.Encoder.EncoderScheduling

set_option autoImplicit false

namespace VllmEngine

open Outcome OrderedDict List EncoderRequest

variable {numEmbeds : MmHash → Nat}

namespace EncoderRequest

variable {feature : EncoderInput} {request : EncoderRequest} {inputId : Nat}

theorem mmFeature_of_get (found : request.mmFeatures[inputId]? = some feature) :
    request.mmFeature inputId = .ok feature := by
  simp [mmFeature, found]

-- The inputs have the number of embeddings that belongs to their hash.
def SizedBy (numEmbeds : MmHash → Nat) (mmFeatures : List EncoderInput) : Prop :=
  ∀ feature ∈ mmFeatures, feature.getNumEmbeds = numEmbeds feature.identifier

theorem getNumEncoderEmbeds_of_get (sized : SizedBy numEmbeds request.mmFeatures)
    (found : request.mmFeatures[inputId]? = some feature) :
    request.getNumEncoderEmbeds inputId = .ok (numEmbeds feature.identifier) := by
  have inside : inputId < request.mmFeatures.length := List.getElem?_eq_some_iff.mp found |>.1
  simp [getNumEncoderEmbeds, mmFeature_of_get found, inside, sized feature (mem_of_getElem? found)]

end EncoderRequest

namespace EncoderCacheManager

structure Sound (numEmbeds : MmHash → Nat) (manager : EncoderCacheManager) : Prop where
  free_slots :
    manager.numFreeSlots = manager.cacheSize - (manager.cached.weigh numEmbeds : Int)
  freeable_slots :
    manager.numFreeableSlots = manager.numFreeSlots + manager.freeable.weigh numEmbeds
  unreferenced : ∀ mmHash, mmHash ∈ manager.freeable.keys ↔ manager.cached.get? mmHash = some ∅
  sizes : ∀ entry ∈ manager.freeable.entries, entry.2 = numEmbeds entry.1
  room : 0 ≤ manager.numFreeSlots

structure Evolves (request : EncoderRequest) (before after : EncoderCacheManager) :
    Prop where
  size : after.cacheSize = before.cacheSize
  grows : before.numFreeSlots ≤ after.numFreeSlots
  moved : (before.freed ++ before.cached.keys).Perm (after.freed ++ after.cached.keys)
  fewer : ∀ mmHash ∈ after.cached.keys, mmHash ∈ before.cached.keys
  ids : ∀ requestId inputId, inputId ∈ after.getCachedInputIds requestId →
    inputId ∈ before.getCachedInputIds requestId ∨
      (requestId = request.requestId ∧ inputId < request.mmFeatures.length)

namespace Evolves

variable {request : EncoderRequest} {before middle after : EncoderCacheManager}

theorem refl (request : EncoderRequest) (manager : EncoderCacheManager) :
    Evolves request manager manager where
  size := rfl
  grows := le_refl _
  moved := List.Perm.refl _
  fewer _ member := member
  ids _ _ member := .inl member

theorem trans (first : Evolves request before middle) (second : Evolves request middle after) :
    Evolves request before after where
  size := second.size.trans first.size
  grows := first.grows.trans second.grows
  moved := first.moved.trans second.moved
  fewer mmHash member := first.fewer mmHash (second.fewer mmHash member)
  ids requestId inputId member := by
    rcases second.ids requestId inputId member with earlier | own
    · exact first.ids requestId inputId earlier
    · exact .inr own

end Evolves

theorem create_sound (cacheSize : Nat) : (create cacheSize).Sound numEmbeds where
  free_slots := by simp [create]
  freeable_slots := by simp [create]
  unreferenced mmHash := by simp [create]
  sizes entry member := by simp [create] at member
  room := by simp [create]

theorem reset_sound (manager : EncoderCacheManager) : manager.reset.Sound numEmbeds :=
  create_sound manager.cacheSize

variable {manager after : EncoderCacheManager} {request : EncoderRequest} {inputId : Nat}
  {feature : EncoderInput} {mmHash : MmHash}

section Ids

theorem mem_getCachedInputIds_addCachedId {requestId other : RequestId} {id : Nat} :
    id ∈ (manager.addCachedId requestId inputId).getCachedInputIds other ↔
      id ∈ manager.getCachedInputIds other ∨ (other = requestId ∧ id = inputId) := by
  unfold addCachedId getCachedInputIds
  rw [get?_insert]
  by_cases same : other = requestId
  · subst same
    by_cases present : inputId ∈ (manager.requestCachedIds.get? other).getD []
    · simp only [if_true, present, Option.getD_some, true_and, iff_self_or]
      rintro rfl
      exact present
    · simp [present]
  · simp [same]

theorem getCachedInputIds_dropCachedId (requestId other : RequestId) :
    (manager.dropCachedId requestId inputId).getCachedInputIds other =
      if other = requestId then (manager.getCachedInputIds other).filter (· ≠ inputId)
      else manager.getCachedInputIds other := by
  unfold dropCachedId
  split
  · rename_i absent
    by_cases same : other = requestId
    · subst same
      simp [getCachedInputIds, absent]
    · simp [same]
  · rename_i ids present
    unfold getCachedInputIds
    by_cases same : other = requestId
    · subst same
      by_cases none : ids.filter (· ≠ inputId) = []
      · simp only [if_true, none, get?_erase, present, Option.getD_some, Option.getD_none]
      · simp only [if_true, none, if_false, get?_insert, present, Option.getD_some]
    · by_cases none : ids.filter (· ≠ inputId) = []
      · simp only [if_true, none, get?_erase, same, if_false]
      · simp only [none, if_false, get?_insert, same]

end Ids

namespace Sound

variable {mmHash : MmHash} {references : Finset RequestId}

section

variable (sound : manager.Sound numEmbeds)

include sound

theorem mem_cached_of_freeable
    (member : mmHash ∈ manager.freeable.keys) : mmHash ∈ manager.cached.keys :=
  mem_keys_of_get? ((sound.unreferenced mmHash).mp member)

theorem absent_of_referenced (found : manager.cached.get? mmHash = some references)
    (referenced : references ≠ ∅) : mmHash ∉ manager.freeable.keys := by
  rw [sound.unreferenced, found]
  simpa using referenced

theorem reassign (present : mmHash ∈ manager.cached.keys) {freeable : OrderedDict MmHash Nat}
    {reclaimable : Int} (counted : reclaimable = manager.numFreeSlots + freeable.weigh numEmbeds)
    (listed : ∀ other, other ∈ freeable.keys ↔
      if other = mmHash then references = ∅ else other ∈ manager.freeable.keys)
    (sizes : ∀ entry ∈ freeable.entries, entry.2 = numEmbeds entry.1)
    (ids : OrderedDict RequestId (List Nat)) :
    Sound numEmbeds { manager with
      cached := manager.cached.insert mmHash references
      freeable := freeable
      numFreeableSlots := reclaimable
      requestCachedIds := ids } where
  free_slots := by
    dsimp only
    rw [weigh_insert_of_mem present]
    exact sound.free_slots
  freeable_slots := counted
  unreferenced other := by
    dsimp only
    rw [listed, get?_insert]
    split
    · rw [Option.some.injEq]
    · exact sound.unreferenced other
  sizes := sizes
  room := sound.room

end

end Sound

theorem Evolves.of_sameKeys (size : after.cacheSize = manager.cacheSize)
    (slots : after.numFreeSlots = manager.numFreeSlots) (freed : after.freed = manager.freed)
    (keys : after.cached.keys = manager.cached.keys)
    (ids : ∀ requestId inputId, inputId ∈ after.getCachedInputIds requestId →
      inputId ∈ manager.getCachedInputIds requestId ∨
        (requestId = request.requestId ∧ inputId < request.mmFeatures.length)) :
    Evolves request manager after where
  size := size
  grows := slots.ge
  moved := by rw [freed, keys]
  fewer mmHash member := by rwa [keys] at member
  ids := ids

theorem checkAndUpdateCache_spec (sound : manager.Sound numEmbeds)
    (input : request.mmFeatures[inputId]? = some feature) :
    ∃ found after, manager.checkAndUpdateCache request inputId = .ok (found, after) ∧
      after.Sound numEmbeds ∧ Evolves request manager after ∧
      (found = false → feature.identifier ∉ manager.cached.keys) := by
  have inside : inputId < request.mmFeatures.length := List.getElem?_eq_some_iff.mp input |>.1
  unfold checkAndUpdateCache
  rw [mmFeature_of_get input, ok_bind]
  cases found : manager.cached.get? feature.identifier with
  | none =>
    refine ⟨false, manager, rfl, sound, Evolves.refl request manager, fun _ => ?_⟩
    exact get?_eq_none_iff.mp found
  | some references =>
    have present := mem_keys_of_get? found
    have settled {freeable : OrderedDict MmHash Nat} {reclaimable : Int}
        (counted : reclaimable = manager.numFreeSlots + freeable.weigh numEmbeds)
        (listed : ∀ other, other ∈ freeable.keys ↔
          other ∈ manager.freeable.keys ∧ other ≠ feature.identifier)
        (fewer : ∀ entry ∈ freeable.entries, entry ∈ manager.freeable.entries) :
        ∃ after, after = (addReference { manager with freeable, numFreeableSlots := reclaimable }
            feature.identifier references request.requestId).addCachedId request.requestId inputId ∧
          after.Sound numEmbeds ∧ Evolves request manager after := by
      refine ⟨_, rfl, sound.reassign present counted (fun other => ?_)
        (fun entry member => sound.sizes entry (fewer entry member)) _,
        Evolves.of_sameKeys rfl rfl rfl (keys_insert_of_mem present) fun requestId id member => ?_⟩
      · rw [listed]
        split <;> simp [*]
      · refine (mem_getCachedInputIds_addCachedId.mp member).imp_right fun mine => ?_
        exact ⟨mine.1, mine.2 ▸ inside⟩
    dsimp only
    split
    · -- The entry was freeable: its slots are no longer reclaimable.
      next unreferenced =>
      have freeable : feature.identifier ∈ manager.freeable.keys := by
        rw [sound.unreferenced, found, unreferenced]
      obtain ⟨size, entry⟩ := mem_keys.mp freeable
      have sized : size = numEmbeds feature.identifier := sound.sizes _ entry
      obtain ⟨after, rfl, kept, evolved⟩ := @settled (manager.freeable.erase feature.identifier)
        (manager.numFreeableSlots - size)
        (by rw [sound.freeable_slots, weigh_erase freeable, sized]; omega)
        (fun _ => mem_keys_erase) fun _ member => (mem_entries_erase.mp member).1
      refine ⟨true, _, ?_, kept, evolved, nofun⟩
      rw [popFreeable, get?_eq_some_iff.mpr entry]
      rfl
    · next referenced =>
      have absent := sound.absent_of_referenced found referenced
      obtain ⟨after, rfl, kept, evolved⟩ := settled sound.freeable_slots
        (fun other => ⟨fun member => ⟨member, fun same => absent (same ▸ member)⟩, And.left⟩)
        fun _ => id
      exact ⟨true, _, rfl, kept, evolved, nofun⟩

theorem Sound.of_evicted (sound : manager.Sound numEmbeds) {size : Nat}
    {rest : OrderedDict MmHash Nat}
    (popped : manager.freeable.popFirst? = some ((mmHash, size), rest)) :
    (manager.evictEntry mmHash size rest).Sound numEmbeds := by
  have first := entries_of_popFirst? popped
  have keys : manager.freeable.keys = mmHash :: rest.keys := by
    rw [OrderedDict.keys, first]
    rfl
  have oldest : mmHash ∈ manager.freeable.keys := by
    rw [keys]
    exact mem_cons_self
  have sized : size = numEmbeds mmHash :=
    sound.sizes (mmHash, size) (by rw [first]; exact mem_cons_self)
  have fewer := @weigh_of_popFirst? _ _ numEmbeds _ _ _ popped
  have gone := @weigh_erase _ _ numEmbeds _ _ _ (sound.mem_cached_of_freeable oldest)
  have distinct : mmHash ∉ rest.keys := by
    have whole := manager.freeable.keys_nodup
    rw [keys] at whole
    exact (nodup_cons.mp whole).1
  have before := sound.free_slots
  have beforeReclaimable := sound.freeable_slots
  dsimp only at fewer
  refine ⟨?_, ?_, ?_, ?_, ?_⟩
  · dsimp only [evictEntry]
    omega
  · dsimp only [evictEntry]
    omega
  · intro other
    have same := sound.unreferenced other
    rw [keys, mem_cons] at same
    dsimp only [evictEntry]
    rw [get?_erase]
    by_cases named : other = mmHash
    · simp [named, distinct]
    · simpa [named] using same
  · intro entry member
    apply sound.sizes
    rw [first]
    exact mem_cons_of_mem _ member
  · have room := sound.room
    dsimp only [evictEntry]
    omega

theorem Evolves.of_evicted (request : EncoderRequest)
    (present : mmHash ∈ manager.cached.keys) (size : Nat) (rest : OrderedDict MmHash Nat) :
    Evolves request manager (manager.evictEntry mmHash size rest) where
  size := rfl
  grows := by
    dsimp only [evictEntry]
    omega
  moved := by
    dsimp only [evictEntry]
    rw [append_assoc]
    exact (keys_perm_erase present).append_left manager.freed
  fewer other member := (mem_keys_erase.mp member).1
  ids requestId id member := .inl member

theorem evictUntil_spec (request : EncoderRequest) (sound : manager.Sound numEmbeds)
    {needed : Int} (enough : needed ≤ manager.numFreeableSlots) :
    ∃ after, manager.evictUntil needed = .ok after ∧ after.Sound numEmbeds ∧
      Evolves request manager after ∧ needed ≤ after.numFreeSlots := by
  -- Induction on the number of freeable entries; each round takes the oldest of them.
  induction size : manager.freeable.entries.length generalizing manager with
  | zero =>
    have none : manager.freeable.weigh numEmbeds = 0 := by
      simp [weigh, OrderedDict.keys, length_eq_zero_iff.mp size]
    have fits : ¬ manager.numFreeSlots < needed := by
      have := sound.freeable_slots
      omega
    rw [evictUntil, if_neg fits]
    exact ⟨manager, rfl, sound, Evolves.refl request manager, by omega⟩
  | succ count ih =>
    rw [evictUntil]
    by_cases short : manager.numFreeSlots < needed
    · rw [if_pos short]
      split
      · rename_i empty
        rw [popFirst?_eq_none_iff] at empty
        simp [empty] at size
      · rename_i mmHash embeds rest popped
        have first := entries_of_popFirst? popped
        have present : mmHash ∈ manager.cached.keys := by
          apply sound.mem_cached_of_freeable
          rw [OrderedDict.keys, first]
          exact mem_cons_self
        rw [if_pos present]
        have shorter : rest.entries.length = count := by
          rw [first] at size
          exact Nat.succ.inj size
        obtain ⟨after, done, settled, evolved, fits⟩ :=
          ih (sound.of_evicted popped) enough shorter
        have evicted := Evolves.of_evicted request present embeds rest
        exact ⟨after, done, settled, evicted.trans evolved, fits⟩
    · rw [if_neg short]
      exact ⟨manager, rfl, sound, Evolves.refl request manager, by omega⟩

theorem canAllocate_spec (sound : manager.Sound numEmbeds)
    (sized : SizedBy numEmbeds request.mmFeatures)
    (input : request.mmFeatures[inputId]? = some feature) (budget toSchedule : Int) :
    ∃ room after, manager.canAllocate request inputId budget toSchedule = .ok (room, after) ∧
      after.Sound numEmbeds ∧ Evolves request manager after ∧
      (room = true → numEmbeds feature.identifier + toSchedule ≤ after.numFreeSlots) := by
  unfold canAllocate
  rw [getNumEncoderEmbeds_of_get sized input, ok_bind]
  have unchanged := Evolves.refl request manager
  by_cases expensive : budget < numEmbeds feature.identifier
  · rw [if_pos expensive]
    exact ⟨false, manager, rfl, sound, unchanged, nofun⟩
  rw [if_neg expensive]
  by_cases fits : numEmbeds feature.identifier + toSchedule ≤ manager.numFreeSlots
  · rw [if_pos fits]
    exact ⟨true, manager, rfl, sound, unchanged, fun _ => fits⟩
  rw [if_neg fits]
  by_cases full : manager.numFreeableSlots < numEmbeds feature.identifier + toSchedule
  · rw [if_pos full]
    exact ⟨false, manager, rfl, sound, unchanged, nofun⟩
  rw [if_neg full]
  obtain ⟨after, done, settled, evolved, enough⟩ := evictUntil_spec request sound (not_lt.mp full)
  rw [done, ok_bind]
  exact ⟨true, after, rfl, settled, evolved, fun _ => enough⟩

structure Allocates (numEmbeds : MmHash → Nat) (request : EncoderRequest) (feature : EncoderInput)
    (before after : EncoderCacheManager) : Prop where
  size : after.cacheSize = before.cacheSize
  slots : after.numFreeSlots = before.numFreeSlots - numEmbeds feature.identifier
  freed : after.freed = before.freed
  keys : after.cached.keys = before.cached.keys ++ [feature.identifier]
  ids : ∀ requestId inputId, inputId ∈ after.getCachedInputIds requestId →
    inputId ∈ before.getCachedInputIds requestId ∨
      (requestId = request.requestId ∧ inputId < request.mmFeatures.length)

section

variable (sound : manager.Sound numEmbeds)

include sound

theorem allocate_spec (sized : SizedBy numEmbeds request.mmFeatures)
    (input : request.mmFeatures[inputId]? = some feature)
    (absent : feature.identifier ∉ manager.cached.keys)
    (fits : numEmbeds feature.identifier ≤ manager.numFreeSlots) :
    ∃ after, manager.allocate request inputId = .ok after ∧ after.Sound numEmbeds ∧
      Allocates numEmbeds request feature manager after := by
  have inside : inputId < request.mmFeatures.length := List.getElem?_eq_some_iff.mp input |>.1
  have missing : manager.cached.get? feature.identifier = none :=
    get?_eq_none_iff.mpr absent
  have slots := sound.free_slots
  have reclaimable := sound.freeable_slots
  have alsoFits : numEmbeds feature.identifier ≤ manager.numFreeableSlots := by omega
  unfold allocate
  rw [mmFeature_of_get input, ok_bind, getNumEncoderEmbeds_of_get sized input, ok_bind]
  simp only [decide_eq_true fits, decide_eq_true alsoFits]
  refine ⟨_, rfl, ⟨?_, ?_, ?_, ?_, ?_⟩, ⟨rfl, rfl, rfl, ?_, ?_⟩⟩
  · dsimp only [addCachedId, addReference]
    rw [weigh_insert_of_absent absent]
    omega
  · dsimp only [addCachedId, addReference]
    omega
  · intro other
    dsimp only [addCachedId, addReference]
    rw [get?_insert]
    by_cases named : other = feature.identifier
    · have unlisted : feature.identifier ∉ manager.freeable.keys :=
        fun listed => absent (sound.mem_cached_of_freeable listed)
      simp [named, unlisted]
    · rw [if_neg named]
      exact sound.unreferenced other
  · exact sound.sizes
  · dsimp only [addCachedId, addReference]
    omega
  · exact keys_insert_of_absent absent
  · intro requestId id member
    refine (mem_getCachedInputIds_addCachedId.mp member).imp_right fun mine => ?_
    exact ⟨mine.1, mine.2 ▸ inside⟩

theorem dropCachedId_sound (requestId : RequestId) (inputId : Nat) :
    (manager.dropCachedId requestId inputId).Sound numEmbeds := by
  unfold dropCachedId
  split
  · exact sound
  · exact ⟨sound.free_slots, sound.freeable_slots, sound.unreferenced, sound.sizes, sound.room⟩

theorem freeEncoderInput_spec (sized : SizedBy numEmbeds request.mmFeatures)
    (input : request.mmFeatures[inputId]? = some feature) :
    ∃ after, manager.freeEncoderInput request inputId = .ok after ∧ after.Sound numEmbeds ∧
      Evolves request manager after ∧ after.freed = manager.freed ∧
      ∀ requestId, after.getCachedInputIds requestId =
        (manager.dropCachedId request.requestId inputId).getCachedInputIds requestId := by
  unfold freeEncoderInput
  rw [mmFeature_of_get input, ok_bind]
  have kept := dropCachedId_sound sound request.requestId inputId
  have evolved : Evolves request manager (manager.dropCachedId request.requestId inputId) ∧
      (manager.dropCachedId request.requestId inputId).freed = manager.freed := by
    have same : (manager.dropCachedId request.requestId inputId).cacheSize = manager.cacheSize ∧
        (manager.dropCachedId request.requestId inputId).numFreeSlots = manager.numFreeSlots ∧
        (manager.dropCachedId request.requestId inputId).freed = manager.freed ∧
        (manager.dropCachedId request.requestId inputId).cached = manager.cached := by
      unfold dropCachedId
      split <;> simp
    refine ⟨Evolves.of_sameKeys same.1 same.2.1 same.2.2.1 (by rw [same.2.2.2]) ?_, same.2.2.1⟩
    intro requestId id member
    rw [getCachedInputIds_dropCachedId] at member
    split at member
    · exact .inl (mem_of_mem_filter member)
    · exact .inl member
  obtain ⟨evolved, freed⟩ := evolved
  dsimp only
  generalize manager.dropCachedId request.requestId inputId = dropped at kept evolved freed ⊢
  cases found : dropped.cached.get? feature.identifier with
  | none => exact ⟨dropped, rfl, kept, evolved, freed, fun _ => rfl⟩
  | some references =>
    dsimp only
    by_cases unreferenced : references = ∅
    · rw [if_pos unreferenced]
      exact ⟨dropped, rfl, kept, evolved, freed, fun _ => rfl⟩
    rw [if_neg unreferenced]
    have present := mem_keys_of_get? found
    have absent := kept.absent_of_referenced found unreferenced
    have settled {freeable : OrderedDict MmHash Nat} {reclaimable : Int} : Evolves request dropped
        { dropped with
          cached := dropped.cached.insert feature.identifier (references.erase request.requestId)
          freeable
          numFreeableSlots := reclaimable } :=
      Evolves.of_sameKeys rfl rfl rfl (keys_insert_of_mem present) fun _ _ member => .inl member
    by_cases last : references.erase request.requestId = ∅
    · rw [if_pos last, getNumEncoderEmbeds_of_get sized input, ok_bind]
      refine ⟨_, rfl, kept.reassign present ?_ (fun other => ?_) ?_ _,
        evolved.trans settled, freed, fun _ => rfl⟩
      · rw [kept.freeable_slots, weigh_insert_of_absent absent]
        omega
      · by_cases same : other = feature.identifier <;> simp [same, last]
      · intro entry member
        rcases mem_entries_insert.mp member with rfl | ⟨old, _⟩
        · rfl
        · exact kept.sizes entry old
    · rw [if_neg last]
      refine ⟨_, rfl, kept.reassign present kept.freeable_slots (fun other => ?_) kept.sizes _,
        evolved.trans settled, freed, fun _ => rfl⟩
      by_cases same : other = feature.identifier <;> simp [same, last, absent]

theorem freeEncoderInputs_spec (sized : SizedBy numEmbeds request.mmFeatures)
    {inputIds : List Nat}
    (inputs : ∀ inputId ∈ inputIds, inputId < request.mmFeatures.length) :
    ∃ after, manager.freeEncoderInputs request inputIds = .ok after ∧ after.Sound numEmbeds ∧
      Evolves request manager after ∧ after.freed = manager.freed ∧
      ∀ requestId, after.getCachedInputIds requestId =
        if requestId = request.requestId then
          (manager.getCachedInputIds requestId).filter (· ∉ inputIds)
        else manager.getCachedInputIds requestId := by
  induction inputIds generalizing manager with
  | nil =>
    refine ⟨manager, rfl, sound, Evolves.refl request manager, rfl, fun requestId => ?_⟩
    simp
  | cons inputId rest ih =>
    obtain ⟨first, others⟩ := forall_mem_cons.mp inputs
    have input := getElem?_eq_getElem first
    obtain ⟨_, freed, settled, evolved, unreported, ids⟩ := freeEncoderInput_spec sound sized input
    obtain ⟨after, done, final, evolving, still, left⟩ := ih settled others
    refine ⟨after, ?_, final, evolved.trans evolving, still.trans unreported, fun requestId => ?_⟩
    · unfold freeEncoderInputs at done ⊢
      rw [foldlM_cons, freed, ok_bind, done]
    · rw [left, ids, getCachedInputIds_dropCachedId]
      split
      · rw [filter_filter]
        apply filter_congr
        intro id _
        simp [Bool.and_comm]
      · rfl

end

end EncoderCacheManager

end VllmEngine
