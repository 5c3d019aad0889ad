import VllmEngine.Encoder.EncoderCacheSound
import VllmEngine.Shared.Ensures

set_option autoImplicit false

namespace VllmEngine

open EncoderCacheManager Outcome List EncoderRequest Outcome.Ensures

variable {numEmbeds : MmHash → Nat}

namespace EncoderRequest

def identifiers (request : EncoderRequest) (inputIds : List Nat) : List MmHash :=
  inputIds.filterMap fun inputId => (request.mmFeatures[inputId]?).map fun feature =>
    feature.identifier

theorem identifiers_cons {request : EncoderRequest} {inputId : Nat} {rest : List Nat}
    {feature : EncoderInput} (input : request.mmFeatures[inputId]? = some feature) :
    request.identifiers (inputId :: rest) = feature.identifier :: request.identifiers rest := by
  simp [identifiers, input]

theorem identifiers_perm (request : EncoderRequest) {inputIds others : List Nat}
    (same : inputIds.Perm others) :
    (request.identifiers inputIds).Perm (request.identifiers others) :=
  same.filterMap _

structure Allocatable (numEmbeds : MmHash → Nat) (request : EncoderRequest)
    (manager : EncoderCacheManager) (inputIds : List Nat) : Prop where
  inputs : ∀ inputId ∈ inputIds, inputId < request.mmFeatures.length
  distinct : (request.identifiers inputIds).Nodup
  absent : ∀ mmHash ∈ request.identifiers inputIds, mmHash ∉ manager.cached.keys
  fits : (((request.identifiers inputIds).map numEmbeds).sum : Int) ≤ manager.numFreeSlots

variable {request : EncoderRequest} {manager after : EncoderCacheManager}
  {inputIds : List Nat}

theorem Allocatable.evolve {other : EncoderRequest}
    (allocatable : request.Allocatable numEmbeds manager inputIds)
    (evolved : Evolves other manager after) : request.Allocatable numEmbeds after inputIds where
  inputs := allocatable.inputs
  distinct := allocatable.distinct
  absent mmHash member cached := allocatable.absent mmHash member (evolved.fewer mmHash cached)
  fits := allocatable.fits.trans evolved.grows

theorem Allocatable.perm {others : List Nat}
    (allocatable : request.Allocatable numEmbeds manager inputIds) (same : inputIds.Perm others) :
    request.Allocatable numEmbeds manager others := by
  have identifiers := request.identifiers_perm same
  refine ⟨fun inputId member => ?_, ?_, fun mmHash member => ?_, ?_⟩
  · exact allocatable.inputs inputId (same.mem_iff.mpr member)
  · exact identifiers.nodup_iff.mp allocatable.distinct
  · exact allocatable.absent mmHash (identifiers.mem_iff.mpr member)
  · rw [← (identifiers.map numEmbeds).sum_eq]
    exact allocatable.fits

end EncoderRequest

namespace EncoderPlan

structure Planned (numEmbeds : MmHash → Nat) (request : EncoderRequest) (plan : EncoderPlan) :
    Prop where
  sound : plan.manager.Sound numEmbeds
  allocatable : request.Allocatable numEmbeds plan.manager
    (plan.encoderInputsToSchedule ++ plan.externalLoadEncoderInput)
  hashes : ∀ mmHash, mmHash ∈ plan.mmHashesToSchedule ↔ mmHash ∈ request.identifiers
    (plan.encoderInputsToSchedule ++ plan.externalLoadEncoderInput)
  embeds : plan.numEmbedsToSchedule = ((request.identifiers
    (plan.encoderInputsToSchedule ++ plan.externalLoadEncoderInput)).map numEmbeds).sum

variable {request : EncoderRequest} {plan : EncoderPlan} {inputId : Nat}
  {feature : EncoderInput}

theorem Planned.evolve (planned : plan.Planned numEmbeds request) {manager : EncoderCacheManager}
    (sound : manager.Sound numEmbeds) (evolved : Evolves request plan.manager manager) :
    Planned numEmbeds request { plan with manager := manager } where
  sound := sound
  allocatable := planned.allocatable.evolve evolved
  hashes := planned.hashes
  embeds := planned.embeds

section

variable (planned : plan.Planned numEmbeds request) (input : request.mmFeatures[inputId]? = some feature)
  (unscheduled : feature.identifier ∉ plan.mmHashesToSchedule)
  (uncached : feature.identifier ∉ plan.manager.cached.keys)
  (room : numEmbeds feature.identifier + plan.numEmbedsToSchedule ≤ plan.manager.numFreeSlots)

include planned input unscheduled uncached room

theorem Planned.add {after : EncoderPlan} (manager : after.manager = plan.manager)
    (inputs : (after.encoderInputsToSchedule ++ after.externalLoadEncoderInput).Perm
      (inputId :: (plan.encoderInputsToSchedule ++ plan.externalLoadEncoderInput)))
    (hashes : after.mmHashesToSchedule = plan.mmHashesToSchedule ++ [feature.identifier])
    (embeds : after.numEmbedsToSchedule = plan.numEmbedsToSchedule + numEmbeds feature.identifier) :
    after.Planned numEmbeds request := by
  have inside : inputId < request.mmFeatures.length := List.getElem?_eq_some_iff.mp input |>.1
  have longer : request.Allocatable numEmbeds plan.manager
      (inputId :: (plan.encoderInputsToSchedule ++ plan.externalLoadEncoderInput)) := by
    refine ⟨?_, ?_, ?_, ?_⟩
    · exact List.forall_mem_cons.mpr ⟨inside, planned.allocatable.inputs⟩
    · rw [identifiers_cons input, nodup_cons, ← planned.hashes]
      exact ⟨unscheduled, planned.allocatable.distinct⟩
    · rw [identifiers_cons input]
      exact List.forall_mem_cons.mpr ⟨uncached, planned.allocatable.absent⟩
    · rw [identifiers_cons input, map_cons, sum_cons]
      have sum := planned.embeds
      rw [Int.natCast_add]
      omega
  have identifiers := request.identifiers_perm inputs
  refine ⟨manager ▸ planned.sound, manager ▸ longer.perm inputs.symm, ?_, ?_⟩
  · intro mmHash
    rw [identifiers.mem_iff, hashes, identifiers_cons input, mem_append, mem_singleton, mem_cons,
      planned.hashes, or_comm]
  · rw [embeds, planned.embeds, (identifiers.map numEmbeds).sum_eq, identifiers_cons input, map_cons,
      sum_cons, Int.natCast_add]
    omega

theorem Planned.load :
    (plan.load inputId feature.identifier (numEmbeds feature.identifier)).Planned numEmbeds
      request := by
  refine planned.add input unscheduled uncached room rfl ?_ rfl rfl
  dsimp only [EncoderPlan.load]
  rw [← append_assoc]
  exact perm_append_comm

theorem Planned.schedule :
    (plan.schedule inputId feature.identifier (numEmbeds feature.identifier)).Planned numEmbeds
      request := by
  refine planned.add input unscheduled uncached room rfl ?_ rfl rfl
  dsimp only [EncoderPlan.schedule]
  rw [append_assoc]
  exact perm_middle

end

end EncoderPlan

namespace EncoderRound

def plan : EncoderRound → EncoderPlan
  | .next plan => plan
  | .stop plan => plan

end EncoderRound

section Planning

variable {config : EncoderConfig} {request : EncoderRequest} {call : EncoderCall}
  {plan : EncoderPlan} {inputId : Nat}

section

variable (sized : SizedBy numEmbeds request.mmFeatures)

include sized

theorem scheduleEncoderInput_spec (planned : plan.Planned numEmbeds request)
    (inside : inputId < request.mmFeatures.length) :
    ∃ round, scheduleEncoderInput config request call plan inputId = .ok round ∧
      round.plan.Planned numEmbeds request ∧ Evolves request plan.manager round.plan.manager := by
  have input := getElem?_eq_getElem inside
  generalize request.mmFeatures[inputId] = feature at input
  unfold scheduleEncoderInput
  rw [mmFeature_of_get input, ok_bind]
  by_cases twice : feature.identifier ∈ plan.mmHashesToSchedule
  · rw [if_pos twice]
    exact ⟨.next plan, rfl, planned, Evolves.refl request plan.manager⟩
  rw [if_neg twice]
  obtain ⟨found, _, checked, sound, evolved, uncached⟩ :=
    checkAndUpdateCache_spec planned.sound input
  have touchedPlan := planned.evolve sound evolved
  rw [checked, ok_bind]
  cases found with
  | true => exact ⟨_, rfl, touchedPlan, evolved⟩
  | false =>
    rw [if_neg Bool.false_ne_true]
    split
    · exact ⟨_, rfl, ⟨touchedPlan.sound, touchedPlan.allocatable, touchedPlan.hashes,
        touchedPlan.embeds⟩, evolved⟩
    obtain ⟨room, cleared, allocated, clearedSound, evicted, enough⟩ :=
      canAllocate_spec sound sized input plan.encoderComputeBudget plan.numEmbedsToSchedule
    have clearedPlan := touchedPlan.evolve clearedSound evicted
    have both := evolved.trans evicted
    rw [allocated, ok_bind]
    dsimp only
    cases room with
    | false => exact ⟨_, rfl, ⟨clearedPlan.sound, clearedPlan.allocatable, clearedPlan.hashes,
        clearedPlan.embeds⟩, both⟩
    | true =>
      rw [if_neg (by decide)]
      rw [sized feature (mem_of_getElem? input)]
      split
      · exact ⟨_, rfl, clearedPlan, both⟩
      have missing : feature.identifier ∉ cleared.cached.keys :=
        fun cached => uncached rfl (both.fewer feature.identifier cached)
      split
      · exact ⟨_, rfl, clearedPlan.load input twice missing (enough rfl), both⟩
      · exact ⟨_, rfl, clearedPlan.schedule input twice missing (enough rfl), both⟩

theorem scheduleEncoderInputs_spec (planned : plan.Planned numEmbeds request) {inputIds : List Nat}
    (inside : ∀ inputId ∈ inputIds, inputId < request.mmFeatures.length) :
    ∃ final, scheduleEncoderInputs config request call plan inputIds = .ok final ∧
      final.Planned numEmbeds request ∧ Evolves request plan.manager final.manager := by
  induction inputIds generalizing plan with
  | nil => exact ⟨plan, rfl, planned, Evolves.refl request plan.manager⟩
  | cons inputId rest ih =>
    obtain ⟨first, others⟩ := forall_mem_cons.mp inside
    obtain ⟨round, scheduled, roundPlanned, evolved⟩ :=
      @scheduleEncoderInput_spec _ config request call plan inputId sized planned first
    rw [scheduleEncoderInputs, scheduled]
    cases round with
    | stop next => exact ⟨next, rfl, roundPlanned, evolved⟩
    | next next =>
      obtain ⟨final, done, finalPlanned, evolving⟩ := ih roundPlanned others
      exact ⟨final, done, finalPlanned, evolved.trans evolving⟩

end

theorem bisectLeft_le_length {A : Type} (items : List A) (bound : Int) (key : A → Int) :
    bisectLeft items bound key ≤ items.length :=
  (takeWhile_sublist _).length_le

theorem tryScheduleEncoderInputs_spec {manager : EncoderCacheManager}
    (sound : manager.Sound numEmbeds) (sized : SizedBy numEmbeds request.mmFeatures)
    (config : EncoderConfig) (call : EncoderCall) :
    ∃ final, tryScheduleEncoderInputs config manager request call = .ok final ∧
      final.Planned numEmbeds request ∧ Evolves request manager final.manager := by
  unfold tryScheduleEncoderInputs
  have initial : EncoderPlan.Planned numEmbeds request
      { manager := manager
        encoderInputsToSchedule := []
        externalLoadEncoderInput := []
        mmHashesToSchedule := []
        numEmbedsToSchedule := 0
        encoderComputeBudget := call.encoderComputeBudget
        numNewTokens := call.numNewTokens } := by
    refine ⟨sound, ⟨?_, ?_, ?_, ?_⟩, ?_, ?_⟩ <;> simp [identifiers, sound.room]
  split
  · exact ⟨_, rfl, initial, Evolves.refl request manager⟩
  · refine scheduleEncoderInputs_spec sized initial fun inputId member => ?_
    have within := mem_range'_1.mp member
    have bound := bisectLeft_le_length request.mmFeatures
      (call.numComputedTokens + call.numNewTokens + config.shiftComputedTokens)
      fun feature => (feature.offset : Int)
    simp only [getMmFeaturesInWindow] at within
    omega

end Planning

def EncoderOp.mmFeatures : EncoderOp → List EncoderInput
  | .addRequest request => request.mmFeatures
  | .extendSession _ mmFeatures => mmFeatures
  | _ => []

namespace EncoderState

def NotIssued (error : Option PyError) : Prop := error = none

structure Sound (numEmbeds : MmHash → Nat) (state : EncoderState) : Prop where
  manager : state.manager.Sound numEmbeds
  sized : ∀ requestId, ∀ mmFeatures ∈ state.requests.get? requestId, SizedBy numEmbeds mmFeatures
  embeds : ∀ mmHash ∈ state.manager.cached.keys, state.embeds mmHash = numEmbeds mmHash
  known : ∀ requestId inputId, inputId ∈ state.manager.getCachedInputIds requestId →
    ∃ mmFeatures, state.requests.get? requestId = some mmFeatures ∧ inputId < mmFeatures.length
  logged : state.allocated.Perm
    (state.reported ++ (state.manager.freed ++ state.manager.cached.keys))

variable {state : EncoderState} {request : EncoderRequest}

def Knows (state : EncoderState) (request : EncoderRequest) : Prop :=
  state.requests.get? request.requestId = some request.mmFeatures

theorem request_ensures (state : EncoderState) (requestId : RequestId) :
    Outcome.Ensures NotIssued
      (fun request => state.Knows request ∧ request.requestId = requestId)
      (state.request requestId) := by
  unfold EncoderState.request
  split
  · rfl
  · rename_i mmFeatures found
    exact ⟨found, rfl⟩

theorem Sound.evolve (sound : state.Sound numEmbeds) (known : state.Knows request)
    {manager : EncoderCacheManager} (kept : manager.Sound numEmbeds)
    (evolved : Evolves request state.manager manager) :
    Sound numEmbeds { state with manager := manager } where
  manager := kept
  sized := sound.sized
  embeds mmHash member := sound.embeds mmHash (evolved.fewer mmHash member)
  known requestId inputId member := by
    rcases evolved.ids requestId inputId member with before | ⟨rfl, inside⟩
    · exact sound.known requestId inputId before
    · exact ⟨request.mmFeatures, known, inside⟩
  logged := sound.logged.trans (evolved.moved.append_left state.reported)

theorem Sound.sized_insert (sound : state.Sound numEmbeds) {requestId : RequestId}
    {mmFeatures : List EncoderInput} (sized : SizedBy numEmbeds mmFeatures) (other : RequestId) :
    ∀ known ∈ (state.requests.insert requestId mmFeatures).get? other, SizedBy numEmbeds known := by
  intro known found
  rw [OrderedDict.get?_insert] at found
  split_ifs at found
  · exact Option.some.inj found ▸ sized
  · exact sound.sized other known found

theorem Sound.inputs (sound : state.Sound numEmbeds) (known : state.Knows request) :
    ∀ inputId ∈ state.manager.getCachedInputIds request.requestId,
      inputId < request.mmFeatures.length := by
  intro inputId member
  obtain ⟨mmFeatures, listed, inside⟩ := sound.known request.requestId inputId member
  rw [known] at listed
  exact Option.some.inj listed ▸ inside

theorem freeRequest_ensures (sound : state.Sound numEmbeds) (requestId : RequestId) :
    Outcome.Ensures NotIssued
      (fun next => next.Sound numEmbeds ∧ next.requests = state.requests ∧
        next.manager.getCachedInputIds requestId = [] ∧
        next.manager.freed = state.manager.freed ∧
        ∃ request : EncoderRequest, Evolves request state.manager next.manager)
      (state.freeRequest requestId) := by
  refine (request_ensures state requestId).bind fun request found => ?_
  obtain ⟨known, rfl⟩ := found
  obtain ⟨after, freed, settled, evolved, unreported, ids⟩ :=
    freeEncoderInputs_spec sound.manager (sound.sized _ _ known) (sound.inputs known)
  have done : raised (state.manager.free request) = .ok after := by
    rw [EncoderCacheManager.free, freed]
    rfl
  rw [done, ok_bind]
  refine ⟨sound.evolve known settled evolved, rfl, ?_, unreported, request, evolved⟩
  rw [ids, if_pos rfl]
  simp

structure Awaiting (numEmbeds : MmHash → Nat) (request : EncoderRequest) (inputIds : List Nat)
    (state : EncoderState) : Prop where
  sound : state.Sound numEmbeds
  known : state.Knows request
  allocatable : request.Allocatable numEmbeds state.manager inputIds

theorem Awaiting.freeRequests {inputIds : List Nat}
    (awaiting : Awaiting numEmbeds request inputIds state) (preempted : List RequestId) :
    Outcome.Ensures NotIssued (Awaiting numEmbeds request inputIds)
      (state.freeRequests preempted) := by
  refine foldlM (fun state requestId _ awaiting => ?_) awaiting
  refine (freeRequest_ensures awaiting.sound requestId).imp fun next freed => ?_
  obtain ⟨sound, requests, _, _, _, evolved⟩ := freed
  refine ⟨sound, ?_, awaiting.allocatable.evolve evolved⟩
  rw [Knows, requests]
  exact awaiting.known

theorem Awaiting.allocate {inputId : Nat} {rest : List Nat}
    (awaiting : Awaiting numEmbeds request (inputId :: rest) state) :
    ∃ manager feature, state.manager.allocate request inputId = .ok manager ∧
      request.mmFeature inputId = .ok feature ∧
      Awaiting numEmbeds request rest
        { state with
          manager := manager
          allocated := state.allocated ++ [feature.identifier]
          embeds := Function.update state.embeds feature.identifier feature.getNumEmbeds } := by
  obtain ⟨sound, known, inputs, distinct, absent, fits⟩ := awaiting
  obtain ⟨first, others⟩ := forall_mem_cons.mp inputs
  have sized := sound.sized _ _ known
  have input := getElem?_eq_getElem first
  generalize request.mmFeatures[inputId] = feature at input
  rw [identifiers_cons input] at distinct absent fits
  obtain ⟨missing, absent⟩ := forall_mem_cons.mp absent
  obtain ⟨different, distinct⟩ := nodup_cons.mp distinct
  rw [map_cons, sum_cons] at fits
  obtain ⟨manager, allocated, settled, _, _, freed, keys, ids⟩ :=
    allocate_spec sound.manager sized input missing (by omega)
  refine ⟨manager, feature, allocated, mmFeature_of_get input, ?_⟩
  refine ⟨⟨settled, sound.sized, fun mmHash cached => ?_, ?_, ?_⟩, known, others, distinct, ?_, ?_⟩
  · dsimp only
    rw [Function.update_apply]
    rw [keys, mem_append, mem_singleton] at cached
    split_ifs with same
    · rw [same]
      exact sized feature (mem_of_getElem? input)
    · exact sound.embeds mmHash (cached.resolve_right same)
  · intro requestId id member
    rcases ids requestId id member with before | ⟨rfl, inside⟩
    · exact sound.known requestId id before
    · exact ⟨request.mmFeatures, known, inside⟩
  · dsimp only
    rw [freed, keys, ← append_assoc, ← append_assoc]
    apply Perm.append_right
    rw [append_assoc]
    exact sound.logged
  · intro mmHash member cached
    rw [keys, mem_append, mem_singleton] at cached
    rcases cached with old | rfl
    · exact absent mmHash member old
    · exact different member
  · dsimp only
    omega

theorem Awaiting.allocateInputs {inputIds rest : List Nat}
    (awaiting : Awaiting numEmbeds request (inputIds ++ rest) state) :
    ∃ next, state.allocateInputs request inputIds = .ok next ∧
      Awaiting numEmbeds request rest next := by
  induction inputIds generalizing state with
  | nil => exact ⟨state, rfl, awaiting⟩
  | cons inputId others ih =>
    obtain ⟨_, _, allocated, input, awaiting⟩ := awaiting.allocate
    obtain ⟨next, done, awaiting⟩ := ih awaiting
    refine ⟨next, ?_, awaiting⟩
    unfold EncoderState.allocateInputs at done ⊢
    rw [foldlM_cons, allocated, ok_bind, input, ok_bind]
    exact done

theorem attempt_ensures (config : EncoderConfig) (sound : state.Sound numEmbeds)
    (attempted : EncoderAttempt) :
    Outcome.Ensures NotIssued (Sound numEmbeds) (state.attempt config attempted) := by
  refine (request_ensures state attempted.requestId).bind fun request found => ?_
  obtain ⟨known, _⟩ := found
  obtain ⟨plan, tried, planned, evolved⟩ :=
    tryScheduleEncoderInputs_spec sound.manager (sound.sized _ _ known) config attempted.call
  have done : raised (tryScheduleEncoderInputs config state.manager request attempted.call) =
      .ok plan := by
    rw [tried]
    rfl
  rw [done, ok_bind]
  have awaiting : Awaiting numEmbeds request
      (plan.encoderInputsToSchedule ++ plan.externalLoadEncoderInput)
      { state with manager := plan.manager } :=
    ⟨sound.evolve known planned.sound evolved, known, planned.allocatable⟩
  cases attempted.outcome with
  | skipped => exact awaiting.sound
  | refused preempted =>
    refine (awaiting.freeRequests preempted).bind fun next waiting => ?_
    exact (freeRequest_ensures waiting.sound attempted.requestId).imp fun _ freed => freed.1
  | scheduled preempted =>
    refine (awaiting.freeRequests preempted).bind fun next waiting => ?_
    obtain ⟨encoded, first, loading⟩ := waiting.allocateInputs
    rw [first]
    change Outcome.Ensures NotIssued (Sound numEmbeds)
      (raised (encoded.allocateInputs request plan.externalLoadEncoderInput))
    rw [← append_nil plan.externalLoadEncoderInput] at loading
    obtain ⟨_, second, settled⟩ := loading.allocateInputs
    rw [second]
    exact settled.sound

structure Exact (state : EncoderState) : Prop where
  free_slots :
    state.manager.numFreeSlots =
      state.manager.cacheSize - (state.manager.cached.weigh state.embeds : Int)
  freeable_slots :
    state.manager.numFreeableSlots =
      state.manager.numFreeSlots + state.manager.freeable.weigh state.embeds
  unreferenced : ∀ mmHash,
    mmHash ∈ state.manager.freeable.keys ↔ state.manager.cached.get? mmHash = some ∅
  reported : state.allocated.Perm (state.reported ++ state.manager.cached.keys)

structure Settled (numEmbeds : MmHash → Nat) (state : EncoderState) : Prop
    extends Sound numEmbeds state where
  unreported : state.manager.freed = []

theorem Settled.exact (settled : state.Settled numEmbeds) : state.Exact where
  free_slots := by
    rw [settled.manager.free_slots, OrderedDict.weigh_congr settled.embeds]
  freeable_slots := by
    rw [settled.manager.freeable_slots, OrderedDict.weigh_congr fun mmHash member =>
      settled.embeds mmHash (settled.manager.mem_cached_of_freeable member)]
  unreferenced := settled.manager.unreferenced
  reported := by
    have logged := settled.logged
    rwa [settled.unreported, nil_append] at logged

theorem freeProcessed_ensures (config : EncoderConfig) (settled : state.Settled numEmbeds)
    (requestId : RequestId) (numComputedTokens : Int) :
    Outcome.Ensures NotIssued (Settled numEmbeds)
      (state.step config (.freeProcessed requestId numComputedTokens)) := by
  refine (request_ensures state requestId).bind fun request found => ?_
  obtain ⟨known, rfl⟩ := found
  dsimp only [processedInputs]
  obtain ⟨_, freed, kept, evolved, unreported, _⟩ := freeEncoderInputs_spec settled.manager
    (settled.sized _ _ known) fun _ member => settled.toSound.inputs known _ (mem_of_mem_filter member)
  rw [freed]
  exact ⟨settled.toSound.evolve known kept evolved, unreported.trans settled.unreported⟩

theorem step_ensures (config : EncoderConfig) (settled : state.Settled numEmbeds) (op : EncoderOp)
    (sized : SizedBy numEmbeds op.mmFeatures) :
    Outcome.Ensures NotIssued (Settled numEmbeds) (state.step config op) := by
  cases op with
  | addRequest request =>
    cases found : state.requests.get? request.requestId with
    | some mmFeatures => simp [step, found, Outcome.Ensures, NotIssued]
    | none =>
      simp only [step, found]
      refine of_ok ⟨⟨settled.manager, settled.sized_insert sized, settled.embeds,
        fun requestId inputId member => ?_, settled.logged⟩, settled.unreported⟩
      obtain ⟨mmFeatures, listed, inside⟩ := settled.known requestId inputId member
      refine ⟨mmFeatures, ?_, inside⟩
      rw [OrderedDict.get?_insert, if_neg]
      · exact listed
      · rintro rfl
        rw [found] at listed
        cases listed
  | extendSession requestId mmFeatures =>
    refine (request_ensures state requestId).bind fun request found => ?_
    obtain ⟨known, rfl⟩ := found
    have whole : SizedBy numEmbeds (request.mmFeatures ++ mmFeatures) :=
      forall_mem_append.mpr ⟨settled.sized _ _ known, sized⟩
    refine ⟨⟨settled.manager, settled.sized_insert whole, settled.embeds,
      fun other inputId member => ?_, settled.logged⟩, settled.unreported⟩
    obtain ⟨before, listed, inside⟩ := settled.known other inputId member
    rw [OrderedDict.get?_insert]
    by_cases same : other = request.requestId
    · subst same
      rw [known] at listed
      rw [if_pos rfl]
      refine ⟨_, rfl, ?_⟩
      rw [length_append, Option.some.inj listed]
      omega
    · rw [if_neg same]
      exact ⟨before, listed, inside⟩
  | schedule attempts =>
    refine bind (foldlM (fun state attempted _ sound =>
      attempt_ensures config sound attempted) settled.toSound) fun next sound => ?_
    refine ⟨⟨⟨sound.manager.free_slots, sound.manager.freeable_slots, sound.manager.unreferenced,
      sound.manager.sizes, sound.manager.room⟩, sound.sized, sound.embeds, sound.known, ?_⟩, rfl⟩
    have logged := sound.logged
    rwa [← append_assoc] at logged
  | freeProcessed requestId numComputedTokens =>
    exact freeProcessed_ensures config settled requestId numComputedTokens
  | preempt requestId =>
    refine (freeRequest_ensures settled.toSound requestId).imp fun next freed => ?_
    exact ⟨freed.1, freed.2.2.2.1.trans settled.unreported⟩
  | finish requestId =>
    refine (freeRequest_ensures settled.toSound requestId).bind fun next freed => ?_
    obtain ⟨sound, _, cleared, unreported, _⟩ := freed
    refine ⟨⟨sound.manager, fun other mmFeatures found => ?_, sound.embeds,
      fun other inputId member => ?_, sound.logged⟩, unreported.trans settled.unreported⟩
    · rw [OrderedDict.get?_erase] at found
      split_ifs at found
      · cases found
      · exact sound.sized other mmFeatures found
    obtain ⟨mmFeatures, listed, inside⟩ := sound.known other inputId member
    refine ⟨mmFeatures, ?_, inside⟩
    rw [OrderedDict.get?_erase, if_neg]
    · exact listed
    · rintro rfl
      rw [cleared] at member
      cases member
  | reset =>
    refine ⟨⟨reset_sound state.manager, settled.sized, forall_mem_nil _, ?_, Perm.refl _⟩, rfl⟩
    intro requestId inputId member
    simp [EncoderCacheManager.reset, getCachedInputIds] at member

theorem create_settled (cacheSize : Nat) : (create cacheSize).Settled numEmbeds := by
  refine ⟨⟨create_sound cacheSize, nofun, nofun, fun requestId inputId member => ?_,
    Perm.refl _⟩, rfl⟩
  simp [create, EncoderCacheManager.create, getCachedInputIds] at member

theorem step_failure (config : EncoderConfig) (settled : state.Settled numEmbeds) (op : EncoderOp)
    {error : Option PyError} (raised : state.step config op = .error error) : error = none := by
  cases op with
  | addRequest request =>
    simp only [step] at raised
    split at raised
    · cases raised
    · exact (Except.error.inj raised).symm
  | extendSession requestId mmFeatures =>
    have added : Outcome.Ensures NotIssued (fun _ => True)
        (state.step config (.extendSession requestId mmFeatures)) :=
      (request_ensures state requestId).bind fun _ _ => trivial
    exact added.failure raised
  | _ =>
    refine (step_ensures config settled _ ?_).failure raised
    exact forall_mem_nil _

-- In every run in which a hash stands for data of one size.
theorem accounting_exact (numEmbeds : MmHash → Nat) (config : EncoderConfig) (cacheSize : Nat)
    (ops : List EncoderOp) (sized : ∀ op ∈ ops, SizedBy numEmbeds op.mmFeatures) :
    Run.Always (step config)
      (fun state => state.Exact ∧
        ∀ op error, state.step config op = .error error → error = none)
      (create cacheSize) ops := by
  have settled : Run.Always (step config) (Settled numEmbeds) (create cacheSize) ops := by
    refine Run.always_of_kept (fun state op member next taken settled => ?_)
      (create_settled cacheSize)
    exact (step_ensures config settled op (sized op member)).result taken
  exact settled.imp fun state settled => ⟨settled.exact, fun op _ => step_failure config settled op⟩

def oneImage (mmHash : MmHash) (numEmbeds : Nat) : EncoderInput :=
  ⟨⟨mmHash, ⟨0, numEmbeds⟩⟩, none⟩

def sharedImage (first second : Nat) : List EncoderOp :=
  let attempt (requestId : RequestId) (numEmbeds : Nat) : EncoderAttempt :=
    ⟨requestId, ⟨0, numEmbeds, 16, fun _ => false⟩, .scheduled []⟩
  [.addRequest ⟨1, [oneImage "image" first]⟩, .addRequest ⟨2, [oneImage "image" second]⟩,
    .schedule [attempt 1 first, attempt 2 second], .finish 1, .finish 2]

theorem accounting_exact_shared :
    ∃ state, (sharedImage 4 4).foldlM (step ⟨false, false⟩) (create 16) = .ok state ∧
      state.Exact := by
  have sized : ∀ op ∈ sharedImage 4 4, SizedBy (fun _ => 4) op.mmFeatures := by
    simp [sharedImage, EncoderOp.mmFeatures, SizedBy, oneImage, EncoderInput.getNumEmbeds,
      PlaceholderRange.getNumEmbeds]
  exact ⟨_, rfl, ((accounting_exact _ ⟨false, false⟩ 16 _ sized).final rfl).1⟩

-- The image has four embeddings in the prompt of the first request and nine in the other one.
theorem accounting_drifts :
    ∃ state, (sharedImage 4 9).foldlM (step ⟨false, false⟩) (create 16) = .ok state ∧
      state.manager.cached.weigh state.embeds = 4 ∧ state.manager.numFreeSlots = 12 ∧
      state.manager.numFreeableSlots = 21 ∧ ¬ state.Exact :=
  ⟨_, rfl, by decide, by decide, by decide, fun exact => absurd exact.freeable_slots (by decide)⟩

end EncoderState

end VllmEngine
