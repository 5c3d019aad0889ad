import VllmEngine.SpecDecode.SpecRun
import VllmEngine.Shared.Outcome

set_option autoImplicit false

namespace VllmEngine

def plainDecode (next : List Int → Int) (stops : List Int → Bool) (prompt : List Int) :
    Nat → List Int
  | 0 => []
  | count + 1 =>
    let output := plainDecode next stops prompt count
    if output ≠ [] ∧ stops output then output else output ++ [next (prompt ++ output)]

open List SpecRequest Nat

structure SpecRequest.Lossless (next : List Int → Int) (config : SpecConfig)
    (request : SpecRequest) : Prop where
  output : request.outputTokenIds = plainDecode next (request.checkStop config)
    request.promptTokenIds request.outputTokenIds.length
  stopped : request.status = .finished ↔
    request.outputTokenIds ≠ [] ∧ request.checkStop config request.outputTokenIds = true

structure SpecState.Lossless (next : List Int → Int) (config : SpecConfig) (state : SpecState) :
    Prop where
  requests : ∀ reqId request, state.requests reqId = some request → request.Lossless next config
  outputs : ∀ output ∈ state.outputs, output.numNewTokens = 0 ↔ output.discarded = true

def SpecCall.Uncut (config : SpecConfig) (pads : Bool) (request : SpecRequest) : SpecCall → Prop
  | .running .. => True
  | .admitted _ hit _ limit =>
    padsSpecDecode config pads (request.numTokens - hit) = true →
      (config.longPrefillTokenThreshold = 0 ∨
        config.numSpecTokens < config.longPrefillTokenThreshold) ∧ config.numSpecTokens < limit

def SpecCall.reqId : SpecCall → RequestId
  | .running reqId _ => reqId
  | .admitted reqId _ _ _ => reqId

def SpecState.Uncut (config : SpecConfig) (state : SpecState) : SpecOp → Prop
  | .step calls _ => ∀ call ∈ calls, ∀ request, state.requests call.reqId = some request →
      call.Uncut config (state.pads config calls) request
  | _ => True

section Append

variable {next : List Int → Int} {stops : List Int → Bool} {prompt output : List Int}

theorem length_le_updateWithOutput (stops : List Int → Bool) (output generated : List Int) :
    output.length ≤ (updateWithOutput stops output generated).1.length := by
  induction generated generalizing output with
  | nil => exact le_refl _
  | cons token rest ih =>
    have longer : output.length ≤ (output ++ [token]).length := by simp
    rw [updateWithOutput]
    split
    · exact longer
    · exact longer.trans (ih _)

theorem length_lt_updateWithOutput (stops : List Int → Bool) (output : List Int)
    {generated : List Int} (some : generated ≠ []) :
    output.length < (updateWithOutput stops output generated).1.length := by
  cases generated with
  | nil => exact absurd rfl some
  | cons token rest =>
    have longer : output.length < (output ++ [token]).length := by simp
    rw [updateWithOutput]
    split
    · exact longer
    · exact longer.trans_le (length_le_updateWithOutput stops _ rest)

theorem updateWithOutput_continuation (count : Nat)
    (plain : output = plainDecode next stops prompt output.length)
    (goesOn : ¬(output ≠ [] ∧ stops output = true)) :
    let result := updateWithOutput stops output
      (continuation next (prompt ++ output) count)
    result.1 = plainDecode next stops prompt result.1.length ∧
      (result.2 = true ↔ result.1 ≠ [] ∧ stops result.1 = true) ∧
      (result.2 = false → result.1 = output ++ continuation next (prompt ++ output) count) := by
  induction count generalizing output with
  | zero =>
    simp only [continuation, updateWithOutput, append_nil]
    exact ⟨plain, by simpa using goesOn, fun _ => trivial⟩
  | succ count ih =>
    simp only [continuation, updateWithOutput]
    have longer : output ++ [next (prompt ++ output)] =
        plainDecode next stops prompt (output ++ [next (prompt ++ output)]).length := by
      rw [length_append, length_singleton, plainDecode, ← plain, if_neg goesOn]
    by_cases stop : stops (output ++ [next (prompt ++ output)]) = true
    · rw [if_pos stop]
      refine ⟨longer, by simp [stop], ?_⟩
      intro goesOn
      cases goesOn
    · rw [if_neg stop]
      obtain ⟨plainRest, stopped, whole⟩ := ih longer (fun stops => stop stops.2)
      rw [← append_assoc] at plainRest stopped whole
      refine ⟨plainRest, stopped, fun goesOn => ?_⟩
      rw [whole goesOn, append_assoc]
      rfl

end Append

namespace SpecRequest

variable {next : List Int → Int} {config : SpecConfig} {request : SpecRequest}

structure Cached (request : SpecRequest) (computed : Nat) : Prop where
  counted : request.numComputedTokens = computed
  below : computed < request.numTokens
  own : request.kv.take computed = request.allTokenIds.take computed

theorem length_allTokenIds : request.allTokenIds.length = request.numTokens := rfl

theorem Lossless.unfinished {other : SpecRequest} (lossless : request.Lossless next config)
    (goesOn : request.status ≠ .finished) (status : other.status ≠ .finished)
    (same : (other.promptTokenIds, other.outputTokenIds, other.params) =
      (request.promptTokenIds, request.outputTokenIds, request.params)) :
    other.Lossless next config := by
  obtain ⟨output, stopped⟩ := lossless
  simp only [Prod.mk.injEq] at same
  unfold checkStop at *
  rw [← same.1, ← same.2.1, ← same.2.2] at output stopped
  exact ⟨output, fun finished => absurd finished status, fun stops => absurd (stopped.mpr stops) goesOn⟩

structure Sound (next : List Int → Int) (config : SpecConfig) (request : SpecRequest) : Prop where
  lossless : request.Lossless next config
  nonempty : request.promptTokenIds ≠ []
  runner : request.status ≠ .finished → request.status ≠ .aborted →
    request.runnerOutputTokenIds = request.outputTokenIds
  noDrafts : request.status = .waiting ∨ request.status = .preempted → request.specTokenIds = []
  running : request.status = .running → ∃ computed, request.Cached computed ∧
    (request.specTokenIds ≠ [] → computed + 1 = request.numTokens)

end SpecRequest

namespace ScheduledRequest

variable {next : List Int → Int} {config : SpecConfig} {scheduled : ScheduledRequest}
  {computed : Nat} {accepted : Nat} {generated : List Int}

structure Fits (next : List Int → Int) (config : SpecConfig) (scheduled : ScheduledRequest)
    (computed : Nat) : Prop where
  lossless : scheduled.request.Lossless next config
  nonempty : scheduled.request.promptTokenIds ≠ []
  runner : scheduled.request.runnerOutputTokenIds = scheduled.request.outputTokenIds
  running : scheduled.request.status = .running
  cached : scheduled.request.Cached computed
  noDrafts : scheduled.request.specTokenIds = []
  some : 0 < scheduled.numScheduledTokens
  ends : scheduled.specDecodeTokens = [] ∧
      computed + scheduled.numScheduledTokens ≤ scheduled.request.numTokens ∨
    computed + scheduled.numScheduledTokens =
      scheduled.request.numTokens + scheduled.specDecodeTokens.length

section

variable (fits : scheduled.Fits next config computed)

include fits

theorem Fits.inputIds_eq :
    scheduled.inputIds =
      ((scheduled.request.allTokenIds ++ scheduled.specDecodeTokens).drop computed).take
        scheduled.numScheduledTokens := by
  rw [inputIds, fits.runner, fits.cached.counted, Int.toNat_natCast]
  rfl

theorem Fits.length_inputIds :
    scheduled.inputIds.length = scheduled.numScheduledTokens := by
  rw [fits.inputIds_eq, length_take, length_drop, length_append, length_allTokenIds]
  rcases fits.ends with ⟨none, bound⟩ | exact <;> omega

theorem Fits.take_kv {count : Nat} (within : count ≤ computed + scheduled.numScheduledTokens) :
    scheduled.kv.take count =
      (scheduled.request.allTokenIds ++ scheduled.specDecodeTokens).take count := by
  have below := fits.cached.below
  rw [← length_allTokenIds] at below
  have own : scheduled.request.kv.take computed =
      (scheduled.request.allTokenIds ++ scheduled.specDecodeTokens).take computed := by
    rw [fits.cached.own, take_append_of_le_length (by omega)]
  have written : scheduled.request.kv.take computed ++ scheduled.inputIds =
      (scheduled.request.allTokenIds ++ scheduled.specDecodeTokens).take
        (computed + scheduled.numScheduledTokens) := by
    rw [own, fits.inputIds_eq, take_add]
  have length : (scheduled.request.kv.take computed ++ scheduled.inputIds).length =
      computed + scheduled.numScheduledTokens := by
    rw [length_append, fits.cached.own, length_take, fits.length_inputIds]
    omega
  rw [kv, fits.cached.counted, Int.toNat_natCast]
  rw [take_append_of_le_length (by omega), written, take_take, min_eq_left within]

theorem Fits.discard_iff :
    scheduled.discard = true ↔
      computed + scheduled.numScheduledTokens < scheduled.request.numTokens := by
  have tokens : (scheduled.request.promptTokenIds ++
      scheduled.request.runnerOutputTokenIds).length = scheduled.request.numTokens := by
    rw [fits.runner]
    rfl
  rw [discard, tokens, fits.cached.counted, decide_eq_true_iff]
  omega

theorem Fits.ends_of_kept (kept : scheduled.discard = false) :
    computed + scheduled.numScheduledTokens =
      scheduled.request.numTokens + scheduled.specDecodeTokens.length := by
  have notShort : ¬computed + scheduled.numScheduledTokens < scheduled.request.numTokens := by
    rw [← fits.discard_iff, kept]
    exact Bool.false_ne_true
  rcases fits.ends with ⟨none, _⟩ | exact
  · rw [none, length_nil]
    omega
  · exact exact

theorem Fits.row_proper (valid : ∀ tokens, 0 ≤ next tokens ∧ next tokens < (config.vocabSize : Int))
    :
    (scheduled.row next).Proper config.vocabSize where
  sameLength := by simp [row]
  room := by
    have below := fits.cached.below
    have some := fits.some
    show scheduled.specDecodeTokens.length < scheduled.inputIds.length
    rw [fits.length_inputIds]
    rcases fits.ends with ⟨none, -⟩ | exact
    · rw [none]
      exact some
    · omega
  valid token member := by
    obtain ⟨_, _, rfl⟩ := mem_map.mp member
    exact valid _

end

theorem targetsAfter_eq (context drafts : List Int) :
    targetsAfter next context drafts =
      (List.range (drafts.length + 1)).map fun j => next (context ++ drafts.take j) := by
  induction drafts generalizing context with
  | nil => simp [targetsAfter]
  | cons draft drafts ih =>
    have indices : List.range (drafts.length + 1 + 1) =
        0 :: (List.range (drafts.length + 1)).map succ := range_succ_eq_map
    rw [targetsAfter, ih, length_cons, indices, map_cons, map_map, take_zero, append_nil]
    simp [Function.comp_def]

theorem Fits.verify_eq (fits : scheduled.Fits next config computed)
    (kept : scheduled.discard = false) :
    verify (scheduled.row next).drafts (scheduled.row next).targets =
      verify scheduled.specDecodeTokens
        (targetsAfter next scheduled.request.allTokenIds scheduled.specDecodeTokens) := by
  have below := fits.cached.below
  have ends := fits.ends_of_kept kept
  have length := fits.length_inputIds
  have tokens := scheduled.request.length_allTokenIds
  have drafts : (scheduled.row next).drafts = scheduled.specDecodeTokens := by
    show scheduled.inputIds.drop (scheduled.inputIds.length - scheduled.specDecodeTokens.length) = _
    rw [length, fits.inputIds_eq, take_of_length_le, drop_drop, drop_append,
      drop_eq_nil_of_le, nil_append]
    · rw [tokens]
      have zero : computed + (scheduled.numScheduledTokens - scheduled.specDecodeTokens.length) -
          scheduled.request.numTokens = 0 := by omega
      rw [zero, drop_zero]
    · omega
    · rw [length_drop, length_append]
      omega
  have targets : (scheduled.row next).targets =
      targetsAfter next scheduled.request.allTokenIds scheduled.specDecodeTokens := by
    rw [targetsAfter_eq]
    apply ext_getElem
    · simp only [StepRow.targets, row, length_drop, length_map, length_range]
      omega
    · intro j left right
      simp only [length_map, length_range] at right
      simp only [StepRow.targets, row, getElem_drop, getElem_map, getElem_range]
      rw [fits.cached.counted, Int.toNat_natCast, fits.take_kv (by omega), take_append]
      congr 2
      · rw [take_of_length_le (by omega)]
      · congr 1
        omega
  rw [drafts, targets]

theorem Fits.sound_of_discarded (fits : scheduled.Fits next config computed)
    (discarded : scheduled.discard = true) (drafts : Option (List Int)) :
    (scheduled.finish config [] drafts).Sound next config := by
  have short := fits.discard_iff.mp discarded
  have chunk : scheduled.request.numComputedTokens + (scheduled.numScheduledTokens : Int) <
      (scheduled.request.numTokens : Int) := by
    rw [fits.cached.counted]
    omega
  have noDrafts : (scheduled.finish config [] drafts).specTokenIds = [] := by
    simp only [finish, chunk, fits.noDrafts]
    cases drafts <;> rfl
  refine ⟨⟨fits.lossless.output, fits.lossless.stopped⟩, fits.nonempty, fun _ _ => ?_, fun _ => noDrafts,
    fun _ => ⟨computed + scheduled.numScheduledTokens, ⟨?_, short, ?_⟩, fun some => absurd noDrafts some⟩⟩
  · exact (append_nil _).trans fits.runner
  · show scheduled.numComputedTokens [] = _
    rw [numComputedTokens, if_neg (by simp), fits.cached.counted]
    rfl
  · show scheduled.kv.take _ = scheduled.request.allTokenIds.take _
    rw [fits.take_kv (le_refl _), take_append_of_le_length]
    exact short.le

theorem continuation_length (context : List Int) (count : Nat) :
    (continuation next context count).length = count := by
  induction count generalizing context with
  | zero => rfl
  | succ count ih => rw [continuation, length_cons, ih]

theorem continuation_take (context : List Int) (count : Nat) :
    (continuation next context (count + 1)).take count = continuation next context count := by
  induction count generalizing context with
  | zero => rfl
  | succ count ih =>
    rw [continuation, take_succ_cons, ih]
    rfl

section

variable (fits : scheduled.Fits next config computed) (kept : scheduled.discard = false)
  (bound : accepted ≤ scheduled.specDecodeTokens.length)

include fits kept bound

theorem Fits.numComputedTokens_of_kept (count : generated.length = accepted + 1) :
    scheduled.numComputedTokens generated = (scheduled.request.numTokens + accepted : Nat) := by
  have ends := fits.ends_of_kept kept
  have below := fits.cached.below
  rw [numComputedTokens, fits.cached.counted]
  by_cases none : scheduled.specDecodeTokens = []
  · rw [if_neg (fun both => both.1 none)]
    rw [none, length_nil] at ends bound
    omega
  · have some : generated ≠ [] := by
      rw [← length_pos_iff_ne_nil]
      omega
    rw [if_pos ⟨none, some⟩, count, Nat.add_sub_cancel]
    simp only
    rw [if_pos (by omega)]
    omega

theorem Fits.sound_of_kept
    (generates : generated = continuation next scheduled.request.allTokenIds (accepted + 1))
    (taken : continuation next scheduled.request.allTokenIds accepted =
      scheduled.specDecodeTokens.take accepted) (drafts : Option (List Int)) :
    (scheduled.finish config generated drafts).Sound next config ∧
      scheduled.request.outputTokenIds.length <
        (scheduled.finish config generated drafts).outputTokenIds.length := by
  have ends := fits.ends_of_kept kept
  have goesOn : ¬(scheduled.request.outputTokenIds ≠ [] ∧
      scheduled.request.checkStop config scheduled.request.outputTokenIds = true) := by
    rw [← fits.lossless.stopped, fits.running]
    decide
  have same : continuation next (scheduled.request.promptTokenIds ++
      scheduled.request.outputTokenIds) (accepted + 1) = generated := generates.symm
  have count : generated.length = accepted + 1 := by rw [generates, continuation_length]
  obtain ⟨plain, stopped, whole⟩ :=
    updateWithOutput_continuation (accepted + 1) fits.lossless.output goesOn
  rw [same] at plain stopped whole
  have status : (scheduled.finish config generated drafts).status =
      if (updateWithOutput (scheduled.request.checkStop config)
        scheduled.request.outputTokenIds generated).2 then .finished
      else scheduled.request.status := rfl
  refine ⟨?_, ?_⟩
  · cases stop : (updateWithOutput (scheduled.request.checkStop config)
        scheduled.request.outputTokenIds generated).2 with
    | true =>
      rw [stop, if_pos rfl] at status
      refine ⟨⟨plain, ?_⟩, fits.nonempty, fun other => absurd status other, fun waiting => ?_,
        fun running => ?_⟩
      · exact ⟨fun _ => stopped.mp stop, fun _ => status⟩
      · simp [status] at waiting
      · rw [status] at running
        cases running
    | false =>
      rw [stop, if_neg Bool.false_ne_true, fits.running] at status
      have output : (scheduled.finish config generated drafts).outputTokenIds =
          scheduled.request.outputTokenIds ++ generated := whole stop
      have all : (scheduled.finish config generated drafts).allTokenIds =
          scheduled.request.allTokenIds ++ generated := by
        rw [allTokenIds, output, ← append_assoc]
        rfl
      have tokens : (scheduled.finish config generated drafts).numTokens =
          scheduled.request.numTokens + (accepted + 1) := by
        rw [numTokens, all, length_append, count]
        rfl
      refine ⟨⟨plain, ?_⟩, fits.nonempty, fun _ _ => ?_, fun waiting => ?_,
        fun _ => ⟨scheduled.request.numTokens + accepted, ⟨?_, ?_, ?_⟩, fun _ => ?_⟩⟩
      · rw [status]
        refine ⟨fun finished => (by cases finished), fun stops => ?_⟩
        rw [stopped.mpr stops] at stop
        cases stop
      · rw [output, ← fits.runner]
        rfl
      · simp [status] at waiting
      · exact fits.numComputedTokens_of_kept kept bound count
      · rw [tokens]
        omega
      · -- The accepted draft tokens are the request's own tokens now.
        have inCache : (scheduled.finish config generated drafts).kv = scheduled.kv := rfl
        rw [inCache, all, fits.take_kv (by omega), take_append, take_append, length_allTokenIds,
          Nat.add_sub_cancel_left, ← taken, generates, continuation_take]
      · rw [tokens, add_assoc]
  · apply length_lt_updateWithOutput
    rw [← length_pos_iff_ne_nil]
    omega

end

end ScheduledRequest

namespace SpecCall

variable {next : List Int → Int} {config : SpecConfig} {request : SpecRequest}
  {scheduled : ScheduledRequest} {reqId : RequestId} {hit tokenBudget limit : Nat} {pads : Bool}

theorem cap_le (config : SpecConfig) (numNewTokens : Nat) :
    cap config numNewTokens ≤ numNewTokens := by
  rw [cap]
  split <;> omega

theorem scheduleRunning_fits (sound : request.Sound next config)
    (running : request.status = .running) {limit : Nat}
    (taken : scheduleRunning config reqId request limit = some scheduled) :
    ∃ computed, scheduled.Fits next config computed := by
  obtain ⟨computed, cached, _⟩ := sound.running running
  have below := cached.below
  have bound := cap_le config
    (((request.numTokens + request.specTokenIds.length : Nat) : Int) - (computed : Int)).toNat
  simp only [scheduleRunning, cached.counted, Option.ite_none_left_eq_some] at taken
  obtain ⟨some, taken⟩ := taken
  cases taken
  generalize counted : min (min (cap config _) limit) _ = count at some
  refine ⟨computed, ⟨sound.lossless.output, sound.lossless.stopped⟩, sound.nonempty, ?_, running,
    ⟨rfl, below, cached.own⟩, rfl, pos_of_ne_zero some, ?_⟩
  · exact sound.runner (by rw [running]; decide) (by rw [running]; decide)
  · show request.specTokenIds.take _ = [] ∧ computed + count ≤ request.numTokens ∨
      computed + count = request.numTokens + (request.specTokenIds.take _).length
    by_cases within : computed + count ≤ request.numTokens
    · refine .inl ⟨?_, within⟩
      rw [take_eq_nil_iff]
      exact .inl (by omega)
    · refine .inr ?_
      rw [length_take]
      omega

theorem scheduleAdmitted_fits (sound : request.Sound next config)
    (waiting : request.status = .waiting ∨ request.status = .preempted)
    (uncut : (admitted reqId hit tokenBudget limit).Uncut config pads request)
    (taken : scheduleAdmitted config pads reqId request hit tokenBudget limit = some scheduled) :
    ∃ computed, scheduled.Fits next config computed := by
  simp only [scheduleAdmitted, Option.ite_none_left_eq_some] at taken
  obtain ⟨below, room, some, taken⟩ := taken
  cases taken
  generalize counted : min (min (cap config _) tokenBudget) limit = count at some
  have notFinished : request.status ≠ .finished := by rcases waiting with h | h <;> rw [h] <;> decide
  have notAborted : request.status ≠ .aborted := by rcases waiting with h | h <;> rw [h] <;> decide
  refine ⟨hit, sound.lossless.unfinished notFinished nofun rfl, sound.nonempty,
    sound.runner notFinished notAborted, rfl,
    ⟨rfl, Nat.lt_of_not_le below, ?_⟩, sound.noDrafts waiting, pos_of_ne_zero some, ?_⟩
  · show (request.allTokenIds.take hit).take hit = request.allTokenIds.take hit
    rw [take_take, min_self]
  · show _ ∧ hit + count ≤ request.numTokens ∨ hit + count = request.numTokens + _
    by_cases pad : padsSpecDecode config pads (request.numTokens - hit) = true
    · -- The padded request is computed with all of its draft tokens.
      obtain ⟨_, _⟩ := uncut pad
      have last : request.numTokens - hit = 1 := by
        simp only [padsSpecDecode, Bool.and_eq_true, decide_eq_true_iff] at pad
        exact pad.1.2
      have whole : cap config (1 + config.numSpecTokens) = 1 + config.numSpecTokens := by
        rw [cap, if_neg (by omega)]
      rw [if_pos pad, whole] at counted
      rw [if_pos pad] at room
      have budget : ¬ tokenBudget < 1 + config.numSpecTokens := fun less => room ⟨pad, .inl less⟩
      refine .inr ?_
      simp only [if_pos pad, length_replicate]
      omega
    · have bound := cap_le config (request.numTokens - hit)
      rw [if_neg pad] at counted
      refine .inl ⟨if_neg pad, ?_⟩
      omega

theorem schedule_fits {requests : RequestId → Option SpecRequest} {call : SpecCall}
    (sound : ∀ reqId request, requests reqId = some request → request.Sound next config)
    (uncut : ∀ request, requests call.reqId = some request → call.Uncut config pads request)
    (taken : call.schedule config requests pads = some scheduled) :
    ∃ computed, scheduled.Fits next config computed := by
  cases call with
  | running reqId limit =>
    obtain ⟨request, here, taken⟩ := Option.bind_eq_some_iff.mp taken
    split at taken
    · next running => exact scheduleRunning_fits (sound reqId request here) running taken
    · cases taken
  | admitted reqId hit tokenBudget limit =>
    obtain ⟨request, here, taken⟩ := Option.bind_eq_some_iff.mp taken
    split at taken
    · next waiting =>
      exact scheduleAdmitted_fits (sound reqId request here) waiting (uncut request here) taken
    · cases taken

end SpecCall

namespace SpecState

variable {next : List Int → Int} {config : SpecConfig} {state : SpecState}

structure Sound (next : List Int → Int) (config : SpecConfig) (state : SpecState) : Prop where
  requests : ∀ reqId request, state.requests reqId = some request → request.Sound next config
  outputs : ∀ output ∈ state.outputs, output.numNewTokens = 0 ↔ output.discarded = true

theorem Sound.lossless (sound : state.Sound next config) : state.Lossless next config :=
  ⟨fun reqId request here => (sound.requests reqId request here).lossless, sound.outputs⟩

section

variable (valid : ∀ tokens, 0 ≤ next tokens ∧ next tokens < (config.vocabSize : Int))

include valid

theorem finish_sound
    {batch : List ScheduledRequest}
    (fits : ∀ entry ∈ batch, ∃ computed, entry.Fits next config computed) {i : Nat}
    {entry : ScheduledRequest} {generated : List Int} (here : batch[i]? = some entry)
    (sampled : (StepRow.sample config.vocabSize
      (batch.map (ScheduledRequest.row next)))[i]? = some generated)
    (drafts : Option (List Int)) :
    (entry.finish config generated drafts).Sound next config ∧
      ((entry.finish config generated drafts).outputTokenIds.length -
        entry.request.outputTokenIds.length = 0 ↔ entry.discard = true) := by
  obtain ⟨computed, fit⟩ := fits entry (mem_of_getElem? here)
  have lengths : ∀ row ∈ batch.map (ScheduledRequest.row next),
      row.argmax.length = row.inputIds.length := by
    intro row member
    obtain ⟨_, -, rfl⟩ := mem_map.mp member
    simp [ScheduledRequest.row]
  have rowHere : (batch.map (ScheduledRequest.row next))[i]? = some (entry.row next) := by
    rw [getElem?_map, here]
    rfl
  rw [StepRow.sample_getElem? lengths rowHere (fit.row_proper valid)] at sampled
  have discards : (entry.row next).discard = entry.discard := rfl
  cases sampled
  rw [discards]
  cases discard : entry.discard with
  | true =>
    rw [if_pos rfl]
    refine ⟨fit.sound_of_discarded discard drafts, fun _ => rfl, fun _ => ?_⟩
    exact Nat.sub_self _
  | false =>
    rw [if_neg Bool.false_ne_true, fit.verify_eq discard]
    obtain ⟨_, bound, out, taken⟩ :=
      verify_targetsAfter next entry.request.allTokenIds entry.specDecodeTokens
    obtain ⟨sound, _⟩ := fit.sound_of_kept discard bound out taken drafts
    refine ⟨sound, fun none => ?_, fun discarded => ?_⟩
    · omega
    · cases discarded

theorem Sound.step
    {op : SpecOp} {after : SpecState} (sound : state.Sound next config)
    (uncut : state.Uncut config op) (taken : state.step next config op = .ok after) :
    after.Sound next config := by
  have none : ∀ output ∈ ([] : List SpecOutput),
      output.numNewTokens = 0 ↔ output.discarded = true := fun _ member => (by cases member)
  cases op with
  | add reqId promptTokenIds nonempty params =>
    cases taken
    refine ⟨fun other request here => ?_, none⟩
    simp only at here
    split at here
    · cases here
      exact ⟨⟨rfl, nofun, fun stops => absurd rfl stops.1⟩, nonempty, fun _ _ => rfl, fun _ => rfl,
        nofun⟩
    · exact sound.requests other request here
  | preempt reqId =>
    cases taken
    refine ⟨fun other request here => ?_, none⟩
    simp only at here
    split at here
    · obtain ⟨before, was, rfl⟩ := Option.map_eq_some_iff.mp here
      have kept := sound.requests reqId before was
      split
      · next running =>
        have notFinished : before.status ≠ .finished := by simp [running]
        exact ⟨kept.lossless.unfinished notFinished nofun rfl, kept.nonempty,
          fun _ _ => kept.runner notFinished (by simp [running]), fun _ => rfl, nofun⟩
      · exact kept
    · exact sound.requests other request here
  | abort reqId =>
    cases taken
    refine ⟨fun other request here => ?_, none⟩
    simp only at here
    split at here
    · obtain ⟨before, was, rfl⟩ := Option.map_eq_some_iff.mp here
      have kept := sound.requests reqId before was
      split
      · exact kept
      · next unfinished =>
        exact ⟨kept.lossless.unfinished unfinished nofun rfl, kept.nonempty,
          fun _ other => absurd rfl other, by simp, nofun⟩
    · exact sound.requests other request here
  | step calls drafts =>
    cases taken
    have fits : ∀ entry ∈ state.scheduled config calls,
        ∃ computed, entry.Fits next config computed := by
      intro entry member
      obtain ⟨call, inCalls, scheduled⟩ := mem_filterMap.mp member
      exact SpecCall.schedule_fits sound.requests (uncut call inCalls) scheduled
    have results : ∀ result ∈ List.zipWith
        (fun entry generated => (entry, entry.finish config generated (drafts entry.reqId)))
        (state.scheduled config calls)
        (StepRow.sample config.vocabSize
          ((state.scheduled config calls).map (ScheduledRequest.row next))),
        result.2.Sound next config ∧
          (result.2.outputTokenIds.length - result.1.request.outputTokenIds.length = 0 ↔
            result.1.discard = true) := by
      intro result member
      obtain ⟨_, here⟩ := mem_iff_getElem?.mp member
      rw [getElem?_zipWith_eq_some] at here
      obtain ⟨entry, generated, inBatch, sampled, rfl⟩ := here
      exact finish_sound valid fits inBatch sampled (drafts entry.reqId)
    refine ⟨fun reqId request here => ?_, fun output member => ?_⟩
    · rcases Option.or_eq_some_iff.mp here with scheduled | ⟨-, unscheduled⟩
      · obtain ⟨result, found, rfl⟩ := Option.map_eq_some_iff.mp scheduled
        exact (results result (mem_of_find?_eq_some found)).1
      · exact sound.requests reqId request unscheduled
    · obtain ⟨result, inResults, rfl⟩ := mem_map.mp member
      exact (results result inResults).2

end

theorem sound_create : create.Sound next config :=
  ⟨fun _ _ here => (by cases here), fun _ member => (by cases member)⟩

theorem greedy_lossless (next : List Int → Int) (config : SpecConfig)
    (valid : ∀ tokens, 0 ≤ next tokens ∧ next tokens < (config.vocabSize : Int))
    (ops : List SpecOp) (uncut : Run.Meets (step next config) (Uncut config) create ops) :
    Run.Always (step next config) (Lossless next config) create ops := by
  have sound : Run.Always (step next config) (Sound next config) create ops := by
    apply Run.always_of_meets _ uncut sound_create
    intro state op after taken allowed sound
    exact sound.step valid allowed taken
  exact sound.imp fun state sound => sound.lossless

def openEnded : StopParams where
  minTokens := 0
  maxTokens := 10
  eosTokenId := none
  stopTokenIds := []
  repeats := fun _ => false

theorem greedy_lossless_padded :
    Run.Always (step (fun tokens => ((tokens.length % 10 : Nat) : Int)) ⟨1, 0, 20, 10, false⟩)
      (Lossless (fun tokens => ((tokens.length % 10 : Nat) : Int)) ⟨1, 0, 20, 10, false⟩) create
      [.add 0 [5, 5, 5] (by decide) openEnded, .step [.admitted 0 0 2 9] fun _ => none,
        .step [.running 0 9] (fun _ => some [4, 9]), .add 1 [6] (by decide) openEnded,
        .step [.running 0 9, .admitted 1 0 9 9] (fun _ => some [])] := by
  apply greedy_lossless
  · intro tokens
    have below : tokens.length % 10 < 10 := mod_lt _ (by decide)
    exact ⟨Int.natCast_nonneg _, by exact_mod_cast below⟩
  · -- Every admission has room for two tokens, and there is no threshold.
    have roomy (state : SpecState) (calls : List SpecCall) (drafts : RequestId → Option (List Int))
        (room : ∀ reqId hit tokenBudget limit,
          .admitted reqId hit tokenBudget limit ∈ calls → 1 < limit) :
        state.Uncut ⟨1, 0, 20, 10, false⟩ (.step calls drafts) := by
      intro call member request here
      cases call with
      | running reqId limit => trivial
      | admitted reqId hit tokenBudget limit =>
        exact fun _ => ⟨.inl rfl, room reqId hit tokenBudget limit member⟩
    refine ⟨fun _ _ => trivial, fun _ _ => ⟨fun _ _ => roomy _ _ _ ?_, fun _ _ =>
      ⟨fun _ _ => roomy _ _ _ ?_, fun _ _ => ⟨fun _ _ => trivial, fun _ _ =>
        ⟨fun _ _ => roomy _ _ _ ?_, fun _ _ => trivial⟩⟩⟩⟩⟩
    all_goals
      intro reqId hit tokenBudget limit member
      simp at member <;> omega

def view (next : List Int → Int) (config : SpecConfig) (reqId : RequestId) (state : SpecState) :
    Option (List Int × List Int) :=
  (state.requests reqId).map fun request =>
    (request.outputTokenIds, plainDecode next (request.checkStop config) request.promptTokenIds
      request.outputTokenIds.length)

-- The first token of the padded request is taken from the logits of another request.
theorem greedy_not_lossless :
    ¬Run.Always (step (fun tokens => if tokens = [7] then 3 else 4) ⟨1, 1, 20, 10, false⟩)
      (Lossless (fun tokens => if tokens = [7] then 3 else 4) ⟨1, 1, 20, 10, false⟩) create
      [.add 0 [5] (by decide) openEnded, .step [.admitted 0 0 9 9] (fun _ => none),
        .add 1 [7] (by decide) openEnded,
        .step [.running 0 9, .admitted 1 0 9 9] fun _ => none] := by
  intro always
  obtain ⟨_, lossless, seen⟩ := always.exists_view
    (view (fun tokens => if tokens = [7] then 3 else 4) ⟨1, 1, 20, 10, false⟩ 1)
    (some ([4], [3])) rfl
  obtain ⟨request, here, seen⟩ := Option.map_eq_some_iff.mp seen
  have output := (lossless.requests 1 request here).output
  rw [Prod.mk.injEq] at seen
  rw [seen.2, seen.1] at output
  exact absurd output (by decide)

end SpecState

end VllmEngine
