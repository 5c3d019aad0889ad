import VllmEngine.P2P.ServerRole
import VllmEngine.Shared.History
import VllmEngine.Shared.Tally

set_option autoImplicit false

namespace VllmEngine.P2P

open Function AList List

-- A store job's blocks are pinned until its result is emitted.
def Effect.emits (jobId : JobId) : Effect → Bool
  | .emitted result => result.jobId = jobId
  | _ => false

def Effect.succeeds (ref : RoundRef) : Effect → Bool
  | .transferDone _ success _ round => success ∧ round = ref
  | _ => false

def isEmitted (trace : List Effect) (jobId : JobId) : Bool :=
  trace.any (Effect.emits jobId)

def isDone (trace : List Effect) (ref : RoundRef) : Bool :=
  trace.any (Effect.succeeds ref)

def PinnedWrite : Effect → List Effect → Prop
  | .wrote blocks, earlier => ∀ block ∈ blocks, isEmitted earlier block.jobId = false
  | _, _ => True

def PinnedTransfer (ref : RoundRef) : Effect → List Effect → Prop
  | .completed round jobIds, earlier =>
    round = ref → ∀ jobId ∈ jobIds, isEmitted earlier jobId = false
  | _, _ => True

instance (event : Effect) (earlier : List Effect) : Decidable (PinnedWrite event earlier) := by
  unfold PinnedWrite
  split <;> infer_instance

instance (ref : RoundRef) (event : Effect) (earlier : List Effect) :
    Decidable (PinnedTransfer ref event earlier) := by
  unfold PinnedTransfer
  split <;> infer_instance

def SendsPinned (trace : List Effect) : Prop :=
  Throughout PinnedWrite trace ∧
    ∀ ref, isDone trace ref = true → Throughout (PinnedTransfer ref) trace

@[simp] theorem isEmitted_nil (jobId : JobId) : isEmitted [] jobId = false := rfl

@[simp] theorem isEmitted_cons (event : Effect) (trace : List Effect) (jobId : JobId) :
    isEmitted (event :: trace) jobId = (event.emits jobId || isEmitted trace jobId) := rfl

@[simp] theorem isDone_cons (event : Effect) (trace : List Effect) (ref : RoundRef) :
    isDone (event :: trace) ref = (event.succeeds ref || isDone trace ref) := rfl

namespace ServerRole

variable {Key : Type} (server : ServerRole Key)

def Registered (ref : RoundRef) : Prop :=
  ∃ key, server.outbound.lookup key = some ref

def Owns (ref : RoundRef) (jobId : JobId) : Prop :=
  Effect.stored jobId ref ∈ server.trace

def Settled (jobId : JobId) : Prop :=
  server.storeJobs.lookup jobId = none ∧ ∃ ref, server.Owns ref jobId

def Kept (jobId : JobId) : Prop :=
  server.storeJobs.lookup jobId ≠ none

def load (ref : RoundRef) : Nat :=
  tally (fun xfer => if xfer.round = ref then xfer.blockCount else 0) server.inflight

def unmet (ref : RoundRef) : Nat :=
  tally (fun _ => 1) (server.rounds ref).demanded

namespace Pinned

theorem rounds_modifyRound (ref other : RoundRef)
    (change : OutboundRequestState Key → OutboundRequestState Key) :
    (server.modifyRound ref change).rounds other =
      if other = ref then change (server.rounds ref) else server.rounds other := by
  unfold modifyRound
  by_cases same : other = ref
  · subst same
    simp
  · simp [same]

variable {server} {ref : RoundRef} {jobId : JobId} {effect : Effect}

def Allows (server : ServerRole Key) : Effect → Prop
  | .stored jobId _ => ∀ ref, ¬server.Owns ref jobId
  | .wrote blocks => ∀ block ∈ blocks, isEmitted server.trace block.jobId = false
  | .completed ref jobIds => ref < server.nextRound ∧ isDone server.trace ref = false ∧
    (server.Registered ref → ∀ jobId ∈ jobIds, isEmitted server.trace jobId = false)
  | .emitted result => server.Settled result.jobId
  | .transferDone _ success _ ref => success = true →
    ref < server.nextRound ∧ ¬server.Registered ref ∧
      (∀ tid xfer, server.inflight.lookup tid = some xfer → xfer.round ≠ ref) ∧
      Throughout (PinnedTransfer ref) server.trace
  | .abortAck _ _ => True

theorem owns_log :
    (server.log effect).Owns ref jobId ↔ effect = .stored jobId ref ∨ server.Owns ref jobId := by
  simp [Owns, log, eq_comm]

theorem settled_log (effect : Effect) (settled : server.Settled jobId) :
    (server.log effect).Settled jobId :=
  ⟨settled.1, settled.2.choose, owns_log.mpr (.inr settled.2.choose_spec)⟩

theorem pinnedTransfer_of_allows (allows : Allows server effect)
    (current : server.Registered ref ∨ isDone server.trace ref = true) :
    PinnedTransfer ref effect server.trace := by
  cases effect with
  | completed round jobIds =>
    rintro rfl
    rcases current with registered | done
    · exact allows.2.2 registered
    · rw [allows.2.1] at done
      cases done
  | _ => trivial

theorem isDone_log (done : isDone (server.log effect).trace ref = true) :
    isDone server.trace ref = true ∨
      ∃ kvRequestId roundSeq, effect = .transferDone kvRequestId true roundSeq ref := by
  change (effect.succeeds ref || isDone server.trace ref) = true at done
  rw [Bool.or_eq_true] at done
  rcases done with _ | old
  · cases effect <;> simp_all [Effect.succeeds]
  · exact .inl old

end Pinned

variable [DecidableEq Key]

structure Pinned (server : ServerRole Key) : Prop where
  emitted : ∀ jobId, isEmitted server.trace jobId = true → server.Settled jobId
  queued : ∀ result ∈ server.pendingStoreResults, server.Settled result.jobId
  kept_owned : ∀ jobId, server.Kept jobId → ∃ ref, server.Owns ref jobId
  one_owner : ∀ {ref other jobId}, server.Owns ref jobId → server.Owns other jobId → ref = other
  registered_lt : ∀ {ref}, server.Registered ref → ref < server.nextRound
  registered_once : ∀ {key other ref}, server.outbound.lookup key = some ref →
    server.outbound.lookup other = some ref → key = other
  available_owned : ∀ {ref key entry}, (server.rounds ref).available.lookup key = some entry →
    server.Owns ref entry.1
  pending_owned : ∀ {ref}, ∀ jobId ∈ (server.rounds ref).pendingJobIds, server.Owns ref jobId
  xfer_owned : ∀ {tid xfer}, server.inflight.lookup tid = some xfer →
    ∀ jobId ∈ xfer.jobIds, server.Owns xfer.round jobId
  xfer_lt : ∀ {tid xfer}, server.inflight.lookup tid = some xfer → xfer.round < server.nextRound
  xfer_key : ∀ {tid xfer key}, server.inflight.lookup tid = some xfer →
    server.outbound.lookup key = some xfer.round → key = (xfer.kvRequestId, xfer.roundKey)
  xfer_pos : ∀ {tid xfer}, server.inflight.lookup tid = some xfer → 0 < xfer.blockCount
  completed_lt : ∀ {ref jobIds}, Effect.completed ref jobIds ∈ server.trace → ref < server.nextRound
  budget : ∀ {ref}, server.Registered ref →
    server.load ref + server.unmet ref ≤ (server.rounds ref).remaining
  idle : ∀ {ref}, server.Registered ref → (server.rounds ref).demandReceived = false →
    (server.rounds ref).remaining = 0
  supply_kept : ∀ {ref}, server.Registered ref → (server.rounds ref).demandReceived = false →
    ∀ key entry, (server.rounds ref).available.lookup key = some entry → server.Kept entry.1
  serving_kept : ∀ {tid xfer}, server.inflight.lookup tid = some xfer →
    server.Registered xfer.round → ∀ jobId ∈ xfer.jobIds, server.Kept jobId
  serving_apart : ∀ {tid other xfer second}, server.inflight.lookup tid = some xfer →
    server.inflight.lookup other = some second → tid ≠ other → xfer.round = second.round →
    server.Registered xfer.round → ∀ jobId ∈ xfer.jobIds, jobId ∉ second.jobIds
  clean : ∀ {ref}, server.Registered ref → Throughout (PinnedTransfer ref) server.trace
  done_lt : ∀ {ref}, isDone server.trace ref = true → ref < server.nextRound
  done_closed : ∀ {ref}, isDone server.trace ref = true → ¬server.Registered ref
  done_idle : ∀ {ref}, isDone server.trace ref = true →
    ∀ tid xfer, server.inflight.lookup tid = some xfer → xfer.round ≠ ref
  done_clean : ∀ {ref}, isDone server.trace ref = true →
    Throughout (PinnedTransfer ref) server.trace
  writes : Throughout PinnedWrite server.trace

namespace Pinned

theorem start : Pinned (ServerRole.create : ServerRole Key) := by
  constructor <;> simp [create, Kept, Registered, Owns, isDone, Throughout, OutboundRequestState.create]

variable {server next : ServerRole Key} {ref : RoundRef} {jobId : JobId} {effect : Effect}

structure Thins (server next : ServerRole Key) : Prop where
  outbound : ∀ {key ref}, next.outbound.lookup key = some ref →
    server.outbound.lookup key = some ref := by exact fun found => found
  available : ∀ {ref key entry}, (next.rounds ref).available.lookup key = some entry →
    (server.rounds ref).available.lookup key = some entry := by exact fun found => found
  pending : ∀ ref, (next.rounds ref).pendingJobIds ⊆ (server.rounds ref).pendingJobIds := by
    exact fun _ => Subset.refl _
  demand : ∀ ref, (next.rounds ref).demandReceived = (server.rounds ref).demandReceived := by
    exact fun _ => rfl
  remaining : ∀ ref, (next.rounds ref).remaining = (server.rounds ref).remaining := by
    exact fun _ => rfl
  unmet : ∀ ref, next.unmet ref = server.unmet ref := by exact fun _ => rfl
  inflight : ∀ {tid xfer}, next.inflight.lookup tid = some xfer →
    server.inflight.lookup tid = some xfer := by exact fun found => found
  load : ∀ ref, next.load ref ≤ server.load ref := by exact fun _ => Nat.le_refl _
  storeJobs : next.storeJobs = server.storeJobs := by rfl
  results : next.pendingStoreResults = server.pendingStoreResults := by rfl
  trace : next.trace = server.trace := by rfl
  nextRound : next.nextRound = server.nextRound := by rfl

section

variable (thins : Thins server next)

include thins

theorem Thins.registered (registered : next.Registered ref) :
    server.Registered ref :=
  ⟨registered.choose, thins.outbound registered.choose_spec⟩

theorem Thins.kept : next.Kept = server.Kept := by
  unfold Kept
  rw [thins.storeJobs]

theorem Thins.owns : next.Owns = server.Owns := by
  unfold Owns
  rw [thins.trace]

theorem Thins.settled : next.Settled = server.Settled := by
  unfold Settled
  rw [thins.storeJobs, thins.owns]

end

theorem thin (pinned : server.Pinned) (thins : Thins server next) : next.Pinned where
  emitted jobId emitted := by
    rw [thins.settled]
    exact pinned.emitted jobId (thins.trace ▸ emitted)
  queued result queued := by
    rw [thins.settled]
    exact pinned.queued result (thins.results ▸ queued)
  kept_owned jobId kept := by
    rw [thins.owns]
    exact pinned.kept_owned jobId (thins.kept ▸ kept)
  one_owner first second := pinned.one_owner (thins.owns ▸ first) (thins.owns ▸ second)
  registered_lt registered := thins.nextRound ▸ pinned.registered_lt (thins.registered registered)
  registered_once first second :=
    pinned.registered_once (thins.outbound first) (thins.outbound second)
  available_owned found := thins.owns ▸ pinned.available_owned (thins.available found)
  pending_owned jobId pending := thins.owns ▸ pinned.pending_owned jobId (thins.pending _ pending)
  xfer_owned found := thins.owns ▸ pinned.xfer_owned (thins.inflight found)
  xfer_lt found := thins.nextRound ▸ pinned.xfer_lt (thins.inflight found)
  xfer_key found registered := pinned.xfer_key (thins.inflight found) (thins.outbound registered)
  xfer_pos found := pinned.xfer_pos (thins.inflight found)
  completed_lt completed := thins.nextRound ▸ pinned.completed_lt (thins.trace ▸ completed)
  budget {ref} registered := by
    have budget := pinned.budget (thins.registered registered)
    have load := thins.load ref
    rw [thins.unmet, thins.remaining]
    omega
  idle registered undemanded := by
    rw [thins.remaining]
    exact pinned.idle (thins.registered registered) (thins.demand _ ▸ undemanded)
  supply_kept registered undemanded key entry found := by
    rw [thins.kept]
    exact pinned.supply_kept (thins.registered registered) (thins.demand _ ▸ undemanded) key entry
      (thins.available found)
  serving_kept found registered := by
    rw [thins.kept]
    exact pinned.serving_kept (thins.inflight found) (thins.registered registered)
  serving_apart first second apart same registered :=
    pinned.serving_apart (thins.inflight first) (thins.inflight second) apart same
      (thins.registered registered)
  clean registered := thins.trace ▸ pinned.clean (thins.registered registered)
  done_lt done := thins.nextRound ▸ pinned.done_lt (thins.trace ▸ done)
  done_closed done registered := pinned.done_closed (thins.trace ▸ done) (thins.registered registered)
  done_idle done tid xfer found :=
    pinned.done_idle (thins.trace ▸ done) tid xfer (thins.inflight found)
  done_clean done := by
    rw [thins.trace] at done ⊢
    exact pinned.done_clean done
  writes := thins.trace ▸ pinned.writes

section

variable (server : ServerRole Key)

theorem thins_unregister (key : KvRequestId × Nat) :
    Thins server { server with outbound := server.outbound.erase key } where
  outbound found := (Dict.lookup_erase_eq_some.mp found).2

theorem thins_land (tid : TransferId) :
    Thins server { server with inflight := server.inflight.erase tid } where
  inflight found := (Dict.lookup_erase_eq_some.mp found).2
  load ref := by
    have erased := tally_erase
      (fun xfer : InflightXfer => if xfer.round = ref then xfer.blockCount else 0)
      server.inflight tid
    unfold load
    dsimp only
    omega

structure Marks (change : OutboundRequestState Key → OutboundRequestState Key) : Prop where
  available : ∀ round, (change round).available = round.available
  pending : ∀ round, (change round).pendingJobIds ⊆ round.pendingJobIds
  demand : ∀ round, (change round).demandReceived = round.demandReceived
  remaining : ∀ round, (change round).remaining = round.remaining
  demanded : ∀ round, (change round).demanded = round.demanded

theorem thins_modifyRound (ref : RoundRef)
    {change : OutboundRequestState Key → OutboundRequestState Key} (marks : Marks change) :
    Thins server (server.modifyRound ref change) := by
  obtain ⟨_, _, _, _, _⟩ := marks
  exact
    { available := by grind [rounds_modifyRound]
      pending := by grind [rounds_modifyRound]
      demand := by grind [rounds_modifyRound]
      remaining := by grind [rounds_modifyRound]
      unmet := by grind [rounds_modifyRound, unmet] }

end

theorem log (pinned : server.Pinned) (allows : Allows server effect) :
    (server.log effect).Pinned where
  emitted jobId emitted := by
    change (effect.emits jobId || isEmitted server.trace jobId) = true at emitted
    rw [Bool.or_eq_true] at emitted
    apply settled_log
    rcases emitted with _ | old
    · cases effect <;> simp_all [Effect.emits, Allows]
    · exact pinned.emitted jobId old
  queued result queued := settled_log effect (pinned.queued result queued)
  kept_owned jobId kept := by
    obtain ⟨ref, owned⟩ := pinned.kept_owned jobId kept
    exact ⟨ref, owns_log.mpr (.inr owned)⟩
  one_owner {ref other jobId} first second := by
    rw [owns_log] at first second
    rcases first with rfl | first <;> rcases second with same | second
    · cases same
      rfl
    · exact absurd second (allows other)
    · rw [same] at allows
      exact absurd first (allows ref)
    · exact pinned.one_owner first second
  registered_lt registered := pinned.registered_lt registered
  registered_once := pinned.registered_once
  available_owned found := owns_log.mpr (.inr (pinned.available_owned found))
  pending_owned jobId pending := owns_log.mpr (.inr (pinned.pending_owned jobId pending))
  xfer_owned found jobId member := owns_log.mpr (.inr (pinned.xfer_owned found jobId member))
  xfer_lt := pinned.xfer_lt
  xfer_key := pinned.xfer_key
  xfer_pos := pinned.xfer_pos
  completed_lt completed := by
    rcases mem_cons.mp completed with rfl | old
    · exact allows.1
    · exact pinned.completed_lt old
  budget := pinned.budget
  idle := pinned.idle
  supply_kept := pinned.supply_kept
  serving_kept := pinned.serving_kept
  serving_apart := pinned.serving_apart
  clean registered :=
    ⟨pinnedTransfer_of_allows allows (.inl registered), pinned.clean registered⟩
  done_lt done := by
    rcases isDone_log done with old | ⟨_, _, rfl⟩
    · exact pinned.done_lt old
    · exact (allows rfl).1
  done_closed done := by
    rcases isDone_log done with old | ⟨_, _, rfl⟩
    · exact pinned.done_closed old
    · exact (allows rfl).2.1
  done_idle done := by
    rcases isDone_log done with old | ⟨_, _, rfl⟩
    · exact pinned.done_idle old
    · exact (allows rfl).2.2.1
  done_clean done := by
    rcases isDone_log done with old | ⟨_, _, rfl⟩
    · exact ⟨pinnedTransfer_of_allows allows (.inr old), pinned.done_clean old⟩
    · exact ⟨trivial, (allows rfl).2.2.2⟩
  writes := by
    refine ⟨?_, pinned.writes⟩
    cases effect <;> first | exact allows | trivial

structure Hidden (server : ServerRole Key) (jobId : JobId) : Prop where
  supply : ∀ ref, server.Registered ref → (server.rounds ref).demandReceived = false →
    ∀ key entry, (server.rounds ref).available.lookup key = some entry → entry.1 ≠ jobId
  transfers : ∀ tid xfer, server.inflight.lookup tid = some xfer →
    server.Registered xfer.round → jobId ∉ xfer.jobIds

theorem hidden_of_detached (pinned : server.Pinned) (detached : ¬server.Registered ref)
    (owned : server.Owns ref jobId) : Hidden server jobId where
  supply other registered _ key entry found := by
    rintro rfl
    have owner := pinned.one_owner owned (pinned.available_owned found)
    exact detached (owner ▸ registered)
  transfers tid xfer found registered member := by
    have owner := pinned.one_owner owned (pinned.xfer_owned found jobId member)
    exact detached (owner ▸ registered)

theorem drop (pinned : server.Pinned) (hidden : Hidden server jobId) :
    { server with storeJobs := server.storeJobs.erase jobId }.Pinned := by
  have gone {other : JobId} (before : server.storeJobs.lookup other = none) :
      (server.storeJobs.erase jobId).lookup other = none := by grind
  have kept {other : JobId} (kept : server.Kept other) (apart : other ≠ jobId) :
      { server with storeJobs := server.storeJobs.erase jobId }.Kept other :=
    fun lost => kept ((lookup_erase_ne apart).symm.trans lost)
  refine
    { pinned with
      emitted := fun other emitted => (pinned.emitted other emitted).imp_left gone
      queued := fun result queued => (pinned.queued result queued).imp_left gone
      kept_owned := fun other still => pinned.kept_owned other fun before => still (gone before)
      supply_kept := ?_, serving_kept := ?_ }
  · intro ref registered undemanded key entry found
    exact kept (pinned.supply_kept registered undemanded key entry found)
      (hidden.supply ref registered undemanded key entry found)
  · intro tid xfer found registered other member
    apply kept (pinned.serving_kept found registered other member)
    rintro rfl
    exact hidden.transfers tid xfer found registered member

structure SameRounds (server next : ServerRole Key) : Prop where
  outbound : next.outbound = server.outbound
  rounds : next.rounds = server.rounds
  inflight : next.inflight = server.inflight
  nextRound : next.nextRound = server.nextRound
  clean : ∀ ref, Throughout (PinnedTransfer ref) server.trace →
    Throughout (PinnedTransfer ref) next.trace

theorem SameRounds.hidden (same : SameRounds server next) (hidden : Hidden server jobId) :
    Hidden next jobId := by
  obtain ⟨_, _⟩ := hidden
  constructor
  · unfold Registered
    rwa [same.outbound, same.rounds]
  · unfold Registered
    rwa [same.outbound, same.inflight]

structure Reports (report : ServerRole Key → StoreResult → ServerRole Key) : Prop where
  same : ∀ server result, SameRounds server (report server result)
  keeps : ∀ {server : ServerRole Key} {result}, server.Pinned → server.Settled result.jobId →
    (report server result).Pinned

theorem reports_emit : Reports (emit : ServerRole Key → StoreResult → ServerRole Key) where
  same _ _ := ⟨rfl, rfl, rfl, rfl, fun _ clean => ⟨trivial, clean⟩⟩
  keeps pinned settled := pinned.log settled

theorem reports_queueResult :
    Reports (queueResult : ServerRole Key → StoreResult → ServerRole Key) where
  same _ _ := ⟨rfl, rfl, rfl, rfl, fun _ clean => clean⟩
  keeps pinned settled :=
    { pinned with
      queued := fun other queued => by
        rcases mem_append.mp queued with old | new
        · exact pinned.queued other old
        · rw [mem_singleton.mp new]
          exact settled }

variable {report : ServerRole Key → StoreResult → ServerRole Key}

section

variable (pinned : server.Pinned) {kvRequestId : KvRequestId}

include pinned

section

variable (reports : Reports report) (success : Bool)

include reports

theorem settle (hidden : Hidden server jobId) :
    (server.settle jobId success report).Pinned ∧
      SameRounds server (server.settle jobId success report) := by
  unfold ServerRole.settle
  split
  · exact ⟨pinned, rfl, rfl, rfl, rfl, fun _ clean => clean⟩
  · next time found =>
    refine ⟨reports.keeps (pinned.drop hidden) ⟨lookup_erase _ _, ?_⟩, ?_⟩
    · apply pinned.kept_owned
      unfold Kept
      rw [found]
      exact Option.some_ne_none time
    · obtain ⟨outbound, rounds, inflight, nextRound, clean⟩ := reports.same
        { server with storeJobs := server.storeJobs.erase jobId } ⟨jobId, success⟩
      exact ⟨outbound, rounds, inflight, nextRound, clean⟩

theorem settleAll {jobIds : List JobId} (hidden : ∀ jobId ∈ jobIds, Hidden server jobId) :
    (server.settleAll jobIds success report).Pinned ∧
      SameRounds server (server.settleAll jobIds success report) := by
  induction jobIds generalizing server with
  | nil => exact ⟨pinned, rfl, rfl, rfl, rfl, fun _ clean => clean⟩
  | cons jobId rest ih =>
    obtain ⟨first, others⟩ := forall_mem_cons.mp hidden
    obtain ⟨settled, same⟩ := pinned.settle reports success first
    obtain ⟨kept, still⟩ := ih settled fun other member => same.hidden (others other member)
    refine ⟨kept, still.outbound.trans same.outbound, still.rounds.trans same.rounds,
      still.inflight.trans same.inflight, still.nextRound.trans same.nextRound, ?_⟩
    exact fun ref clean => still.clean ref (same.clean ref clean)

theorem settleRound (detached : ¬server.Registered ref) :
    (server.settleRound ref success report).Pinned ∧
      (server.settleRound ref success report).outbound = server.outbound ∧
      (server.settleRound ref success report).inflight = server.inflight ∧
      (server.settleRound ref success report).nextRound = server.nextRound ∧
      (Throughout (PinnedTransfer ref) server.trace →
        Throughout (PinnedTransfer ref) (server.settleRound ref success report).trace) := by
  obtain ⟨settled, same⟩ := pinned.settleAll reports success fun jobId member =>
    pinned.hidden_of_detached detached (pinned.pending_owned jobId member)
  refine ⟨settled.thin (thins_modifyRound _ ref ?_), same.outbound, same.inflight, same.nextRound,
    same.clean ref⟩
  exact ⟨fun _ => rfl, fun _ => nil_subset _, fun _ => rfl, fun _ => rfl, fun _ => rfl⟩

end

theorem idle_of_load (unloaded : server.load ref = 0) (tid : TransferId) (xfer : InflightXfer)
    (found : server.inflight.lookup tid = some xfer) : xfer.round ≠ ref := by
  intro same
  have weight := weight_le_tally
    (fun xfer : InflightXfer => if xfer.round = ref then xfer.blockCount else 0) found
  have positive := pinned.xfer_pos found
  unfold load at unloaded
  rw [if_pos same] at weight
  omega

theorem finalizeOutbound {roundKey : Nat} {success : Option Bool}
    {sendDone : Bool} (finished : success = some true → ∀ ref,
      server.outbound.lookup (kvRequestId, roundKey) = some ref → (server.rounds ref).remaining = 0)
    (run : server.finalizeOutbound kvRequestId roundKey success sendDone = .ok next) :
    next.Pinned := by
  unfold ServerRole.finalizeOutbound at run
  split at run
  · cases run
  · next ref found =>
    have detached : ¬{ server with
        outbound := server.outbound.erase (kvRequestId, roundKey) }.Registered ref := by
      rintro ⟨_, still⟩
      obtain ⟨apart, before⟩ := Dict.lookup_erase_eq_some.mp still
      exact apart (pinned.registered_once before found)
    obtain ⟨settled, outbound, inflight, nextRound, clean⟩ :=
      (pinned.thin (thins_unregister server (kvRequestId, roundKey))).settleRound
        reports_queueResult
        (success.getD ((server.rounds ref).demandReceived && (server.rounds ref).remaining == 0))
        detached
    dsimp only at run
    split_ifs at run
    · cases run
      apply settled.log
      intro succeeds
      have empty : (server.rounds ref).remaining = 0 := by
        cases success with
        | none => simp_all
        | some given => exact finished (congrArg some succeeds) ref found
      have budget := pinned.budget ⟨_, found⟩
      refine ⟨?_, ?_, ?_, clean (pinned.clean ⟨_, found⟩)⟩
      · rw [nextRound]
        exact pinned.registered_lt ⟨_, found⟩
      · unfold Registered at detached ⊢
        rwa [outbound]
      · rw [inflight]
        exact pinned.idle_of_load (by omega)
    · cases run
      exact settled

theorem finalizeAll {seqs : List Nat}
    (run : server.finalizeAll kvRequestId seqs = .ok next) : next.Pinned := by
  induction seqs generalizing server with
  | nil =>
    cases run
    exact pinned
  | cons seq rest ih =>
    obtain ⟨_, first, run⟩ := Run.foldlM_cons_ok run
    exact ih (pinned.finalizeOutbound (by simp) first) run

end

structure Creates (server : ServerRole Key) (key : KvRequestId × Nat) (ref : RoundRef)
    (next : ServerRole Key) : Prop where
  pinned : next.Pinned
  registered : next.outbound.lookup key = some ref
  old : ∀ other, server.outbound.lookup key = some other →
    ref = other ∧ next.rounds ref = server.rounds other
  new : server.outbound.lookup key = none → next.rounds ref = .create
  inflight : next.inflight = server.inflight
  trace : next.trace = server.trace
  results : next.pendingStoreResults = server.pendingStoreResults

section

variable (pinned : server.Pinned)

include pinned

theorem setRound (ref : RoundRef) {round : OutboundRequestState Key}
    (available : ∀ key entry, round.available.lookup key = some entry → server.Owns ref entry.1)
    (pending : ∀ jobId ∈ round.pendingJobIds, server.Owns ref jobId)
    (budget : server.Registered ref →
      server.load ref + tally (fun _ => 1) round.demanded ≤ round.remaining)
    (idle : server.Registered ref → round.demandReceived = false → round.remaining = 0)
    (supply : server.Registered ref → round.demandReceived = false → ∀ key entry,
      round.available.lookup key = some entry → server.Kept entry.1) :
    (server.modifyRound ref fun _ => round).Pinned := by
  have owned := @pinned.available_owned
  have bounded := @pinned.budget
  have resting := @pinned.idle
  have supplied := @pinned.supply_kept
  have waiting := @pinned.pending_owned
  exact
    { pinned with
      available_owned := by grind [rounds_modifyRound, modifyRound, Owns]
      pending_owned := by grind [rounds_modifyRound, modifyRound, Owns]
      budget := by grind [rounds_modifyRound, modifyRound, load, unmet, Registered]
      idle := by grind [rounds_modifyRound, modifyRound, Registered]
      supply_kept := by grind [rounds_modifyRound, modifyRound, Registered, Kept] }

-- The round at `nextRound` is blank, and nothing has named it yet.
theorem open_round (key : KvRequestId × Nat)
    (blank : server.rounds server.nextRound = .create) :
    { server with
      outbound := server.outbound.insert key server.nextRound
      nextRound := server.nextRound + 1 }.Pinned := by
  have older {ref : RoundRef} (below : ref < server.nextRound) {other : KvRequestId × Nat}
      (found : (server.outbound.insert key server.nextRound).lookup other = some ref) :
      server.outbound.lookup other = some ref :=
    ((Dict.lookup_insert_eq_some.mp found).resolve_left fun new => below.ne new.2.symm).2
  have before {ref : RoundRef} (below : ref < server.nextRound)
      (registered : ∃ other, (server.outbound.insert key server.nextRound).lookup other = some ref) :
      server.Registered ref :=
    registered.imp fun _ => older below
  have split {holds : RoundRef → Prop} (new : holds server.nextRound)
      (old : ∀ ref, server.Registered ref → holds ref) {ref : RoundRef}
      (registered : ∃ other, (server.outbound.insert key server.nextRound).lookup other = some ref) :
      holds ref := by
    obtain ⟨other, found⟩ := registered
    exact Dict.of_lookup_insert new (fun found => old _ ⟨_, found⟩) found
  have unloaded : server.load server.nextRound = 0 :=
    tally_eq_zero fun tid xfer found => if_neg (pinned.xfer_lt found).ne
  have clean : Throughout (PinnedTransfer server.nextRound) server.trace := by
    apply throughout_of_forall
    intro effect member earlier
    cases effect with
    | completed round jobIds =>
      rintro rfl
      exact absurd (pinned.completed_lt member) (Nat.lt_irrefl _)
    | _ => trivial
  exact
    { pinned with
      registered_lt := split (Nat.lt_succ_self _) fun _ old =>
        Nat.lt_succ_of_lt (pinned.registered_lt old)
      registered_once := fun first second => by
        have unnamed := @pinned.registered_lt server.nextRound
        have once := @pinned.registered_once
        grind [Registered]
      xfer_lt := fun found => Nat.lt_succ_of_lt (pinned.xfer_lt found)
      xfer_key := fun found named => pinned.xfer_key found (older (pinned.xfer_lt found) named)
      completed_lt := fun completed => Nat.lt_succ_of_lt (pinned.completed_lt completed)
      budget := split (by
        change server.load _ + tally _ (server.rounds _).demanded ≤ _
        rw [unloaded, blank]
        exact Nat.le_refl 0) fun _ => pinned.budget
      idle := split (fun _ => by rw [blank]; rfl) fun _ => pinned.idle
      supply_kept := split (fun _ _ _ found => by rw [blank] at found; cases found)
        fun _ => pinned.supply_kept
      serving_kept := fun found named =>
        pinned.serving_kept found (before (pinned.xfer_lt found) named)
      serving_apart := fun first second apart same named =>
        pinned.serving_apart first second apart same (before (pinned.xfer_lt first) named)
      clean := split clean fun _ => pinned.clean
      done_lt := fun done => Nat.lt_succ_of_lt (pinned.done_lt done)
      done_closed := fun done named => pinned.done_closed done (before (pinned.done_lt done) named) }

theorem register (key : KvRequestId × Nat) : (server.register key).Pinned := by
  have unregistered : ¬server.Registered server.nextRound :=
    fun registered => Nat.lt_irrefl _ (pinned.registered_lt registered)
  have blank : (server.modifyRound server.nextRound fun _ => .create).Pinned :=
    pinned.setRound server.nextRound (by simp [OutboundRequestState.create]) (by nofun)
      (fun registered => absurd registered unregistered) (fun _ _ => rfl)
      (fun registered => absurd registered unregistered)
  exact blank.open_round key (update_self _ _ _)

theorem getOrCreateRound (key : KvRequestId × Nat) :
    Creates server key (server.getOrCreateRound key).1 (server.getOrCreateRound key).2 := by
  unfold ServerRole.getOrCreateRound
  cases found : server.outbound.lookup key with
  | some ref => exact ⟨pinned, found, by simp [found], by simp [found], rfl, rfl, rfl⟩
  | none =>
    refine ⟨pinned.register key, lookup_insert _, by simp [found], fun _ => ?_, rfl, rfl,
      rfl⟩
    exact update_self _ _ _

theorem keep (now : Time) (owned : ∃ ref, server.Owns ref jobId)
    (unsettled : isEmitted server.trace jobId = false)
    (unqueued : ∀ result ∈ server.pendingStoreResults, result.jobId ≠ jobId) :
    { server with storeJobs := server.storeJobs.insert jobId now }.Pinned := by
  have settled {other : JobId} (settled : server.Settled other) (apart : other ≠ jobId) :
      { server with storeJobs := server.storeJobs.insert jobId now }.Settled other :=
    ⟨(lookup_insert_ne apart).trans settled.1, settled.2⟩
  have kept {other : JobId} (kept : server.Kept other) :
      { server with storeJobs := server.storeJobs.insert jobId now }.Kept other := by
    intro gone
    by_cases same : other = jobId
    · rw [same, lookup_insert] at gone
      cases gone
    · exact kept ((lookup_insert_ne same).symm.trans gone)
  refine
    { pinned with
      emitted := ?_, queued := ?_, kept_owned := ?_, supply_kept := ?_, serving_kept := ?_ }
  · intro other emitted
    apply settled (pinned.emitted other emitted)
    rintro rfl
    rw [unsettled] at emitted
    cases emitted
  · intro result queued
    exact settled (pinned.queued result queued) (unqueued result queued)
  · intro other still
    by_cases same : other = jobId
    · rw [same]
      exact owned
    · refine pinned.kept_owned other fun gone => still ?_
      exact (lookup_insert_ne same).trans gone
  · intro ref registered undemanded key entry found
    exact kept (pinned.supply_kept registered undemanded key entry found)
  · intro tid xfer found registered other member
    exact kept (pinned.serving_kept found registered other member)

end

structure Ready (server : ServerRole Key) (xfer : InflightXfer) : Prop where
  registered : server.outbound.lookup (xfer.kvRequestId, xfer.roundKey) = some xfer.round
  positive : 0 < xfer.blockCount
  room : server.load xfer.round + xfer.blockCount + server.unmet xfer.round ≤
    (server.rounds xfer.round).remaining
  owned : ∀ jobId ∈ xfer.jobIds, server.Owns xfer.round jobId
  kept : ∀ jobId ∈ xfer.jobIds, server.Kept jobId
  apart : ∀ tid other, server.inflight.lookup tid = some other → other.round = xfer.round →
    ∀ jobId ∈ xfer.jobIds, jobId ∉ other.jobIds

theorem launch (pinned : server.Pinned) {xfer : InflightXfer} (ready : Ready server xfer)
    (tid nextTransfer : TransferId) :
    { server with
      inflight := server.inflight.insert tid xfer
      nextTransfer := nextTransfer }.Pinned := by
  have loads (ref : RoundRef) :
      tally (fun xfer => if xfer.round = ref then xfer.blockCount else 0)
          (server.inflight.insert tid xfer) ≤
        server.load ref + if xfer.round = ref then xfer.blockCount else 0 := by
    have inserted := tally_insert
      (fun xfer : InflightXfer => if xfer.round = ref then xfer.blockCount else 0)
      server.inflight tid xfer
    unfold load
    omega
  have registered : server.Registered xfer.round := ⟨_, ready.registered⟩
  exact
    { pinned with
      xfer_owned := Dict.of_lookup_insert ready.owned pinned.xfer_owned
      xfer_lt := Dict.of_lookup_insert (p := fun xfer : InflightXfer => xfer.round < server.nextRound)
        (pinned.registered_lt registered) pinned.xfer_lt
      xfer_key := fun found => Dict.of_lookup_insert
        (fun named => pinned.registered_once named ready.registered) pinned.xfer_key found
      xfer_pos := Dict.of_lookup_insert (p := fun xfer : InflightXfer => 0 < xfer.blockCount)
        ready.positive pinned.xfer_pos
      budget := fun {ref} named => by
        have loaded := loads ref
        have budget := pinned.budget named
        have room := ready.room
        change tally _ (server.inflight.insert tid xfer) + server.unmet ref ≤
          (server.rounds ref).remaining
        split at loaded
        · next same =>
          subst same
          omega
        · omega
      serving_kept := Dict.of_lookup_insert (fun _ => ready.kept) pinned.serving_kept
      serving_apart := by
        have apart := @pinned.serving_apart
        obtain ⟨_, _, _, _, _, _⟩ := ready
        grind [Registered]
      done_idle := fun done _ _ => Dict.of_lookup_insert
        (fun same => pinned.done_closed done (Eq.subst same registered))
        (pinned.done_idle done _ _) }

end Pinned

end ServerRole

end VllmEngine.P2P
