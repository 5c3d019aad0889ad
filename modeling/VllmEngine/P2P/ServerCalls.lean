import VllmEngine.P2P.ServerPins
import Mathlib.Data.List.Dedup

set_option autoImplicit false

namespace VllmEngine.P2P

open Outcome OutboundRequestState List Except

variable {Key : Type} [DecidableEq Key]

namespace OutboundRequestState

structure Supplied (jobId : JobId) (round : OutboundRequestState Key)
    (state : List MatchedBlock × OutboundRequestState Key) : Prop where
  jobs : ∀ block ∈ state.1, block.jobId = jobId
  available : ∀ key entry, state.2.available.lookup key = some entry →
    entry.1 = jobId ∨ round.available.lookup key = some entry
  pending : ∀ other ∈ state.2.pendingJobIds, other = jobId ∨ other ∈ round.pendingJobIds
  demand : state.2.demandReceived = round.demandReceived
  remaining : state.2.remaining = round.remaining
  count : state.1.length + tally (fun _ => 1) state.2.demanded = tally (fun _ => 1) round.demanded

variable {round : OutboundRequestState Key} {state : List MatchedBlock × OutboundRequestState Key}

theorem Supplied.addStoredBlock {jobId : JobId} (supplied : Supplied jobId round state)
    (block : Key × Nat) :
    Supplied jobId round (addStoredBlock jobId state block) := by
  obtain ⟨_, _, _, _, _, _⟩ := supplied
  unfold OutboundRequestState.addStoredBlock
  split
  · next remoteIdx wanted =>
    have erased := tally_erase (fun _ => 1) state.2.demanded block.1
    constructor <;> grind
  · constructor <;> grind

theorem supplied_addStoredBlocks (round : OutboundRequestState Key) (keys : List Key)
    (blockIds : List Nat) (jobId : JobId) :
    Supplied jobId round (round.addStoredBlocks keys blockIds jobId) := by
  refine foldlRecOn _ _ ?_ fun state supplied block _ => supplied.addStoredBlock block
  refine ⟨nofun, fun _ _ found => .inr found, fun other member => ?_, rfl, rfl, ?_⟩
  · exact mem_insert_iff.mp member
  · exact Nat.zero_add _

structure Fetched (round : OutboundRequestState Key)
    (state : List MatchedBlock × OutboundRequestState Key) : Prop where
  jobs : ∀ block ∈ state.1, ∃ key entry, round.available.lookup key = some entry ∧
    entry.1 = block.jobId
  available : ∀ key entry, state.2.available.lookup key = some entry →
    round.available.lookup key = some entry
  pending : state.2.pendingJobIds = round.pendingJobIds
  demand : state.2.demandReceived = true

theorem Fetched.addDemand (fetched : Fetched round state)
    (block : Key × Nat) : Fetched round (addDemand state block) := by
  obtain ⟨_, _, _, _⟩ := fetched
  unfold OutboundRequestState.addDemand
  split <;> constructor <;> grind

theorem fetched_addFetchDemand (round : OutboundRequestState Key) (keys : List Key)
    (blockIndexes : List Nat) : Fetched round (round.addFetchDemand keys blockIndexes) := by
  refine foldlRecOn _ _ ?_ fun state fetched block _ => fetched.addDemand block
  exact ⟨nofun, fun _ _ found => found, rfl, rfl⟩

theorem foldl_addDemand_count (blocks : List (Key × Nat))
    (state : List MatchedBlock × OutboundRequestState Key) :
    (blocks.foldl addDemand state).2.remaining = state.2.remaining ∧
      (blocks.foldl addDemand state).1.length +
          tally (fun _ => 1) (blocks.foldl addDemand state).2.demanded ≤
        state.1.length + tally (fun _ => 1) state.2.demanded + blocks.length := by
  induction blocks generalizing state with
  | nil => simp
  | cons block rest ih =>
    have step : (addDemand state block).2.remaining = state.2.remaining ∧
        (addDemand state block).1.length + tally (fun _ => 1) (addDemand state block).2.demanded ≤
          state.1.length + tally (fun _ => 1) state.2.demanded + 1 := by
      unfold addDemand
      split
      · have erased := tally_erase (fun _ => 1) state.2.demanded block.1
        refine ⟨rfl, ?_⟩
        rw [length_append, length_singleton]
        dsimp only
        omega
      · have inserted := tally_insert (fun _ => 1) state.2.demanded block.1 block.2
        dsimp only
        omega
    obtain ⟨remaining, _⟩ := ih (addDemand state block)
    rw [foldl_cons, length_cons]
    refine ⟨remaining.trans step.1, ?_⟩
    omega

theorem addFetchDemand_count (round : OutboundRequestState Key) (keys : List Key)
    (blockIndexes : List Nat) :
    (round.addFetchDemand keys blockIndexes).2.remaining = keys.length ∧
      (round.addFetchDemand keys blockIndexes).1.length +
          tally (fun _ => 1) (round.addFetchDemand keys blockIndexes).2.demanded ≤
        tally (fun _ => 1) round.demanded + keys.length := by
  obtain ⟨remaining, count⟩ := foldl_addDemand_count (keys.zip blockIndexes)
    ([], { round with demandReceived := true, remaining := keys.length })
  refine ⟨remaining, count.trans ?_⟩
  rw [length_zip, length_nil]
  dsimp only
  omega

end OutboundRequestState

theorem mem_matchedJobs {blocks : List MatchedBlock} {jobId : JobId} :
    jobId ∈ matchedJobs blocks ↔ ∃ block ∈ blocks, block.jobId = jobId := by
  unfold matchedJobs
  rw [mem_dedup, mem_map]

namespace ServerRole.Pinned

variable {server next : ServerRole Key} {ref : RoundRef} {jobId : JobId} {kvRequestId : KvRequestId}
  {roundSeq : Nat} {tid : TransferId} {xfer : InflightXfer}

theorem unemitted (pinned : server.Pinned) (kept : server.Kept jobId) :
    isEmitted server.trace jobId = false := by
  by_contra emitted
  exact kept (pinned.emitted jobId (by simpa using emitted)).1

omit [DecidableEq Key] in
theorem marks_flags (lookupSupplied finishing : OutboundRequestState Key → Bool)
    (inflight : OutboundRequestState Key → Nat) :
    Marks fun round : OutboundRequestState Key =>
      { round with
        lookupSupplied := lookupSupplied round
        finishing := finishing round
        inflight := inflight round } :=
  ⟨fun _ => rfl, fun _ => List.Subset.refl _, fun _ => rfl, fun _ => rfl, fun _ => rfl⟩

section

variable (pinned : server.Pinned) {keys : List Key} {written flag : Bool}

include pinned

theorem submitTransfer {blocks : List MatchedBlock} {written : Bool}
    (ready : Ready server ⟨kvRequestId, blocks.length, matchedJobs blocks, ref, roundSeq⟩)
    (run : server.submitTransfer kvRequestId blocks ref roundSeq written = .ok next) :
    next.Pinned := by
  have logged : (server.log (.wrote blocks)).Pinned := by
    apply pinned.log
    intro block member
    exact pinned.unemitted (ready.kept _ (mem_matchedJobs.mpr ⟨block, member, rfl⟩))
  have marked := logged.thin
    (thins_modifyRound _ ref (marks_flags (·.lookupSupplied) (fun _ => true) (·.inflight)))
  unfold ServerRole.submitTransfer at run
  dsimp only at run
  split_ifs at run
  · cases run
    have launched := logged.launch
      ⟨ready.registered, ready.positive, ready.room,
        fun jobId member => owns_log.mpr (.inr (ready.owned jobId member)), ready.kept, ready.apart⟩
      server.nextTransfer (server.nextTransfer + 1)
    exact launched.thin (thins_modifyRound _ ref
      (marks_flags (·.lookupSupplied) (·.finishing) (·.inflight + 1)))
  · exact marked.finalizeOutbound (by simp) run
  · cases run
    exact marked

theorem receiveJob (fresh : ∀ ref, ¬server.Owns ref jobId) (now : Time) (ref : RoundRef) :
    (server.receiveJob jobId ref now).Pinned := by
  have logged : (server.log (.stored jobId ref)).Pinned := pinned.log fresh
  apply logged.keep now ⟨ref, owns_log.mpr (.inl rfl)⟩
  · change (false || isEmitted server.trace jobId) = false
    rw [Bool.false_or, Bool.eq_false_iff]
    intro emitted
    obtain ⟨-, owner, owned⟩ := pinned.emitted jobId emitted
    exact fresh owner owned
  · rintro result queued rfl
    obtain ⟨-, owner, owned⟩ := pinned.queued result queued
    exact fresh owner owned

theorem addStoredBlocks {blockIds : List Nat} {fromLookup written : Bool}
    {now : Time} (fresh : ∀ ref, ¬server.Owns ref jobId)
    (run : server.addStoredBlocks kvRequestId keys blockIds jobId roundSeq fromLookup now written =
      .ok next) : next.Pinned := by
  unfold ServerRole.addStoredBlocks at run
  have creates := pinned.getOrCreateRound (kvRequestId, roundSeq)
  generalize server.getOrCreateRound (kvRequestId, roundSeq) = made at run creates
  obtain ⟨ref, created⟩ := made
  dsimp only at run creates
  have unowned (other : RoundRef) : ¬created.Owns other jobId := by
    unfold Owns
    rw [creates.trace]
    exact fresh other
  have received := creates.pinned.receiveJob unowned now ref
  have registered : (created.receiveJob jobId ref now).Registered ref := ⟨_, creates.registered⟩
  have budget := received.budget registered
  have own : (created.receiveJob jobId ref now).Owns ref jobId := mem_cons_self
  have kept : (created.receiveJob jobId ref now).Kept jobId := by
    simp [Kept, ServerRole.receiveJob]
  have supplied := OutboundRequestState.supplied_addStoredBlocks
    { (created.receiveJob jobId ref now).rounds ref with
      lookupSupplied := fromLookup || ((created.receiveJob jobId ref now).rounds ref).lookupSupplied }
    keys blockIds jobId
  generalize OutboundRequestState.addStoredBlocks _ keys blockIds jobId = result at run supplied
  obtain ⟨matched, round⟩ := result
  obtain ⟨jobs, available, pending, demand, remaining, count⟩ := supplied
  dsimp only at run jobs available pending demand remaining count
  have set : ((created.receiveJob jobId ref now).modifyRound ref fun _ => round).Pinned := by
    refine received.setRound ref ?_ ?_ (fun _ => ?_) (fun _ undemanded => ?_)
      fun _ undemanded key entry found => ?_
    · intro key entry found
      rcases available key entry found with mine | old
      · rw [mine]
        exact own
      · exact received.available_owned old
    · intro other member
      rcases pending other member with rfl | old
      · exact own
      · exact received.pending_owned other old
    · unfold unmet at budget
      omega
    · rw [demand] at undemanded
      rw [remaining]
      exact received.idle registered undemanded
    · rw [demand] at undemanded
      rcases available key entry found with mine | old
      · rw [mine]
        exact kept
      · exact received.supply_kept registered undemanded key entry old
  split_ifs at run with transfers
  · have mine (other : JobId) (member : other ∈ matchedJobs matched) : other = jobId := by
      obtain ⟨block, inside, rfl⟩ := mem_matchedJobs.mp member
      exact jobs block inside
    refine set.submitTransfer ⟨creates.registered, length_pos_iff.mpr transfers.1, ?_,
      fun other member => mine other member ▸ own, fun other member => mine other member ▸ kept, ?_⟩
      run
    · unfold unmet at budget ⊢
      rw [rounds_modifyRound, if_pos rfl, remaining]
      change (created.receiveJob jobId ref now).load ref + matched.length + _ ≤ _
      omega
    · intro tid xfer found _ other member shared
      rw [mine other member] at shared
      exact unowned _ (creates.pinned.xfer_owned found jobId shared)
  · cases run
    exact set

theorem finalizeFinishing {flag : Bool}
    (run : server.finalizeFinishing kvRequestId roundSeq ref = .ok (next, flag)) :
    next.Pinned := by
  unfold ServerRole.finalizeFinishing at run
  split_ifs at run
  · split at run
    · next ended =>
      cases run
      exact pinned.finalizeOutbound (by simp) ended
    · cases run
      exact pinned
    · cases run
  · cases run
    exact pinned

theorem serveFetch {matched : List MatchedBlock} (ready : matched ≠ [] →
      Ready server ⟨kvRequestId, matched.length, matchedJobs matched, ref, roundSeq⟩)
    (run : server.serveFetch kvRequestId keys roundSeq ref matched written = .ok (next, flag)) :
    next.Pinned := by
  unfold ServerRole.serveFetch at run
  split_ifs at run with _ _ unmatched
  · obtain ⟨_, ended, result⟩ := map_eq_ok.mp run
    cases result
    exact pinned.finalizeAll ended
  · obtain ⟨_, ended, result⟩ := map_eq_ok.mp run
    cases result
    exact pinned.finalizeOutbound (by simp) ended
  · exact pinned.finalizeFinishing run
  · obtain ⟨_, submitted, run⟩ := bind_eq_ok.mp run
    exact (pinned.submitTransfer (ready unmatched) submitted).finalizeFinishing run

theorem onFetch {blockIndexes : List Nat}
    (run : server.onFetch kvRequestId keys blockIndexes roundSeq written = .ok (next, flag)) :
    next.Pinned := by
  unfold ServerRole.onFetch at run
  split at run
  · cases run
  next first =>
  have creates := pinned.getOrCreateRound (kvRequestId, roundSeq)
  generalize server.getOrCreateRound (kvRequestId, roundSeq) = made at run creates
  obtain ⟨ref, created⟩ := made
  dsimp only at run creates
  have registered : created.Registered ref := ⟨_, creates.registered⟩
  have undemanded : (created.rounds ref).demandReceived = false := by
    cases found : server.outbound.lookup (kvRequestId, roundSeq) with
    | none =>
      rw [creates.new found]
      rfl
    | some other =>
      obtain ⟨rfl, same⟩ := creates.old other found
      rw [found] at first
      rw [same]
      simpa using first
  have budget := creates.pinned.budget registered
  rw [creates.pinned.idle registered undemanded] at budget
  unfold unmet at budget
  have unloaded : created.load ref = 0 := by omega
  have fetched := fetched_addFetchDemand (created.rounds ref) keys blockIndexes
  have counted := addFetchDemand_count (created.rounds ref) keys blockIndexes
  generalize (created.rounds ref).addFetchDemand keys blockIndexes = result at run fetched counted
  obtain ⟨matched, round⟩ := result
  obtain ⟨jobs, available, pending, demand⟩ := fetched
  obtain ⟨remaining, count⟩ := counted
  dsimp only at run jobs available pending demand remaining count
  have set : (created.modifyRound ref fun _ => round).Pinned := by
    refine creates.pinned.setRound ref ?_ ?_ (fun _ => by omega) ?_ ?_
    · intro key entry found
      exact creates.pinned.available_owned (available key entry found)
    · rw [pending]
      exact creates.pinned.pending_owned
    · simp [demand]
    · simp [demand]
  refine set.serveFetch (fun some => ⟨creates.registered, length_pos_iff.mpr some, ?_,
    fun job member => ?_, fun job member => ?_, fun tid xfer found together => ?_⟩) run
  · unfold unmet
    rw [rounds_modifyRound, if_pos rfl]
    change created.load ref + matched.length + _ ≤ _
    omega
  · obtain ⟨block, inside, rfl⟩ := mem_matchedJobs.mp member
    obtain ⟨key, entry, found, same⟩ := jobs block inside
    exact same ▸ creates.pinned.available_owned found
  · obtain ⟨block, inside, rfl⟩ := mem_matchedJobs.mp member
    obtain ⟨key, entry, found, same⟩ := jobs block inside
    exact same ▸ creates.pinned.supply_kept registered undemanded key entry found
  · -- Before its fetch a round has no transfer.
    exact absurd together (creates.pinned.idle_of_load unloaded tid xfer found)

end

theorem Thins.trans {after : ServerRole Key} (first : Thins server next) (second : Thins next after) :
    Thins server after where
  outbound found := first.outbound (second.outbound found)
  available found := first.available (second.available found)
  pending ref := List.Subset.trans (second.pending ref) (first.pending ref)
  demand ref := (second.demand ref).trans (first.demand ref)
  remaining ref := (second.remaining ref).trans (first.remaining ref)
  unmet ref := (second.unmet ref).trans (first.unmet ref)
  inflight found := first.inflight (second.inflight found)
  load ref := (second.load ref).trans (first.load ref)
  storeJobs := second.storeJobs.trans first.storeJobs
  results := second.results.trans first.results
  trace := second.trace.trans first.trace
  nextRound := second.nextRound.trans first.nextRound

structure Lands (server : ServerRole Key) (tid : TransferId) (xfer : InflightXfer)
    (next : ServerRole Key) : Prop where
  thins : Thins server next
  outbound : next.outbound = server.outbound
  inflight : next.inflight = server.inflight.erase tid
  load : next.load xfer.round + xfer.blockCount = server.load xfer.round

theorem lands_of_inflightPop (found : server.inflight.lookup tid = some xfer)
    (run : server.inflightPop tid xfer = .ok next) : Lands server tid xfer next := by
  unfold ServerRole.inflightPop at run
  simp only [bind_eq_ok, pure_eq_ok] at run
  obtain ⟨-, -, rfl⟩ := run
  refine ⟨(thins_modifyRound server xfer.round
    (marks_flags (·.lookupSupplied) (·.finishing) (·.inflight - 1))).trans (thins_land _ tid), rfl,
    rfl, ?_⟩
  have erased := tally_erase
    (fun other : InflightXfer => if other.round = xfer.round then other.blockCount else 0)
    server.inflight tid
  rw [found, Option.elim_some, if_pos rfl] at erased
  exact erased

theorem inflightPopAll (pinned : server.Pinned) {tids : List TransferId}
    (run : server.inflightPopAll tids = .ok next) :
    next.Pinned ∧ next.outbound = server.outbound := by
  induction tids generalizing server with
  | nil =>
    cases run
    exact ⟨pinned, rfl⟩
  | cons tid rest ih =>
    obtain ⟨_, first, run⟩ := Run.foldlM_cons_ok run
    split at first
    · cases first
      exact ih pinned run
    · next xfer found =>
      have lands := lands_of_inflightPop found first
      obtain ⟨kept, outbound⟩ := ih (pinned.thin lands.thins) run
      exact ⟨kept, outbound.trans lands.outbound⟩

theorem Lands.hidden (lands : Lands server tid xfer next)
    (pinned : server.Pinned) (found : server.inflight.lookup tid = some xfer) :
    ∀ jobId ∈ xfer.jobIds, Hidden next jobId := by
  intro jobId member
  have owned := pinned.xfer_owned found jobId member
  refine ⟨fun ref registered undemanded key entry supplied => ?_,
    fun other second there registered shared => ?_⟩
  · rintro rfl
    have before := lands.thins.registered registered
    have budget := pinned.budget before
    rw [lands.thins.demand] at undemanded
    rw [pinned.idle before undemanded] at budget
    have owner := pinned.one_owner owned (pinned.available_owned (lands.thins.available supplied))
    exact pinned.idle_of_load (by omega) tid xfer found owner
  · rw [lands.inflight] at there
    obtain ⟨apart, there⟩ := Dict.lookup_erase_eq_some.mp there
    have owner := pinned.one_owner (pinned.xfer_owned there jobId shared) owned
    exact pinned.serving_apart there found apart owner (lands.thins.registered registered) jobId
      shared member

section

variable (pinned : server.Pinned)

include pinned

theorem settleXferJobs (success : Bool)
    (hidden : ∀ jobId ∈ xfer.jobIds, Hidden server jobId) :
    (server.settleXferJobs xfer success).Pinned ∧
      (server.settleXferJobs xfer success).outbound = server.outbound ∧
      (server.settleXferJobs xfer success).load xfer.round = server.load xfer.round ∧
      (server.settleXferJobs xfer success).unmet xfer.round = server.unmet xfer.round ∧
      ((server.settleXferJobs xfer success).rounds xfer.round).remaining =
        (server.rounds xfer.round).remaining := by
  unfold ServerRole.settleXferJobs
  obtain ⟨settled, same⟩ := pinned.settleAll reports_emit success hidden
  have marks : Marks fun round : OutboundRequestState Key =>
      { round with
        pendingJobIds := round.pendingJobIds.filter fun jobId =>
          jobId ∉ xfer.jobIds ∨ server.storeJobs.lookup jobId = none } :=
    ⟨fun _ => rfl, fun _ => filter_subset_self _, fun _ => rfl, fun _ => rfl, fun _ => rfl⟩
  have thins := thins_modifyRound (server.settleAll xfer.jobIds success emit) xfer.round marks
  refine ⟨settled.thin thins, same.outbound, ?_, ?_, ?_⟩
  · unfold load
    rw [← same.inflight]
    rfl
  · rw [thins.unmet]
    unfold unmet
    rw [same.rounds]
  · rw [thins.remaining, same.rounds]

theorem serves_of_registered
    (found : server.inflight.lookup tid = some xfer) (registered : server.Registered xfer.round) :
    server.serves xfer = true := by
  obtain ⟨_, here⟩ := registered
  rw [pinned.xfer_key found here] at here
  simpa [serves] using here

theorem countBlocks (room : server.Registered xfer.round →
      server.load xfer.round + xfer.blockCount + server.unmet xfer.round ≤
        (server.rounds xfer.round).remaining)
    (run : server.countBlocks xfer = .ok next) : next.Pinned := by
  unfold ServerRole.countBlocks at run
  split at run
  · next serving =>
    have here : server.outbound.lookup (xfer.kvRequestId, xfer.roundKey) = some xfer.round := by
      simpa [serves] using serving
    have room := room ⟨_, here⟩
    have lowered : (server.lowerRemaining xfer).Pinned := by
      refine pinned.setRound xfer.round (fun _ _ => pinned.available_owned) pinned.pending_owned
        (fun _ => ?_) (fun present undemanded => ?_) pinned.supply_kept
      · unfold unmet at room
        dsimp only
        omega
      · rw [pinned.idle present undemanded, Nat.zero_sub]
    obtain ⟨-, -, run⟩ := bind_eq_ok.mp run
    dsimp only at run
    split_ifs at run with ended
    · refine lowered.finalizeOutbound (fun _ ref same => ?_) run
      obtain rfl := Option.some.inj (here.symm.trans same)
      exact ended
    · exact lowered.finalizeOutbound (by simp) run
    · rw [pure_eq_ok] at run
      exact run ▸ lowered
  · exact ok.inj run ▸ pinned

theorem transferCompleted
    (run : server.transferCompleted tid = .ok next) : next.Pinned := by
  unfold ServerRole.transferCompleted at run
  split at run
  · exact ok.inj run ▸ pinned
  · next xfer found =>
    obtain ⟨popped, landed, run⟩ := bind_eq_ok.mp run
    have lands := lands_of_inflightPop found landed
    have logged : (popped.log (.completed xfer.round xfer.jobIds)).Pinned := by
      apply (pinned.thin lands.thins).log
      refine ⟨?_, ?_, fun registered jobId member => ?_⟩
      · rw [lands.thins.nextRound]
        exact pinned.xfer_lt found
      · rw [lands.thins.trace, Bool.eq_false_iff]
        exact fun done => pinned.done_idle done tid xfer found rfl
      · rw [lands.thins.trace]
        exact pinned.unemitted
          (pinned.serving_kept found (lands.thins.registered registered) jobId member)
    obtain ⟨settled, outbound, load, unmet, remaining⟩ := logged.settleXferJobs true
      fun jobId member =>
        have hidden := lands.hidden pinned found jobId member
        ⟨hidden.supply, hidden.transfers⟩
    refine settled.countBlocks (fun registered => ?_) run
    have before : popped.Registered xfer.round := by
      unfold Registered at registered
      rw [outbound] at registered
      exact registered
    have budget := pinned.budget (lands.thins.registered before)
    have landing := lands.load
    rw [load, unmet, remaining]
    change popped.load _ + _ + popped.unmet _ ≤ (popped.rounds _).remaining
    rw [lands.thins.unmet, lands.thins.remaining]
    omega

end

def Detached (refs : List RoundRef) (server : ServerRole Key) : Prop :=
  ∀ ref ∈ refs, ¬server.Registered ref

theorem transferFailed {state after : List RoundRef × ServerRole Key}
    (pinned : state.2.Pinned) (detached : Detached state.1 state.2)
    (run : transferFailed state tid = .ok after) :
    after.2.Pinned ∧ Detached after.1 after.2 := by
  unfold ServerRole.transferFailed at run
  split at run
  · exact ok.inj run ▸ ⟨pinned, detached⟩
  · next xfer found =>
    obtain ⟨popped, landed, run⟩ := bind_eq_ok.mp run
    have lands := lands_of_inflightPop found landed
    obtain ⟨settled, outbound, -⟩ :=
      (pinned.thin lands.thins).settleXferJobs false (lands.hidden pinned found)
    rw [lands.outbound] at outbound
    have same (ref : RoundRef) : (popped.settleXferJobs xfer false).Registered ref ↔
        state.2.Registered ref := by
      unfold Registered
      rw [outbound]
    dsimp only at run
    split at run
    · next serving =>
      rw [pure_eq_ok] at run
      subst run
      have here : (popped.settleXferJobs xfer false).outbound.lookup
          (xfer.kvRequestId, xfer.roundKey) = some xfer.round := by
        simpa [serves] using serving
      have thins := thins_unregister (popped.settleXferJobs xfer false)
        (xfer.kvRequestId, xfer.roundKey)
      refine ⟨(settled.thin thins).log (by simp [Allows]), ?_⟩
      intro ref member registered
      rcases mem_append.mp member with old | new
      · exact detached ref old ((same ref).mp (thins.registered registered))
      · rw [mem_singleton.mp new] at registered
        obtain ⟨_, still⟩ := registered
        obtain ⟨apart, before⟩ := Dict.lookup_erase_eq_some.mp still
        exact apart (settled.registered_once before here)
    · rw [pure_eq_ok] at run
      subst run
      exact ⟨settled, fun ref member => (same ref).not.mpr (detached ref member)⟩

section

variable (pinned : server.Pinned)

include pinned

theorem failRound (detached : ¬server.Registered ref) (run : server.failRound ref = .ok next) :
    next.Pinned ∧ next.outbound = server.outbound := by
  obtain ⟨popped, landed, run⟩ := bind_eq_ok.mp run
  rw [pure_eq_ok] at run
  obtain ⟨kept, outbound⟩ := pinned.inflightPopAll landed
  have gone : ¬popped.Registered ref := by
    unfold Registered at detached ⊢
    rwa [outbound]
  obtain ⟨settled, same, -⟩ := kept.settleRound reports_emit false gone
  exact run ▸ ⟨settled, same.trans outbound⟩

theorem emitAll {results : List StoreResult}
    (settled : ∀ result ∈ results, server.Settled result.jobId) :
    (results.foldl emit server).Pinned := by
  induction results generalizing server with
  | nil => exact pinned
  | cons result rest ih =>
    obtain ⟨first, others⟩ := forall_mem_cons.mp settled
    exact ih (reports_emit.keeps pinned first) fun other member =>
      settled_log _ (others other member)

theorem emitPending : server.emitPending.Pinned :=
  have emptied : { server with pendingStoreResults := [] }.Pinned := { pinned with queued := nofun }
  emptied.emitAll pinned.queued

theorem finalizeAbort (kvRequestId : KvRequestId) (roundSeq : Nat) :
    (server.finalizeAbort kvRequestId roundSeq).Pinned :=
  have kept : { server with
      pendingAborts := server.pendingAborts.erase (kvRequestId, roundSeq) }.Pinned := { pinned with }
  kept.log (show Allows _ (.abortAck kvRequestId roundSeq) from trivial)

theorem detachRound (key : KvRequestId × Nat) :
    (server.detachRound key).Pinned := by
  unfold ServerRole.detachRound
  split
  · exact pinned
  · next ref found =>
    refine ((pinned.thin (thins_unregister server key)).settleRound reports_queueResult false ?_).1
    rintro ⟨_, still⟩
    obtain ⟨apart, before⟩ := Dict.lookup_erase_eq_some.mp still
    exact apart (pinned.registered_once before found)

theorem drainAbort {now : Time} {still : List TransferId}
    (run : server.drainAbort kvRequestId roundSeq now still = .ok next) : next.Pinned := by
  unfold ServerRole.drainAbort at run
  have detached := pinned.detachRound (kvRequestId, roundSeq)
  generalize server.detachRound (kvRequestId, roundSeq) = current at run detached
  dsimp only at run
  split_ifs at run
  · exact ok.inj run ▸ detached.finalizeAbort kvRequestId roundSeq
  all_goals
    split at run
    · cases run
    split_ifs at run <;> obtain ⟨_, landed, result⟩ := bind_eq_ok.mp run <;>
      have kept := (detached.inflightPopAll landed).1 <;> rw [pure_eq_ok] at result <;>
      subst result <;> first | exact kept | exact kept.finalizeAbort kvRequestId roundSeq

theorem finishRound {seq : Nat} (run : finishRound kvRequestId server seq = .ok next) :
    next.Pinned := by
  unfold ServerRole.finishRound at run
  split at run
  · exact ok.inj run ▸ pinned
  · next ref found =>
    have marked := pinned.thin
      (thins_modifyRound server ref (marks_flags (·.lookupSupplied) (fun _ => true) (·.inflight)))
    dsimp only at run
    split_ifs at run
    · exact ok.inj run ▸ marked
    · exact marked.finalizeOutbound (by simp) run

end

end ServerRole.Pinned

namespace ServerRole

-- A block of the job can still be sent, or a transfer of its blocks still counts for a round.
def exposed (server : ServerRole Key) (jobId : JobId) : Bool :=
  (server.outbound.entries.any fun entry =>
    !(server.rounds entry.2).demandReceived &&
      (server.rounds entry.2).available.entries.any fun supply => supply.2.1 = jobId) ||
  server.inflight.entries.any fun entry => server.serves entry.2 && jobId ∈ entry.2.jobIds

def SweepsHidden (server : ServerRole Key) : Op Key → Prop
  | .poll now _ _ | .idlePoll now =>
    ∀ jobId ∈ server.timedOut now, server.exposed jobId = false
  | _ => True

instance (server : ServerRole Key) (op : Op Key) : Decidable (server.SweepsHidden op) := by
  unfold SweepsHidden
  split <;> infer_instance

namespace Pinned

variable {server next : ServerRole Key} {jobId : JobId} {now : Time}

theorem hidden_of_unexposed (pinned : server.Pinned) (unexposed : server.exposed jobId = false) :
    Hidden server jobId := by
  simp only [exposed, Bool.or_eq_false_iff, any_eq_false, Bool.and_eq_true, not_and,
    Bool.not_eq_true', any_eq_true, decide_eq_true_eq, not_exists] at unexposed
  constructor
  · rintro ref ⟨key, registered⟩ undemanded supply entry found same
    exact unexposed.1 ⟨key, ref⟩ (AList.mem_lookup_iff.mp registered) undemanded ⟨supply, entry⟩
      (AList.mem_lookup_iff.mp found) same
  · intro tid xfer found registered member
    exact unexposed.2 ⟨tid, xfer⟩ (AList.mem_lookup_iff.mp found)
      (pinned.serves_of_registered found registered) member

section

variable (pinned : server.Pinned)
  (unexposed : ∀ jobId ∈ server.timedOut now, server.exposed jobId = false)

include pinned unexposed

theorem timeoutPendingStoreJobs : (server.timeoutPendingStoreJobs now).Pinned :=
  (pinned.settleAll reports_emit false fun jobId member =>
    pinned.hidden_of_unexposed (unexposed jobId member)).1

theorem collectResults {done failed : List TransferId}
    (run : server.collectResults now done failed = .ok next) : next.Pinned := by
  unfold ServerRole.collectResults at run
  simp only [bind_eq_ok] at run
  obtain ⟨completed, completes, ⟨refs, current⟩, fails, run⟩ := run
  have swept := (pinned.timeoutPendingStoreJobs unexposed).emitPending
  have counted : completed.Pinned :=
    Run.foldlM_kept Pinned (fun _ _ _ _ taken pinned => pinned.transferCompleted taken) swept
      completes
  obtain ⟨kept, detached⟩ : current.Pinned ∧ Detached refs current :=
    Run.foldlM_kept (fun state => state.2.Pinned ∧ Detached state.1 state.2)
      (fun _ _ _ _ taken holds => transferFailed holds.1 holds.2 taken) ⟨counted, by simp [Detached]⟩
      fails
  refine (Run.foldlM_kept (fun state => state.Pinned ∧ Detached refs state)
    (fun state ref member after taken holds => ?_) ⟨kept, detached⟩ run).1
  obtain ⟨pinned, outbound⟩ := holds.1.failRound (holds.2 ref member) taken
  refine ⟨pinned, fun other member => ?_⟩
  unfold Registered
  rw [outbound]
  exact holds.2 other member

end

omit [DecidableEq Key] in
theorem owns_of_not_hasSeen (fresh : server.hasSeen jobId = false) (ref : RoundRef) :
    ¬server.Owns ref jobId := by
  intro owned
  simp only [hasSeen, any_eq_false] at fresh
  exact fresh _ owned (by simp)

theorem step {op : Op Key} (taken : server.step op = .ok next) (hidden : server.SweepsHidden op)
    (pinned : server.Pinned) : next.Pinned := by
  cases op <;> simp only [ServerRole.step, mapError_eq_ok] at taken
  case addStoredBlocks =>
    split_ifs at taken with seen
    exact pinned.addStoredBlocks (owns_of_not_hasSeen (by simpa using seen))
      (mapError_eq_ok.mp taken)
  case fetch =>
    split at taken
    · next fetched =>
      cases taken
      exact pinned.onFetch fetched
    · exact ok.inj taken ▸ pinned
    · cases taken
  case abortFetch =>
    refine drainAbort ?_ taken
    exact { pinned with }
  case drainAborts =>
    exact Run.foldlM_kept Pinned (fun _ _ _ _ drained pinned => pinned.drainAbort drained) pinned taken
  case finish =>
    exact Run.foldlM_kept Pinned (fun _ _ _ _ ended pinned => pinned.finishRound ended) pinned taken
  case poll => exact pinned.collectResults hidden taken
  case idlePoll => exact ok.inj taken ▸ pinned.timeoutPendingStoreJobs hidden

end Pinned

theorem sendsPinned_of_sweepsHidden {ops : List (Op Key)}
    (hidden : Run.Meets step SweepsHidden (create : ServerRole Key) ops) :
    Run.Always step (fun server => SendsPinned server.trace) (create : ServerRole Key) ops := by
  have pinned := Run.always_of_meets (fun _ _ _ taken hidden pinned => pinned.step taken hidden)
    hidden Pinned.start
  exact pinned.imp fun server pinned => ⟨pinned.writes, fun _ done => pinned.done_clean done⟩

def servedInTime : List (Op Nat) :=
  [.addStoredBlocks 0 [7] [3] 0 0 false 0 true, .fetch 0 [7] [5] 0 true, .poll 10 [0] [],
    .poll 50 [] []]

theorem servedInTime_sendsPinned :
    Run.Meets step SweepsHidden (create : ServerRole Nat) servedInTime ∧
      Run.Always step (fun server => SendsPinned server.trace) (create : ServerRole Nat)
        servedInTime := by
  have hidden : Run.Meets step SweepsHidden (create : ServerRole Nat) servedInTime := by
    decide +kernel
  exact ⟨hidden, sendsPinned_of_sweepsHidden hidden⟩

-- The sweep leaves the supply of the job in the round: a later fetch sends a block that is no
-- longer pinned.
theorem not_sendsPinned_after_sweep :
    (List.foldlM step (create : ServerRole Nat)
        [.addStoredBlocks 0 [7] [3] 0 0 false 0 true, .poll 30 [] [], .fetch 0 [7] [5] 0 true,
          .poll 31 [0] []]).toOption.map (fun server => decide (Throughout PinnedWrite server.trace)) =
      some false ∧
    (List.foldlM step (create : ServerRole Nat)
        [.addStoredBlocks 0 [7] [3] 0 0 false 0 true, .fetch 0 [7] [5] 0 true, .poll 30 [] [],
          .poll 31 [0] []]).toOption.map (fun server =>
        (decide (Throughout PinnedWrite server.trace), isDone server.trace 0,
          decide (Throughout (PinnedTransfer 0) server.trace))) = some (true, true, false) := by
  decide +kernel

end ServerRole

end VllmEngine.P2P
