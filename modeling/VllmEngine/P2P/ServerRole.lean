import VllmEngine.Hashing.Request
import VllmEngine.Shared.Dict
import VllmEngine.Shared.Outcome
import VllmEngine.Shared.Run

set_option autoImplicit false

namespace VllmEngine.P2P

abbrev JobId := Nat
abbrev KvRequestId := Nat
abbrev TransferId := Nat

abbrev RoundRef := Nat

abbrev Table (Key Value : Type) := AList fun _ : Key => Value

abbrev Time := Nat

def storeTimeout : Time := 30

def cancelDrainTimeout : Time := 10

structure StoreResult where
  jobId : JobId
  success : Bool
  deriving DecidableEq

structure MatchedBlock where
  jobId : JobId
  localIdx : Nat
  remoteIdx : Nat
  deriving DecidableEq

def matchedJobs (matched : List MatchedBlock) : List JobId :=
  (matched.map MatchedBlock.jobId).dedup

structure OutboundRequestState (Key : Type) where
  lookupSupplied : Bool
  demandReceived : Bool
  available : Table Key (JobId × Nat)
  demanded : Table Key Nat
  remaining : Nat
  finishing : Bool
  inflight : Nat
  pendingJobIds : List JobId

namespace OutboundRequestState

variable {Key : Type} [DecidableEq Key]

def create : OutboundRequestState Key where
  lookupSupplied := false
  demandReceived := false
  available := ∅
  demanded := ∅
  remaining := 0
  finishing := false
  inflight := 0
  pendingJobIds := []

def addStoredBlock (jobId : JobId) (state : List MatchedBlock × OutboundRequestState Key)
    (block : Key × Nat) : List MatchedBlock × OutboundRequestState Key :=
  match state.2.demanded.lookup block.1 with
  | some remoteIdx =>
    (state.1 ++ [⟨jobId, block.2, remoteIdx⟩],
      { state.2 with demanded := state.2.demanded.erase block.1 })
  | none =>
    (state.1, { state.2 with available := state.2.available.insert block.1 (jobId, block.2) })

def addStoredBlocks (round : OutboundRequestState Key) (keys : List Key) (blockIds : List Nat)
    (jobId : JobId) : List MatchedBlock × OutboundRequestState Key :=
  (keys.zip blockIds).foldl (addStoredBlock jobId)
    ([], { round with pendingJobIds := round.pendingJobIds.insert jobId })

def addDemand (state : List MatchedBlock × OutboundRequestState Key) (block : Key × Nat) :
    List MatchedBlock × OutboundRequestState Key :=
  match state.2.available.lookup block.1 with
  | some (jobId, localIdx) =>
    (state.1 ++ [⟨jobId, localIdx, block.2⟩],
      { state.2 with available := state.2.available.erase block.1 })
  | none =>
    (state.1, { state.2 with demanded := state.2.demanded.insert block.1 block.2 })

def addFetchDemand (round : OutboundRequestState Key) (keys : List Key)
    (blockIndexes : List Nat) : List MatchedBlock × OutboundRequestState Key :=
  (keys.zip blockIndexes).foldl addDemand
    ([], { round with demandReceived := true, remaining := keys.length })

end OutboundRequestState

structure InflightXfer where
  kvRequestId : KvRequestId
  blockCount : Nat
  jobIds : List JobId
  round : RoundRef
  roundKey : Nat

inductive Effect where
  | stored (jobId : JobId) (round : RoundRef)
  | wrote (blocks : List MatchedBlock)
  | completed (round : RoundRef) (jobIds : List JobId)
  | emitted (result : StoreResult)
  | transferDone (kvRequestId : KvRequestId) (success : Bool) (roundSeq : Nat) (round : RoundRef)
  | abortAck (kvRequestId : KvRequestId) (roundSeq : Nat)

-- A transfer keeps its round when it is no longer registered. The trace has the newest effect
-- first.
structure ServerRole (Key : Type) where
  outbound : Table (KvRequestId × Nat) RoundRef
  rounds : RoundRef → OutboundRequestState Key
  nextRound : RoundRef
  inflight : Table TransferId InflightXfer
  nextTransfer : TransferId
  storeJobs : Table JobId Time
  pendingStoreResults : List StoreResult
  pendingAborts : Table (KvRequestId × Nat) Time
  trace : List Effect

namespace ServerRole

variable {Key : Type} [DecidableEq Key]

def create : ServerRole Key where
  outbound := ∅
  rounds := fun _ => .create
  nextRound := 0
  inflight := ∅
  nextTransfer := 0
  storeJobs := ∅
  pendingStoreResults := []
  pendingAborts := ∅
  trace := []

variable (server : ServerRole Key)

def log (effect : Effect) : ServerRole Key :=
  { server with trace := effect :: server.trace }

variable (kvRequestId : KvRequestId) (key : KvRequestId × Nat) (result : StoreResult)
  (jobId : JobId) (xfer : InflightXfer) (tid : TransferId) (roundSeq : Nat) (now : Time)
  (ref : RoundRef) (still : List TransferId)

def modifyRound (change : OutboundRequestState Key → OutboundRequestState Key) : ServerRole Key :=
  { server with rounds := Function.update server.rounds ref (change (server.rounds ref)) }

def register : ServerRole Key :=
  { server with
    outbound := server.outbound.insert key server.nextRound
    rounds := Function.update server.rounds server.nextRound .create
    nextRound := server.nextRound + 1 }

def getOrCreateRound : RoundRef × ServerRole Key :=
  match server.outbound.lookup key with
  | some ref => (ref, server)
  | none => (server.nextRound, server.register key)

def roundSeqs : List Nat :=
  (server.outbound.keys.reverse.filter fun key => key.1 = kvRequestId).map Prod.snd

def settle (success : Bool) (report : ServerRole Key → StoreResult → ServerRole Key) :
    ServerRole Key :=
  match server.storeJobs.lookup jobId with
  | none => server
  | some _ => report { server with storeJobs := server.storeJobs.erase jobId } ⟨jobId, success⟩

def emit : ServerRole Key :=
  server.log (.emitted result)

def queueResult : ServerRole Key :=
  { server with pendingStoreResults := server.pendingStoreResults ++ [result] }

def settleAll (jobIds : List JobId) (success : Bool)
    (report : ServerRole Key → StoreResult → ServerRole Key) : ServerRole Key :=
  jobIds.foldl (fun server jobId => server.settle jobId success report) server

def settleRound (success : Bool) (report : ServerRole Key → StoreResult → ServerRole Key) :
    ServerRole Key :=
  (server.settleAll (server.rounds ref).pendingJobIds success report).modifyRound ref fun round =>
    { round with pendingJobIds := [] }

def finalizeOutbound (kvRequestId : KvRequestId) (roundKey : Nat)
    (success : Option Bool) (sendDone : Bool) : Except PyError (ServerRole Key) :=
  match server.outbound.lookup (kvRequestId, roundKey) with
  | none => .error .keyError
  | some ref =>
    let round := server.rounds ref
    let success := success.getD (round.demandReceived && round.remaining == 0)
    let server := { server with outbound := server.outbound.erase (kvRequestId, roundKey) }
    let server := server.settleRound ref success queueResult
    if sendDone && round.demandReceived then
      .ok (server.log (.transferDone kvRequestId success roundKey ref))
    else
      .ok server

def submitTransfer (blocks : List MatchedBlock) (ref : RoundRef) (roundKey : Nat) (written : Bool) :
    Except PyError (ServerRole Key) :=
  let server := server.log (.wrote blocks)
  if written then
    let xfer : InflightXfer := ⟨kvRequestId, blocks.length, matchedJobs blocks, ref, roundKey⟩
    .ok
      { server.modifyRound ref (fun round => { round with inflight := round.inflight + 1 }) with
        inflight := server.inflight.insert server.nextTransfer xfer
        nextTransfer := server.nextTransfer + 1 }
  else
    let server := server.modifyRound ref fun round => { round with finishing := true }
    if server.outbound.lookup (kvRequestId, roundKey) = some ref ∧
        (server.rounds ref).inflight = 0 then
      server.finalizeOutbound kvRequestId roundKey (some false) true
    else
      .ok server

def receiveJob (now : Time) : ServerRole Key :=
  { server.log (.stored jobId ref) with storeJobs := server.storeJobs.insert jobId now }

def addStoredBlocks (server : ServerRole Key) (kvRequestId : KvRequestId) (keys : List Key)
    (blockIds : List Nat) (jobId : JobId) (roundSeq : Nat) (fromLookup : Bool) (now : Time)
    (written : Bool) : Except PyError (ServerRole Key) :=
  let (ref, server) := server.getOrCreateRound (kvRequestId, roundSeq)
  let server := server.receiveJob jobId ref now
  let round := server.rounds ref
  let (matched, round) :=
    { round with lookupSupplied := fromLookup || round.lookupSupplied }.addStoredBlocks keys
      blockIds jobId
  let server := server.modifyRound ref fun _ => round
  if matched ≠ [] ∧ round.demandReceived then
    server.submitTransfer kvRequestId matched ref roundSeq written
  else
    .ok server

def finalizeAll (seqs : List Nat) : Except PyError (ServerRole Key) :=
  seqs.foldlM (fun server seq => server.finalizeOutbound kvRequestId seq none false) server

-- A refused transfer has popped the round already: then the role is left as it is by a `KeyError`.
def finalizeFinishing : Except PyError (ServerRole Key × Bool) :=
  if (server.rounds ref).finishing ∧ (server.rounds ref).inflight = 0 then
    match server.finalizeOutbound kvRequestId roundSeq none true with
    | .ok server => .ok (server, true)
    | .error .keyError => .ok (server, false)
    | .error error => .error error
  else
    .ok (server, true)

def serveFetch (keys : List Key) (roundSeq : Nat) (ref : RoundRef) (matched : List MatchedBlock)
    (written : Bool) : Except PyError (ServerRole Key × Bool) :=
  if keys = [] then
    (·, true) <$> server.finalizeAll kvRequestId (server.roundSeqs kvRequestId)
  else if (server.rounds ref).lookupSupplied ∧ (server.rounds ref).demanded ≠ ∅ then
    (·, true) <$> server.finalizeOutbound kvRequestId roundSeq (some false) true
  else if matched = [] then
    server.finalizeFinishing kvRequestId roundSeq ref
  else do
    let server ← server.submitTransfer kvRequestId matched ref roundSeq written
    server.finalizeFinishing kvRequestId roundSeq ref

def onFetch (kvRequestId : KvRequestId) (keys : List Key)
    (blockIndexes : List Nat) (roundSeq : Nat) (written : Bool) :
    Except PyError (ServerRole Key × Bool) :=
  if ((server.outbound.lookup (kvRequestId, roundSeq)).any fun ref =>
      (server.rounds ref).demandReceived) then
    .error (.valueError "duplicate fetch")
  else
    let (ref, server) := server.getOrCreateRound (kvRequestId, roundSeq)
    let (matched, round) := (server.rounds ref).addFetchDemand keys blockIndexes
    let server := server.modifyRound ref fun _ => round
    server.serveFetch kvRequestId keys roundSeq ref matched written

def inflightPop (xfer : InflightXfer) : Except PyError (ServerRole Key) := do
  pyAssert (0 < (server.rounds xfer.round).inflight)
  return { server.modifyRound xfer.round
      (fun round => { round with inflight := round.inflight - 1 }) with
    inflight := server.inflight.erase tid }

def inflightPopAll (tids : List TransferId) : Except PyError (ServerRole Key) :=
  tids.foldlM
    (fun server tid =>
      match server.inflight.lookup tid with
      | none => .ok server
      | some xfer => server.inflightPop tid xfer)
    server

def finalizeAbort : ServerRole Key :=
  { server with pendingAborts := server.pendingAborts.erase (kvRequestId, roundSeq) }.log
    (.abortAck kvRequestId roundSeq)

def roundTransfers : List TransferId :=
  server.inflight.keys.filter fun tid =>
    (server.inflight.lookup tid).any fun xfer =>
      xfer.kvRequestId = kvRequestId ∧ xfer.roundKey = roundSeq

def detachRound (key : KvRequestId × Nat) : ServerRole Key :=
  match server.outbound.lookup key with
  | none => server
  | some ref =>
    { server with outbound := server.outbound.erase key }.settleRound ref false queueResult

def drainAbort : Except PyError (ServerRole Key) :=
  let server := server.detachRound (kvRequestId, roundSeq)
  let ids := server.roundTransfers kvRequestId roundSeq
  if ids = [] then
    .ok (server.finalizeAbort kvRequestId roundSeq)
  else
    match server.pendingAborts.lookup (kvRequestId, roundSeq) with
    | none => .error .keyError
    | some startedAt =>
      if startedAt + cancelDrainTimeout ≤ now then do
        let server ← server.inflightPopAll ids
        return server.finalizeAbort kvRequestId roundSeq
      else do
        let server ← server.inflightPopAll (ids.filter fun tid => tid ∉ still)
        return if still = [] then server.finalizeAbort kvRequestId roundSeq else server

def onAbortFetch : Except PyError (ServerRole Key) :=
  let pendingAborts :=
    match server.pendingAborts.lookup (kvRequestId, roundSeq) with
    | some _ => server.pendingAborts
    | none => server.pendingAborts.insert (kvRequestId, roundSeq) now
  { server with pendingAborts := pendingAborts }.drainAbort kvRequestId roundSeq now still

def drainPendingAborts (still : KvRequestId × Nat → List TransferId) :
    Except PyError (ServerRole Key) :=
  server.pendingAborts.keys.reverse.foldlM
    (fun server key => server.drainAbort key.1 key.2 now (still key)) server

def finishRound (server : ServerRole Key) (seq : Nat) : Except PyError (ServerRole Key) :=
  match server.outbound.lookup (kvRequestId, seq) with
  | none => .ok server
  | some ref =>
    let server := server.modifyRound ref fun round => { round with finishing := true }
    if ¬(server.rounds ref).demandReceived ∨ 0 < (server.rounds ref).inflight then
      -- No demand yet: the fetch finalizes. In flight: the last completion does.
      .ok server
    else
      server.finalizeOutbound kvRequestId seq none true

def finish : Except PyError (ServerRole Key) :=
  (server.roundSeqs kvRequestId).foldlM (finishRound kvRequestId) server

def timedOut : List JobId :=
  server.storeJobs.keys.reverse.filter fun jobId =>
    (server.storeJobs.lookup jobId).any fun submittedAt => submittedAt + storeTimeout ≤ now

def timeoutPendingStoreJobs (now : Time) : ServerRole Key :=
  server.settleAll (server.timedOut now) false emit

def emitPending : ServerRole Key :=
  server.pendingStoreResults.foldl emit { server with pendingStoreResults := [] }

def settleXferJobs (xfer : InflightXfer) (success : Bool) : ServerRole Key :=
  (server.settleAll xfer.jobIds success emit).modifyRound xfer.round fun round =>
    { round with
      pendingJobIds := round.pendingJobIds.filter fun jobId =>
        jobId ∉ xfer.jobIds ∨ server.storeJobs.lookup jobId = none }

def serves : Bool :=
  server.outbound.lookup (xfer.kvRequestId, xfer.roundKey) = some xfer.round

def lowerRemaining : ServerRole Key :=
  server.modifyRound xfer.round fun round =>
    { round with remaining := round.remaining - xfer.blockCount }

def countBlocks : Except PyError (ServerRole Key) :=
  if server.serves xfer then do
    pyAssert (xfer.blockCount ≤ (server.rounds xfer.round).remaining)
    let server := server.lowerRemaining xfer
    if (server.rounds xfer.round).remaining = 0 then
      server.finalizeOutbound xfer.kvRequestId xfer.roundKey (some true) true
    else if (server.rounds xfer.round).finishing ∧ (server.rounds xfer.round).inflight = 0 then
      server.finalizeOutbound xfer.kvRequestId xfer.roundKey (some false) true
    else
      return server
  else
    .ok server

def transferCompleted : Except PyError (ServerRole Key) :=
  match server.inflight.lookup tid with
  | none => .ok server
  | some xfer => do
    let server ← server.inflightPop tid xfer
    ((server.log (.completed xfer.round xfer.jobIds)).settleXferJobs xfer true).countBlocks xfer

-- One transfer that the transport reports as failed; the rounds that fail with it are listed.
def transferFailed (state : List RoundRef × ServerRole Key) (tid : TransferId) :
    Except PyError (List RoundRef × ServerRole Key) :=
  match state.2.inflight.lookup tid with
  | none => .ok state
  | some xfer => do
    let server ← state.2.inflightPop tid xfer
    let server := server.settleXferJobs xfer false
    if server.serves xfer then
      let server :=
        { server with outbound := server.outbound.erase (xfer.kvRequestId, xfer.roundKey) }
      return (state.1 ++ [xfer.round],
        server.log (.transferDone xfer.kvRequestId false xfer.roundKey xfer.round))
    else
      return (state.1, server)

def failRound (ref : RoundRef) : Except PyError (ServerRole Key) := do
  let ids := server.inflight.keys.filter fun tid =>
    (server.inflight.lookup tid).any fun xfer => xfer.round = ref
  let server ← server.inflightPopAll ids
  return server.settleRound ref false emit

def collectResults (now : Time) (done failed : List TransferId) :
    Except PyError (ServerRole Key) := do
  let server := (server.timeoutPendingStoreJobs now).emitPending
  let server ← done.foldlM transferCompleted server
  let (failedRounds, server) ← failed.foldlM transferFailed ([], server)
  failedRounds.foldlM failRound server

inductive Op (Key : Type) where
  | addStoredBlocks (kvRequestId : KvRequestId) (keys : List Key) (blockIds : List Nat)
    (jobId : JobId) (roundSeq : Nat) (fromLookup : Bool) (now : Time) (written : Bool)
  | fetch (kvRequestId : KvRequestId) (keys : List Key) (blockIndexes : List Nat) (roundSeq : Nat)
    (written : Bool)
  | abortFetch (kvRequestId : KvRequestId) (roundSeq : Nat) (now : Time) (still : List TransferId)
  | drainAborts (now : Time) (still : KvRequestId × Nat → List TransferId)
  | finish (kvRequestId : KvRequestId)
  | poll (now : Time) (done failed : List TransferId)
  | idlePoll (now : Time)

def hasSeen : Bool :=
  server.trace.any fun
    | .stored other _ => other = jobId
    | _ => false

-- One call. A job id is never handed over twice; a second fetch of a round is refused.
def step : Op Key → Except (Option PyError) (ServerRole Key)
  | .addStoredBlocks kvRequestId keys blockIds jobId roundSeq fromLookup now written =>
    if server.hasSeen jobId then
      .error none
    else
      (server.addStoredBlocks kvRequestId keys blockIds jobId roundSeq fromLookup now
        written).mapError some
  | .fetch kvRequestId keys blockIndexes roundSeq written =>
    match server.onFetch kvRequestId keys blockIndexes roundSeq written with
    | .ok (server, _) => .ok server
    | .error (.valueError _) => .ok server
    | .error error => .error (some error)
  | .abortFetch kvRequestId roundSeq now still =>
    (server.onAbortFetch kvRequestId roundSeq now still).mapError some
  | .drainAborts now still => (server.drainPendingAborts now still).mapError some
  | .finish kvRequestId => (server.finish kvRequestId).mapError some
  | .poll now done failed => (server.collectResults now done failed).mapError some
  | .idlePoll now => .ok (server.timeoutPendingStoreJobs now)

end ServerRole

end VllmEngine.P2P
