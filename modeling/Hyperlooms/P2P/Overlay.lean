import Hyperlooms.Py

/-!
# The peer overlay

`P2POverlayService` of `app/services/p2p_overlay.py`, with the models of
`app/models/p2p.py` it reads and writes.

**State.**  Three dictionaries: the peers by id, the last gossip sequence
number accepted from each source, and the assignment proposals of each job.
Every method touches them inside one `async with self._lock` block with no
`await` inside it, so concurrent calls act as the sequence of their locked
blocks, in lock order: a run of the overlay is a list of `OverlayOp`.
`register_peer` draws its id and clock before the lock and
`decide_job_assignment` computes after it from what it read under it; those
values are the parameters of the operations.

**Input.**  Requests arrive validated by FastAPI, so their `Field` bounds are
fields of the request structures.  `PeerNode(...)` validates again when it is
built; `model_copy(update=...)` does not.  Datetimes are `Stamp`s: aware ones
compare by instant, naive ones by wall-clock reading, and comparing one of each
raises `TypeError`.  Floats are rationals.  SHA-256 is a parameter.

**Operations.**  `registerPeer`, `heartbeat`, `ingestGossip` and
`proposeJobAssignment` change the state; `listPeers` and
`decideJobAssignment` read it.  An exception raised inside the lock leaves the
changes made before it in place, and the model returns the state together with
the outcome.
-/

namespace Hyperlooms
namespace P2P

/-! ## Models -/

/-- `PeerStatus`. -/
inductive PeerStatus
  | online
  | suspect
  | offline
deriving DecidableEq, Repr

/-- `PeerRole`. -/
inductive PeerRole
  | worker
  | validator
  | router
deriving DecidableEq, Repr

/-- A `datetime`: an aware one by its instant in microseconds since the epoch,
a naive one by its wall-clock reading in microseconds. -/
inductive Stamp
  | aware (micros : ℤ)
  | naive (micros : ℤ)
deriving DecidableEq, Repr

/-- `a >= b` on datetimes, which raises `TypeError` between a naive and an aware
one. -/
def Stamp.ge : Stamp → Stamp → Except String Bool
  | .aware a, .aware b => .ok (decide (b ≤ a))
  | .naive a, .naive b => .ok (decide (b ≤ a))
  | _, _ => .error "can't compare offset-naive and offset-aware datetimes"

/-- `PeerNode`, without `metadata`, which no method reads. -/
structure PeerNode where
  id : String
  endpoint : String := ""
  region : String := "local"
  role : PeerRole := .worker
  status : PeerStatus := .online
  trustScore : ℚ := 0.9
  load : ℚ := 0
  modelCache : List String := []
  lastSeen : Stamp
  createdAt : Stamp
deriving DecidableEq, Repr

/-- The exceptions the overlay raises. A `ValidationError` names the model and
the fields that failed. -/
inductive PeerError
  | keyError (message : String)
  | typeError (message : String)
  | validationError (model : String) (fields : List String)
deriving DecidableEq, Repr

/-- The fields of a `PeerNode` that break its `Field` bounds, in declaration
order: `endpoint` at most 300 characters, `region` 2 to 64, `trust_score` and
`load` in `[0, 1]`. -/
def PeerNode.invalidFields (p : PeerNode) : List String :=
  (if p.endpoint.length ≤ 300 then [] else ["endpoint"]) ++
    (if 2 ≤ p.region.length ∧ p.region.length ≤ 64 then [] else ["region"]) ++
    (if 0 ≤ p.trustScore ∧ p.trustScore ≤ 1 then [] else ["trust_score"]) ++
    (if 0 ≤ p.load ∧ p.load ≤ 1 then [] else ["load"])

/-- Building a `PeerNode` with pydantic: the record, or a `ValidationError`
naming every field out of bounds. -/
def PeerNode.validate (p : PeerNode) : Except PeerError PeerNode :=
  match p.invalidFields with
  | [] => .ok p
  | fields => .error (.validationError "PeerNode" fields)

/-- `PeerRegisterRequest`, without `metadata`. -/
structure PeerRegisterRequest where
  id : Option String := none
  endpoint : String := ""
  region : String := "local"
  role : PeerRole := .worker
  trustScore : ℚ := 0.9
  load : ℚ := 0
  modelCache : List String := []
  endpoint_le : endpoint.length ≤ 300 := by decide
  region_ge : 2 ≤ region.length := by decide
  region_le : region.length ≤ 64 := by decide
  trust_nonneg : 0 ≤ trustScore := by norm_num
  trust_le : trustScore ≤ 1 := by norm_num
  load_nonneg : 0 ≤ load := by norm_num
  load_le : load ≤ 1 := by norm_num

/-- `PeerHeartbeatRequest`. -/
structure PeerHeartbeatRequest where
  status : Option PeerStatus := none
  trustScore : Option ℚ := none
  load : Option ℚ := none
  modelCache : Option (List String) := none
  trust_mem : ∀ t ∈ trustScore, 0 ≤ t ∧ t ≤ 1 := by simp
  load_mem : ∀ l ∈ load, 0 ≤ l ∧ l ≤ 1 := by simp

/-- `GossipMembershipEntry`: its `region` has no bound. -/
structure GossipMembershipEntry where
  peerId : String
  status : PeerStatus
  trustScore : ℚ
  load : ℚ
  lastSeen : Stamp
  region : String := "local"
  trust_nonneg : 0 ≤ trustScore := by norm_num
  trust_le : trustScore ≤ 1 := by norm_num
  load_nonneg : 0 ≤ load := by norm_num
  load_le : load ≤ 1 := by norm_num

/-- `GossipEnvelope`, without `sent_at`, which `ingest_gossip` does not read. -/
structure GossipEnvelope where
  sourcePeerId : String
  seq : ℕ := 0
  membership : List GossipMembershipEntry := []

/-- `JobAssignmentProposal`. -/
structure JobAssignmentProposal where
  jobId : String
  proposerPeerId : String
  candidateNodeIds : List String := []
  weight : ℚ := 1
  reason : String := "proposal"
  createdAt : Stamp

/-- `JobConsensusDecision`. -/
structure JobConsensusDecision where
  jobId : String
  assignedNodeIds : List String := []
  decidedBy : List String := []
  quorumSize : ℕ := 0
  method : String := "rendezvous-hash+majority-proposal"
  confidence : ℚ := 0
  createdAt : Stamp

/-- The service's three dictionaries. -/
structure Overlay where
  peers : List (String × PeerNode) := []
  gossipSeq : List (String × ℕ) := []
  proposals : List (String × List JobAssignmentProposal) := []

/-! ## Membership -/

/-- `register_peer(payload)`: the id is the payload's unless it is absent or
empty, else `peer-` and the first ten hex digits of a fresh `uuid4`. A known
peer is copied with the payload's fields, online and seen now; a new one is
built, and validated, from the payload. -/
def Overlay.registerPeer (s : Overlay) (payload : PeerRegisterRequest) (hex : String) (now : ℤ) :
    Overlay × Except PeerError PeerNode :=
  let peerId := match payload.id with
    | some i => if i = "" then "peer-" ++ hex else i
    | none => "peer-" ++ hex
  let built : Except PeerError PeerNode :=
    match Dict.get s.peers peerId with
    | some existing => .ok { existing with
        endpoint := payload.endpoint, region := payload.region, role := payload.role,
        trustScore := payload.trustScore, load := payload.load, modelCache := payload.modelCache,
        status := .online, lastSeen := .aware now }
    | none => PeerNode.validate
        { id := peerId, endpoint := payload.endpoint, region := payload.region,
          role := payload.role, trustScore := payload.trustScore, load := payload.load,
          modelCache := payload.modelCache, status := .online, lastSeen := .aware now,
          createdAt := .aware now }
  match built with
  | .ok peer => ({ s with peers := Dict.set s.peers peerId peer }, .ok peer)
  | .error e => (s, .error e)

/-- The record `heartbeat` rebuilds: the stored one with the payload's fields
that are set, seen now. -/
def PeerHeartbeatRequest.update (payload : PeerHeartbeatRequest) (peer : PeerNode) (now : ℤ) :
    PeerNode :=
  { peer with
    status := payload.status.getD peer.status,
    trustScore := payload.trustScore.getD peer.trustScore,
    load := payload.load.getD peer.load,
    modelCache := payload.modelCache.getD peer.modelCache,
    lastSeen := .aware now }

/-- `heartbeat(peer_id, payload)`: the updated record goes through
`PeerNode(**update)`, which validates every field. -/
def Overlay.heartbeat (s : Overlay) (peerId : String) (payload : PeerHeartbeatRequest) (now : ℤ) :
    Overlay × Except PeerError PeerNode :=
  match Dict.get s.peers peerId with
  | none => (s, .error (.keyError ("peer_not_found: " ++ peerId)))
  | some peer =>
      match (payload.update peer now).validate with
      | .ok next => ({ s with peers := Dict.set s.peers peerId next }, .ok next)
      | .error e => (s, .error e)

/-- `list_peers()`: the peers sorted by id. -/
def Overlay.listPeers (s : Overlay) : List PeerNode :=
  (s.peers.map Prod.snd).insertionSort (fun a b => a.id ≤ b.id)

/-! ## Gossip -/

/-- The peer `ingest_gossip` builds for an entry naming an unknown peer. -/
def GossipMembershipEntry.newPeer (item : GossipMembershipEntry) (now : ℤ) : PeerNode :=
  { id := item.peerId, status := item.status, trustScore := item.trustScore, load := item.load,
    region := item.region, lastSeen := item.lastSeen, createdAt := .aware now }

/-- The copy of a known peer an entry at least as new as it writes. -/
def GossipMembershipEntry.overwrite (item : GossipMembershipEntry) (peer : PeerNode) : PeerNode :=
  { peer with
    status := item.status, trustScore := item.trustScore, load := item.load,
    region := item.region, lastSeen := item.lastSeen }

/-- The body of the loop of `ingest_gossip` on one entry: an unknown peer is
built from it, a known one is overwritten when the entry is at least as new.
The result is the peers and whether the entry counts in `updated`, or the
exception raised. -/
def ingestEntry (now : ℤ) (peers : List (String × PeerNode)) (item : GossipMembershipEntry) :
    Except PeerError (List (String × PeerNode) × Bool) :=
  match Dict.get peers item.peerId with
  | none =>
      match (item.newPeer now).validate with
      | .error e => .error e
      | .ok peer => .ok (Dict.set peers item.peerId peer, true)
  | some peer =>
      match item.lastSeen.ge peer.lastSeen with
      | .error m => .error (.typeError m)
      | .ok true => .ok (Dict.set peers item.peerId (item.overwrite peer), true)
      | .ok false => .ok (peers, false)

/-- The loop of `ingest_gossip` over the membership entries, with `updated`
entries counted so far. An exception stops it with the entries before it
applied. -/
def ingestEntries (now : ℤ) :
    List (String × PeerNode) → List GossipMembershipEntry → ℕ →
      List (String × PeerNode) × Except PeerError ℕ
  | peers, [], updated => (peers, .ok updated)
  | peers, item :: rest, updated =>
      match ingestEntry now peers item with
      | .error e => (peers, .error e)
      | .ok (peers', counted) =>
          ingestEntries now peers' rest (if counted then updated + 1 else updated)

/-- The last sequence number accepted from a source; reading the
`defaultdict` stores `0` for a new source. -/
def Overlay.currentSeq (s : Overlay) (source : String) : ℕ :=
  (Dict.get s.gossipSeq source).getD 0

/-- `ingest_gossip(payload)`: an envelope no newer than the last one accepted
from its source returns `0`; otherwise its number is recorded first and its
entries are applied in order. -/
def Overlay.ingestGossip (s : Overlay) (payload : GossipEnvelope) (now : ℤ) :
    Overlay × Except PeerError ℕ :=
  if payload.seq ≤ s.currentSeq payload.sourcePeerId then
    ({ s with
        gossipSeq := Dict.set s.gossipSeq payload.sourcePeerId (s.currentSeq payload.sourcePeerId) },
      .ok 0)
  else
    let r := ingestEntries now s.peers payload.membership 0
    ({ s with peers := r.1, gossipSeq := Dict.set s.gossipSeq payload.sourcePeerId payload.seq },
      r.2)

/-! ## Proposals and decisions -/

/-- The proposals stored for a job. -/
def Overlay.proposalsFor (s : Overlay) (jobId : String) : List JobAssignmentProposal :=
  (Dict.get s.proposals jobId).getD []

/-- The proposal `propose_job_assignment` stores: the payload with the job of
the path and the time. -/
def JobAssignmentProposal.stamped (payload : JobAssignmentProposal) (jobId : String) (now : ℤ) :
    JobAssignmentProposal :=
  { payload with jobId := jobId, createdAt := .aware now }

/-- `propose_job_assignment(job_id, payload)`: the stamped proposal replaces the
proposer's earlier one and goes last. -/
def Overlay.proposeJobAssignment (s : Overlay) (jobId : String) (payload : JobAssignmentProposal)
    (now : ℤ) : Overlay × JobAssignmentProposal :=
  let proposal := payload.stamped jobId now
  ({ s with
      proposals := Dict.set s.proposals jobId
        ((s.proposalsFor jobId).filter (fun item => item.proposerPeerId ≠ proposal.proposerPeerId) ++
          [proposal]) },
    proposal)

/-- What the overlay calls on that the model does not compute. -/
structure OverlayPrimitives where
  /-- `hashlib.sha256(s.encode("utf-8")).hexdigest()`. -/
  sha256Hex : String → String

/-- The value of a lower-case hex digit, as `int(_, 16)` reads it. -/
def hexDigitValue (c : Char) : ℕ :=
  if '0' ≤ c ∧ c ≤ '9' then c.toNat - '0'.toNat
  else if 'a' ≤ c ∧ c ≤ 'f' then c.toNat - 'a'.toNat + 10
  else 0

/-- `int(digits, 16)` on hex digits. -/
def hexValue (digits : List Char) : ℕ :=
  digits.foldl (fun n c => 16 * n + hexDigitValue c) 0

/-- `_rendezvous_score(job_id, peer)`: the first 64 bits of
`sha256(f"{job_id}:{peer.id}")` over `float(0xFFFFFFFFFFFFFFFF)`, which is
`2 ** 64`, times the trust (at least `0.05`) and the load penalty (at least
`0.1`). -/
def rendezvousScore (P : OverlayPrimitives) (jobId : String) (peer : PeerNode) : ℚ :=
  let rnd : ℚ := hexValue ((P.sha256Hex (jobId ++ ":" ++ peer.id)).data.take 16) / 2 ^ 64
  rnd * max 0.05 peer.trustScore * max 0.1 (1 - peer.load * 0.65)

/-- The order of `sorted(..., key=score, reverse=True)`: `a` may go before `b`
when its score is not lower. -/
def rankBefore (P : OverlayPrimitives) (jobId : String) (a b : PeerNode) : Prop :=
  rendezvousScore P jobId b ≤ rendezvousScore P jobId a

instance (P : OverlayPrimitives) (jobId : String) : DecidableRel (rankBefore P jobId) :=
  fun _ _ => inferInstanceAs (Decidable (_ ≤ _))

/-- `sorted(peers, key=score, reverse=True)`: a stable sort, highest score
first. -/
def rendezvousRank (P : OverlayPrimitives) (jobId : String) (peers : List PeerNode) :
    List PeerNode :=
  peers.insertionSort (rankBefore P jobId)

/-- `votes[k] += w` on a `Counter`. -/
def addVote (votes : List (String × ℕ)) (k : String) (w : ℕ) : List (String × ℕ) :=
  Dict.set votes k ((Dict.get votes k).getD 0 + w)

/-- `max(1, int(round(proposal.weight * 2)))`. -/
def proposalWeight (p : JobAssignmentProposal) : ℕ :=
  max 1 ⌊pyRound (p.weight * 2) 0⌋.toNat

/-- The `Counter` of `decide_job_assignment`: each proposal's weight on each of
its candidates, then `2` on each selected peer. -/
def tallyVotes (proposals : List JobAssignmentProposal) (selection : List PeerNode) :
    List (String × ℕ) :=
  selection.foldl (fun v node => addVote v node.id 2)
    (proposals.foldl (fun v p => p.candidateNodeIds.foldl (fun v n => addVote v n (proposalWeight p)) v)
      [])

/-- `Counter.most_common(n)`: `heapq.nlargest`, which is a stable sort by count,
largest first, cut to `n`. -/
def mostCommon (votes : List (String × ℕ)) (n : ℕ) : List (String × ℕ) :=
  (votes.insertionSort (fun a b => b.2 ≤ a.2)).take n

/-- `if item not in merged: merged.append(item)`. -/
def appendNew (merged : List String) (x : String) : List String :=
  if x ∈ merged then merged else merged ++ [x]

/-- The loop that fills `merged`: each id not yet in it is appended, and the
loop stops as soon as `merged` holds `target` ids. -/
def fillUpTo (target : ℕ) : List String → List String → List String
  | merged, [] => merged
  | merged, x :: xs =>
      if target ≤ (appendNew merged x).length then appendNew merged x
      else fillUpTo target (appendNew merged x) xs

/-- `max(1, min(8, replicas))`. -/
def targetOf (replicas : ℤ) : ℕ :=
  (max 1 (min 8 replicas)).toNat

/-- The peers that are not offline, in dictionary order. -/
def Overlay.livePeers (s : Overlay) : List PeerNode :=
  (s.peers.map Prod.snd).filter (fun p => p.status ≠ .offline)

/-- `merged`: the most voted ids, `2 * target` of them, then the selection,
without repeats, up to `target`. -/
def mergeAssignment (target : ℕ) (votes : List (String × ℕ)) (selection : List PeerNode) :
    List String :=
  fillUpTo target [] ((mostCommon votes (max (target * 2) target)).map Prod.fst ++
    selection.map PeerNode.id)

/-- The confidence before rounding: the votes of the merged ids, a missing one
counting `1`, over `1.6` times the top vote per merged id, clamped to
`[0.2, 1]`; `0` when nothing is merged. -/
def voteConfidence (votes : List (String × ℕ)) (merged : List String) : ℚ :=
  if merged.isEmpty then 0
  else min 1 (max 0.2 ((merged.map fun n => ((Dict.get votes n).getD 1 : ℚ)).sum /
    (((votes.map Prod.snd).max?.getD 1 : ℕ) * merged.length * 1.6)))

/-- `decide_job_assignment(job_id, replicas)`: the `target` peers of highest
rendezvous score among those not offline, merged after the most voted ids,
where proposals vote for their candidates and the selection gets `2` each. -/
def Overlay.decideJobAssignment (P : OverlayPrimitives) (s : Overlay) (jobId : String)
    (replicas : ℤ) (now : ℤ) : JobConsensusDecision :=
  if s.livePeers.isEmpty then
    { jobId, assignedNodeIds := [], decidedBy := [], quorumSize := 0, confidence := 0,
      createdAt := .aware now }
  else
    let target := targetOf replicas
    let proposals := s.proposalsFor jobId
    let selection := (rendezvousRank P jobId s.livePeers).take target
    let votes := tallyVotes proposals selection
    let proposers := fromKeys (proposals.map JobAssignmentProposal.proposerPeerId)
    let merged := mergeAssignment target votes selection
    { jobId, assignedNodeIds := merged,
      decidedBy := (proposers.insertionSort (fun a b => a ≤ b)).take 20,
      quorumSize := proposers.length, confidence := pyRound (voteConfidence votes merged) 4,
      createdAt := .aware now }

/-! ## What each method leaves alone -/

@[simp] theorem registerPeer_gossipSeq (s : Overlay) (payload : PeerRegisterRequest) (hex : String)
    (now : ℤ) : (s.registerPeer payload hex now).1.gossipSeq = s.gossipSeq := by
  simp only [Overlay.registerPeer]
  split <;> rfl

@[simp] theorem heartbeat_gossipSeq (s : Overlay) (peerId : String) (payload : PeerHeartbeatRequest)
    (now : ℤ) : (s.heartbeat peerId payload now).1.gossipSeq = s.gossipSeq := by
  unfold Overlay.heartbeat
  split
  · rfl
  · split <;> rfl

@[simp] theorem proposeJobAssignment_gossipSeq (s : Overlay) (jobId : String)
    (payload : JobAssignmentProposal) (now : ℤ) :
    (s.proposeJobAssignment jobId payload now).1.gossipSeq = s.gossipSeq := rfl

@[simp] theorem registerPeer_proposals (s : Overlay) (payload : PeerRegisterRequest) (hex : String)
    (now : ℤ) : (s.registerPeer payload hex now).1.proposals = s.proposals := by
  simp only [Overlay.registerPeer]
  split <;> rfl

@[simp] theorem heartbeat_proposals (s : Overlay) (peerId : String) (payload : PeerHeartbeatRequest)
    (now : ℤ) : (s.heartbeat peerId payload now).1.proposals = s.proposals := by
  unfold Overlay.heartbeat
  split
  · rfl
  · split <;> rfl

@[simp] theorem ingestGossip_proposals (s : Overlay) (payload : GossipEnvelope) (now : ℤ) :
    (s.ingestGossip payload now).1.proposals = s.proposals := by
  unfold Overlay.ingestGossip
  split <;> rfl

@[simp] theorem proposeJobAssignment_peers (s : Overlay) (jobId : String)
    (payload : JobAssignmentProposal) (now : ℤ) :
    (s.proposeJobAssignment jobId payload now).1.peers = s.peers := rfl

/-! ## Runs -/

/-- The methods that change the overlay, with the id, clock and request each
one is called with. -/
inductive OverlayOp
  | registerPeer (payload : PeerRegisterRequest) (hex : String) (now : ℤ)
  | heartbeat (peerId : String) (payload : PeerHeartbeatRequest) (now : ℤ)
  | ingestGossip (payload : GossipEnvelope) (now : ℤ)
  | proposeJobAssignment (jobId : String) (payload : JobAssignmentProposal) (now : ℤ)

/-- The overlay after one locked block. -/
def OverlayOp.apply (s : Overlay) : OverlayOp → Overlay
  | .registerPeer payload hex now => (s.registerPeer payload hex now).1
  | .heartbeat peerId payload now => (s.heartbeat peerId payload now).1
  | .ingestGossip payload now => (s.ingestGossip payload now).1
  | .proposeJobAssignment jobId payload now => (s.proposeJobAssignment jobId payload now).1

/-- The overlay after a run. -/
def Overlay.run (s : Overlay) (ops : List OverlayOp) : Overlay :=
  ops.foldl OverlayOp.apply s

@[simp] theorem Overlay.run_nil (s : Overlay) : s.run [] = s := rfl

@[simp] theorem Overlay.run_append_singleton (s : Overlay) (ops : List OverlayOp) (op : OverlayOp) :
    s.run (ops ++ [op]) = OverlayOp.apply (s.run ops) op := by
  simp [Overlay.run]

end P2P
end Hyperlooms
