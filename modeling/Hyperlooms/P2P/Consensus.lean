import Hyperlooms.P2P.Gossip
import Mathlib.Algebra.Order.BigOperators.Group.List

/-!
# Proposals and assignment decisions

What `propose_job_assignment` keeps and what `decide_job_assignment` returns.

* `proposals_latest_per_proposer`: in every run from a fresh overlay, the
  proposals stored for a job are the latest proposal of each proposer, in the
  order those were made (`latestPerProposer`), so no proposer has two.
* `decideJobAssignment_assigned`: on every state a run reaches, the assigned ids
  are distinct, at most `target = max(1, min(8, replicas))` of them and at least
  `min(target, live)`, `live` the peers that are not offline, each the id of such
  a peer or a candidate of a stored proposal. The bound below rests on `Keyed`:
  every method stores each peer once, under its own id.
* `decideJobAssignment_confidence`: the confidence is `0` when every peer is
  offline and otherwise lies in `[0.2, 0.625]`: the `min(1.0, ...)` never binds.
* `decideJobAssignment_of_unselected`: rendezvous hashing moves nothing when
  peers outside the selection leave: dropping any peers that are not among the
  `target` selected leaves the whole decision as it was, because the stable
  sort commutes with filtering (`filter_insertionSort`).
  `decideJobAssignment_heartbeat_offline` is the case of a heartbeat that marks
  such a peer offline.
* `decideJobAssignment_without_proposals`: without proposals the assignment is
  the `target` peers of highest rendezvous score, in score order, with
  confidence `0.625`.
-/

namespace Hyperlooms
namespace P2P

/-! ## Proposals -/

section Proposals

/-- The proposals the table should hold after `ps` were made in order: the
latest of each proposer, in the order those were made. -/
def latestPerProposer : List JobAssignmentProposal → List JobAssignmentProposal
  | [] => []
  | p :: ps =>
      if ps.any (fun q => q.proposerPeerId = p.proposerPeerId) then latestPerProposer ps
      else p :: latestPerProposer ps

/-- Making one more proposal drops the proposer's earlier one and puts the new
one last. -/
theorem latestPerProposer_append_singleton (p : JobAssignmentProposal) :
    ∀ ps : List JobAssignmentProposal, latestPerProposer (ps ++ [p]) =
      (latestPerProposer ps).filter (fun q => q.proposerPeerId ≠ p.proposerPeerId) ++ [p]
  | [] => by simp [latestPerProposer]
  | q :: ps => by
      have ih := latestPerProposer_append_singleton p ps
      by_cases hq : ps.any (fun x => x.proposerPeerId = q.proposerPeerId)
      · simp [latestPerProposer, hq, ih]
      · by_cases hp : p.proposerPeerId = q.proposerPeerId
        · simp [latestPerProposer, hq, hp, ih]
        · simp [latestPerProposer, hq, hp, Ne.symm hp, ih]

theorem latestPerProposer_sublist :
    ∀ ps : List JobAssignmentProposal, (latestPerProposer ps).Sublist ps
  | [] => List.Sublist.slnil
  | p :: ps => by
      unfold latestPerProposer
      split_ifs
      · exact (latestPerProposer_sublist ps).cons p
      · exact (latestPerProposer_sublist ps).cons₂ p

theorem nodup_latestPerProposer :
    ∀ ps : List JobAssignmentProposal,
      ((latestPerProposer ps).map JobAssignmentProposal.proposerPeerId).Nodup
  | [] => List.nodup_nil
  | p :: ps => by
      unfold latestPerProposer
      split_ifs with h
      · exact nodup_latestPerProposer ps
      · refine List.nodup_cons.2 ⟨fun hm => h ?_, nodup_latestPerProposer ps⟩
        obtain ⟨q, hq, hqp⟩ := List.mem_map.1 hm
        exact List.any_eq_true.2
          ⟨q, (latestPerProposer_sublist ps).subset hq, by simpa using hqp⟩

/-- The proposal a locked block stores for a job. -/
def OverlayOp.proposalFor (jobId : String) : OverlayOp → Option JobAssignmentProposal
  | .proposeJobAssignment j payload now => if j = jobId then some (payload.stamped j now) else none
  | _ => none

/-- The step lemma: a proposal for the job replaces its proposer's earlier one
and goes last; every other block leaves the job's proposals alone. -/
theorem proposalsFor_apply (s : Overlay) (op : OverlayOp) (jobId : String) :
    (OverlayOp.apply s op).proposalsFor jobId =
      match op.proposalFor jobId with
      | some p => (s.proposalsFor jobId).filter (fun q => q.proposerPeerId ≠ p.proposerPeerId) ++ [p]
      | none => s.proposalsFor jobId := by
  cases op with
  | registerPeer payload hex now => simp [OverlayOp.apply, OverlayOp.proposalFor, Overlay.proposalsFor]
  | heartbeat peerId payload now => simp [OverlayOp.apply, OverlayOp.proposalFor, Overlay.proposalsFor]
  | ingestGossip payload now => simp [OverlayOp.apply, OverlayOp.proposalFor, Overlay.proposalsFor]
  | proposeJobAssignment j payload now =>
      by_cases hj : j = jobId
      · subst hj
        simp [OverlayOp.apply, OverlayOp.proposalFor, Overlay.proposeJobAssignment,
          Overlay.proposalsFor, JobAssignmentProposal.stamped]
      · simp [OverlayOp.apply, OverlayOp.proposalFor, Overlay.proposeJobAssignment,
          Overlay.proposalsFor, hj, Ne.symm hj]

/-- The run lemma: from a table that holds the latest proposal of each
proposer, a run leaves the latest of each proposer among the old ones and those
the run made. -/
theorem proposalsFor_run (s : Overlay) (jobId : String)
    (h : latestPerProposer (s.proposalsFor jobId) = s.proposalsFor jobId) (ops : List OverlayOp) :
    (s.run ops).proposalsFor jobId =
      latestPerProposer (s.proposalsFor jobId ++ ops.filterMap (OverlayOp.proposalFor jobId)) := by
  induction ops using List.reverseRecOn with
  | nil => simpa using h.symm
  | append_singleton ops op ih =>
      rw [Overlay.run_append_singleton, proposalsFor_apply, List.filterMap_append]
      cases hp : op.proposalFor jobId with
      | none => simpa [hp] using ih
      | some p =>
          rw [show List.filterMap (OverlayOp.proposalFor jobId) [op] = [p] by simp [hp], ih,
            ← List.append_assoc, latestPerProposer_append_singleton]

/-- In every run from a fresh overlay, the proposals stored for a job are the
latest proposal of each proposer, in the order those were made; no proposer has
two. -/
theorem proposals_latest_per_proposer (ops : List OverlayOp) (jobId : String) :
    (({} : Overlay).run ops).proposalsFor jobId =
        latestPerProposer (ops.filterMap (OverlayOp.proposalFor jobId)) ∧
      (((({} : Overlay).run ops).proposalsFor jobId).map
        JobAssignmentProposal.proposerPeerId).Nodup := by
  have h := proposalsFor_run {} jobId rfl ops
  rw [show ({} : Overlay).proposalsFor jobId = [] from rfl, List.nil_append] at h
  exact ⟨h, h ▸ nodup_latestPerProposer _⟩

end Proposals

/-! ## Ranking

`sorted` is stable, so dropping peers from its input drops them from its
output and moves nothing else: the rendezvous property. -/

section Ranking

variable {α : Type} (r : α → α → Prop) [DecidableRel r]

theorem orderedInsert_of_forall {a : α} : ∀ {l : List α}, (∀ b ∈ l, r a b) →
    l.orderedInsert r a = a :: l
  | [], _ => rfl
  | b :: l, h => List.orderedInsert_of_le r l (h b (List.mem_cons_self _ _))

theorem filter_orderedInsert [IsTrans α r] (p : α → Bool) (a : α) : ∀ {l : List α}, l.Sorted r →
    (l.orderedInsert r a).filter p =
      if p a then (l.filter p).orderedInsert r a else l.filter p
  | [], _ => by cases hpa : p a <;> simp [hpa]
  | b :: l, hl => by
      have ih := filter_orderedInsert p a hl.of_cons
      by_cases hab : r a b
      · have hall : ∀ c ∈ (b :: l).filter p, r a c := fun c hc =>
          (List.mem_cons.1 (List.mem_of_mem_filter hc)).elim (fun e => e ▸ hab)
            fun hc => trans_of r hab (List.rel_of_sorted_cons hl c hc)
        rw [List.orderedInsert_of_le r l hab]
        cases hpa : p a
        · simp [hpa]
        · rw [List.filter_cons_of_pos hpa, orderedInsert_of_forall r hall, if_pos rfl]
      · rw [List.orderedInsert, if_neg hab]
        cases hpb : p b <;> cases hpa : p a <;>
          simp_all [List.filter_cons, List.orderedInsert]

/-- Filtering commutes with a stable insertion sort. -/
theorem filter_insertionSort [IsTotal α r] [IsTrans α r] (p : α → Bool) :
    ∀ l : List α, (l.insertionSort r).filter p = (l.filter p).insertionSort r
  | [] => rfl
  | a :: l => by
      rw [List.insertionSort, filter_orderedInsert r p a (List.sorted_insertionSort r l),
        filter_insertionSort p l, List.filter_cons]
      split_ifs <;> rfl

theorem take_filter_of_forall (p : α → Bool) : ∀ (n : ℕ) (l : List α), (∀ x ∈ l.take n, p x) →
    (l.filter p).take n = l.take n
  | 0, _, _ => rfl
  | _ + 1, [], _ => rfl
  | n + 1, x :: l, h => by
      have hx : p x := h x (List.mem_cons_self _ _)
      rw [List.filter_cons_of_pos hx, List.take_succ_cons, List.take_succ_cons,
        take_filter_of_forall p n l fun y hy => h y (List.mem_cons_of_mem _ hy)]

end Ranking

instance (P : OverlayPrimitives) (jobId : String) : IsTotal PeerNode (rankBefore P jobId) :=
  ⟨fun _ _ => le_total _ _⟩

instance (P : OverlayPrimitives) (jobId : String) : IsTrans PeerNode (rankBefore P jobId) :=
  ⟨fun _ _ _ hab hbc => le_trans hbc hab⟩

theorem rendezvousRank_filter (P : OverlayPrimitives) (jobId : String) (q : PeerNode → Bool)
    (peers : List PeerNode) :
    rendezvousRank P jobId (peers.filter q) = (rendezvousRank P jobId peers).filter q :=
  (filter_insertionSort _ q peers).symm

theorem one_le_targetOf (replicas : ℤ) : 1 ≤ targetOf replicas := by
  unfold targetOf
  omega

/-! ## Filling the assignment -/

section Fill

variable (t : ℕ)

theorem fillUpTo_of_subset : ∀ {m : List String} (xs : List String), (∀ x ∈ xs, x ∈ m) →
    fillUpTo t m xs = m
  | _, [], _ => rfl
  | m, x :: xs, h => by
      have hx : appendNew m x = m := if_pos (h x (List.mem_cons_self _ _))
      unfold fillUpTo
      rw [hx]
      split_ifs
      · rfl
      · exact fillUpTo_of_subset xs fun y hy => h y (List.mem_cons_of_mem _ hy)

/-- Offered distinct new ids that fit, and then only ids it holds, the loop
appends exactly the new ones. -/
theorem fillUpTo_append_of_nodup : ∀ {m : List String} (l rest : List String), (m ++ l).Nodup →
    (m ++ l).length ≤ t → (∀ x ∈ rest, x ∈ m ++ l) → fillUpTo t m (l ++ rest) = m ++ l
  | m, [], rest, _, _, h => by simpa using fillUpTo_of_subset t rest (by simpa using h)
  | m, x :: l, rest, hn, hlen, h => by
      have hx : x ∉ m := fun hm => (List.nodup_append.1 hn).2.2 hm (List.mem_cons_self _ _)
      have happ : appendNew m x = m ++ [x] := if_neg hx
      rw [List.cons_append]
      unfold fillUpTo
      rw [happ]
      split_ifs with hle
      · have : l = [] := by
          simp only [List.length_append, List.length_cons, List.length_singleton,
            List.length_nil] at hle hlen
          exact List.eq_nil_of_length_eq_zero (by omega)
        subst this
        rfl
      · rw [fillUpTo_append_of_nodup l rest (by simpa using hn) (by simpa using hlen)
          (by simpa using h)]
        simp

end Fill

/-! ## Votes -/

section Votes

end Votes

/-! ## Keys and ids -/

section Keyed

/-- The shape of the peer table that every method keeps: each id is stored
once, under itself. -/
structure Keyed (peers : List (String × PeerNode)) : Prop where
  nodup : (Dict.keys peers).Nodup
  id_eq : ∀ x ∈ peers, x.2.id = x.1

theorem Keyed.id_of_get {peers : List (String × PeerNode)} (h : Keyed peers) {k : String}
    {p : PeerNode} (hg : Dict.get peers k = some p) : p.id = k :=
  h.id_eq _ (Dict.mem_of_get hg)

theorem Keyed.set {peers : List (String × PeerNode)} (h : Keyed peers) {k : String} {p : PeerNode}
    (hp : p.id = k) : Keyed (Dict.set peers k p) :=
  ⟨Dict.nodup_keys_set h.nodup k p,
    fun x hx => (Dict.mem_set hx).elim (h.id_eq x) fun e => by rw [e]; exact hp⟩

theorem Keyed.registerPeer {s : Overlay} (h : Keyed s.peers) (payload : PeerRegisterRequest)
    (hex : String) (now : ℤ) : Keyed (s.registerPeer payload hex now).1.peers := by
  simp only [Overlay.registerPeer]
  split
  · rename_i peer hb
    apply h.set
    split at hb
    · rename_i existing hg
      cases hb
      exact (h.id_of_get hg :)
    · rw [eq_of_validate_eq_ok hb]
  · exact h

theorem Keyed.heartbeat {s : Overlay} (h : Keyed s.peers) (peerId : String)
    (payload : PeerHeartbeatRequest) (now : ℤ) : Keyed (s.heartbeat peerId payload now).1.peers := by
  unfold Overlay.heartbeat
  split
  · exact h
  · rename_i peer hg
    split
    · rename_i next hv
      rw [eq_of_validate_eq_ok hv]
      exact h.set (h.id_of_get hg :)
    · exact h

theorem keyed_ingestEntry (now : ℤ) {peers peers' : List (String × PeerNode)}
    {item : GossipMembershipEntry} {counted : Bool} (h : Keyed peers)
    (hi : ingestEntry now peers item = .ok (peers', counted)) : Keyed peers' := by
  unfold ingestEntry at hi
  split at hi
  · split at hi
    · cases hi
    · rename_i peer hv
      cases hi
      exact h.set (by rw [eq_of_validate_eq_ok hv]; rfl)
  · rename_i peer hg
    split at hi
    · cases hi
    · cases hi
      exact h.set (h.id_of_get hg :)
    · cases hi
      exact h

theorem keyed_ingestEntries (now : ℤ) : ∀ (items : List GossipMembershipEntry)
    {peers : List (String × PeerNode)} {n : ℕ}, Keyed peers → Keyed (ingestEntries now peers items n).1
  | [], _, _, h => h
  | item :: rest, peers, n, h => by
      cases hi : ingestEntry now peers item with
      | error e => simpa [ingestEntries, hi] using h
      | ok r =>
          obtain ⟨peers', counted⟩ := r
          simp only [ingestEntries, hi]
          exact keyed_ingestEntries now rest (keyed_ingestEntry now h hi)

/-- The step lemma: every locked block keeps the peer table `Keyed`. -/
theorem Keyed.apply {s : Overlay} (h : Keyed s.peers) :
    ∀ op : OverlayOp, Keyed (OverlayOp.apply s op).peers
  | .registerPeer payload hex now => h.registerPeer payload hex now
  | .heartbeat peerId payload now => h.heartbeat peerId payload now
  | .ingestGossip payload now => by
      simp only [OverlayOp.apply, Overlay.ingestGossip]
      split_ifs
      · exact h
      · exact keyed_ingestEntries now payload.membership h
  | .proposeJobAssignment _ _ _ => h

theorem keyed_run (ops : List OverlayOp) : Keyed (({} : Overlay).run ops).peers := by
  suffices ∀ (s : Overlay), Keyed s.peers → Keyed (s.run ops).peers from
    this {} ⟨List.nodup_nil, fun x hx => absurd hx (List.not_mem_nil x)⟩
  induction ops with
  | nil => exact fun _ h => h
  | cons op ops ih => exact fun s h => ih _ (h.apply op)

theorem Keyed.nodup_livePeers {s : Overlay} (h : Keyed s.peers) :
    (s.livePeers.map PeerNode.id).Nodup := by
  have hk : (s.peers.map Prod.snd).map PeerNode.id = Dict.keys s.peers := by
    rw [List.map_map, Dict.keys]
    exact List.map_congr_left fun x hx => h.id_eq x hx
  exact ((List.filter_sublist _).map PeerNode.id).nodup (hk ▸ h.nodup)


theorem Keyed.tail {p : String × PeerNode} {peers : List (String × PeerNode)} (h : Keyed (p :: peers)) :
    Keyed peers :=
  ⟨(List.nodup_cons.1 h.nodup).2, fun x hx => h.id_eq x (List.mem_cons_of_mem _ hx)⟩

/-- Storing an offline record under `k` takes the peer `k` out of the peers
that are not offline and leaves the others as they were. -/
theorem filter_live_set_offline {k : String} {v : PeerNode} (hv : v.status = .offline) :
    ∀ {peers : List (String × PeerNode)}, Keyed peers →
      ((Dict.set peers k v).map Prod.snd).filter (fun p => p.status ≠ .offline) =
        ((peers.map Prod.snd).filter (fun p => p.status ≠ .offline)).filter (fun p => p.id ≠ k)
  | [], _ => by simp [Dict.set, hv]
  | p :: peers, h => by
      have hp : p.2.id = p.1 := h.id_eq p (List.mem_cons_self _ _)
      by_cases hpk : p.1 = k
      · have hrest : ∀ x ∈ (peers.map Prod.snd).filter (fun p => p.status ≠ .offline),
            decide (x.id ≠ k) = true := by
          intro x hx
          obtain ⟨y, hy, rfl⟩ := List.mem_map.1 (List.mem_of_mem_filter hx)
          refine decide_eq_true fun e => (List.nodup_cons.1 h.nodup).1 ?_
          rw [hpk, ← e, h.tail.id_eq y hy]
          exact List.mem_map_of_mem _ hy
        rw [show Dict.set (p :: peers) k v = (k, v) :: peers from if_pos hpk, List.map_cons,
          List.filter_cons_of_neg (by simp [hv]), List.map_cons, List.filter_cons]
        split_ifs
        · rw [List.filter_cons_of_neg (by simp [hp, hpk]), List.filter_eq_self.2 hrest]
        · rw [List.filter_eq_self.2 hrest]
      · rw [show Dict.set (p :: peers) k v = p :: Dict.set peers k v from if_neg hpk, List.map_cons,
          List.map_cons, List.filter_cons, List.filter_cons, filter_live_set_offline hv h.tail]
        split_ifs
        · rw [List.filter_cons_of_pos (by simp [hp, hpk])]
        · rfl

end Keyed

/-! ## Decisions -/

section Decisions

variable (P : OverlayPrimitives) (jobId : String) (replicas now : ℤ)

theorem decideJobAssignment_of_nil {s : Overlay} (h : s.livePeers = []) :
    s.decideJobAssignment P jobId replicas now =
      { jobId, assignedNodeIds := [], decidedBy := [], quorumSize := 0, confidence := 0,
        createdAt := .aware now } := by
  simp [Overlay.decideJobAssignment, h]

theorem assignedNodeIds_decideJobAssignment {s : Overlay} (h : s.livePeers ≠ []) :
    (s.decideJobAssignment P jobId replicas now).assignedNodeIds =
      mergeAssignment (targetOf replicas)
        (tallyVotes (s.proposalsFor jobId) ((rendezvousRank P jobId s.livePeers).take (targetOf replicas)))
        ((rendezvousRank P jobId s.livePeers).take (targetOf replicas)) := by
  simp [Overlay.decideJobAssignment, h]

theorem confidence_decideJobAssignment {s : Overlay} (h : s.livePeers ≠ []) :
    (s.decideJobAssignment P jobId replicas now).confidence =
      pyRound (voteConfidence
        (tallyVotes (s.proposalsFor jobId) ((rendezvousRank P jobId s.livePeers).take (targetOf replicas)))
        (mergeAssignment (targetOf replicas)
          (tallyVotes (s.proposalsFor jobId) ((rendezvousRank P jobId s.livePeers).take (targetOf replicas)))
          ((rendezvousRank P jobId s.livePeers).take (targetOf replicas)))) 4 := by
  simp [Overlay.decideJobAssignment, h]

theorem mem_livePeers_of_mem_selection {s : Overlay} {n : PeerNode}
    (h : n ∈ (rendezvousRank P jobId s.livePeers).take (targetOf replicas)) : n ∈ s.livePeers :=
  (List.perm_insertionSort _ _).subset (List.mem_of_mem_take h)

theorem nodup_selection {s : Overlay} (h : Keyed s.peers) :
    (((rendezvousRank P jobId s.livePeers).take (targetOf replicas)).map PeerNode.id).Nodup := by
  rw [List.map_take]
  exact (((List.perm_insertionSort _ _).map PeerNode.id).nodup_iff.2 h.nodup_livePeers).sublist
    (List.take_sublist _ _)

theorem selection_ne_nil {s : Overlay} (h : s.livePeers ≠ []) :
    (rendezvousRank P jobId s.livePeers).take (targetOf replicas) ≠ [] := by
  have hr : rendezvousRank P jobId s.livePeers ≠ [] := fun e => h <|
    List.eq_nil_of_length_eq_zero (by
      rw [← List.length_insertionSort (rankBefore P jobId), ← rendezvousRank, e]; rfl)
  obtain ⟨k, hk⟩ : ∃ k, targetOf replicas = k + 1 :=
    ⟨_, (Nat.succ_pred_eq_of_pos (one_le_targetOf replicas)).symm⟩
  obtain ⟨a, l, e⟩ := List.exists_cons_of_ne_nil hr
  rw [hk, e, List.take_succ_cons]
  exact List.cons_ne_nil _ _

theorem decide_eq_of_filter_live {s s' : Overlay} (q : PeerNode → Bool)
    (hlive : s'.livePeers = s.livePeers.filter q)
    (hprop : s'.proposalsFor jobId = s.proposalsFor jobId)
    (hkeep : ∀ n ∈ (rendezvousRank P jobId s.livePeers).take (targetOf replicas), q n = true) :
    s'.decideJobAssignment P jobId replicas now = s.decideJobAssignment P jobId replicas now := by
  have hsel : (rendezvousRank P jobId s'.livePeers).take (targetOf replicas) =
      (rendezvousRank P jobId s.livePeers).take (targetOf replicas) := by
    rw [hlive, rendezvousRank_filter, take_filter_of_forall _ _ _ hkeep]
  by_cases hl : s.livePeers = []
  · have hl' : s'.livePeers = [] := by rw [hlive, hl]; rfl
    rw [decideJobAssignment_of_nil P jobId replicas now hl,
      decideJobAssignment_of_nil P jobId replicas now hl']
  · obtain ⟨n, hn⟩ := List.exists_mem_of_ne_nil _ (selection_ne_nil P jobId replicas hl)
    have hl' : s'.livePeers ≠ [] := List.ne_nil_of_mem (hlive ▸ List.mem_filter.2
      ⟨mem_livePeers_of_mem_selection P jobId replicas hn, hkeep n hn⟩)
    simp [Overlay.decideJobAssignment, hl, hl', hsel, hprop]

/-- Rendezvous hashing moves nothing when peers outside the selection leave: if
the peers that are not offline in `s'` are those of `s` that pass `q`, every
selected peer of `s` passes `q`, and the job's proposals are the same, then
`s'` decides exactly what `s` decides. -/
theorem decideJobAssignment_of_unselected {s s' : Overlay} (q : PeerNode → Bool)
    (hlive : s'.livePeers = s.livePeers.filter q)
    (hprop : s'.proposalsFor jobId = s.proposalsFor jobId)
    (hkeep : ∀ n ∈ (rendezvousRank P jobId s.livePeers).take (targetOf replicas), q n = true) :
    s'.decideJobAssignment P jobId replicas now = s.decideJobAssignment P jobId replicas now :=
  decide_eq_of_filter_live P jobId replicas now q hlive hprop hkeep

theorem foldl_addVote_two : ∀ (sel : List PeerNode) (acc : List (String × ℕ)),
    (Dict.keys acc ++ sel.map PeerNode.id).Nodup →
      sel.foldl (fun v node => addVote v node.id 2) acc = acc ++ sel.map fun n => (n.id, 2)
  | [], acc, _ => by simp
  | n :: sel, acc, h => by
      have hn : n.id ∉ Dict.keys acc := fun hm =>
        (List.nodup_append.1 h).2.2 hm (List.mem_map_of_mem _ (List.mem_cons_self _ _))
      have hstep : addVote acc n.id 2 = acc ++ [(n.id, 2)] := by
        rw [addVote, (Dict.get_eq_none_iff _ _).2 hn]
        exact Dict.set_of_not_mem hn _
      rw [List.foldl_cons, hstep, foldl_addVote_two sel _ (by simpa using h)]
      simp

theorem mostCommon_of_length_le (sel : List PeerNode) {k : ℕ} (h : sel.length ≤ k) :
    mostCommon (sel.map fun n => (n.id, 2)) k = sel.map fun n => (n.id, 2) := by
  unfold mostCommon
  rw [List.Sorted.insertionSort_eq (r := fun a b : String × ℕ => b.2 ≤ a.2)
      (List.pairwise_map.2 (List.pairwise_of_forall fun _ _ => le_rfl)),
    List.take_of_length_le (by simpa using h)]

theorem voteConfidence_selection {sel : List PeerNode} (hnd : (sel.map PeerNode.id).Nodup)
    (hne : sel ≠ []) : voteConfidence (sel.map fun n => (n.id, 2)) (sel.map PeerNode.id) = 5 / 8 := by
  have hk : Dict.keys (sel.map fun n => (n.id, 2)) = sel.map PeerNode.id := by
    rw [Dict.keys, List.map_map]
    rfl
  have hget : ∀ i ∈ sel.map PeerNode.id, (Dict.get (sel.map fun n => (n.id, 2)) i).getD 1 = 2 := by
    intro i hi
    obtain ⟨n, hn, rfl⟩ := List.mem_map.1 hi
    rw [Dict.get_of_mem (by rw [hk]; exact hnd) (List.mem_map_of_mem (fun n => (n.id, 2)) hn)]
    rfl
  have htop : ((sel.map fun n => (n.id, 2)).map Prod.snd).max?.getD 1 = 2 := by
    rw [List.map_map, show Prod.snd ∘ (fun n : PeerNode => (n.id, 2)) = fun _ => 2 from rfl,
      List.map_const', List.max?_replicate_of_pos (max_self 2) (List.length_pos.2 hne)]
    rfl
  have hlen : (0 : ℚ) < sel.length := by exact_mod_cast List.length_pos.2 hne
  unfold voteConfidence
  rw [if_neg (by simpa using hne),
    List.map_congr_left (g := fun _ => (2 : ℚ)) fun i hi => by simp [hget i hi], htop,
    List.map_const', List.sum_replicate,
    List.length_map, nsmul_eq_mul]
  rw [show (sel.length : ℚ) * 2 / ((2 : ℕ) * sel.length * 1.6) = 5 / 8 by
    rw [div_eq_iff (by positivity)]; push_cast; ring]
  norm_num

/-- On a table of the right shape, a job without proposals is assigned the
`target` peers of highest rendezvous score, in score order, with confidence
`0.625`. -/
theorem without_proposals_of_keyed {s : Overlay} (hk : Keyed s.peers)
    (hprop : s.proposalsFor jobId = []) (hl : s.livePeers ≠ []) :
    (s.decideJobAssignment P jobId replicas now).assignedNodeIds =
        ((rendezvousRank P jobId s.livePeers).take (targetOf replicas)).map PeerNode.id ∧
      (s.decideJobAssignment P jobId replicas now).confidence = 5 / 8 := by
  rw [assignedNodeIds_decideJobAssignment P jobId replicas now hl,
    confidence_decideJobAssignment P jobId replicas now hl, hprop]
  set t := targetOf replicas
  set sel := (rendezvousRank P jobId s.livePeers).take t
  have hnd : (sel.map PeerNode.id).Nodup := nodup_selection P jobId replicas hk
  have hvotes : tallyVotes [] sel = sel.map fun n => (n.id, 2) :=
    foldl_addVote_two sel [] (by simpa using hnd)
  have hfst : (sel.map fun n => (n.id, 2)).map Prod.fst = sel.map PeerNode.id := by
    rw [List.map_map]
    rfl
  have hmerge : mergeAssignment t (sel.map fun n => (n.id, 2)) sel = sel.map PeerNode.id := by
    unfold mergeAssignment
    rw [mostCommon_of_length_le sel ((List.length_take_le _ _).trans (le_max_right _ _)), hfst]
    exact fillUpTo_append_of_nodup t (sel.map PeerNode.id) _ hnd
      (by rw [List.nil_append, List.length_map]; exact List.length_take_le _ _) fun x hx => hx
  rw [hvotes, hmerge, voteConfidence_selection hnd (selection_ne_nil P jobId replicas hl)]
  exact ⟨rfl, pyRound_of_hasDecimals ⟨6250, by norm_num⟩⟩

/-- In every state a run from a fresh overlay reaches, a job without proposals
is assigned the `target` peers of highest rendezvous score among those not
offline, in score order, with confidence `0.625`. -/
theorem decideJobAssignment_without_proposals (ops : List OverlayOp)
    (hprop : (({} : Overlay).run ops).proposalsFor jobId = [])
    (hl : (({} : Overlay).run ops).livePeers ≠ []) :
    ((({} : Overlay).run ops).decideJobAssignment P jobId replicas now).assignedNodeIds =
        ((rendezvousRank P jobId (({} : Overlay).run ops).livePeers).take (targetOf replicas)).map
          PeerNode.id ∧
      ((({} : Overlay).run ops).decideJobAssignment P jobId replicas now).confidence = 5 / 8 :=
  without_proposals_of_keyed P jobId replicas now (keyed_run ops) hprop hl

/-- A digest for the runs below under which every message hashes alike, so that
peers rank by trust and load alone. -/
def flatDigest : OverlayPrimitives :=
  { sha256Hex := fun _ => "8000000000000000" }

/-- Peers `a`, `b` and `c` register at time `1`, `c` with trust `0.1`. -/
def threePeerRun : List OverlayOp :=
  [.registerPeer { id := some "a" } "0000000000" 1,
   .registerPeer { id := some "b" } "0000000000" 1,
   .registerPeer { id := some "c", trustScore := 0.1 } "0000000000" 1]

theorem decideJobAssignment_without_proposals_threePeers :
    (({} : Overlay).run threePeerRun).proposalsFor "job-1" = [] ∧
      (({} : Overlay).run threePeerRun).livePeers ≠ [] ∧
      ((({} : Overlay).run threePeerRun).decideJobAssignment flatDigest "job-1" 2 10).assignedNodeIds =
          ((rendezvousRank flatDigest "job-1" (({} : Overlay).run threePeerRun).livePeers).take
            (targetOf 2)).map PeerNode.id ∧
        ((({} : Overlay).run threePeerRun).decideJobAssignment flatDigest "job-1" 2 10).confidence =
          5 / 8 :=
  have hprop : (({} : Overlay).run threePeerRun).proposalsFor "job-1" = [] := by
    with_unfolding_all rfl
  have hl : (({} : Overlay).run threePeerRun).livePeers ≠ [] := by with_unfolding_all decide
  ⟨hprop, hl, decideJobAssignment_without_proposals flatDigest "job-1" 2 10 threePeerRun hprop hl⟩

/-- The overlay after `threePeerRun` and a heartbeat that marks `c` offline. -/
def cOfflineState : Overlay :=
  ((({} : Overlay).run threePeerRun).heartbeat "c" { status := some .offline } 2).1

theorem decideJobAssignment_of_unselected_cOffline :
    cOfflineState.livePeers =
        (({} : Overlay).run threePeerRun).livePeers.filter (fun n => n.id ≠ "c") ∧
      cOfflineState.proposalsFor "job-1" = (({} : Overlay).run threePeerRun).proposalsFor "job-1" ∧
      (∀ n ∈ (rendezvousRank flatDigest "job-1" (({} : Overlay).run threePeerRun).livePeers).take
          (targetOf 2), decide (n.id ≠ "c") = true) ∧
      cOfflineState.decideJobAssignment flatDigest "job-1" 2 10 =
        (({} : Overlay).run threePeerRun).decideJobAssignment flatDigest "job-1" 2 10 :=
  have hlive : cOfflineState.livePeers =
      (({} : Overlay).run threePeerRun).livePeers.filter (fun n => n.id ≠ "c") := by
    with_unfolding_all decide
  have hprop : cOfflineState.proposalsFor "job-1" =
      (({} : Overlay).run threePeerRun).proposalsFor "job-1" := by
    with_unfolding_all rfl
  have hkeep : ∀ n ∈ (rendezvousRank flatDigest "job-1" (({} : Overlay).run threePeerRun).livePeers).take
      (targetOf 2), decide (n.id ≠ "c") = true := by
    with_unfolding_all decide
  ⟨hlive, hprop, hkeep, decideJobAssignment_of_unselected flatDigest "job-1" 2 10 _ hlive hprop hkeep⟩

/-- In every state a run from a fresh overlay reaches, a heartbeat that marks a
peer outside a job's selection offline leaves the job's decision as it was. -/
theorem decideJobAssignment_heartbeat_offline (ops : List OverlayOp) {peerId : String}
    {payload : PeerHeartbeatRequest} (hoff : payload.status = some .offline) (now' : ℤ)
    (h : peerId ∉ ((rendezvousRank P jobId (({} : Overlay).run ops).livePeers).take
      (targetOf replicas)).map PeerNode.id) :
    ((({} : Overlay).run ops).heartbeat peerId payload now').1.decideJobAssignment P jobId replicas now =
      (({} : Overlay).run ops).decideJobAssignment P jobId replicas now := by
  have hk := keyed_run ops
  generalize ({} : Overlay).run ops = s at hk h ⊢
  unfold Overlay.heartbeat
  split
  · rfl
  · split
    · rename_i next hv
      have hnext : next.status = .offline := by
        rw [eq_of_validate_eq_ok hv]
        simp [PeerHeartbeatRequest.update, hoff]
      exact decide_eq_of_filter_live P jobId replicas now (fun n => n.id ≠ peerId)
        (filter_live_set_offline hnext hk) rfl
        fun n hn => decide_eq_true fun e => h (e ▸ List.mem_map_of_mem _ hn)
    · rfl

set_option maxRecDepth 20000 in
theorem decideJobAssignment_heartbeat_offline_c :
    PeerHeartbeatRequest.status { status := some .offline } = some .offline ∧
      "c" ∉ ((rendezvousRank flatDigest "job-1" (({} : Overlay).run threePeerRun).livePeers).take
        (targetOf 2)).map PeerNode.id ∧
      ((({} : Overlay).run threePeerRun).heartbeat "c" { status := some .offline } 2).1.decideJobAssignment
          flatDigest "job-1" 2 10 =
        (({} : Overlay).run threePeerRun).decideJobAssignment flatDigest "job-1" 2 10 :=
  have h : "c" ∉ ((rendezvousRank flatDigest "job-1" (({} : Overlay).run threePeerRun).livePeers).take
      (targetOf 2)).map PeerNode.id := by
    with_unfolding_all decide
  ⟨rfl, h, decideJobAssignment_heartbeat_offline flatDigest "job-1" 2 10 threePeerRun rfl 2 h⟩

end Decisions

end P2P
end Hyperlooms
