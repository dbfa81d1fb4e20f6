import Hyperlooms.P2P.Overlay

/-!
# Gossip

What `ingest_gossip` does to the overlay, over one envelope and over runs.

* `acceptedLog_seqs_increase`: in every run, the envelopes accepted from each
  source have strictly increasing sequence numbers, all above the number stored
  when the run began (so none is applied twice and none after a newer one), and
  the number stored at the end is the last one accepted.
* `ingestGossip_per_peer`: an accepted envelope that raises nothing changes each
  peer only through the entries naming it, in their order: an unknown peer is
  built from an entry, a known one is overwritten by an entry at least as new.
  No known peer's `last_seen` moves back.
* `ingestGossip_retry_of_error`: an envelope that raises part-way keeps the
  entries before the failing one and has consumed its number, so sent again, at
  any time, it returns `0` and changes nothing.
-/

namespace Hyperlooms
namespace P2P

/-! ## Sequence numbers -/

section Seq

/-- The envelope a locked block accepts, as its source and number: an
`ingest_gossip` newer than the last one accepted from its source. -/
def OverlayOp.accepted (s : Overlay) : OverlayOp → Option (String × ℕ)
  | .ingestGossip payload _ =>
      if payload.seq ≤ s.currentSeq payload.sourcePeerId then none
      else some (payload.sourcePeerId, payload.seq)
  | _ => none

/-- The envelopes a run accepts, in order. -/
def Overlay.acceptedLog (s : Overlay) : List OverlayOp → List (String × ℕ)
  | [] => []
  | op :: ops => (op.accepted s).toList ++ (OverlayOp.apply s op).acceptedLog ops

/-- The numbers a log accepts from one source. -/
def seqsFrom (source : String) (log : List (String × ℕ)) : List ℕ :=
  (log.filter (fun e => e.1 = source)).map Prod.snd

theorem seqsFrom_append (source : String) (a b : List (String × ℕ)) :
    seqsFrom source (a ++ b) = seqsFrom source a ++ seqsFrom source b := by
  simp [seqsFrom]

theorem currentSeq_ingestGossip (s : Overlay) (payload : GossipEnvelope) (now : ℤ) (source : String) :
    (s.ingestGossip payload now).1.currentSeq source =
      if s.currentSeq payload.sourcePeerId < payload.seq ∧ source = payload.sourcePeerId then
        payload.seq
      else s.currentSeq source := by
  unfold Overlay.ingestGossip
  by_cases hs : payload.seq ≤ s.currentSeq payload.sourcePeerId
  · rw [if_pos hs, if_neg (by omega)]
    by_cases hk : source = payload.sourcePeerId
    · subst hk
      simp [Overlay.currentSeq]
    · simp [Overlay.currentSeq, hk]
  · rw [if_neg hs]
    simp only [Overlay.currentSeq] at hs ⊢
    by_cases hk : source = payload.sourcePeerId <;> simp [hk, not_le.1 hs]

/-- One locked block either accepts nothing from a source, or one number above
the source's current one. -/
theorem seqsFrom_accepted (s : Overlay) (op : OverlayOp) (source : String) :
    seqsFrom source (op.accepted s).toList = [] ∨
      ∃ n, seqsFrom source (op.accepted s).toList = [n] ∧ s.currentSeq source < n := by
  cases op with
  | ingestGossip payload now =>
      simp only [OverlayOp.accepted]
      split_ifs with hs
      · exact .inl rfl
      · by_cases hk : payload.sourcePeerId = source
        · subst hk
          exact .inr ⟨payload.seq, by simp [seqsFrom], by omega⟩
        · exact .inl (by simp [seqsFrom, hk])
  | _ => exact .inl rfl

/-- The step lemma: a block moves a source's number to what it accepts from it. -/
theorem currentSeq_apply (s : Overlay) (op : OverlayOp) (source : String) :
    (OverlayOp.apply s op).currentSeq source =
      (seqsFrom source (op.accepted s).toList).getLast?.getD (s.currentSeq source) := by
  cases op with
  | registerPeer payload hex now => simp [OverlayOp.apply, OverlayOp.accepted, seqsFrom, Overlay.currentSeq]
  | heartbeat peerId payload now => simp [OverlayOp.apply, OverlayOp.accepted, seqsFrom, Overlay.currentSeq]
  | proposeJobAssignment jobId payload now => rfl
  | ingestGossip payload now =>
      rw [OverlayOp.apply, currentSeq_ingestGossip]
      simp only [OverlayOp.accepted]
      by_cases hs : payload.seq ≤ s.currentSeq payload.sourcePeerId
      · simp [hs, seqsFrom]
      · by_cases hk : source = payload.sourcePeerId
        · subst hk
          simp [hs, seqsFrom, not_le.1 hs]
        · simp [hs, seqsFrom, hk, Ne.symm hk]

/-- The numbers accepted from each source strictly increase along every run,
starting above the number stored when the run begins, and the number stored at
the end is the last one accepted. -/
theorem acceptedLog_seqs_increase (s : Overlay) (ops : List OverlayOp) (source : String) :
    (seqsFrom source (s.acceptedLog ops)).Chain (· < ·) (s.currentSeq source) ∧
      (s.run ops).currentSeq source =
        (seqsFrom source (s.acceptedLog ops)).getLast?.getD (s.currentSeq source) := by
  induction ops generalizing s with
  | nil => exact ⟨List.Chain.nil, rfl⟩
  | cons op ops ih =>
      obtain ⟨hchain, hlast⟩ := ih (OverlayOp.apply s op)
      have hstep := currentSeq_apply s op source
      show _ ∧ ((OverlayOp.apply s op).run ops).currentSeq source = _
      rw [Overlay.acceptedLog, seqsFrom_append, hlast]
      rcases seqsFrom_accepted s op source with h0 | ⟨n, hn, hlt⟩
      · rw [h0, List.getLast?_nil, Option.getD_none] at hstep
        rw [h0, List.nil_append, ← hstep]
        exact ⟨hchain, rfl⟩
      · rw [hn, List.getLast?_singleton, Option.getD_some] at hstep
        rw [hn, hstep, List.singleton_append]
        refine ⟨List.Chain.cons hlt (hstep ▸ hchain), ?_⟩
        cases seqsFrom source ((OverlayOp.apply s op).acceptedLog ops) <;> simp [List.getLast?_cons]

end Seq

/-! ## Last writer wins -/

section Merge

variable (now : ℤ)

/-- What an entry does to the record of the peer it names, when nothing is
raised: an unknown peer is built from it, a known one is overwritten when the
entry is at least as new. -/
def GossipMembershipEntry.applyTo (item : GossipMembershipEntry) : Option PeerNode → Option PeerNode
  | none => some (item.newPeer now)
  | some peer =>
      some (match item.lastSeen.ge peer.lastSeen with
        | .ok true => item.overwrite peer
        | _ => peer)

theorem eq_of_validate_eq_ok {p q : PeerNode} (h : p.validate = .ok q) : q = p := by
  unfold PeerNode.validate at h
  split at h <;> cases h
  rfl

theorem Stamp.ge_self : ∀ t : Stamp, t.ge t = .ok true
  | .aware _ => by simp [Stamp.ge]
  | .naive _ => by simp [Stamp.ge]

theorem Stamp.ge_trans : ∀ {a b c : Stamp}, a.ge b = .ok true → b.ge c = .ok true →
    a.ge c = .ok true
  | .aware _, .aware _, .aware _, hab, hbc => by
      simp only [Stamp.ge, Except.ok.injEq, decide_eq_true_eq] at *
      omega
  | .naive _, .naive _, .naive _, hab, hbc => by
      simp only [Stamp.ge, Except.ok.injEq, decide_eq_true_eq] at *
      omega
  | .aware _, .naive _, _, hab, _ => by simp [Stamp.ge] at hab
  | .naive _, .aware _, _, hab, _ => by simp [Stamp.ge] at hab
  | _, .aware _, .naive _, _, hbc => by simp [Stamp.ge] at hbc
  | _, .naive _, .aware _, _, hbc => by simp [Stamp.ge] at hbc

/-- The loop body's spec: an entry that raises nothing changes only the peer
it names, as `applyTo` says. -/
theorem get_ingestEntry {peers peers' : List (String × PeerNode)} {item : GossipMembershipEntry}
    {counted : Bool} (h : ingestEntry now peers item = .ok (peers', counted)) (k : String) :
    Dict.get peers' k = if item.peerId = k then item.applyTo now (Dict.get peers k)
      else Dict.get peers k := by
  unfold ingestEntry at h
  cases hg : Dict.get peers item.peerId with
  | none =>
      rw [hg] at h
      cases hv : (item.newPeer now).validate with
      | error e => simp [hv] at h
      | ok peer =>
          simp only [hv, Except.ok.injEq, Prod.mk.injEq] at h
          obtain ⟨rfl, -⟩ := h
          by_cases hk : item.peerId = k
          · subst hk
            simp [hg, GossipMembershipEntry.applyTo, eq_of_validate_eq_ok hv]
          · simp [hk, Ne.symm hk]
  | some peer =>
      rw [hg] at h
      cases hc : item.lastSeen.ge peer.lastSeen with
      | error m => simp [hc] at h
      | ok b =>
          cases b <;> simp only [hc, Except.ok.injEq, Prod.mk.injEq] at h <;> obtain ⟨rfl, -⟩ := h <;>
            by_cases hk : item.peerId = k
          all_goals first
            | (subst hk; simp [hg, hc, GossipMembershipEntry.applyTo])
            | simp [hk, Ne.symm hk]

/-- The loop, key by key: each peer's record is its entries applied in order. -/
theorem get_ingestEntries : ∀ (items : List GossipMembershipEntry) {peers : List (String × PeerNode)}
    {n m : ℕ}, (ingestEntries now peers items n).2 = .ok m → ∀ k,
      Dict.get (ingestEntries now peers items n).1 k =
        (items.filter (fun item => item.peerId = k)).foldl (fun r item => item.applyTo now r)
          (Dict.get peers k)
  | [], _, _, _, _, _ => rfl
  | item :: rest, peers, n, m, h, k => by
      unfold ingestEntries at h ⊢
      cases hi : ingestEntry now peers item with
      | error e => simp [hi] at h
      | ok r =>
          obtain ⟨peers', counted⟩ := r
          simp only [hi] at h ⊢
          rw [get_ingestEntries rest h k, get_ingestEntry now hi k]
          by_cases hk : item.peerId = k <;> simp [List.filter_cons, hk]

/-- Along the entries of one peer, its record is never replaced by an older
one. -/
theorem foldl_applyTo_lastSeen (items : List GossipMembershipEntry) :
    ∀ {p : PeerNode}, ∃ p' ∈ items.foldl (fun r item => item.applyTo now r) (some p),
      p'.lastSeen.ge p.lastSeen = .ok true := by
  induction items with
  | nil => exact fun {p} => ⟨p, rfl, Stamp.ge_self _⟩
  | cons item rest ih =>
      intro p
      cases hc : item.lastSeen.ge p.lastSeen with
      | ok b =>
          cases b with
          | true =>
              obtain ⟨p', hp', hge⟩ := @ih (item.overwrite p)
              exact ⟨p', by simpa [GossipMembershipEntry.applyTo, hc] using hp', Stamp.ge_trans hge hc⟩
          | false =>
              obtain ⟨p', hp', hge⟩ := @ih p
              exact ⟨p', by simpa [GossipMembershipEntry.applyTo, hc] using hp', hge⟩
      | error m =>
          obtain ⟨p', hp', hge⟩ := @ih p
          exact ⟨p', by simpa [GossipMembershipEntry.applyTo, hc] using hp', hge⟩

/-- An accepted envelope that raises nothing changes each peer only through the
entries that name it, in their order, as `applyTo` says: peers it does not name
keep their records, an unknown peer is built from its entry, and a known peer is
overwritten by each entry at least as new as it. So no known peer's
`last_seen` moves back. -/
theorem ingestGossip_per_peer {s : Overlay} {payload : GossipEnvelope} {m : ℕ}
    (hnew : s.currentSeq payload.sourcePeerId < payload.seq)
    (h : (s.ingestGossip payload now).2 = .ok m) (k : String) :
    Dict.get (s.ingestGossip payload now).1.peers k =
        (payload.membership.filter (fun item => item.peerId = k)).foldl
          (fun r item => item.applyTo now r) (Dict.get s.peers k) ∧
      ∀ p ∈ Dict.get s.peers k, ∃ p' ∈ Dict.get (s.ingestGossip payload now).1.peers k,
        p'.lastSeen.ge p.lastSeen = .ok true := by
  unfold Overlay.ingestGossip at h ⊢
  rw [if_neg (by omega)] at h ⊢
  have hget := get_ingestEntries now payload.membership h k
  refine ⟨hget, fun p hp => ?_⟩
  rw [hget, Option.mem_def.1 hp]
  exact foldl_applyTo_lastSeen now _

/-- Source `q`'s first envelope: peer `a` seen at times `2` and then `1`, and
peer `b` at time `1`. -/
def twoPeersEnvelope : GossipEnvelope :=
  { sourcePeerId := "q", seq := 1,
    membership :=
      [{ peerId := "a", status := .online, trustScore := 1, load := 0, lastSeen := .aware 2 },
       { peerId := "b", status := .suspect, trustScore := 1, load := 0, lastSeen := .aware 1 },
       { peerId := "a", status := .offline, trustScore := 0, load := 1, lastSeen := .aware 1 }] }

theorem ingestGossip_per_peer_twoPeers :
    ({} : Overlay).currentSeq twoPeersEnvelope.sourcePeerId < twoPeersEnvelope.seq ∧
      (({} : Overlay).ingestGossip twoPeersEnvelope 5).2 = .ok 2 ∧
      Dict.get (({} : Overlay).ingestGossip twoPeersEnvelope 5).1.peers "a" =
          (twoPeersEnvelope.membership.filter (fun item => item.peerId = "a")).foldl
            (fun r item => item.applyTo 5 r) (Dict.get ({} : Overlay).peers "a") ∧
        ∀ p ∈ Dict.get ({} : Overlay).peers "a",
          ∃ p' ∈ Dict.get (({} : Overlay).ingestGossip twoPeersEnvelope 5).1.peers "a",
            p'.lastSeen.ge p.lastSeen = .ok true :=
  have hnew : ({} : Overlay).currentSeq twoPeersEnvelope.sourcePeerId < twoPeersEnvelope.seq := by
    decide
  have h : (({} : Overlay).ingestGossip twoPeersEnvelope 5).2 = .ok 2 := by
    with_unfolding_all rfl
  ⟨hnew, h, ingestGossip_per_peer 5 hnew h "a"⟩

end Merge

/-! ## Envelopes that raise -/

section Errors

variable (now : ℤ)

/-- An exception stops the loop at one entry: the entries before it are
applied, and that entry raises on what they left. -/
theorem ingestEntries_error : ∀ (items : List GossipMembershipEntry) {peers : List (String × PeerNode)}
    {n : ℕ} {e : PeerError}, (ingestEntries now peers items n).2 = .error e →
      ∃ pre item post m, items = pre ++ item :: post ∧
        (ingestEntries now peers pre n).2 = .ok m ∧
        ingestEntry now (ingestEntries now peers pre n).1 item = .error e ∧
        (ingestEntries now peers items n).1 = (ingestEntries now peers pre n).1
  | [], _, _, _, h => by simp [ingestEntries] at h
  | item :: rest, peers, n, e, h => by
      cases hi : ingestEntry now peers item with
      | error e' =>
          have hcons : ingestEntries now peers (item :: rest) n = (peers, .error e') := by
            simp [ingestEntries, hi]
          rw [hcons] at h ⊢
          cases h
          exact ⟨[], item, rest, n, rfl, rfl, hi, rfl⟩
      | ok r =>
          obtain ⟨peers', counted⟩ := r
          have hcons : ∀ L, ingestEntries now peers (item :: L) n =
              ingestEntries now peers' L (if counted then n + 1 else n) := fun L => by
            simp [ingestEntries, hi]
          rw [hcons] at h
          obtain ⟨pre, item', post, m, hrest, hok, hfail, heq⟩ := ingestEntries_error rest h
          exact ⟨item :: pre, item', post, m, by rw [hrest]; rfl, by rw [hcons]; exact hok,
            by rw [hcons]; exact hfail, by rw [hcons, hcons]; exact heq⟩

/-- An accepted envelope that raises part-way keeps the entries before the
failing one, and its number is consumed: sent again, at any time, it returns
`0` and changes nothing. -/
theorem ingestGossip_retry_of_error {s : Overlay} {payload : GossipEnvelope} {e : PeerError}
    (h : (s.ingestGossip payload now).2 = .error e) (now' : ℤ) :
    (∃ pre item post m, payload.membership = pre ++ item :: post ∧
      (ingestEntries now s.peers pre 0).2 = .ok m ∧
      ingestEntry now (ingestEntries now s.peers pre 0).1 item = .error e ∧
      (s.ingestGossip payload now).1.peers = (ingestEntries now s.peers pre 0).1) ∧
    (s.ingestGossip payload now).1.ingestGossip payload now' = ((s.ingestGossip payload now).1, .ok 0) := by
  unfold Overlay.ingestGossip at h ⊢
  by_cases hs : payload.seq ≤ s.currentSeq payload.sourcePeerId
  · rw [if_pos hs] at h
    cases h
  · rw [if_neg hs] at h ⊢
    refine ⟨ingestEntries_error now _ h, ?_⟩
    have hcur : Overlay.currentSeq { s with
        peers := (ingestEntries now s.peers payload.membership 0).1,
        gossipSeq := Dict.set s.gossipSeq payload.sourcePeerId payload.seq }
          payload.sourcePeerId = payload.seq := by
      simp [Overlay.currentSeq]
    rw [if_pos hcur.ge, hcur, Dict.set_set]

/-- Peer `p` registers at time `1`. -/
def registeredP : Overlay :=
  ({} : Overlay).run [.registerPeer { id := some "p", trustScore := 1 } "0000000000" 1]

/-- An envelope whose first entry adds peer `a` and whose second names `p` with
a naive datetime. -/
def naiveStampEnvelope : GossipEnvelope :=
  { sourcePeerId := "q", seq := 1,
    membership :=
      [{ peerId := "a", status := .online, trustScore := 1, load := 0, lastSeen := .aware 2 },
       { peerId := "p", status := .online, trustScore := 1, load := 0, lastSeen := .naive 2 }] }

theorem ingestGossip_retry_naiveStamp :
    (registeredP.ingestGossip naiveStampEnvelope 3).2 =
        .error (.typeError "can't compare offset-naive and offset-aware datetimes") ∧
      (∃ pre item post m, naiveStampEnvelope.membership = pre ++ item :: post ∧
        (ingestEntries 3 registeredP.peers pre 0).2 = .ok m ∧
        ingestEntry 3 (ingestEntries 3 registeredP.peers pre 0).1 item =
          .error (.typeError "can't compare offset-naive and offset-aware datetimes") ∧
        (registeredP.ingestGossip naiveStampEnvelope 3).1.peers =
          (ingestEntries 3 registeredP.peers pre 0).1) ∧
      (registeredP.ingestGossip naiveStampEnvelope 3).1.ingestGossip naiveStampEnvelope 9 =
        ((registeredP.ingestGossip naiveStampEnvelope 3).1, .ok 0) :=
  have h : (registeredP.ingestGossip naiveStampEnvelope 3).2 =
      .error (.typeError "can't compare offset-naive and offset-aware datetimes") := by
    with_unfolding_all rfl
  ⟨h, ingestGossip_retry_of_error 3 h 9⟩

end Errors

/-! ## Stored records -/

section Records

/-- The bounds of a stored peer that every method keeps. `region` is not among
them: a gossip entry overwrites a known peer's region without a check. -/
structure PeerNode.Sane (p : PeerNode) : Prop where
  endpoint_le : p.endpoint.length ≤ 300
  trust_nonneg : 0 ≤ p.trustScore
  trust_le : p.trustScore ≤ 1
  load_nonneg : 0 ≤ p.load
  load_le : p.load ≤ 1

/-- `region` is 2 to 64 characters long, as `PeerNode` asks. -/
def PeerNode.RegionOk (p : PeerNode) : Prop :=
  2 ≤ p.region.length ∧ p.region.length ≤ 64

instance (p : PeerNode) : Decidable p.RegionOk :=
  inferInstanceAs (Decidable (_ ∧ _))

/-- Every stored peer is `Sane`. -/
def Overlay.Sane (s : Overlay) : Prop :=
  ∀ x ∈ s.peers, x.2.Sane

theorem validate_of_sane {p : PeerNode} (h : p.Sane) :
    p.validate = if p.RegionOk then .ok p else .error (.validationError "PeerNode" ["region"]) := by
  unfold PeerNode.validate PeerNode.invalidFields PeerNode.RegionOk
  rw [if_pos h.endpoint_le,
    if_pos (show 0 ≤ p.trustScore ∧ p.trustScore ≤ 1 from ⟨h.trust_nonneg, h.trust_le⟩),
    if_pos (show 0 ≤ p.load ∧ p.load ≤ 1 from ⟨h.load_nonneg, h.load_le⟩)]
  split_ifs <;> rfl

theorem sane_of_validate {p q : PeerNode} (h : p.validate = .ok q) : q.Sane := by
  rw [eq_of_validate_eq_ok h]
  unfold PeerNode.validate at h
  split at h
  · rename_i hf
    simp only [PeerNode.invalidFields, List.append_eq_nil, ite_eq_left_iff, List.cons_ne_nil,
      imp_false, not_not] at hf
    exact ⟨hf.1.1.1, hf.1.2.1, hf.1.2.2, hf.2.1, hf.2.2⟩
  · cases h

theorem sane_set {peers : List (String × PeerNode)} (h : ∀ x ∈ peers, x.2.Sane) {k : String}
    {p : PeerNode} (hp : p.Sane) : ∀ x ∈ Dict.set peers k p, x.2.Sane :=
  fun x hx => (Dict.mem_set hx).elim (h x) fun e => by rw [e]; exact hp

theorem PeerHeartbeatRequest.update_sane (payload : PeerHeartbeatRequest) {peer : PeerNode}
    (hp : peer.Sane) (now : ℤ) : (payload.update peer now).Sane := by
  obtain ⟨status, trust, load, cache, htrust, hload⟩ := payload
  refine ⟨hp.endpoint_le, ?_, ?_, ?_, ?_⟩ <;> cases trust <;> cases load <;>
    simp_all [PeerHeartbeatRequest.update, hp.trust_nonneg, hp.trust_le, hp.load_nonneg, hp.load_le]

theorem Overlay.Sane.registerPeer {s : Overlay} (h : s.Sane) (payload : PeerRegisterRequest)
    (hex : String) (now : ℤ) : (s.registerPeer payload hex now).1.Sane := by
  simp only [Overlay.registerPeer]
  split
  · rename_i peer hb
    apply sane_set h
    split at hb
    · cases hb
      exact ⟨payload.endpoint_le, payload.trust_nonneg, payload.trust_le, payload.load_nonneg,
        payload.load_le⟩
    · exact sane_of_validate hb
  · exact h

theorem Overlay.Sane.heartbeat {s : Overlay} (h : s.Sane) (peerId : String)
    (payload : PeerHeartbeatRequest) (now : ℤ) : (s.heartbeat peerId payload now).1.Sane := by
  unfold Overlay.heartbeat
  split
  · exact h
  · split
    · rename_i next hv
      exact sane_set h (sane_of_validate hv)
    · exact h

theorem sane_ingestEntry (now : ℤ) {peers peers' : List (String × PeerNode)}
    {item : GossipMembershipEntry} {counted : Bool} (h : ∀ x ∈ peers, x.2.Sane)
    (hi : ingestEntry now peers item = .ok (peers', counted)) : ∀ x ∈ peers', x.2.Sane := by
  unfold ingestEntry at hi
  split at hi
  · split at hi
    · cases hi
    · rename_i peer hv
      cases hi
      exact sane_set h (sane_of_validate hv)
  · rename_i peer hg
    split at hi
    · cases hi
    · cases hi
      exact sane_set h ⟨(h _ (Dict.mem_of_get hg)).endpoint_le, item.trust_nonneg, item.trust_le,
        item.load_nonneg, item.load_le⟩
    · cases hi
      exact h

theorem sane_ingestEntries (now : ℤ) : ∀ (items : List GossipMembershipEntry)
    {peers : List (String × PeerNode)} {n : ℕ}, (∀ x ∈ peers, x.2.Sane) →
      ∀ x ∈ (ingestEntries now peers items n).1, x.2.Sane
  | [], _, _, h => h
  | item :: rest, peers, n, h => by
      unfold ingestEntries
      cases hi : ingestEntry now peers item with
      | error e => exact h
      | ok r => exact sane_ingestEntries now rest (sane_ingestEntry now h hi)

/-- The step lemma: every locked block keeps every stored peer `Sane`. -/
theorem Overlay.Sane.apply {s : Overlay} (h : s.Sane) : ∀ op : OverlayOp, (OverlayOp.apply s op).Sane
  | .registerPeer payload hex now => h.registerPeer payload hex now
  | .heartbeat peerId payload now => h.heartbeat peerId payload now
  | .ingestGossip payload now => by
      simp only [OverlayOp.apply, Overlay.ingestGossip]
      split_ifs
      · exact h
      · exact sane_ingestEntries now payload.membership h
  | .proposeJobAssignment _ _ _ => h

theorem Overlay.Sane.run {s : Overlay} (h : s.Sane) (ops : List OverlayOp) : (s.run ops).Sane := by
  induction ops generalizing s with
  | nil => exact h
  | cons op ops ih => exact ih (h.apply op)

/-- On a state whose peers are `Sane`, a heartbeat for a known peer stores and
returns the updated record when the peer's region is in bounds, and otherwise
raises a `ValidationError` on `region` alone and changes nothing. -/
theorem heartbeat_of_sane {s : Overlay} (h : s.Sane) {peerId : String} {peer : PeerNode}
    (hp : Dict.get s.peers peerId = some peer) (payload : PeerHeartbeatRequest) (now : ℤ) :
    s.heartbeat peerId payload now =
      if peer.RegionOk then
        ({ s with peers := Dict.set s.peers peerId (payload.update peer now) },
          .ok (payload.update peer now))
      else (s, .error (.validationError "PeerNode" ["region"])) := by
  have hs := payload.update_sane (h _ (Dict.mem_of_get hp)) now
  unfold Overlay.heartbeat
  rw [hp]
  dsimp only
  rw [validate_of_sane hs]
  by_cases hr : peer.RegionOk
  · rw [if_pos (show (payload.update peer now).RegionOk from hr), if_pos hr]
  · rw [if_neg (show ¬(payload.update peer now).RegionOk from hr), if_neg hr]

/-- In every state a run reaches from a fresh overlay, a heartbeat for a known
peer succeeds exactly when the peer's stored region is 2 to 64 characters long;
otherwise it raises a `ValidationError` on `region` alone and changes nothing. -/
theorem heartbeat_of_run (ops : List OverlayOp) {peerId : String} {peer : PeerNode}
    (hp : Dict.get (({} : Overlay).run ops).peers peerId = some peer)
    (payload : PeerHeartbeatRequest) (now : ℤ) :
    (({} : Overlay).run ops).heartbeat peerId payload now =
      if peer.RegionOk then
        ({ ({} : Overlay).run ops with
            peers := Dict.set (({} : Overlay).run ops).peers peerId (payload.update peer now) },
          .ok (payload.update peer now))
      else (({} : Overlay).run ops, .error (.validationError "PeerNode" ["region"])) :=
  heartbeat_of_sane (Overlay.Sane.run (fun x hx => absurd hx (List.not_mem_nil x)) ops) hp payload now

/-- An entry for `p`, seen at time `2`, whose region is `"x"`. -/
def shortRegionEntry : GossipMembershipEntry :=
  { peerId := "p", status := .online, trustScore := 1, load := 0, lastSeen := .aware 2,
    region := "x" }

/-- Peer `p` registers at time `1`; at time `3` source `q` gossips
`shortRegionEntry`. -/
def poisonedRun : List OverlayOp :=
  [.registerPeer { id := some "p", trustScore := 1 } "0000000000" 1,
   .ingestGossip { sourcePeerId := "q", seq := 1, membership := [shortRegionEntry] } 3]

/-- The record of `p` at the end of `poisonedRun`. -/
def poisonedPeer : PeerNode :=
  { id := "p", region := "x", trustScore := 1, status := .online, lastSeen := .aware 2,
    createdAt := .aware 1 }

theorem heartbeat_of_run_poisoned :
    Dict.get (({} : Overlay).run poisonedRun).peers "p" = some poisonedPeer ∧
      (({} : Overlay).run poisonedRun).heartbeat "p" {} 4 =
        if poisonedPeer.RegionOk then
          ({ ({} : Overlay).run poisonedRun with
              peers := Dict.set (({} : Overlay).run poisonedRun).peers "p"
                (PeerHeartbeatRequest.update {} poisonedPeer 4) },
            .ok (PeerHeartbeatRequest.update {} poisonedPeer 4))
        else (({} : Overlay).run poisonedRun, .error (.validationError "PeerNode" ["region"])) :=
  have hp : Dict.get (({} : Overlay).run poisonedRun).peers "p" = some poisonedPeer := by
    with_unfolding_all decide
  ⟨hp, heartbeat_of_run poisonedRun hp {} 4⟩

end Records


end P2P
end Hyperlooms
