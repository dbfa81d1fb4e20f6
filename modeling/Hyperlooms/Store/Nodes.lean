import Hyperlooms.Store.World

/-!
# Sections under the node lock

Each `async with self._node_lock` block of `InMemoryStateStore`, as a function
of the node dictionary and the clock.  `NodeSection` names the blocks and
`NodeSection.exec` runs one; nothing here reads or writes the job tables or the
ledger, which is what the later modules use of this one.

`register_node` reads `len(self._nodes)` and the clock before it takes the lock;
that read is the section `nodeCount`, so the interleaving semantics may run
other operations between it and the write.
-/

namespace Hyperlooms
namespace Store

namespace Locked

section Sections

/-- `seed_nodes()`: the four demo nodes, heartbeating now. -/
def seedNodes (nodes : List (String × Node)) (now : ℕ) : List (String × Node) :=
  let defaults : List Node :=
    [{ id := "demo-a100-1", gpu := "NVIDIA A100", vramTotalGb := 80, region := "us-east-1",
       lastHeartbeat := now },
     { id := "demo-h100-1", gpu := "NVIDIA H100", vramTotalGb := 80, region := "us-west-2",
       lastHeartbeat := now },
     { id := "demo-l40s-1", gpu := "NVIDIA L40S", vramTotalGb := 48, region := "eu-west-1",
       lastHeartbeat := now },
     { id := "demo-a10-1", gpu := "NVIDIA A10", vramTotalGb := 24, region := "us-east-2",
       lastHeartbeat := now }]
  defaults.foldl (fun d n => Dict.set d n.id n) nodes

/-- The locked part of `register_node(payload)`: an offline placeholder until
heartbeats begin, keeping the trust, latency and VRAM of a known node. -/
def registerNode (payload : NodeRegisterRequest) (nodeId : String) (now : ℕ)
    (nodes : List (String × Node)) : List (String × Node) × Node :=
  let node : Node :=
    match Dict.get nodes nodeId with
    | some existing =>
        { existing with
          gpu := payload.gpu
          vramTotalGb := payload.vramTotalGb
          region := payload.region
          modelCache := normalizeModelCache payload.modelCache
          status := .offline
          jobsRunning := 0
          lastHeartbeat := now }
    | none =>
        { id := nodeId
          gpu := payload.gpu
          vramTotalGb := payload.vramTotalGb
          region := payload.region
          modelCache := normalizeModelCache payload.modelCache
          status := .offline
          jobsRunning := 0
          lastHeartbeat := now }
  (Dict.set nodes node.id node, node)

/-- `heartbeat(node_id, payload)`. -/
def heartbeat (nodeId : String) (payload : NodeHeartbeatRequest) (now : ℕ)
    (nodes : List (String × Node)) : List (String × Node) × Except StoreError Node :=
  match Dict.get nodes nodeId with
  | none => (nodes, .error (.keyError ("Node '" ++ nodeId ++ "' not found")))
  | some node =>
      let jobsRunning := payload.jobsRunning.getD node.jobsRunning
      let statusAndJobs : NodeStatus × ℕ :=
        if payload.status = some .offline then (.offline, 0)
        else
          match payload.jobsRunning with
          | some j => (if 0 < j then .busy else .healthy, jobsRunning)
          | none => (payload.status.getD node.status, jobsRunning)
      let updated : Node :=
        { node with
          status := statusAndJobs.1
          jobsRunning := statusAndJobs.2
          vramUsedGb := (payload.vramUsedGb.map (min · node.vramTotalGb)).getD node.vramUsedGb
          latencyMsAvg :=
            (payload.latencyMs.map (fun l => node.latencyMsAvg * 0.7 + l * 0.3)).getD
              node.latencyMsAvg
          modelCache := (payload.modelCache.map normalizeModelCache).getD node.modelCache
          lastHeartbeat := now }
      (Dict.set nodes nodeId updated, .ok updated)

/-- `list_nodes()`: the nodes by id. -/
def listNodes (nodes : List (String × Node)) : List Node :=
  (nodes.map Prod.snd).insertionSort (fun a b => a.id ≤ b.id)

/-- `increment_node_jobs(node_id, delta)`. -/
def incrementNodeJobs (nodeId : String) (delta : ℤ) (now : ℕ)
    (nodes : List (String × Node)) : List (String × Node) :=
  match Dict.get nodes nodeId with
  | none => nodes
  | some node =>
      let jobsRunning := ((node.jobsRunning : ℤ) + delta).toNat
      let status : NodeStatus :=
        if node.status = .offline then .offline else if 0 < jobsRunning then .busy else .healthy
      Dict.set nodes nodeId { node with jobsRunning, status, lastHeartbeat := now }

/-- `adjust_node_trust(node_id, delta)`: the trust, clamped to `[0, 1]`. -/
def adjustNodeTrust (nodeId : String) (delta : ℚ) (nodes : List (String × Node)) :
    List (String × Node) :=
  match Dict.get nodes nodeId with
  | none => nodes
  | some node =>
      Dict.set nodes nodeId { node with trustScore := min 1 (max 0 (node.trustScore + delta)) }

/-- The locked part of `add_model_to_node_cache(node_id, model)`. -/
def addModelToNodeCache (nodeId model : String) (nodes : List (String × Node)) :
    List (String × Node) :=
  match Dict.get nodes nodeId with
  | none => nodes
  | some node =>
      Dict.set nodes nodeId
        { node with modelCache := normalizeModelCache (node.modelCache ++ [model]) }

/-- The locked part of `expire_stale_nodes(timeout_seconds)`: the nodes silent
since before the cutoff go offline; the set of them, in discovery order. -/
def expireStaleNodes (timeoutSeconds : ℤ) (now : ℕ) (nodes : List (String × Node)) :
    List (String × Node) × List String :=
  let cutoff : ℤ := now - timeoutSeconds * 10 ^ 6
  nodes.foldl (updateStep (fun n => (n.lastHeartbeat : ℤ) < cutoff ∧ n.status ≠ .offline)
    (fun n => { n with status := .offline, jobsRunning := 0 })) (nodes, [])

/-- `synthetic_pulse()`: demo nodes that are not idle and offline report in. -/
def syntheticPulse (now : ℕ) (nodes : List (String × Node)) : List (String × Node) :=
  nodes.foldl (fun acc p =>
    if ¬ startsWith p.1 "demo-" then acc
    else if p.2.status = .offline ∧ p.2.jobsRunning = 0 then acc
    else
      Dict.set acc p.1 { p.2 with
        status := if 0 < p.2.jobsRunning then .busy else .healthy, lastHeartbeat := now }) nodes

end Sections

end Locked

/-- A block under `_node_lock`. -/
inductive NodeSection
  | seedNodes
  | nodeCount
  | registerNode (payload : NodeRegisterRequest) (nodeId : String) (now : ℕ)
  | heartbeat (nodeId : String) (payload : NodeHeartbeatRequest)
  | listNodes
  | getNode (nodeId : String)
  | incrementNodeJobs (nodeId : String) (delta : ℤ)
  | adjustNodeTrust (nodeId : String) (delta : ℚ)
  | addModelToNodeCache (nodeId model : String)
  | expireStaleNodes (timeoutSeconds : ℤ)
  | syntheticPulse

/-- What a node block returns. -/
def NodeSection.Reply : NodeSection → Type
  | .nodeCount => ℕ
  | .registerNode .. => Node
  | .heartbeat .. => Except StoreError Node
  | .listNodes => List Node
  | .getNode _ => Option Node
  | .expireStaleNodes _ => List String
  | _ => Unit

/-- Run a node block on the dictionary, at clock `now`. -/
def NodeSection.exec (now : ℕ) (nodes : List (String × Node)) :
    (s : NodeSection) → List (String × Node) × s.Reply
  | .seedNodes => (Locked.seedNodes nodes now, ())
  | .nodeCount => (nodes, nodes.length)
  | .registerNode payload nodeId at_ => Locked.registerNode payload nodeId at_ nodes
  | .heartbeat nodeId payload => Locked.heartbeat nodeId payload now nodes
  | .listNodes => (nodes, Locked.listNodes nodes)
  | .getNode nodeId => (nodes, Dict.get nodes nodeId)
  | .incrementNodeJobs nodeId delta => (Locked.incrementNodeJobs nodeId delta now nodes, ())
  | .adjustNodeTrust nodeId delta => (Locked.adjustNodeTrust nodeId delta nodes, ())
  | .addModelToNodeCache nodeId model => (Locked.addModelToNodeCache nodeId model nodes, ())
  | .expireStaleNodes timeout => Locked.expireStaleNodes timeout now nodes
  | .syntheticPulse => (Locked.syntheticPulse now nodes, ())

end Store
end Hyperlooms
