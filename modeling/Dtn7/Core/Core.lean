import Dtn7.Core.Store
import Dtn7.Core.IdKeeper

/-!
# The agent's state and its collaborators

`Core` is the mutable state the pipeline threads through its stages: the store, the IdKeeper,
the registry of convergence-layer senders and the trace of what the agent did that others can
observe, namely store pushes, status reports, sends, sender restarts, deliveries to agents,
routing notifications, and the log lines that mark the pipeline's decisions.  One event,
`forwarded`, stands for the spec's "forwarded" states and has no log line of its own.

`Env` collects what a pipeline run reads but never changes: this node's endpoint identifier,
the endpoint and block-type predicates, the registered agents, the routing adapter, the
senders' outcomes, the configuration and the clock.  The routing adapter and the senders see
the whole state, so every behaviour a stateful adapter or link can show is covered.
-/

namespace Dtn7

/-- A convergence-layer sender, identified by its address and peer endpoint. -/
structure ConvergenceSender where
  address : String
  peerEndpointID : EndpointID
  deriving DecidableEq

/-- What the agent does that is observable from outside a pipeline stage. -/
inductive Event where
  | push (bp : BundlePack)
  | statusReport (bp : BundlePack) (status : StatusInformationPos) (reason : StatusReportReason)
  | dispatching (bp : BundlePack)
  | deletion (bp : BundlePack) (reason : StatusReportReason)
  | contraindication (bp : BundlePack)
  | send (node : ConvergenceSender) (bundle : Bundle) (ok : Bool)
  | restart (node : ConvergenceSender)
  | deliver (agent : EndpointID) (bundle : Bundle)
  | notifyIncoming (bp : BundlePack)
  | forwarded (bp : BundlePack) (deleteAfterwards : Bool)
  | deliveredReport (bp : BundlePack)
  deriving DecidableEq

/-- The agent's state. -/
structure Core where
  store : Store
  idKeeper : IdKeeper
  convergenceSenders : List ConvergenceSender
  trace : List Event

namespace Core

/-- A fresh agent: an empty store and IdKeeper, no senders and an empty trace. -/
def fresh : Core := ⟨.empty, .empty, [], []⟩

/-- Record an event. -/
def log (c : Core) (e : Event) : Core := { c with trace := c.trace ++ [e] }

/-- `c.store.Push(bp)`, recorded in the trace. -/
def push (c : Core) (bp : BundlePack) : Core :=
  { c with store := c.store.Push bp, trace := c.trace ++ [.push bp] }

/-- Modelled from the spec: `RegisterConvergenceSender`. -/
def RegisterConvergenceSender (c : Core) (node : ConvergenceSender) : Core :=
  { c with convergenceSenders := c.convergenceSenders ++ [node] }

/-- Modelled from the spec: `RemoveConvergenceSender`. -/
def RemoveConvergenceSender (c : Core) (node : ConvergenceSender) : Core :=
  { c with convergenceSenders := c.convergenceSenders.filter (· != node) }

@[simp] theorem store_log (c : Core) (e : Event) : (c.log e).store = c.store := rfl
@[simp] theorem idKeeper_log (c : Core) (e : Event) : (c.log e).idKeeper = c.idKeeper := rfl
@[simp] theorem trace_log (c : Core) (e : Event) : (c.log e).trace = c.trace ++ [e] := rfl
@[simp] theorem store_push (c : Core) (bp : BundlePack) :
    (c.push bp).store = c.store.Push bp := rfl
@[simp] theorem idKeeper_push (c : Core) (bp : BundlePack) :
    (c.push bp).idKeeper = c.idKeeper := rfl
@[simp] theorem trace_push (c : Core) (bp : BundlePack) :
    (c.push bp).trace = c.trace ++ [.push bp] := rfl
@[simp] theorem store_RegisterConvergenceSender (c : Core) (node : ConvergenceSender) :
    (c.RegisterConvergenceSender node).store = c.store := rfl
@[simp] theorem store_RemoveConvergenceSender (c : Core) (node : ConvergenceSender) :
    (c.RemoveConvergenceSender node).store = c.store := rfl

end Core

/-- What a pipeline run reads and never changes. -/
structure Env where
  /-- This node's endpoint, the source of its status reports. -/
  nodeId : EndpointID
  /-- `c.HasEndpoint(eid)`: the endpoint belongs to this node. -/
  HasEndpoint : EndpointID → Bool
  /-- `isKnownBlockType(t)`. -/
  isKnownBlockType : Nat → Bool
  /-- The endpoints of the registered agents, `c.Agents`. -/
  agents : List EndpointID
  /-- Whether a sender's peer endpoint designates a destination, for direct delivery. -/
  isPeerFor : EndpointID → EndpointID → Bool
  /-- `c.routing.SenderForBundle(bp)`: candidate senders and `deleteAfterwards`. -/
  SenderForBundle : Core → BundlePack → List ConvergenceSender × Bool
  /-- Whether `node.Send(bundle)` succeeds. -/
  Send : Core → ConvergenceSender → Bundle → Bool
  /-- `c.inspectAllBundles`. -/
  inspectAllBundles : Bool
  /-- The current time. -/
  now : Nat
  /-- The CBOR decoder of administrative records, on bytes the agent did not write. -/
  decodeAdministrativeRecord : List UInt8 → Option AdministrativeRecord
  /-- The lifetime of the status reports this node originates. -/
  statusReportLifetime : Nat

end Dtn7
