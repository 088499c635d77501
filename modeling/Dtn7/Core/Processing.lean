import Dtn7.Core.Core

/-!
# The bundle processing pipeline

The stages of `core/processing` (`part_000`): `transmit` and `receive` enter the pipeline,
`dispatching` chooses between `localDelivery` and `forward`, and `bundleContraindicated` and
`bundleDeletion` end it.  `checkAdministrativeRecord` and `inspectStatusReport` handle the
status reports a node receives.

Each stage takes and returns the state, and returns the pack as the stage leaves it: the Go
stages share the pack's bundle and constraint map with their caller, so the caller sees
every change a stage made.  An early `return` of the source is an `Except.error` in the
reverse block walk of `receive` and an `if` everywhere else.  The parallel fan-out of
`forward` asks every sender with the same state and then applies the sends' effects in list
order; only the Boolean "some send succeeded" leaves the fan-out.

The stages take the status-report emitter `SendStatusReport` as a parameter.  The emitter
itself (`SendStatusReport`, not among the sources, modelled from the spec) builds the report
bundle and runs `transmit` on it, with the emitter one level down.  The agent's two entry
points, `SendBundle` and `receiveBundle`, use one level: a report's own run gets the emitter
that does nothing, which is what `Dtn7.Core.Reports` reasons about.  The report bundle's flags
request no status reports, which is why the source needs no deeper nesting.
-/

namespace Dtn7

/-- `c.SendStatusReport(bp, status, reason)`, as the stages call it. -/
abbrev Emitter := Core → BundlePack → StatusInformationPos → StatusReportReason → Core

section Pipeline

variable (env : Env) (SendStatusReport : Emitter)

/-- `c.senderForDestination(dest)`: the registered senders whose peer designates `dest`. -/
def senderForDestination (c : Core) (dest : EndpointID) : List ConvergenceSender :=
  c.convergenceSenders.filter fun node => env.isPeerFor node.peerEndpointID dest

/-- Modelled from the spec: `NewAdministrativeRecordFromCbor` on the payload's bytes. -/
def NewAdministrativeRecordFromCbor : Payload → Option AdministrativeRecord
  | .administrativeRecord ar => some ar
  | .raw data => env.decodeAdministrativeRecord data

/-- `bundleContraindicated`: add `Contraindicated` and push. -/
def bundleContraindicated (c : Core) (bp : BundlePack) : Core × BundlePack :=
  let c := c.log (.contraindication bp)
  let bp := bp.AddConstraint .contraindicated
  (c.push bp, bp)

/-- `bundleDeletion`: report the deletion if requested, purge the constraints and push. -/
def bundleDeletion (c : Core) (bp : BundlePack) (reason : StatusReportReason) :
    Core × BundlePack :=
  let c := if bp.bundle.primaryBlock.bundleControlFlags.has StatusRequestDeletion then
    SendStatusReport c bp .deletedBundle reason else c
  let bp := bp.PurgeConstraints
  ((c.push bp).log (.deletion bp reason), bp)

/-- The loop of `inspectStatusReport` over the status items, on the one subject pack. -/
def inspectStatusItems (bp : BundlePack) : Core → List StatusInformationPos → Core
  | c, [] => c
  | c, .deliveredBundle :: sips =>
    let bp := bp.PurgeConstraints
    inspectStatusItems bp ((c.log (.deliveredReport bp)).push bp) sips
  | c, _ :: sips => inspectStatusItems bp c sips

/-- `inspectStatusReport`: a status report about exactly one stored bundle that says it was
delivered releases that bundle's constraints. -/
def inspectStatusReport (c : Core) (ar : AdministrativeRecord) : Core :=
  let status := ar.content
  let sips := status.statusInformation
  if sips.isEmpty then c
  else match QueryFromStatusReport c.store status with
    | [bp] => inspectStatusItems bp c sips
    | _ => c

/-- `checkAdministrativeRecord`: parse the payload as an administrative record and inspect
it; `false` when that fails. -/
def checkAdministrativeRecord (c : Core) (bp : BundlePack) : Core × Bool :=
  if !bp.bundle.IsAdministrativeRecord then (c, false)
  else match bp.bundle.PayloadData with
    | none => (c, false)
    | some payload =>
      match NewAdministrativeRecordFromCbor env payload with
      | none => (c, false)
      | some ar => (inspectStatusReport c ar, true)

/-- `localDelivery`: inspect an administrative record, hand the bundle to every agent of its
destination, notify the routing, report the delivery if requested, purge and push. -/
def localDelivery (c : Core) (bp : BundlePack) : Core × BundlePack :=
  let (c, ok) := if bp.bundle.IsAdministrativeRecord then checkAdministrativeRecord env c bp
    else (c, true)
  if !ok then bundleDeletion SendStatusReport c bp .noInformation
  else
    let c := env.agents.foldl (fun c agent =>
      if agent == bp.bundle.primaryBlock.destination then c.log (.deliver agent bp.bundle)
      else c) c
    let c := c.log (.notifyIncoming bp)
    let c := if bp.bundle.primaryBlock.bundleControlFlags.has StatusRequestDelivery then
      SendStatusReport c bp .deliveredBundle .noInformation else c
    let bp := bp.PurgeConstraints
    (c.push bp, bp)

/-- The effect of one send of the fan-out: a success sets `bundleSent`, a failed node is
closed, removed and registered again. -/
def sendOutcome (bndl : Bundle) : Core × Bool → ConvergenceSender × Bool → Core × Bool
  | (c, bundleSent), (node, ok) =>
    if ok then (c.log (.send node bndl true), true)
    else (((c.log (.send node bndl false)).log (.restart node)).RemoveConvergenceSender node
      |>.RegisterConvergenceSender node, bundleSent)

/-- The fan-out of `forward`: every node is asked with the same state, the outcomes take
effect in list order, and the result says whether some send succeeded. -/
def sendToAll (c : Core) (bndl : Bundle) (nodes : List ConvergenceSender) : Core × Bool :=
  let outcomes := nodes.map fun node => (node, env.Send c node bndl)
  outcomes.foldl (sendOutcome bndl) (c, false)

/-- The end of `forward`, after the hop-count, lifetime and age checks: choose the senders,
send, and settle the pack. -/
def forwardSend (c : Core) (bp : BundlePack) : Core × BundlePack :=
  let direct := senderForDestination env c bp.bundle.primaryBlock.destination
  let (nodes, deleteAfterwards) :=
    if direct.isEmpty then env.SenderForBundle c bp else (direct, true)
  if nodes.isEmpty then bundleContraindicated c bp
  else
    let (c, bundleSent) := sendToAll env c bp.bundle nodes
    if bundleSent then
      let c := c.log (.forwarded bp deleteAfterwards)
      let c := if bp.bundle.primaryBlock.bundleControlFlags.has StatusRequestForward then
        SendStatusReport c bp .forwardedBundle .noInformation else c
      if deleteAfterwards then
        let bp := bp.PurgeConstraints
        (c.push bp, bp)
      else if env.inspectAllBundles && bp.bundle.IsAdministrativeRecord then
        let (c, bp) := bundleContraindicated c bp
        ((checkAdministrativeRecord env c bp).1, bp)
      else (c, bp)
    else bundleContraindicated c bp

/-- The lifetime and bundle-age checks of `forward`. -/
def forwardLifetime (c : Core) (bp : BundlePack) : Core × BundlePack :=
  if bp.bundle.primaryBlock.IsLifetimeExceeded env.now then
    bundleDeletion SendStatusReport c bp .lifetimeExpired
  else match bp.UpdateBundleAge env.now with
    | some (age, bp) =>
      if age ≥ bp.bundle.primaryBlock.lifetime then
        bundleDeletion SendStatusReport c bp .lifetimeExpired
      else forwardSend env SendStatusReport c bp
    | none => forwardSend env SendStatusReport c bp

/-- `forward`: replace `DispatchPending` by `ForwardPending` and push, count the hop, and go on
to the lifetime checks. -/
def forward (c : Core) (bp : BundlePack) : Core × BundlePack :=
  let bp := (bp.AddConstraint .forwardPending).RemoveConstraint .dispatchPending
  let c := c.push bp
  match bp.bundle.hopCount with
  | some hc =>
    let hc := hc.Increment
    let bp := { bp with bundle := bp.bundle.setExtensionData HopCountBlock (.hopCount hc) }
    if hc.IsExceeded then bundleDeletion SendStatusReport c bp .hopLimitExceeded
    else forwardLifetime env SendStatusReport c bp
  | none => forwardLifetime env SendStatusReport c bp

/-- `dispatching`: deliver locally when this node is the destination, forward otherwise. -/
def dispatching (c : Core) (bp : BundlePack) : Core × BundlePack :=
  let c := c.log (.dispatching bp)
  if env.HasEndpoint bp.bundle.primaryBlock.destination then
    localDelivery env SendStatusReport c bp
  else forward env SendStatusReport c bp

/-- The reverse walk of `receive` over the canonical blocks at indices below `i`; an unknown
block may ask for a report, for the bundle's deletion (the walk stops, `error`) or for its
own removal. -/
def receiveBlocks (c : Core) (bp : BundlePack) :
    Nat → Except (Core × BundlePack) (Core × BundlePack)
  | 0 => .ok (c, bp)
  | i + 1 =>
    match bp.bundle.canonicalBlocks.get? i with
    | none => receiveBlocks c bp i
    | some cb =>
      if env.isKnownBlockType cb.BlockType then receiveBlocks c bp i
      else
        let c := if cb.blockControlFlags.has StatusReportBlock then
          SendStatusReport c bp .receivedBundle .blockUnintelligible else c
        if cb.blockControlFlags.has DeleteBundle then
          .error (bundleDeletion SendStatusReport c bp .blockUnintelligible)
        else if cb.blockControlFlags.has RemoveBlock then
          receiveBlocks c { bp with bundle := { bp.bundle with
            canonicalBlocks := bp.bundle.canonicalBlocks.eraseIdx i } } i
        else receiveBlocks c bp i

/-- `receive`: drop a known bundle; otherwise add `DispatchPending` and push, report the
reception if requested, walk the blocks and dispatch. -/
def receive (c : Core) (bp : BundlePack) : Core × BundlePack :=
  if KnowsBundle c.store bp then (c, bp)
  else
    let bp := bp.AddConstraint .dispatchPending
    let c := c.push bp
    let c := if bp.bundle.primaryBlock.bundleControlFlags.has StatusRequestReception then
      SendStatusReport c bp .receivedBundle .noInformation else c
    match receiveBlocks env SendStatusReport c bp bp.bundle.canonicalBlocks.length with
    | .error r => r
    | .ok (c, bp) => dispatching env SendStatusReport c bp

/-- `transmit`: give the bundle its sequence number, add `DispatchPending` and push, delete a
bundle whose source is neither `dtn:none` nor this node, and dispatch. -/
def transmit (c : Core) (bp : BundlePack) : Core × BundlePack :=
  let (idKeeper, bndl) := c.idKeeper.update bp.bundle
  let c := { c with idKeeper }
  let bp := { bp with bundle := bndl }.AddConstraint .dispatchPending
  let c := c.push bp
  let src := bp.bundle.primaryBlock.sourceNode
  if src != DtnNone && !env.HasEndpoint src then
    bundleDeletion SendStatusReport c bp .noInformation
  else dispatching env SendStatusReport c bp

end Pipeline

/-- Modelled from the spec: the status report a node sends about `bp`, from this node to the
bundle's report-to endpoint, carrying one status assertion and the reason. -/
def statusReportBundle (env : Env) (bp : BundlePack) (status : StatusInformationPos)
    (reason : StatusReportReason) : Bundle where
  primaryBlock := PrimaryBlock.NewPrimaryBlock AdministrativeRecordPayload
    bp.bundle.primaryBlock.reportTo env.nodeId ⟨env.now, 0⟩ env.statusReportLifetime
  canonicalBlocks := [⟨0, 0, .payload (.administrativeRecord
    ⟨BundleStatusRecordTypeCode, ⟨[status], reason, bp.ID⟩⟩)⟩]

/-- Modelled from the spec: `SendStatusReport` builds the report and runs `transmit` on it;
`n` bounds the nesting of reports about reports. -/
def SendStatusReport (env : Env) : Nat → Emitter
  | 0 => fun c _ _ _ => c
  | n + 1 => fun c bp status reason =>
    (transmit env (SendStatusReport env n) (c.log (.statusReport bp status reason))
      (NewBundlePack (statusReportBundle env bp status reason) env.now)).1

/-- `SendBundle`: transmit a locally originated bundle. -/
def SendBundle (env : Env) (c : Core) (b : Bundle) : Core × BundlePack :=
  transmit env (SendStatusReport env 1) c (NewBundlePack b env.now)

/-- A bundle handed over by a convergence-layer receiver enters `receive`. -/
def receiveBundle (env : Env) (c : Core) (b : Bundle) : Core × BundlePack :=
  receive env (SendStatusReport env 1) c (NewBundlePack b env.now)

end Dtn7
