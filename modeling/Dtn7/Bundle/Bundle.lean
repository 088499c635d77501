import Mathlib.Algebra.Group.Int
import Dtn7.Bundle.PrimaryBlock

/-!
# Bundles, canonical blocks and administrative records

A bundle is its primary block and a list of canonical blocks.  Following the spec's design
note, a canonical block's data is a variant keyed by the block type (payload bytes, previous
node, bundle age, hop count, or the raw data of a type this agent does not know), in place of
the source's `interface{}` field and its type assertions.

The pipeline reads few things of a bundle: its identity, whether it carries an administrative
record, its payload block and its hop-count and bundle-age blocks, which `forward` updates in
place.  These accessors live in the `bundle` package, which is not among the sources; they
are modelled from the spec.  The hop count's limit and count are Go `uint`s, as the builder's
`uint(limit)` makes them, so counting a hop wraps at `2^64`.  The CBOR codec of administrative records is an external
collaborator: the bytes the agent marshals a record into are represented by the record, and
any other bytes are decoded by a parameter of the agent (`Dtn7.Core.Core`).
-/

namespace Dtn7

/-! ## Status reports -/

/-- The four status assertions of a status report. -/
inductive StatusInformationPos where
  | receivedBundle
  | forwardedBundle
  | deliveredBundle
  | deletedBundle
  deriving DecidableEq

/-- The reason code of a status report. -/
inductive StatusReportReason where
  | noInformation
  | lifetimeExpired
  | forwardedUnidirectionalLink
  | transmissionCanceled
  | depletedStorage
  | destEndpointUnintelligible
  | noRouteToDestination
  | noTimelyContact
  | blockUnintelligible
  | hopLimitExceeded
  | trafficPared
  deriving DecidableEq

/-- A bundle status report: the asserted status items (`StatusInformations()`), the reason
and the identity of the subject bundle. -/
structure StatusReport where
  statusInformation : List StatusInformationPos
  reportReason : StatusReportReason
  refBundle : BundleID
  deriving DecidableEq

/-- An administrative record: a record type code and, for a status report, its content. -/
structure AdministrativeRecord where
  recordTypeCode : Nat
  content : StatusReport
  deriving DecidableEq

/-- The record type code of a bundle status report. -/
def BundleStatusRecordTypeCode : Nat := 1

/-- Payload bytes: opaque bytes, or the marshalled form of an administrative record. -/
inductive Payload where
  | raw (data : List UInt8)
  | administrativeRecord (ar : AdministrativeRecord)
  deriving DecidableEq

/-! ## Canonical blocks -/

/-- A Go `uint`. -/
abbrev GoUint := {n : Nat // n < 2 ^ 64}

/-- `n++` on a `uint`, which wraps at `2^64`. -/
def GoUint.succ (n : GoUint) : GoUint := ⟨(n.val + 1) % 2 ^ 64, Nat.mod_lt _ (by decide)⟩

/-- A numeral as a `uint` constant, reduced modulo `2^64`; the numerals written here are below
`2^64`, where the reduction is the number itself. -/
instance (n : Nat) : OfNat GoUint n := ⟨⟨n % 2 ^ 64, Nat.mod_lt _ (by decide)⟩⟩

/-- Modelled from the spec: a hop-count block's data `bundle.HopCount`, the hop limit and the
number of hops so far, both Go `uint`s as the builder's `NewHopCount(uint(limit))` makes them. -/
structure HopCount where
  limit : GoUint
  count : GoUint
  deriving DecidableEq

/-- Modelled from the spec: `NewHopCount(limit)`, no hops yet. -/
def NewHopCount (limit : GoUint) : HopCount := ⟨limit, 0⟩

/-- Modelled from the spec: `hc.Increment()`, the statement `Count++` on a `uint`, which wraps
at `2^64`. -/
def HopCount.Increment (hc : HopCount) : HopCount := { hc with count := hc.count.succ }

/-- Modelled from the spec: `hc.IsExceeded()`, more hops than the limit. -/
def HopCount.IsExceeded (hc : HopCount) : Bool := decide (hc.limit.val < hc.count.val)

/-- After the increment the limit is exceeded unless the wrapped count is within it. -/
theorem HopCount.IsExceeded_Increment (hc : HopCount) :
    hc.Increment.IsExceeded = !decide ((hc.count.val + 1) % 2 ^ 64 ≤ hc.limit.val) := by
  simp only [← decide_not, Nat.not_le]
  rfl

/-- The block processing control flags, a bit field. -/
abbrev BlockControlFlags := Nat

/-- `bcf.Has(flag)`. -/
def BlockControlFlags.has (bcf flag : BlockControlFlags) : Bool := bcf &&& flag != 0

/-- Transmit a status report if the block cannot be processed. -/
def StatusReportBlock : BlockControlFlags := 0x02

/-- Delete the bundle if the block cannot be processed. -/
def DeleteBundle : BlockControlFlags := 0x04

/-- Discard the block if it cannot be processed. -/
def RemoveBlock : BlockControlFlags := 0x10

/-- The block type code of the payload block. -/
def PayloadBlock : Nat := 1

/-- The block type code of the previous-node block. -/
def PreviousNodeBlock : Nat := 7

/-- The block type code of the bundle-age block. -/
def BundleAgeBlock : Nat := 8

/-- The block type code of the hop-count block. -/
def HopCountBlock : Nat := 9

/-- A canonical block's data, keyed by its block type. -/
inductive BlockData where
  | payload (data : Payload)
  | previousNode (eid : EndpointID)
  | bundleAge (us : Nat)
  | hopCount (hc : HopCount)
  | unknown (blockType : Nat) (data : List UInt8)
  deriving DecidableEq

/-- The block type code of the data. -/
def BlockData.blockType : BlockData → Nat
  | .payload _ => PayloadBlock
  | .previousNode _ => PreviousNodeBlock
  | .bundleAge _ => BundleAgeBlock
  | .hopCount _ => HopCountBlock
  | .unknown t _ => t

/-- A canonical block. -/
structure CanonicalBlock where
  blockNumber : Nat
  blockControlFlags : BlockControlFlags
  data : BlockData
  deriving DecidableEq

/-- The block's type code. -/
def CanonicalBlock.BlockType (cb : CanonicalBlock) : Nat := cb.data.blockType

/-- A bundle. -/
structure Bundle where
  primaryBlock : PrimaryBlock
  canonicalBlocks : List CanonicalBlock
  deriving DecidableEq

namespace Bundle

/-- Modelled from the spec: the bundle's identity. -/
def ID (b : Bundle) : BundleID := b.primaryBlock.id

/-- Modelled from the spec: the primary block's flags mark the payload as an administrative
record. -/
def IsAdministrativeRecord (b : Bundle) : Bool :=
  b.primaryBlock.bundleControlFlags.has AdministrativeRecordPayload

/-- Modelled from the spec: the first block of the given type (`ExtensionBlock`). -/
def ExtensionBlock (b : Bundle) (blockType : Nat) : Option CanonicalBlock :=
  b.canonicalBlocks.find? (·.BlockType == blockType)

/-- Modelled from the spec: the payload block's bytes, `PayloadBlock().Data.([]byte)`. -/
def PayloadData (b : Bundle) : Option Payload :=
  match b.ExtensionBlock PayloadBlock with
  | some ⟨_, _, .payload p⟩ => some p
  | _ => none

/-- The hop count of the first hop-count block, when there is one. -/
def hopCount (b : Bundle) : Option HopCount :=
  match b.ExtensionBlock HopCountBlock with
  | some ⟨_, _, .hopCount hc⟩ => some hc
  | _ => none

/-- The age of the first bundle-age block, when there is one. -/
def bundleAge (b : Bundle) : Option Nat :=
  match b.ExtensionBlock BundleAgeBlock with
  | some ⟨_, _, .bundleAge us⟩ => some us
  | _ => none

/-- Replace the data of the first block of the given type, as a write through the pointer
`ExtensionBlock` returns. -/
def setExtensionData (b : Bundle) (blockType : Nat) (data : BlockData) : Bundle :=
  { b with canonicalBlocks := go b.canonicalBlocks }
where
  go : List CanonicalBlock → List CanonicalBlock
    | [] => []
    | cb :: cbs => if cb.BlockType == blockType then { cb with data } :: cbs else cb :: go cbs

theorem find?_go_of_ne (t t' : Nat) (data : BlockData) (hdata : data.blockType = t')
    (h : t ≠ t') (cbs : List CanonicalBlock) :
    (setExtensionData.go t' data cbs).find? (·.BlockType == t) = cbs.find? (·.BlockType == t) := by
  induction cbs with
  | nil => rfl
  | cons cb cbs ih =>
    by_cases hcb : cb.BlockType = t'
    · simp_all [setExtensionData.go, List.find?_cons, CanonicalBlock.BlockType, Ne.symm h]
    · simp_all [setExtensionData.go, List.find?_cons]

theorem find?_go (t : Nat) (data : BlockData) (hdata : data.blockType = t)
    {cbs : List CanonicalBlock} {cb : CanonicalBlock} (h : cbs.find? (·.BlockType == t) = some cb) :
    (setExtensionData.go t data cbs).find? (·.BlockType == t) = some { cb with data } := by
  induction cbs with
  | nil => simp at h
  | cons cb' cbs ih =>
    by_cases hcb : cb'.BlockType = t
    · simp_all [setExtensionData.go, List.find?_cons, CanonicalBlock.BlockType]
    · simp_all [setExtensionData.go, List.find?_cons]

theorem hopCount_setExtensionData (b : Bundle) {hc : HopCount} (h : b.hopCount = some hc)
    (hc' : HopCount) : (b.setExtensionData HopCountBlock (.hopCount hc')).hopCount = some hc' := by
  unfold hopCount at *
  split at h <;> try cases h
  rename_i cb hcb
  simp only [ExtensionBlock, setExtensionData] at hcb ⊢
  rw [find?_go HopCountBlock (.hopCount hc') rfl hcb]

theorem hopCount_setExtensionData_bundleAge (b : Bundle) (us : Nat) :
    (b.setExtensionData BundleAgeBlock (.bundleAge us)).hopCount = b.hopCount := by
  simp only [hopCount, ExtensionBlock, setExtensionData,
    find?_go_of_ne HopCountBlock BundleAgeBlock (.bundleAge us) rfl (by decide)]

theorem bundleAge_setExtensionData_hopCount (b : Bundle) (hc : HopCount) :
    (b.setExtensionData HopCountBlock (.hopCount hc)).bundleAge = b.bundleAge := by
  simp only [bundleAge, ExtensionBlock, setExtensionData,
    find?_go_of_ne BundleAgeBlock HopCountBlock (.hopCount hc) rfl (by decide)]

/-- Writing a block of another type leaves the payload alone. -/
theorem PayloadData_setExtensionData (b : Bundle) (t : Nat) (data : BlockData)
    (hdata : data.blockType = t) (ht : PayloadBlock ≠ t) :
    (b.setExtensionData t data).PayloadData = b.PayloadData := by
  simp only [PayloadData, ExtensionBlock, setExtensionData, find?_go_of_ne PayloadBlock t data hdata ht]

@[simp] theorem primaryBlock_setExtensionData (b : Bundle) (t : Nat) (data : BlockData) :
    (b.setExtensionData t data).primaryBlock = b.primaryBlock := rfl

@[simp] theorem ID_setExtensionData (b : Bundle) (t : Nat) (data : BlockData) :
    (b.setExtensionData t data).ID = b.ID := rfl

end Bundle

end Dtn7
