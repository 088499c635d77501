import Dtn7.Bundle.Endpoint

/-!
# The primary block

`PrimaryBlock` is the Go struct of `part_001` field for field, with Go's `uint` as `Nat`.
Its control flags are the bit field the source tests with `Has`; the bit values are those of
the BPv7 draft the source follows.

The bundle identity is the spec's tuple: source, creation timestamp and, for a fragment
only, the fragment offset and total data length.  `IsLifetimeExceeded` is a primary-block
method the sources call but do not contain, modelled from the spec's predicate.
-/

namespace Dtn7

/-- The bundle processing control flags, a bit field. -/
abbrev BundleControlFlags := Nat

/-- `bcf.Has(flag)`: some bit of `flag` is set in `bcf`. -/
def BundleControlFlags.has (bcf flag : BundleControlFlags) : Bool := bcf &&& flag != 0

/-- The bundle is a fragment. -/
def BndlCFBundleIsAFragment : BundleControlFlags := 0x000001

/-- The payload is an administrative record. -/
def AdministrativeRecordPayload : BundleControlFlags := 0x000002

/-- Request reporting of bundle reception. -/
def StatusRequestReception : BundleControlFlags := 0x004000

/-- Request reporting of bundle forwarding. -/
def StatusRequestForward : BundleControlFlags := 0x010000

/-- Request reporting of bundle delivery. -/
def StatusRequestDelivery : BundleControlFlags := 0x020000

/-- Request reporting of bundle deletion. -/
def StatusRequestDeletion : BundleControlFlags := 0x040000

/-- The CRC type of a block. -/
abbrev CRCType := Nat

/-- No CRC is present. -/
def CRCNo : CRCType := 0

/-- The protocol version this agent writes. -/
def DTNVersion : Nat := 7

/-- A primary bundle block. -/
structure PrimaryBlock where
  version : Nat
  bundleControlFlags : BundleControlFlags
  crcType : CRCType
  destination : EndpointID
  sourceNode : EndpointID
  reportTo : EndpointID
  creationTimestamp : CreationTimestamp
  lifetime : Nat
  fragmentOffset : Nat
  totalDataLength : Nat
  crc : Nat
  deriving DecidableEq

namespace PrimaryBlock

/-- `NewPrimaryBlock`: the given fields, everything else at its default. -/
def NewPrimaryBlock (bundleControlFlags : BundleControlFlags)
    (destination sourceNode : EndpointID) (creationTimestamp : CreationTimestamp)
    (lifetime : Nat) : PrimaryBlock where
  version := DTNVersion
  bundleControlFlags := bundleControlFlags
  crcType := CRCNo
  destination := destination
  sourceNode := sourceNode
  reportTo := DtnNone
  creationTimestamp := creationTimestamp
  lifetime := lifetime
  fragmentOffset := 0
  totalDataLength := 0
  crc := 0

/-- The control flags mark the bundle as a fragment. -/
def HasFragmentation (pb : PrimaryBlock) : Bool :=
  pb.bundleControlFlags.has BndlCFBundleIsAFragment

/-- The CRC type announces a CRC. -/
def HasCRC (pb : PrimaryBlock) : Bool := pb.crcType != CRCNo

/-- Modelled from the spec: the lifetime is exceeded when the creation time plus the
lifetime lies before `now`; a zero creation time (no synchronised clock) never counts as
exceeded here, the bundle-age block decides instead. -/
def IsLifetimeExceeded (now : Nat) (pb : PrimaryBlock) : Bool :=
  pb.creationTimestamp.time != 0 && decide (pb.creationTimestamp.time + pb.lifetime < now)

end PrimaryBlock

/-- The identity of a bundle: source, creation timestamp and, for fragments, the fragment
offset and total data length (zero otherwise). -/
structure BundleID where
  sourceNode : EndpointID
  timestamp : CreationTimestamp
  fragmentOffset : Nat
  totalDataLength : Nat
  deriving DecidableEq

/-- Modelled from the spec: the identity tuple of a primary block. -/
def PrimaryBlock.id (pb : PrimaryBlock) : BundleID where
  sourceNode := pb.sourceNode
  timestamp := pb.creationTimestamp
  fragmentOffset := if pb.HasFragmentation then pb.fragmentOffset else 0
  totalDataLength := if pb.HasFragmentation then pb.totalDataLength else 0

end Dtn7
