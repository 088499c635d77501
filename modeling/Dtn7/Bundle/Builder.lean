import Mathlib.Algebra.Group.Int
import Dtn7.Bundle.Bundle
import Dtn7.Bundle.PrimaryBlockCodec
import Dtn7.Bundle.Duration

/-!
# The bundle builder

`BundleBuilder` assembles a bundle by method chaining:

    Builder().Source("dtn://src/").Destination("dtn://dest/").Lifetime("30m").
      HopCountBlock(64).PayloadBlock("hello world!").Build()

Its methods take their arguments as `interface{}` and sort them out with type switches and
type assertions; a `BuilderArg` is such a value, by the Go type those switches see.  The
builder records the first error it meets in `err`, and each method but `PayloadBlock` begins by
returning the builder unchanged when an error is recorded.  `Build` returns the recorded error,
or checks the endpoints and hands the primary block and the canonical blocks to `NewBundle`.

A method that reads `args[0]` of an empty argument list panics; the model's methods return
`Option BundleBuilder`, `none` for a panic, where the source can panic.

Modelled from the spec: `NewEndpointID`, `NewBundle` and the clock are not among the sources.
`NewEndpointID` is a parameter of the methods that parse endpoints, `NewBundle` (with the
`SetCRCType` and `CalculateCRC` that follow it) a parameter of `Build`, and a DTN time is the
`Nat` a creation timestamp holds, `DtnTimeNow()` and `DtnTimeFromTime(t)` being the values the
calls receive.  The block-type constants are `CanonicalBlockType`s, as `Canonical`'s comment
says, and `BlockControlFlags` is a `uint8`.

## Sections

* Go values: `GoInt`, `GoUint.ofInt`, `BuilderArg` and `binaryWrite` (`GoUint` itself is
  declared with the hop count it types).
* Parsing the arguments: `bldrParseEndpoint`, `bldrParseLifetime` and the agreement of its
  three forms of a microsecond count, `bldrParseLifetime_forms`.
* The builder and its methods.
* Calls and runs: `BuilderCall`, `BundleBuilder.run` and `Build`.
-/

namespace Dtn7

/-! ## Go values -/

/-- A Go `int`, 64 bits wide. -/
abbrev GoInt := {i : Int // -2 ^ 63 ≤ i ∧ i < 2 ^ 63}

/-- Go's conversion `uint(x)` of an integer: its residue modulo `2^64`. -/
def GoUint.ofInt (x : Int) : GoUint := ⟨(x % 2 ^ 64).toNat, by omega⟩

/-- The zero `EndpointID{}`. -/
def EndpointID.zero : EndpointID := ⟨0, .nil⟩

/-- A value handed to the builder as an `interface{}`, by the Go type its type switches and
type assertions see. -/
inductive BuilderArg where
  | endpointID (e : EndpointID)
  | string (s : String)
  | uint (n : GoUint)
  | int (i : GoInt)
  /-- A `bundle.CanonicalBlockType`. -/
  | blockType (t : Nat)
  /-- A `bundle.BlockControlFlags`. -/
  | blockCtrlFlags (f : BlockControlFlags)
  | bytes (data : List UInt8)
  | hopCount (hc : HopCount)
  /-- A value of any other Go type, by its type name and, for a fixed-size value, the bytes
  `binary.Write` writes for it. -/
  | other (typeName : String) (encoding : Option (List UInt8))
  deriving DecidableEq

/-- The type name `%T` prints for a value. -/
def BuilderArg.typeName : BuilderArg → String
  | .endpointID _ => "bundle.EndpointID"
  | .string _ => "string"
  | .uint _ => "uint"
  | .int _ => "int"
  | .blockType _ => "bundle.CanonicalBlockType"
  | .blockCtrlFlags _ => "bundle.BlockControlFlags"
  | .bytes _ => "[]uint8"
  | .hopCount _ => "bundle.HopCount"
  | .other typeName _ => typeName

/-- The type assertion `v.(CanonicalBlockType)`. -/
def BuilderArg.asBlockType : BuilderArg → Option Nat
  | .blockType t => some t
  | _ => none

/-- The type assertion `v.(BlockControlFlags)`. -/
def BuilderArg.asBlockCtrlFlags : BuilderArg → Option BlockControlFlags
  | .blockCtrlFlags f => some f
  | _ => none

/-- `binary.Write(&buf, binary.LittleEndian, v)`: the bytes of a fixed-size value; a value of a
type without a fixed size (`int`, `uint`, `string`, and the structs holding them) is refused. -/
def binaryWrite : BuilderArg → Except String (List UInt8)
  | .bytes data => .ok data
  | .blockCtrlFlags f => .ok [UInt8.ofNat f]
  | .other _ (some encoding) => .ok encoding
  | v => .error ("binary.Write: invalid type " ++ v.typeName)

/-! ## Parsing the arguments -/

section Parse

variable (NewEndpointID : String → Except String EndpointID)

/-- `bldrParseEndpoint`: an `EndpointID` as it is, or a string parsed by `NewEndpointID`. -/
def bldrParseEndpoint : BuilderArg → Except String EndpointID
  | .endpointID e => .ok e
  | .string s => NewEndpointID s
  | v => .error (v.typeName ++ " is neither an EndpointID nor a string")

end Parse

/-- `bldrParseLifetime`: microseconds given as a `uint`, an `int` or a duration string. -/
def bldrParseLifetime : BuilderArg → Except String GoUint
  | .uint us => .ok us
  | .int i =>
    if i.val < 0 then .error ("Lifetime's duratoin " ++ toString i.val ++ " <= 0")
    else .ok (GoUint.ofInt i.val)
  | .string s =>
    match ParseDuration s with
    | .error durErr => .error durErr
    | .ok dur =>
      if dur ≤ 0 then .error ("Lifetime's duration " ++ toString dur ++ " <= 0")
      else .ok (GoUint.ofInt (dur / 1000))
  | v => .error (v.typeName ++ " is neither an uin nor a string for a Duration")

theorem GoUint.ofInt_natCast {n : Nat} (h : n < 2 ^ 64) : (GoUint.ofInt n).val = n := by
  simp only [GoUint.ofInt]
  omega

/-- The string `<n>us` as a lifetime: `n` microseconds when `0 < n` and `n * 1000` nanoseconds
fit in an `int64`; a zero duration is refused by `bldrParseLifetime`, a larger one by
`time.ParseDuration`. -/
theorem bldrParseLifetime_us (n : Nat) :
    (bldrParseLifetime (.string (toString n ++ "us"))).map Subtype.val =
      if n = 0 then .error "Lifetime's duration 0 <= 0"
      else if n ≤ maxInt64 / 1000 then .ok n
      else .error ("time: invalid duration " ++ (toString n ++ "us")) := by
  simp only [bldrParseLifetime, ParseDuration_us]
  by_cases hn : n ≤ maxInt64 / 1000
  · rw [if_pos hn]
    by_cases h0 : n = 0
    · subst h0
      rfl
    · have hdur : ¬ ((n * 1000 : Nat) : Int) ≤ 0 := by omega
      have hdiv : ((n * 1000 : Nat) : Int) / 1000 = (n : Nat) := by omega
      simp only [hdur, if_false, h0, hn, if_true, hdiv, Except.map]
      rw [GoUint.ofInt_natCast (by unfold maxInt64 at hn; omega)]
  · rw [if_neg hn, if_neg hn, if_neg (by omega)]
    rfl

/-- The three forms of a microsecond count `n`: as a `uint` and as an `int` it is always `n`;
as the string `<n>us` it is `n` only when `0 < n ≤ 9223372036854775`. -/
theorem bldrParseLifetime_forms (n : Nat) :
    (∀ h : n < 2 ^ 64, (bldrParseLifetime (.uint ⟨n, h⟩)).map Subtype.val = .ok n) ∧
    (∀ h : -2 ^ 63 ≤ (n : Int) ∧ (n : Int) < 2 ^ 63,
      (bldrParseLifetime (.int ⟨n, h⟩)).map Subtype.val = .ok n) ∧
    (bldrParseLifetime (.string (toString n ++ "us"))).map Subtype.val =
      if 0 < n ∧ n ≤ 9223372036854775 then .ok n
      else .error (if n = 0 then "Lifetime's duration 0 <= 0"
        else "time: invalid duration " ++ (toString n ++ "us")) := by
  refine ⟨fun _ => rfl, fun h => ?_, ?_⟩
  · have h64 : n < 2 ^ 64 := by omega
    simp only [bldrParseLifetime, if_neg (show ¬ (n : Int) < 0 by omega), Except.map,
      GoUint.ofInt_natCast h64]
  · rw [bldrParseLifetime_us]
    have hmax : maxInt64 / 1000 = 9223372036854775 := rfl
    by_cases h0 : n = 0
    · simp [h0]
    · have hpos : 0 < n := Nat.pos_of_ne_zero h0
      by_cases hn : n ≤ 9223372036854775 <;> simp [h0, hn, hmax, hpos]

theorem bldrParseLifetime_forms_thousand :
    (bldrParseLifetime (.uint ⟨1000, by decide⟩)).map Subtype.val = .ok 1000 ∧
      (bldrParseLifetime (.int ⟨1000, by decide⟩)).map Subtype.val = .ok 1000 ∧
      (bldrParseLifetime (.string (toString 1000 ++ "us"))).map Subtype.val = .ok 1000 :=
  ⟨(bldrParseLifetime_forms 1000).1 (by decide), (bldrParseLifetime_forms 1000).2.1 (by decide),
    by rw [(bldrParseLifetime_forms 1000).2.2]; rfl⟩

/-- The lifetime `0`: the integer forms give zero microseconds, the string `0us` is refused. -/
theorem bldrParseLifetime_zero :
    bldrParseLifetime (.uint ⟨0, by decide⟩) = .ok ⟨0, by decide⟩ ∧
      bldrParseLifetime (.int ⟨0, by decide⟩) = .ok ⟨0, by decide⟩ ∧
      bldrParseLifetime (.string "0us") = .error "Lifetime's duration 0 <= 0" := by
  refine ⟨rfl, rfl, rfl⟩

/-! ## The builder and its methods -/

/-- A canonical block the builder holds, `NewCanonicalBlock(blockType, blockNumber,
blockCtrlFlags, data)`; its CRC type, always `CRCNo`, is left out. -/
structure BuilderBlock where
  blockType : Nat
  blockNumber : GoUint
  blockControlFlags : BlockControlFlags
  data : BuilderArg
  deriving DecidableEq

/-- `BundleBuilder`: the first error, the primary block, the canonical blocks, the number the
next non-payload block gets, and the CRC type. -/
structure BundleBuilder where
  err : Option String
  primary : PrimaryBlock
  canonicals : List BuilderBlock
  canonicalCounter : GoUint
  crcType : CRCType
  deriving DecidableEq

/-- `Builder()`. -/
def Builder : BundleBuilder where
  err := none
  primary := { PrimaryBlock.zero with version := DTNVersion }
  canonicals := []
  canonicalCounter := ⟨1, by decide⟩
  crcType := CRCNo

/-- `DtnTimeEpoch`, the DTN time zero. -/
def DtnTimeEpoch : Nat := 0

namespace BundleBuilder

/-- `Error()`. -/
def Error (bldr : BundleBuilder) : Option String := bldr.err

/-- The guard of the methods: once an error is recorded, the builder is returned unchanged. -/
def guarded (bldr : BundleBuilder) (f : BundleBuilder → BundleBuilder) : BundleBuilder :=
  if bldr.err.isSome then bldr else f bldr

/-- `CRC`. -/
def CRC (bldr : BundleBuilder) (crcType : CRCType) : BundleBuilder :=
  bldr.guarded fun bldr => { bldr with crcType }

section Endpoints

variable (NewEndpointID : String → Except String EndpointID)

/-- `Destination`, `Source` and `ReportTo`: parse `eid` and store it with `set`, or record the
parse error. -/
def setEndpoint (bldr : BundleBuilder) (set : PrimaryBlock → EndpointID → PrimaryBlock)
    (eid : BuilderArg) : BundleBuilder :=
  bldr.guarded fun bldr =>
    match bldrParseEndpoint NewEndpointID eid with
    | .error err => { bldr with err := some err }
    | .ok e => { bldr with primary := set bldr.primary e }

/-- `Destination`. -/
def Destination (bldr : BundleBuilder) (eid : BuilderArg) : BundleBuilder :=
  bldr.setEndpoint NewEndpointID (fun pb e => { pb with destination := e }) eid

/-- `Source`. -/
def Source (bldr : BundleBuilder) (eid : BuilderArg) : BundleBuilder :=
  bldr.setEndpoint NewEndpointID (fun pb e => { pb with sourceNode := e }) eid

/-- `ReportTo`. -/
def ReportTo (bldr : BundleBuilder) (eid : BuilderArg) : BundleBuilder :=
  bldr.setEndpoint NewEndpointID (fun pb e => { pb with reportTo := e }) eid

end Endpoints

/-- `creationTimestamp`: `NewCreationTimestamp(t, 0)`. -/
def creationTimestamp (bldr : BundleBuilder) (t : Nat) : BundleBuilder :=
  bldr.guarded fun bldr =>
    { bldr with primary := { bldr.primary with creationTimestamp := ⟨t, 0⟩ } }

/-- `CreationTimestampEpoch`. -/
def CreationTimestampEpoch (bldr : BundleBuilder) : BundleBuilder :=
  bldr.creationTimestamp DtnTimeEpoch

/-- `CreationTimestampNow`, with `now` the value of `DtnTimeNow()`. -/
def CreationTimestampNow (bldr : BundleBuilder) (now : Nat) : BundleBuilder :=
  bldr.creationTimestamp now

/-- `CreationTimestampTime`, with `t` the value of `DtnTimeFromTime(t)`. -/
def CreationTimestampTime (bldr : BundleBuilder) (t : Nat) : BundleBuilder :=
  bldr.creationTimestamp t

/-- `Lifetime`. -/
def Lifetime (bldr : BundleBuilder) (duration : BuilderArg) : BundleBuilder :=
  bldr.guarded fun bldr =>
    match bldrParseLifetime duration with
    | .error usErr => { bldr with err := some usErr }
    | .ok us => { bldr with primary := { bldr.primary with lifetime := us.val } }

/-- `BundleCtrlFlags`. -/
def BundleCtrlFlags (bldr : BundleBuilder) (bcf : BundleControlFlags) : BundleBuilder :=
  bldr.guarded fun bldr => { bldr with primary := { bldr.primary with bundleControlFlags := bcf } }

/-- The end of `Canonical`, from the results of its two type assertions: a payload block is
numbered 0, any other block gets the counter, which then moves on. -/
def addCanonical (bldr : BundleBuilder) (blockType : Option Nat) (data : BuilderArg)
    (blockCtrlFlags : Option BlockControlFlags) : BundleBuilder :=
  match blockType, blockCtrlFlags with
  | some blockType, some blockCtrlFlags =>
    if blockType = PayloadBlock then
      { bldr with
        canonicals := bldr.canonicals ++ [⟨blockType, ⟨0, by decide⟩, blockCtrlFlags, data⟩] }
    else
      { bldr with
        canonicals :=
          bldr.canonicals ++ [⟨blockType, bldr.canonicalCounter, blockCtrlFlags, data⟩]
        canonicalCounter := bldr.canonicalCounter.succ }
  | chk0, chk1 =>
    { bldr with err := some ("Canonical received wrong parameter types, " ++
        toString chk0.isSome ++ " " ++ toString chk1.isSome) }

/-- `Canonical(blockType, data[, blockCtrlFlags])`. -/
def Canonical (bldr : BundleBuilder) (args : List BuilderArg) : BundleBuilder :=
  bldr.guarded fun bldr =>
    match args with
    | [blockType, data] => bldr.addCanonical blockType.asBlockType data (some 0)
    | [blockType, data, blockCtrlFlags] =>
      bldr.addCanonical blockType.asBlockType data blockCtrlFlags.asBlockCtrlFlags
    | _ => { bldr with err := some "Canonical was called with neither two nor three parameters" }

/-- `BundleAgeBlock(age[, blockCtrlFlags])`; `none` when `args[0]` is out of range. -/
def BundleAgeBlock (bldr : BundleBuilder) (args : List BuilderArg) : Option BundleBuilder :=
  if bldr.err.isSome then some bldr else
  match args with
  | [] => none
  | age :: rest =>
    match bldrParseLifetime age with
    | .ok us => some (bldr.Canonical (.blockType Dtn7.BundleAgeBlock :: .uint us :: rest))
    | .error usErr =>
      some ({ bldr with err := some usErr }.Canonical
        (.blockType Dtn7.BundleAgeBlock :: .uint ⟨0, by decide⟩ :: rest))

/-- `HopCountBlock(limit[, blockCtrlFlags])`, the block's data `NewHopCount(uint(limit))`;
`none` when `args[0]` is out of range. -/
def HopCountBlock (bldr : BundleBuilder) (args : List BuilderArg) : Option BundleBuilder :=
  if bldr.err.isSome then some bldr else
  match args with
  | [] => none
  | .int limit :: rest =>
    some (bldr.Canonical
      (.blockType Dtn7.HopCountBlock :: .hopCount (NewHopCount (GoUint.ofInt limit.val)) :: rest))
  | _ :: rest =>
    some ({ bldr with err := some "HopCountBlock received wrong parameter type" }.Canonical
      (.blockType Dtn7.HopCountBlock :: .hopCount (NewHopCount 0) :: rest))

/-- `PayloadBlock(data[, blockCtrlFlags])`, which has no guard: `binary.Write`'s error replaces
a recorded one.  `none` when `args[0]` is out of range. -/
def PayloadBlock (bldr : BundleBuilder) (args : List BuilderArg) : Option BundleBuilder :=
  match args with
  | [] => none
  | data :: rest =>
    match binaryWrite data with
    | .error err => some { bldr with err := some err }
    | .ok buf => some (bldr.Canonical (.blockType Dtn7.PayloadBlock :: .bytes buf :: rest))

/-- `PreviousNodeBlock(prevNode[, blockCtrlFlags])`; `none` when `args[0]` is out of range. -/
def PreviousNodeBlock (NewEndpointID : String → Except String EndpointID) (bldr : BundleBuilder)
    (args : List BuilderArg) : Option BundleBuilder :=
  if bldr.err.isSome then some bldr else
  match args with
  | [] => none
  | prevNode :: rest =>
    match bldrParseEndpoint NewEndpointID prevNode with
    | .ok eid =>
      some (bldr.Canonical (.blockType Dtn7.PreviousNodeBlock :: .endpointID eid :: rest))
    | .error eidErr =>
      some ({ bldr with err := some eidErr }.Canonical
        (.blockType Dtn7.PreviousNodeBlock :: .endpointID EndpointID.zero :: rest))

/-- `Build()`: the builder after it, and the bundle or the error.  `NewBundle` stands for
`NewBundle(primary, canonicals)` followed, on success, by `SetCRCType(crcType)` and
`CalculateCRC()`. -/
def Build {β : Type}
    (NewBundle : PrimaryBlock → List BuilderBlock → CRCType → Except String β)
    (bldr : BundleBuilder) : BundleBuilder × Except String β :=
  match bldr.err with
  | some err => (bldr, .error err)
  | none =>
    let bldr := if bldr.primary.reportTo = EndpointID.zero then
      { bldr with primary := { bldr.primary with reportTo := bldr.primary.sourceNode } } else bldr
    if bldr.primary.sourceNode = EndpointID.zero ∨ bldr.primary.destination = EndpointID.zero then
      (bldr, .error "Both Source and Destination must be set")
    else (bldr, NewBundle bldr.primary bldr.canonicals bldr.crcType)

end BundleBuilder

/-! ## Calls and runs -/

/-- A call of one of the builder's fifteen chaining methods, with its arguments. -/
inductive BuilderCall where
  | CRC (crcType : CRCType)
  | Destination (eid : BuilderArg)
  | Source (eid : BuilderArg)
  | ReportTo (eid : BuilderArg)
  | creationTimestamp (t : Nat)
  | CreationTimestampEpoch
  | CreationTimestampNow (now : Nat)
  | CreationTimestampTime (t : Nat)
  | Lifetime (duration : BuilderArg)
  | BundleCtrlFlags (bcf : BundleControlFlags)
  | Canonical (args : List BuilderArg)
  | BundleAgeBlock (args : List BuilderArg)
  | HopCountBlock (args : List BuilderArg)
  | PayloadBlock (args : List BuilderArg)
  | PreviousNodeBlock (args : List BuilderArg)
  deriving DecidableEq

section Calls

variable (NewEndpointID : String → Except String EndpointID)

/-- The builder after a call, `none` when the call panics. -/
def BuilderCall.call (bldr : BundleBuilder) : BuilderCall → Option BundleBuilder
  | .CRC crcType => some (bldr.CRC crcType)
  | .Destination eid => some (bldr.Destination NewEndpointID eid)
  | .Source eid => some (bldr.Source NewEndpointID eid)
  | .ReportTo eid => some (bldr.ReportTo NewEndpointID eid)
  | .creationTimestamp t => some (bldr.creationTimestamp t)
  | .CreationTimestampEpoch => some bldr.CreationTimestampEpoch
  | .CreationTimestampNow now => some (bldr.CreationTimestampNow now)
  | .CreationTimestampTime t => some (bldr.CreationTimestampTime t)
  | .Lifetime duration => some (bldr.Lifetime duration)
  | .BundleCtrlFlags bcf => some (bldr.BundleCtrlFlags bcf)
  | .Canonical args => some (bldr.Canonical args)
  | .BundleAgeBlock args => bldr.BundleAgeBlock args
  | .HopCountBlock args => bldr.HopCountBlock args
  | .PayloadBlock args => bldr.PayloadBlock args
  | .PreviousNodeBlock args => bldr.PreviousNodeBlock NewEndpointID args

/-- A chain of calls from `bldr`: the builder at its end, `none` when a call panics. -/
def BundleBuilder.run (bldr : BundleBuilder) : List BuilderCall → Option BundleBuilder
  | [] => some bldr
  | c :: cs => (BuilderCall.call NewEndpointID bldr c).bind fun bldr => bldr.run cs

end Calls

end Dtn7
