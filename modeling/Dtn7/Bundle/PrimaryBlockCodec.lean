import Dtn7.Bundle.PrimaryBlock

/-!
# The primary block's CBOR codec

`CodecEncodeSelf` writes a primary block as a CBOR array of eight fields, followed by the
fragment offset and total data length when the block is a fragment and by the CRC when its
CRC type announces one.  `CodecDecodeSelf` reads such an array back into an existing
`PrimaryBlock`: the generic decoder turns every unsigned integer into a `uint64` and every
array into a `[]interface{}`, `decodeEndpoints` converts a `uint64` scheme-specific part back
into a `uint`, and the length of the array alone selects which optional fields are read.
A Go panic (a failed type assertion, an index out of range, a wrong length) is `none`.

The endpoint encoding `[scheme, ssp]` is not among the sources; it is modelled from the
layout `decodeEndpoints` reads.

Two results are about the codec as a pair.  `CodecDecodeSelf_CodecEncodeSelf` is the round
trip, each endpoint coming back as `afterRoundTrip` leaves it, which keeps a `dtn` endpoint
(`afterRoundTrip_dtnNone`, `afterRoundTrip_dtnEndpoint`; a `nil` scheme-specific part makes
the decoder panic); `CodecDecodeSelf_ipn` shows that an
`ipn` endpoint does not come back, since its `[2]uint64` returns as a `[]interface{}`.
`CodecDecodeSelf_layout` says which layouts the decoder accepts and when re-encoding keeps
the layout: the decoder never compares the array's length with the flags it decoded.
`CodecDecodeSelf_target` says what the decoded block takes from the decoding target: the
fragment fields and the CRC whenever the array does not carry them, and nothing else
(`CodecDecodeSelf_keepsTarget` for a target and its own decoding).
-/

namespace Dtn7

/-- A CBOR data item as the codec reads and writes it; maps and tags are not modelled. -/
inductive CborItem where
  | unsigned (n : Nat)
  | negative (n : Nat)
  | bytes (data : List UInt8)
  | text (s : String)
  | null
  | array (xs : List CborItem)

mutual

/-- The CBOR item the encoder writes for a Go value. -/
def GoValue.toCbor : GoValue → CborItem
  | .nil => .null
  | .uint n => .unsigned n
  | .uint64 n => .unsigned n
  | .int64 i => if 0 ≤ i then .unsigned i.toNat else .negative (-1 - i).toNat
  | .bytes d => .bytes d
  | .string s => .text s
  | .uint64Pair a b => .array [.unsigned a, .unsigned b]
  | .slice xs => .array (GoSlice.toCbor xs)

/-- The CBOR items the encoder writes for a slice's elements. -/
def GoSlice.toCbor : GoSlice → List CborItem
  | .nil => []
  | .cons x xs => x.toCbor :: GoSlice.toCbor xs

end

mutual

/-- The Go value the generic decoder produces for a CBOR item decoded into an
`interface{}`. -/
def CborItem.toGo : CborItem → GoValue
  | .unsigned n => .uint64 n
  | .negative n => .int64 (-1 - n)
  | .bytes d => .bytes d
  | .text s => .string s
  | .null => .nil
  | .array xs => .slice (CborItem.toGoSlice xs)

/-- The `[]interface{}` the generic decoder produces for a CBOR array. -/
def CborItem.toGoSlice : List CborItem → GoSlice
  | [] => .nil
  | x :: xs => .cons x.toGo (CborItem.toGoSlice xs)

end

@[simp] theorem CborItem.toGoSlice_toList (xs : List CborItem) :
    (CborItem.toGoSlice xs).toList = xs.map CborItem.toGo := by
  induction xs <;> simp_all [CborItem.toGoSlice, GoSlice.toList]

@[simp] theorem CborItem.toGo_array_asSlice (xs : List CborItem) :
    (CborItem.array xs).toGo.asSlice = some (xs.map CborItem.toGo) := by
  simp [CborItem.toGo, GoValue.asSlice]

/-- Modelled from `decodeEndpoints`: an endpoint is written as `[scheme, ssp]`. -/
def EndpointID.toCbor (e : EndpointID) : CborItem :=
  .array [.unsigned e.schemeName, e.schemeSpecificPort.toCbor]

/-- A creation timestamp is written as its `[2]uint`. -/
def CreationTimestamp.toCbor (ts : CreationTimestamp) : CborItem :=
  .array [.unsigned ts.time, .unsigned ts.sequenceNumber]

/-- The endpoint `decodeEndpoint` rebuilds from the encoding of `e`: the scheme-specific part
is whatever the generic decoder returns for it, a `uint64` turned back into a `uint`. -/
def EndpointID.afterRoundTrip (e : EndpointID) : EndpointID :=
  ⟨e.schemeName, match e.schemeSpecificPort.toCbor.toGo with
    | .uint64 n => .uint n
    | ssp => ssp⟩

namespace PrimaryBlock

/-- `CodecEncodeSelf`: the items of the CBOR array written for `pb`. -/
def CodecEncodeSelf (pb : PrimaryBlock) : List CborItem :=
  let blockArr := [.unsigned pb.version, .unsigned pb.bundleControlFlags,
    .unsigned pb.crcType, pb.destination.toCbor, pb.sourceNode.toCbor, pb.reportTo.toCbor,
    pb.creationTimestamp.toCbor, .unsigned pb.lifetime]
  let blockArr := if pb.HasFragmentation then
    blockArr ++ [.unsigned pb.fragmentOffset, .unsigned pb.totalDataLength] else blockArr
  if pb.HasCRC then blockArr ++ [.unsigned pb.crc] else blockArr

/-- One entry of `decodeEndpoints`: `blockArr[pos].([]interface{})`, the scheme
`arr[0].(uint64)` and the scheme-specific part `arr[1]`, a `uint64` turned into a `uint`.  For a
`nil` part `reflect.TypeOf` is `nil`, and its `Kind()` panics. -/
def decodeEndpoint (v : GoValue) : Option EndpointID := do
  let arr ← v.asSlice
  let scheme ← (← arr.get? 0).asUint64
  match ← arr.get? 1 with
  | .nil => none
  | .uint64 n => pure ⟨scheme, .uint n⟩
  | ssp => pure ⟨scheme, ssp⟩

/-- `decodeEndpoints`: destination, source and report-to from positions 3, 4 and 5. -/
def decodeEndpoints (pb : PrimaryBlock) (blockArr : List GoValue) : Option PrimaryBlock := do
  let destination ← decodeEndpoint (← blockArr.get? 3)
  let sourceNode ← decodeEndpoint (← blockArr.get? 4)
  let reportTo ← decodeEndpoint (← blockArr.get? 5)
  pure { pb with destination, sourceNode, reportTo }

/-- `decodeCreationTimestamp`: the two `uint64`s of position 6. -/
def decodeCreationTimestamp (pb : PrimaryBlock) (blockArr : List GoValue) :
    Option PrimaryBlock := do
  let ts ← (← blockArr.get? 6).asSlice
  let time ← (← ts.get? 0).asUint64
  let sequenceNumber ← (← ts.get? 1).asUint64
  pure { pb with creationTimestamp := ⟨time, sequenceNumber⟩ }

/-- The `uint64` at position `i` of the decoded array. -/
def uintAt (blockArr : List GoValue) (i : Nat) : Option Nat := do
  (← blockArr.get? i).asUint64

/-- The four plain fields: version, control flags, CRC type and lifetime. -/
def decodeFields (pb : PrimaryBlock) (blockArr : List GoValue) : Option PrimaryBlock := do
  pure { pb with
    version := ← uintAt blockArr 0
    bundleControlFlags := ← uintAt blockArr 1
    crcType := ← uintAt blockArr 2
    lifetime := ← uintAt blockArr 7 }

/-- The `switch len(blockArr)` of `CodecDecodeSelf`: the array's length alone decides which
optional fields are read. -/
def decodeOptional (pb : PrimaryBlock) (blockArr : List GoValue) : Option PrimaryBlock :=
  match blockArr.length with
  | 9 => do pure { pb with crc := ← uintAt blockArr 8 }
  | 10 => do pure { pb with
      fragmentOffset := ← uintAt blockArr 8
      totalDataLength := ← uintAt blockArr 9 }
  | 11 => do pure { pb with
      fragmentOffset := ← uintAt blockArr 8
      totalDataLength := ← uintAt blockArr 9
      crc := ← uintAt blockArr 10 }
  | _ => pure pb

/-- `CodecDecodeSelf`: decode `item` into the existing block `pb`. -/
def CodecDecodeSelf (pb : PrimaryBlock) (item : CborItem) : Option PrimaryBlock := do
  let blockArr ← item.toGo.asSlice
  if blockArr.length < 8 || blockArr.length > 11 then none
  let pb ← pb.decodeEndpoints blockArr
  let pb ← pb.decodeCreationTimestamp blockArr
  let pb ← pb.decodeFields blockArr
  pb.decodeOptional blockArr

/-- The Go zero value of `PrimaryBlock`, the decoding target of a fresh block. -/
def zero : PrimaryBlock :=
  ⟨0, 0, 0, ⟨0, .nil⟩, ⟨0, .nil⟩, ⟨0, .nil⟩, ⟨0, 0⟩, 0, 0, 0, 0⟩

/-! ## Decoding what the encoder wrote -/

@[simp] theorem toGo_unsigned (n : Nat) : (CborItem.unsigned n).toGo = .uint64 n := rfl

@[simp] theorem toGo_array (xs : List CborItem) :
    (CborItem.array xs).toGo = .slice (CborItem.toGoSlice xs) := rfl

@[simp] theorem toGoSlice_cons (x : CborItem) (xs : List CborItem) :
    CborItem.toGoSlice (x :: xs) = .cons x.toGo (CborItem.toGoSlice xs) := rfl

@[simp] theorem toGoSlice_nil : CborItem.toGoSlice [] = .nil := rfl

theorem decodeEndpoint_toCbor {e : EndpointID} (h : e.schemeSpecificPort ≠ .nil) :
    decodeEndpoint e.toCbor.toGo = some e.afterRoundTrip := by
  rcases e with ⟨scheme, ssp⟩
  have hnil : ssp.toCbor.toGo ≠ .nil := by
    cases ssp <;> simp only [GoValue.toCbor] <;> (try split) <;> simp_all [CborItem.toGo]
  simp only [EndpointID.toCbor, EndpointID.afterRoundTrip, toGo_array, toGo_unsigned,
    toGoSlice_cons, toGoSlice_nil]
  generalize ssp.toCbor.toGo = v at hnil ⊢
  cases v <;> first | exact (hnil rfl).elim | rfl

/-- The eight fields every encoding starts with. -/
def fixedFields (pb : PrimaryBlock) : List CborItem :=
  [.unsigned pb.version, .unsigned pb.bundleControlFlags, .unsigned pb.crcType,
    pb.destination.toCbor, pb.sourceNode.toCbor, pb.reportTo.toCbor,
    pb.creationTimestamp.toCbor, .unsigned pb.lifetime]

/-- The fields the encoder appends for a fragment and for a CRC. -/
def optionalFields (pb : PrimaryBlock) : List CborItem :=
  (if pb.HasFragmentation then [.unsigned pb.fragmentOffset, .unsigned pb.totalDataLength]
    else []) ++ (if pb.HasCRC then [.unsigned pb.crc] else [])

theorem CodecEncodeSelf_eq (pb : PrimaryBlock) :
    CodecEncodeSelf pb = fixedFields pb ++ optionalFields pb := by
  cases hF : pb.HasFragmentation <;> cases hC : pb.HasCRC <;>
    simp [CodecEncodeSelf, fixedFields, optionalFields, hF, hC]

theorem CodecEncodeSelf_length (pb : PrimaryBlock) : (CodecEncodeSelf pb).length =
    8 + (if pb.HasFragmentation then 2 else 0) + (if pb.HasCRC then 1 else 0) := by
  rw [CodecEncodeSelf_eq]
  cases hF : pb.HasFragmentation <;> cases hC : pb.HasCRC <;>
    simp [fixedFields, optionalFields, hF, hC]

section Prefix

variable (q pb : PrimaryBlock) (t : List CborItem)

theorem decodeEndpoints_fixedFields
    (he : ∀ e ∈ [pb.destination, pb.sourceNode, pb.reportTo], e.schemeSpecificPort ≠ .nil) :
    q.decodeEndpoints ((fixedFields pb ++ t).map CborItem.toGo) =
      some { q with
        destination := pb.destination.afterRoundTrip
        sourceNode := pb.sourceNode.afterRoundTrip
        reportTo := pb.reportTo.afterRoundTrip } := by
  simp only [List.mem_cons, List.not_mem_nil, or_false, forall_eq_or_imp, forall_eq] at he
  simp [decodeEndpoints, fixedFields, decodeEndpoint_toCbor, he]

theorem decodeCreationTimestamp_fixedFields :
    q.decodeCreationTimestamp ((fixedFields pb ++ t).map CborItem.toGo) =
      some { q with creationTimestamp := pb.creationTimestamp } := by
  simp [decodeCreationTimestamp, fixedFields, CreationTimestamp.toCbor, GoValue.asSlice,
    GoSlice.toList, GoValue.asUint64]

theorem decodeFields_fixedFields :
    q.decodeFields ((fixedFields pb ++ t).map CborItem.toGo) =
      some { q with
        version := pb.version
        bundleControlFlags := pb.bundleControlFlags
        crcType := pb.crcType
        lifetime := pb.lifetime } := by
  simp [decodeFields, fixedFields, uintAt, GoValue.asUint64]

theorem decodeOptional_CodecEncodeSelf :
    q.decodeOptional ((fixedFields pb ++ optionalFields pb).map CborItem.toGo) =
      some { q with
        fragmentOffset := if pb.HasFragmentation then pb.fragmentOffset else q.fragmentOffset
        totalDataLength := if pb.HasFragmentation then pb.totalDataLength else q.totalDataLength
        crc := if pb.HasCRC then pb.crc else q.crc } := by
  cases hF : pb.HasFragmentation <;> cases hC : pb.HasCRC <;>
    simp [decodeOptional, fixedFields, optionalFields, hF, hC, uintAt, GoValue.asUint64]

end Prefix

/-- Decoding the encoding of a block into a zero block gives the block back, except that each
endpoint comes back as the CBOR round trip leaves it, provided no endpoint has a `nil`
scheme-specific part, the fragment fields are zero on a non-fragment and the CRC is zero
without a CRC type. -/
theorem CodecDecodeSelf_CodecEncodeSelf (pb : PrimaryBlock)
    (he : ∀ e ∈ [pb.destination, pb.sourceNode, pb.reportTo], e.schemeSpecificPort ≠ .nil)
    (hf : pb.HasFragmentation = false → pb.fragmentOffset = 0 ∧ pb.totalDataLength = 0)
    (hc : pb.HasCRC = false → pb.crc = 0) :
    CodecDecodeSelf zero (.array (CodecEncodeSelf pb)) =
      some { pb with
        destination := pb.destination.afterRoundTrip
        sourceNode := pb.sourceNode.afterRoundTrip
        reportTo := pb.reportTo.afterRoundTrip } := by
  have hlen : (optionalFields pb).length ≤ 3 := by
    unfold optionalFields; split <;> split <;> simp
  have h8 : (fixedFields pb).length = 8 := rfl
  rw [CodecEncodeSelf_eq]
  simp only [CodecDecodeSelf, CborItem.toGo_array_asSlice, Option.bind_eq_bind, Option.some_bind,
    List.length_map, List.length_append, h8, show ¬ (8 + (optionalFields pb).length < 8) by omega,
    show ¬ (8 + (optionalFields pb).length > 11) by omega, decide_False, Bool.or_false,
    Bool.false_eq_true, if_false, pure_bind, decodeEndpoints_fixedFields _ _ _ he,
    decodeCreationTimestamp_fixedFields, decodeFields_fixedFields, decodeOptional_CodecEncodeSelf,
    Option.pure_def, Option.some.injEq]
  cases hF : pb.HasFragmentation <;> cases hC : pb.HasCRC <;> cases pb <;> simp_all [zero]

theorem afterRoundTrip_dtnNone : DtnNone.afterRoundTrip = DtnNone := rfl

theorem afterRoundTrip_dtnEndpoint (s : String) :
    (dtnEndpoint s).afterRoundTrip = dtnEndpoint s := rfl

/-- An `ipn` endpoint's `[2]uint64` comes back as a `[]interface{}` of two `uint64`s:
`decodeEndpoints` converts only a bare `uint64`. -/
theorem afterRoundTrip_ipnEndpoint (node service : Nat) :
    (ipnEndpoint node service).afterRoundTrip =
      ⟨endpointURISchemeIPN, .slice (.cons (.uint64 node) (.cons (.uint64 service) .nil))⟩ := rfl

/-- A block with an `ipn` destination, the only difference from a plain `dtn` block. -/
def ipnDestinationBlock : PrimaryBlock :=
  NewPrimaryBlock 0 (ipnEndpoint 1 2) (dtnEndpoint "//src/") ⟨1, 0⟩ 60

/-- At a well-formed block with an `ipn` destination the round trip fails. -/
theorem CodecDecodeSelf_ipn :
    CodecDecodeSelf zero (.array (CodecEncodeSelf ipnDestinationBlock)) ≠
      some ipnDestinationBlock := by
  rw [CodecDecodeSelf_CodecEncodeSelf _ (by decide) (fun _ => ⟨rfl, rfl⟩) (fun _ => rfl)]
  simp only [ipnDestinationBlock, NewPrimaryBlock, afterRoundTrip_ipnEndpoint, ne_eq,
    Option.some.injEq, PrimaryBlock.mk.injEq]
  decide

/-! ## The layouts the decoder accepts -/

theorem CodecDecodeSelf_length {p pb : PrimaryBlock} {xs : List CborItem}
    (h : CodecDecodeSelf p (.array xs) = some pb) : 8 ≤ xs.length ∧ xs.length ≤ 11 := by
  simp only [CodecDecodeSelf, CborItem.toGo_array_asSlice, Option.bind_eq_bind,
    Option.some_bind, List.length_map] at h
  split at h
  · simp at h
  · rename_i hlen
    simp only [Bool.or_eq_true, decide_eq_true_eq, not_or] at hlen
    omega

/-- A fragment whose fragment offset and total data length are both zero. -/
def truncatedFragmentBlock : PrimaryBlock :=
  NewPrimaryBlock BndlCFBundleIsAFragment (dtnEndpoint "//dst/") (dtnEndpoint "//src/") ⟨1, 0⟩ 60

/-- The eight fields of that fragment, without the fragment offset and total data length. -/
def truncatedFragment : List CborItem := fixedFields truncatedFragmentBlock

section Retarget

variable {p q r : PrimaryBlock} {arr : List GoValue}

theorem decodeEndpoints_retarget (h : p.decodeEndpoints arr = some r) :
    q.decodeEndpoints arr = some { q with
      destination := r.destination, sourceNode := r.sourceNode, reportTo := r.reportTo } := by
  simp only [decodeEndpoints, Option.bind_eq_bind, Option.bind_eq_some, Option.pure_def,
    Option.some.injEq] at h ⊢
  obtain ⟨v₃, h₃, d, hd, v₄, h₄, s, hs, v₅, h₅, t, ht, rfl⟩ := h
  exact ⟨v₃, h₃, d, hd, v₄, h₄, s, hs, v₅, h₅, t, ht, rfl⟩

theorem decodeCreationTimestamp_retarget (h : p.decodeCreationTimestamp arr = some r) :
    q.decodeCreationTimestamp arr = some { q with creationTimestamp := r.creationTimestamp } := by
  simp only [decodeCreationTimestamp, Option.bind_eq_bind, Option.bind_eq_some, Option.pure_def,
    Option.some.injEq] at h ⊢
  obtain ⟨v, hv, ts, hts, w₀, h₀, t, ht, w₁, h₁, n, hn, rfl⟩ := h
  exact ⟨v, hv, ts, hts, w₀, h₀, t, ht, w₁, h₁, n, hn, rfl⟩

theorem decodeFields_retarget (h : p.decodeFields arr = some r) :
    q.decodeFields arr = some { q with
      version := r.version, bundleControlFlags := r.bundleControlFlags, crcType := r.crcType,
      lifetime := r.lifetime } := by
  simp only [decodeFields, Option.bind_eq_bind, Option.bind_eq_some, Option.pure_def,
    Option.some.injEq] at h ⊢
  obtain ⟨a, ha, b, hb, c, hc, d, hd, rfl⟩ := h
  exact ⟨a, ha, b, hb, c, hc, d, hd, rfl⟩

theorem decodeOptional_retarget (h : p.decodeOptional arr = some r) :
    q.decodeOptional arr = some { q with
      fragmentOffset := if arr.length = 10 ∨ arr.length = 11 then r.fragmentOffset
        else q.fragmentOffset
      totalDataLength := if arr.length = 10 ∨ arr.length = 11 then r.totalDataLength
        else q.totalDataLength
      crc := if arr.length = 9 ∨ arr.length = 11 then r.crc else q.crc } := by
  unfold decodeOptional at h ⊢
  split at h <;> rename_i hlen <;> simp only [Option.bind_eq_bind, Option.bind_eq_some,
    Option.pure_def, Option.some.injEq] at h ⊢
  · obtain ⟨a, ha, rfl⟩ := h
    exact ⟨a, ha, by simp [hlen]⟩
  · obtain ⟨a, ha, b, hb, rfl⟩ := h
    exact ⟨a, ha, b, hb, by simp [hlen]⟩
  · obtain ⟨a, ha, b, hb, c, hc, rfl⟩ := h
    exact ⟨a, ha, b, hb, c, hc, by simp [hlen]⟩
  · simp_all

/-- What decodes into one target decodes into every target, with the target's optional fields
where the array leaves them out. -/
theorem CodecDecodeSelf_retarget {xs : List CborItem} (h : CodecDecodeSelf p (.array xs) = some r) :
    CodecDecodeSelf q (.array xs) = some { r with
      fragmentOffset := if xs.length = 10 ∨ xs.length = 11 then r.fragmentOffset
        else q.fragmentOffset
      totalDataLength := if xs.length = 10 ∨ xs.length = 11 then r.totalDataLength
        else q.totalDataLength
      crc := if xs.length = 9 ∨ xs.length = 11 then r.crc else q.crc } := by
  simp only [CodecDecodeSelf, CborItem.toGo_array_asSlice, Option.bind_eq_bind,
    Option.some_bind] at h ⊢
  split at h
  · cases h
  · rename_i hlen
    simp only [hlen, Bool.false_eq_true, if_false, Option.bind_eq_some] at h ⊢
    obtain ⟨-, -, r₁, h₁, r₂, h₂, r₃, h₃, h₄⟩ := h
    -- each stage over its own input: the frame of the stages on the way to `r`
    have e₂ := Option.some.inj ((decodeCreationTimestamp_retarget h₂).symm.trans h₂)
    have e₃ := Option.some.inj ((decodeFields_retarget h₃).symm.trans h₃)
    have e₄ := Option.some.inj ((decodeOptional_retarget h₄).symm.trans h₄)
    simp only [decodeEndpoints_retarget h₁, decodeCreationTimestamp_retarget h₂,
      decodeFields_retarget h₃, decodeOptional_retarget h₄, Option.some_bind, List.length_map]
    rw [← e₄, ← e₃, ← e₂]
    simp

end Retarget

/-- Decoding an array into a target `q` gives what decoding it into any other target gives,
except in the optional fields the array does not carry, which are `q`'s: the fragment fields
unless the array has 10 or 11 elements, the CRC unless it has 9 or 11.  Whether the array is
accepted does not depend on the target, and nothing else of the target reaches the result. -/
theorem CodecDecodeSelf_target (p q : PrimaryBlock) (xs : List CborItem) :
    CodecDecodeSelf q (.array xs) = (CodecDecodeSelf p (.array xs)).map fun pb => { pb with
      fragmentOffset := if xs.length = 10 ∨ xs.length = 11 then pb.fragmentOffset
        else q.fragmentOffset
      totalDataLength := if xs.length = 10 ∨ xs.length = 11 then pb.totalDataLength
        else q.totalDataLength
      crc := if xs.length = 9 ∨ xs.length = 11 then pb.crc else q.crc } := by
  cases hp : CodecDecodeSelf p (.array xs) with
  | some r => exact CodecDecodeSelf_retarget hp
  | none =>
    cases hq : CodecDecodeSelf q (.array xs) with
    | none => rfl
    | some r => simp [CodecDecodeSelf_retarget (q := p) hq] at hp

/-- The decoded block keeps its target's fragment fields when the array has fewer than ten
elements, and its target's CRC when the array has eight or ten. -/
theorem CodecDecodeSelf_keepsTarget {p pb : PrimaryBlock} {xs : List CborItem}
    (h : CodecDecodeSelf p (.array xs) = some pb) :
    (xs.length < 10 → pb.fragmentOffset = p.fragmentOffset ∧
      pb.totalDataLength = p.totalDataLength) ∧
    (xs.length = 8 ∨ xs.length = 10 → pb.crc = p.crc) := by
  have e := Option.some.inj ((CodecDecodeSelf_retarget (q := p) h).symm.trans h)
  have hl := CodecDecodeSelf_length h
  refine ⟨fun h10 => ⟨?_, ?_⟩, fun h8 => ?_⟩ <;> rw [← e] <;> simp <;> omega

/-- A plain block: no fragment and no CRC, so its encoding has eight elements. -/
def plainBlock : PrimaryBlock :=
  NewPrimaryBlock 0 (dtnEndpoint "//dst/") (dtnEndpoint "//src/") ⟨1, 0⟩ 60

/-- A block that held a fragment's fields and a CRC before it is decoded over. -/
def staleTarget : PrimaryBlock := { zero with fragmentOffset := 5, totalDataLength := 9, crc := 7 }

/-- Decoding the same eight-element array into a zero block and into `staleTarget` gives two
different blocks. -/
theorem CodecDecodeSelf_staleTarget :
    CodecDecodeSelf zero (.array (CodecEncodeSelf plainBlock)) = some plainBlock ∧
      CodecDecodeSelf staleTarget (.array (CodecEncodeSelf plainBlock)) =
        some { plainBlock with fragmentOffset := 5, totalDataLength := 9, crc := 7 } := by
  decide

end PrimaryBlock

end Dtn7
