import Mathlib.Data.List.Basic

/-!
# Endpoint identifiers and the dynamic values they carry

The `bpa` package stores an endpoint identifier as a scheme number and a scheme-specific
part typed `interface{}`: the sentinel `dtn:none` keeps a Go `uint`, a `dtn` name a `string`,
an `ipn` name a pair of `uint64`s.  What an `interface{}` holds is therefore part of the data:
the primary block's decoder (`Dtn7.Bundle.PrimaryBlockCodec`) compares such values after a
round trip through CBOR, where a `uint` comes back as a `uint64` and an array as a
`[]interface{}`.  `GoValue` records exactly these Go types, `nil` included.

The `EndpointID` type and its constructors are not among the sources; they are modelled from
the spec's description of the two schemes.
-/

namespace Dtn7

mutual

/-- A value of Go type `interface{}` as the endpoint code and the CBOR codec produce it:
`uint` and `uint64` are distinct Go types, `[2]uint64` is an array value and `[]interface{}`
is a slice. -/
inductive GoValue where
  | nil
  | uint (n : Nat)
  | uint64 (n : Nat)
  | int64 (n : Int)
  | bytes (data : List UInt8)
  | string (s : String)
  | uint64Pair (fst snd : Nat)
  | slice (xs : GoSlice)

/-- The elements of a `[]interface{}`. -/
inductive GoSlice where
  | nil
  | cons (x : GoValue) (xs : GoSlice)

end

deriving instance DecidableEq for GoValue

namespace GoSlice

/-- The slice's elements as a list. -/
def toList : GoSlice → List GoValue
  | nil => []
  | cons x xs => x :: xs.toList

end GoSlice

/-- The type assertion `v.(uint64)`. -/
def GoValue.asUint64 : GoValue → Option Nat
  | .uint64 n => some n
  | _ => none

/-- The type assertion `v.([]interface{})`. -/
def GoValue.asSlice : GoValue → Option (List GoValue)
  | .slice xs => some xs.toList
  | _ => none

/-- An endpoint identifier: a URI scheme number and its scheme-specific part. -/
structure EndpointID where
  schemeName : Nat
  schemeSpecificPort : GoValue
  deriving DecidableEq

/-- The scheme number of `dtn` endpoints. -/
def endpointURISchemeDTN : Nat := 1

/-- The scheme number of `ipn` endpoints. -/
def endpointURISchemeIPN : Nat := 2

/-- Modelled from the spec: `dtn:none`, the distinguished "no endpoint", whose
scheme-specific part is the Go `uint` zero. -/
def DtnNone : EndpointID := ⟨endpointURISchemeDTN, .uint 0⟩

/-- Modelled from the spec: a `dtn` endpoint with a string scheme-specific part. -/
def dtnEndpoint (ssp : String) : EndpointID := ⟨endpointURISchemeDTN, .string ssp⟩

/-- Modelled from the spec: an `ipn` endpoint, whose scheme-specific part is the numeric
(node, service) pair, a Go `[2]uint64`. -/
def ipnEndpoint (node service : Nat) : EndpointID :=
  ⟨endpointURISchemeIPN, .uint64Pair node service⟩

/-- A creation timestamp, the Go `[2]uint` of a DTN time and a sequence number. -/
structure CreationTimestamp where
  time : Nat
  sequenceNumber : Nat
  deriving DecidableEq

end Dtn7
