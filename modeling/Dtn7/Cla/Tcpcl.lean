import Mathlib.Data.List.Basic

/-!
# TCPCL: the contact header and the session termination message

Two messages of the TCP convergence layer, as the `tcpcl` package writes and reads them.

The contact header is six octets: the magic `dtn!`, the protocol version 4 and a flags octet.
`Marshal` hands them to an `io.Writer` in one `Write`; `Unmarshal` takes them from an
`io.Reader` in one `Read` of six octets and checks the magic and the version.  A
`SESS_TERM` message is three octets: the message header `0x05`, the flags and the reason
code.  `MarshalBinary` writes them with `binary.Write` into a `bytes.Buffer`;
`UnmarshalBinary` reads them back one by one with `binary.Read`, storing each field into the
receiver as soon as it is read.

An `io.Writer` and an `io.Reader` are modelled as functions on a state `σ`: what one `Write`
or `Read` returns, and the state after it.  A method with a pointer receiver returns the
receiver as it is after the call beside its error.

## Main results

* `ContactHeader.Unmarshal_eq_ok_iff`: over any reader, `Unmarshal` succeeds exactly when its
  one `Read` returns the six octets of a contact header, the one it then holds.
* `SessionTerminationMessage.UnmarshalBinary_eq_ok_iff`: `UnmarshalBinary` accepts exactly
  the encodings of a message followed by anything, and decodes the message.
* `SessionTerminationMessage.UnmarshalBinary_error`: a failed `UnmarshalBinary` keeps the
  reason code, and keeps the flags unless the input is a header and one more octet.
-/

namespace Dtn7

namespace Tcpcl

/-! ## Writers and readers -/

/-- An `io.Writer`: for a state and the octets of one `Write`, the count and the error it
returns, and the state after. -/
def Writer (σ : Type) := σ → List UInt8 → (Nat × Option String) × σ

/-- An `io.Reader`: for a state and the length of the slice of one `Read`, the octets it puts
at the front of the slice, its error, and the state after. -/
def Reader (σ : Type) := σ → Nat → (List UInt8 × Option String) × σ

/-- The digits of `%x` for one octet. -/
def hexDigit (d : Nat) : Char := if d < 10 then Char.ofNat (48 + d) else Char.ofNat (87 + d)

/-- `%x` of a byte slice: two lowercase hex digits per octet. -/
def hexOctets (data : List UInt8) : String :=
  String.mk (data.flatMap fun b => [hexDigit (b.toNat / 16), hexDigit (b.toNat % 16)])

/-! ## The contact header -/

/-- `ContactFlags`, a `uint8`. -/
abbrev ContactFlags := UInt8

/-- `ContactCanTls`: the peer can do TLS. -/
def ContactCanTls : ContactFlags := 0x01

/-- `ContactHeader`. -/
structure ContactHeader where
  flags : ContactFlags
  deriving DecidableEq

namespace ContactHeader

/-- `NewContactHeader`. -/
def NewContactHeader (flags : ContactFlags) : ContactHeader := ⟨flags⟩

/-- The octets `Marshal` writes: `dtn!`, the version 4, the flags. -/
def data (ch : ContactHeader) : List UInt8 := [0x64, 0x74, 0x6E, 0x21, 0x04, ch.flags]

/-- `Marshal(w)`: one `Write` of the six octets; an error, or a short write, is the result. -/
def Marshal {σ : Type} (ch : ContactHeader) (w : Writer σ) (s : σ) : Option String × σ :=
  match w s ch.data with
  | ((_, some err), s) => (some err, s)
  | ((n, none), s) =>
    if n ≠ ch.data.length then
      (some ("Wrote " ++ toString n ++ " octets instead of " ++ toString ch.data.length), s)
    else (none, s)

/-- The checks of `Unmarshal` on the octets of its one `Read` (`data`, zero after the octets
read): the count, the magic, the version, then the flags are stored. -/
def check (ch : ContactHeader) (data : List UInt8) : ContactHeader × Option String :=
  if data.length ≠ 6 then
    (ch, some ("Read " ++ toString data.length ++ " octets instead of 6"))
  else if data.take 4 ≠ [0x64, 0x74, 0x6E, 0x21] then
    (ch, some ("ContactHeader's magic does not match: " ++ hexOctets (data.take 4) ++
      " != 'dtn!'"))
  else if data.getD 4 0 ≠ 4 then
    (ch, some ("ContactHeader's version is wrong: " ++ toString (data.getD 4 0) ++
      " instead of 4"))
  else ({ ch with flags := data.getD 5 0 }, none)

/-- `Unmarshal(r)`: one `Read` into a slice of six octets; its error is the result, else the
checks of `check`. -/
def Unmarshal {σ : Type} (ch : ContactHeader) (r : Reader σ) (s : σ) :
    (ContactHeader × Option String) × σ :=
  match r s 6 with
  | ((_, some err), s) => ((ch, some err), s)
  | ((data, none), s) => (ch.check data, s)

theorem check_eq_ok_iff (ch ch' : ContactHeader) (bs : List UInt8) :
    ch.check bs = (ch', none) ↔ bs = ch'.data := by
  refine ⟨fun h => ?_, fun h => h ▸ rfl⟩
  unfold check at h
  split_ifs at h with h₁ h₂ h₃ <;> simp only [Prod.mk.injEq, reduceCtorEq, and_false, and_true] at h
  subst h
  rcases bs with _ | ⟨b₀, _ | ⟨b₁, _ | ⟨b₂, _ | ⟨b₃, _ | ⟨b₄, _ | ⟨b₅, _ | ⟨b₆, rest⟩⟩⟩⟩⟩⟩⟩ <;>
    simp_all [ContactHeader.data]

/-- Over any reader, `Unmarshal` succeeds with `ch'` exactly when its one `Read` returns the
six octets of `ch'` without an error: it accepts nothing but encodings of contact headers. -/
theorem Unmarshal_eq_ok_iff {σ : Type} (ch ch' : ContactHeader) (r : Reader σ) (s : σ) :
    (ch.Unmarshal r s).1 = (ch', none) ↔ (r s 6).1 = (ch'.data, none) := by
  unfold Unmarshal
  rcases r s 6 with ⟨⟨bs, _ | err⟩, s'⟩
  · simpa using check_eq_ok_iff ch ch' bs
  · simp

end ContactHeader

/-! ## The session termination message -/

/-- `SessionTerminationFlags`, a `uint8`. -/
abbrev SessionTerminationFlags := UInt8

/-- `TerminationReply`: the message acknowledges an earlier `SESS_TERM`. -/
def TerminationReply : SessionTerminationFlags := 0x01

/-- `SessionTerminationCode`, a `uint8`. -/
abbrev SessionTerminationCode := UInt8

/-- `SESS_TERM`, the message header code. -/
def SESS_TERM : UInt8 := 0x05

/-- `SessionTerminationMessage`. -/
structure SessionTerminationMessage where
  flags : SessionTerminationFlags
  reasonCode : SessionTerminationCode
  deriving DecidableEq

/-- `binary.Write(buf, binary.BigEndian, v)` of a `uint8`-sized value: its octet is appended. -/
def binaryWriteUint8 (buf : List UInt8) (v : UInt8) : Except String (List UInt8) :=
  .ok (buf ++ [v])

/-- `binary.Read(buf, binary.BigEndian, &v)` of a `uint8`-sized value from a `bytes.Reader`
over `buf`: the octet and the rest, or `io.EOF` on an empty reader. -/
def binaryReadUint8 : List UInt8 → Except String (UInt8 × List UInt8)
  | [] => .error "EOF"
  | v :: rest => .ok (v, rest)

namespace SessionTerminationMessage

/-- `NewSessionTerminationMessage`. -/
def NewSessionTerminationMessage (flags : SessionTerminationFlags)
    (reason : SessionTerminationCode) : SessionTerminationMessage := ⟨flags, reason⟩

/-- `MarshalBinary`: the three fields written one after another; the first error is the
result. -/
def MarshalBinary (stm : SessionTerminationMessage) : Except String (List UInt8) :=
  [SESS_TERM, stm.flags, stm.reasonCode].foldlM binaryWriteUint8 []

/-- `UnmarshalBinary(data)`: the message header, then the flags and the reason code, each
stored into the receiver as soon as it is read. -/
def UnmarshalBinary (stm : SessionTerminationMessage) (data : List UInt8) :
    SessionTerminationMessage × Option String :=
  match binaryReadUint8 data with
  | .error err => (stm, some err)
  | .ok (messageHeader, buf) =>
    if messageHeader ≠ SESS_TERM then
      (stm, some ("SESS_TERM's Message Header is wrong: " ++ toString messageHeader ++
        " instead of " ++ toString SESS_TERM))
    else
      match binaryReadUint8 buf with
      | .error err => (stm, some err)
      | .ok (flags, buf) =>
        let stm := { stm with flags }
        match binaryReadUint8 buf with
        | .error err => (stm, some err)
        | .ok (reasonCode, _) => ({ stm with reasonCode }, none)

/-- The three octets of a message. -/
def octets (stm : SessionTerminationMessage) : List UInt8 := [SESS_TERM, stm.flags, stm.reasonCode]

theorem MarshalBinary_eq (stm : SessionTerminationMessage) : stm.MarshalBinary = .ok stm.octets :=
  rfl

/-! The five shapes of input `UnmarshalBinary` tells apart, and its outcome on each. -/

theorem input_cases (data : List UInt8) :
    data = [] ∨ (∃ b rest, b ≠ SESS_TERM ∧ data = b :: rest) ∨ data = [SESS_TERM] ∨
      (∃ f, data = [SESS_TERM, f]) ∨ ∃ stm rest, data = octets stm ++ rest := by
  rcases data with _ | ⟨b, rest⟩
  · exact .inl rfl
  by_cases hb : b = SESS_TERM
  · subst hb
    rcases rest with _ | ⟨f, _ | ⟨c, rest⟩⟩
    · exact .inr (.inr (.inl rfl))
    · exact .inr (.inr (.inr (.inl ⟨f, rfl⟩)))
    · exact .inr (.inr (.inr (.inr ⟨⟨f, c⟩, rest, rfl⟩)))
  · exact .inr (.inl ⟨b, rest, hb, rfl⟩)

@[simp] theorem UnmarshalBinary_nil (stm : SessionTerminationMessage) :
    stm.UnmarshalBinary [] = (stm, some "EOF") := rfl

theorem UnmarshalBinary_wrongHeader (stm : SessionTerminationMessage) {b : UInt8}
    (rest : List UInt8) (hb : b ≠ SESS_TERM) :
    stm.UnmarshalBinary (b :: rest) = (stm, some ("SESS_TERM's Message Header is wrong: " ++
      toString b ++ " instead of " ++ toString SESS_TERM)) := by
  simp [UnmarshalBinary, binaryReadUint8, hb]

@[simp] theorem UnmarshalBinary_header (stm : SessionTerminationMessage) :
    stm.UnmarshalBinary [SESS_TERM] = (stm, some "EOF") := rfl

@[simp] theorem UnmarshalBinary_flags (stm : SessionTerminationMessage) (f : UInt8) :
    stm.UnmarshalBinary [SESS_TERM, f] = ({ stm with flags := f }, some "EOF") := rfl

@[simp] theorem UnmarshalBinary_octets (stm₀ stm : SessionTerminationMessage) (rest : List UInt8) :
    stm₀.UnmarshalBinary (stm.octets ++ rest) = (stm, none) := rfl

/-- `UnmarshalBinary` accepts exactly what `MarshalBinary` writes for a message, followed by
any octets, and decodes that message; the octets after the third are never read. -/
theorem UnmarshalBinary_eq_ok_iff (stm₀ stm : SessionTerminationMessage) (data : List UInt8) :
    stm₀.UnmarshalBinary data = (stm, none) ↔
      ∃ bs rest, stm.MarshalBinary = .ok bs ∧ data = bs ++ rest := by
  simp only [MarshalBinary_eq, Except.ok.injEq, exists_and_left, exists_eq_left']
  refine ⟨fun h => ?_, fun ⟨rest, hd⟩ => hd ▸ UnmarshalBinary_octets stm₀ stm rest⟩
  rcases input_cases data with rfl | ⟨b, rest, hb, rfl⟩ | rfl | ⟨f, rfl⟩ | ⟨stm', rest, rfl⟩
  · simp at h
  · simp [UnmarshalBinary_wrongHeader _ _ hb] at h
  · simp at h
  · simp at h
  · obtain ⟨rfl, -⟩ := Prod.mk.inj ((UnmarshalBinary_octets stm₀ stm' rest).symm.trans h)
    exact ⟨rest, rfl⟩

/-- A failed `UnmarshalBinary` leaves the reason code as it was, and the flags too, except on a
message header followed by one octet: that octet is stored as the flags before the read of the
reason code fails. -/
theorem UnmarshalBinary_error (stm₀ : SessionTerminationMessage) (data : List UInt8) {err : String}
    (h : (stm₀.UnmarshalBinary data).2 = some err) :
    (stm₀.UnmarshalBinary data).1 = stm₀ ∨
      ∃ f, data = [SESS_TERM, f] ∧ (stm₀.UnmarshalBinary data).1 = { stm₀ with flags := f } := by
  rcases input_cases data with rfl | ⟨b, rest, hb, rfl⟩ | rfl | ⟨f, rfl⟩ | ⟨stm', rest, rfl⟩
  · exact .inl rfl
  · exact .inl (by rw [UnmarshalBinary_wrongHeader _ _ hb])
  · exact .inl rfl
  · exact .inr ⟨f, rfl, rfl⟩
  · simp at h

/-- A header and the flags `TerminationReply`, without a reason code: the flags are stored,
then the read of the reason code fails with `EOF`. -/
theorem UnmarshalBinary_error_truncated :
    ((⟨0, 4⟩ : SessionTerminationMessage).UnmarshalBinary [SESS_TERM, TerminationReply]).2 =
        some "EOF" ∧
      (((⟨0, 4⟩ : SessionTerminationMessage).UnmarshalBinary [SESS_TERM, TerminationReply]).1 =
          ⟨0, 4⟩ ∨
        ∃ f, [SESS_TERM, TerminationReply] = [SESS_TERM, f] ∧
          ((⟨0, 4⟩ : SessionTerminationMessage).UnmarshalBinary [SESS_TERM, TerminationReply]).1 =
            { (⟨0, 4⟩ : SessionTerminationMessage) with flags := f }) :=
  ⟨rfl, UnmarshalBinary_error ⟨0, 4⟩ [SESS_TERM, TerminationReply] rfl⟩

end SessionTerminationMessage

end Tcpcl

end Dtn7
