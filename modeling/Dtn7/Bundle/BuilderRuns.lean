import Mathlib.Data.List.Nodup
import Dtn7.Bundle.Builder

/-!
# Runs of the bundle builder

What a chain of builder calls keeps, proved once per call and then for every run.

The recorded error: each guarded call leaves a builder with an error as it is
(`call_of_err`).  `PayloadBlock` has no guard: on a builder with an error it replaces the
error when `binary.Write` refuses its argument (`PayloadBlock_of_err`).  So on a builder with an
error any run that does not panic changes nothing but the error, and ends with one
(`run_of_err_frame`).

The block numbers: `Numbered` says that payload blocks are numbered 0 and the other blocks
1, 2, … in the order they were added, modulo `2^64` since the counter is a `uint`.  Every call
keeps it (`call_numbered`), so every run from `Builder()` ends in a numbered builder, whose
numbers are distinct when it holds at most one payload block (`run_blockNumbers`).
-/

namespace Dtn7

namespace BundleBuilder

variable {bldr : BundleBuilder}

theorem guarded_of_err (h : bldr.err.isSome) (f : BundleBuilder → BundleBuilder) :
    bldr.guarded f = bldr := if_pos h

/-- On a builder with an error, `PayloadBlock` keeps the builder when `binary.Write` accepts its
argument (the guard of `Canonical` stops it) and replaces the error when it refuses it. -/
theorem PayloadBlock_of_err (h : bldr.err.isSome) (data : BuilderArg) (rest : List BuilderArg) :
    bldr.PayloadBlock (data :: rest) =
      some (match binaryWrite data with
        | .error err => { bldr with err := some err }
        | .ok _ => bldr) := by
  cases hw : binaryWrite data <;> simp [PayloadBlock, hw, Canonical, guarded_of_err h]

end BundleBuilder

open BundleBuilder

/-! ## The recorded error -/

section Error

variable (NewEndpointID : String → Except String EndpointID) {bldr : BundleBuilder}

/-- The calls that begin with the guard: all but `PayloadBlock`. -/
def BuilderCall.isGuarded : BuilderCall → Bool
  | .PayloadBlock _ => false
  | _ => true

theorem call_of_err (h : bldr.err.isSome) (c : BuilderCall) (hc : c.isGuarded) :
    c.call NewEndpointID bldr = some bldr := by
  cases c <;> simp_all [BuilderCall.call, BuilderCall.isGuarded, CRC, Destination, Source,
    ReportTo, setEndpoint, CreationTimestampEpoch, CreationTimestampNow, CreationTimestampTime,
    creationTimestamp, Lifetime, BundleCtrlFlags, Canonical, BundleBuilder.BundleAgeBlock,
    BundleBuilder.HopCountBlock, BundleBuilder.PreviousNodeBlock, guarded_of_err]

/-- On a builder with an error, a call that does not panic changes the error at most, and
leaves one: `PayloadBlock` may replace it, every other call keeps the builder. -/
theorem call_of_err_frame (h : bldr.err.isSome) (c : BuilderCall) {b : BundleBuilder}
    (hb : c.call NewEndpointID bldr = some b) : b.err.isSome ∧ { b with err := bldr.err } = bldr := by
  by_cases hg : c.isGuarded
  · rw [call_of_err NewEndpointID h c hg, Option.some.injEq] at hb
    exact hb ▸ ⟨h, rfl⟩
  cases c with
  | PayloadBlock args =>
    cases args with
    | nil => cases hb
    | cons data rest =>
      rw [BuilderCall.call, PayloadBlock_of_err h] at hb
      cases hw : binaryWrite data <;> simp only [hw, Option.some.injEq] at hb <;> subst hb
      exacts [⟨rfl, rfl⟩, ⟨h, rfl⟩]
  | _ => exact (hg rfl).elim

/-- On a builder with an error, a run of any calls that does not panic changes nothing but the
error, and ends with an error. -/
theorem run_of_err_frame (h : bldr.err.isSome) (calls : List BuilderCall) {b : BundleBuilder}
    (hb : bldr.run NewEndpointID calls = some b) :
    b.err.isSome ∧ { b with err := bldr.err } = bldr := by
  induction calls generalizing bldr with
  | nil => exact Option.some.inj hb ▸ ⟨h, rfl⟩
  | cons c calls ih =>
    obtain ⟨b₁, hc, hb₁⟩ := Option.bind_eq_some.1 hb
    obtain ⟨h₁, hframe₁⟩ := call_of_err_frame NewEndpointID h c hc
    obtain ⟨hb', hframe⟩ := ih h₁ hb₁
    refine ⟨hb', ?_⟩
    calc { b with err := bldr.err }
        = { { b with err := b₁.err } with err := bldr.err } := rfl
      _ = bldr := by rw [hframe, hframe₁]

/-- A builder holding the error of `Destination(42)`. -/
def erroneousBuilder : BundleBuilder :=
  { Builder with err := some "int is neither an EndpointID nor a string" }

/-- A payload `binary.Write` refuses, then a hop-count block. -/
def refusedPayloadThenHopCount : List BuilderCall :=
  [.PayloadBlock [.string "x"], .HopCountBlock [.int ⟨64, by decide⟩]]

/-- On `erroneousBuilder`, `PayloadBlock("x")` replaces the error and `HopCountBlock(64)` keeps
the builder. -/
theorem run_of_err_frame_payload :
    erroneousBuilder.err.isSome ∧ ∃ b,
      erroneousBuilder.run (fun s => .ok (dtnEndpoint s)) refusedPayloadThenHopCount = some b ∧
        b.err = some "binary.Write: invalid type string" ∧
        b.err.isSome ∧ { b with err := erroneousBuilder.err } = erroneousBuilder :=
  ⟨rfl, _, rfl, rfl, @run_of_err_frame (fun s => .ok (dtnEndpoint s)) erroneousBuilder rfl
    refusedPayloadThenHopCount _ rfl⟩

/-- At its failing input: after `Destination(42)` records its error, `PayloadBlock("x")`
replaces it, and `Build` returns the second error; `HopCountBlock()` panics. -/
theorem payload_replaces_error {β : Type}
    (NewBundle : PrimaryBlock → List BuilderBlock → CRCType → Except String β) :
    (Builder.run NewEndpointID [.Destination (.int ⟨42, by decide⟩)]).map BundleBuilder.err =
        some (some "int is neither an EndpointID nor a string") ∧
      (Builder.run NewEndpointID
          [.Destination (.int ⟨42, by decide⟩), .PayloadBlock [.string "x"]]).map
        (fun b => (b.Build NewBundle).2) = some (.error "binary.Write: invalid type string") ∧
      Builder.run NewEndpointID [.HopCountBlock []] = none :=
  ⟨rfl, rfl, rfl⟩

end Error

/-! ## Block numbers -/

section Numbers

variable (NewEndpointID : String → Except String EndpointID) {bldr : BundleBuilder}

/-- The numbers of the non-payload blocks, in the order they were added. -/
def otherNumbers (blocks : List BuilderBlock) : List Nat :=
  (blocks.filter fun blk => blk.blockType ≠ PayloadBlock).map fun blk => blk.blockNumber.val

/-- The builder's numbering: payload blocks are numbered 0, the others 1, 2, … modulo `2^64` in
the order they were added, and the counter holds the next number. -/
structure Numbered (bldr : BundleBuilder) : Prop where
  payload : ∀ blk ∈ bldr.canonicals, blk.blockType = PayloadBlock → blk.blockNumber.val = 0
  others : otherNumbers bldr.canonicals =
    (List.range (otherNumbers bldr.canonicals).length).map fun j => (j + 1) % 2 ^ 64
  counter : bldr.canonicalCounter.val = ((otherNumbers bldr.canonicals).length + 1) % 2 ^ 64

/-- Builders that hold the same canonical blocks and the same counter. -/
structure SameBlocks (b b' : BundleBuilder) : Prop where
  canonicals : b.canonicals = b'.canonicals
  counter : b.canonicalCounter = b'.canonicalCounter

/-- The numbering reads only the canonical blocks and the counter. -/
theorem Numbered.of_sameBlocks {b : BundleBuilder} (h : Numbered bldr) (hs : SameBlocks b bldr) :
    Numbered b :=
  ⟨hs.1 ▸ h.payload, hs.1 ▸ h.others, hs.1 ▸ hs.2 ▸ h.counter⟩

theorem sameBlocks_guarded {f : BundleBuilder → BundleBuilder} (hf : ∀ b, SameBlocks (f b) b) :
    SameBlocks (bldr.guarded f) bldr := by
  unfold guarded
  split_ifs
  exacts [⟨rfl, rfl⟩, hf bldr]

theorem numbered_Builder : Numbered Builder where
  payload := by simp [Builder]
  others := rfl
  counter := rfl

theorem otherNumbers_append_payload (blocks : List BuilderBlock) {blk : BuilderBlock}
    (h : blk.blockType = PayloadBlock) : otherNumbers (blocks ++ [blk]) = otherNumbers blocks := by
  simp [otherNumbers, List.filter_append, h]

theorem otherNumbers_append_other (blocks : List BuilderBlock) {blk : BuilderBlock}
    (h : blk.blockType ≠ PayloadBlock) :
    otherNumbers (blocks ++ [blk]) = otherNumbers blocks ++ [blk.blockNumber.val] := by
  simp [otherNumbers, List.filter_append, h]

theorem numbered_append_payload (h : Numbered bldr) {blk : BuilderBlock}
    (ht : blk.blockType = PayloadBlock) (h0 : blk.blockNumber.val = 0) :
    Numbered { bldr with canonicals := bldr.canonicals ++ [blk] } where
  payload b hb := by
    rcases List.mem_append.1 hb with hb | hb
    · exact h.payload b hb
    · exact fun _ => List.mem_singleton.1 hb ▸ h0
  others := by simpa only [otherNumbers_append_payload _ ht] using h.others
  counter := by simpa only [otherNumbers_append_payload _ ht] using h.counter

theorem numbered_append_other (h : Numbered bldr) {blk : BuilderBlock}
    (ht : blk.blockType ≠ PayloadBlock) (hn : blk.blockNumber = bldr.canonicalCounter) :
    Numbered { bldr with
      canonicals := bldr.canonicals ++ [blk]
      canonicalCounter := bldr.canonicalCounter.succ } where
  payload b hb := by
    rcases List.mem_append.1 hb with hb | hb
    · exact h.payload b hb
    · exact fun ht' => absurd (List.mem_singleton.1 hb ▸ ht') ht
  others := by
    simp only [otherNumbers_append_other _ ht, List.length_append, List.length_singleton,
      List.range_succ, List.map_append, List.map_singleton, hn, h.counter]
    rw [← h.others]
  counter := by
    simp only [otherNumbers_append_other _ ht, List.length_append, List.length_singleton,
      GoUint.succ, h.counter]
    omega

theorem numbered_addCanonical (h : Numbered bldr) (blockType : Option Nat) (data : BuilderArg)
    (blockCtrlFlags : Option BlockControlFlags) :
    Numbered (bldr.addCanonical blockType data blockCtrlFlags) := by
  unfold addCanonical
  split
  · split_ifs with ht
    · exact numbered_append_payload h ht rfl
    · exact numbered_append_other h ht rfl
  · exact h.of_sameBlocks ⟨rfl, rfl⟩

theorem numbered_guarded (h : Numbered bldr) {f : BundleBuilder → BundleBuilder}
    (hf : ∀ b, Numbered b → Numbered (f b)) : Numbered (bldr.guarded f) := by
  unfold guarded
  split_ifs
  exacts [h, hf bldr h]

theorem numbered_Canonical (h : Numbered bldr) (args : List BuilderArg) :
    Numbered (bldr.Canonical args) :=
  numbered_guarded h fun b hb => by
    split
    all_goals first | exact numbered_addCanonical hb _ _ _ | exact hb.of_sameBlocks ⟨rfl, rfl⟩

/-- What a call does to the blocks: it keeps the canonical blocks and the counter, or it is
`Canonical` on a builder with the same blocks and counter. -/
theorem call_cases (c : BuilderCall) {b : BundleBuilder}
    (hb : c.call NewEndpointID bldr = some b) :
    SameBlocks b bldr ∨ ∃ b' args, SameBlocks b' bldr ∧ b = BundleBuilder.Canonical b' args := by
  cases c with
  | Canonical args => exact .inr ⟨bldr, args, ⟨rfl, rfl⟩, (Option.some.inj hb).symm⟩
  | BundleAgeBlock args | HopCountBlock args | PreviousNodeBlock args =>
    simp only [BuilderCall.call, BundleBuilder.BundleAgeBlock, BundleBuilder.HopCountBlock,
      BundleBuilder.PreviousNodeBlock] at hb
    split_ifs at hb
    · exact .inl (Option.some.inj hb ▸ ⟨rfl, rfl⟩)
    · split at hb
      · cases hb
      all_goals try split at hb
      all_goals exact .inr ⟨_, _, ⟨by rfl, by rfl⟩, (Option.some.inj hb).symm⟩
  | PayloadBlock args =>
    simp only [BuilderCall.call, BundleBuilder.PayloadBlock] at hb
    split at hb
    · cases hb
    · split at hb
      · exact .inl (Option.some.inj hb ▸ ⟨rfl, rfl⟩)
      · exact .inr ⟨_, _, ⟨by rfl, by rfl⟩, (Option.some.inj hb).symm⟩
  | _ =>
    simp only [BuilderCall.call, Option.some.injEq] at hb
    subst hb
    left
    apply sameBlocks_guarded
    intro b
    first | exact ⟨rfl, rfl⟩ | (split <;> exact ⟨rfl, rfl⟩)

/-- Every call keeps the numbering: only `Canonical` adds blocks or moves the counter. -/
theorem call_numbered (h : Numbered bldr) (c : BuilderCall) {b : BundleBuilder}
    (hb : c.call NewEndpointID bldr = some b) : Numbered b := by
  obtain hs | ⟨b', args, hs, rfl⟩ := call_cases NewEndpointID c hb
  · exact h.of_sameBlocks hs
  · exact numbered_Canonical (h.of_sameBlocks hs) args

theorem run_numbered (h : Numbered bldr) (calls : List BuilderCall) {b : BundleBuilder}
    (hb : bldr.run NewEndpointID calls = some b) : Numbered b := by
  induction calls generalizing bldr with
  | nil => exact Option.some.inj hb ▸ h
  | cons c calls ih =>
    obtain ⟨b', hc, hb'⟩ := Option.bind_eq_some.1 hb
    exact ih (call_numbered NewEndpointID h c hc) hb'

/-- In a numbered builder with at most one payload block and fewer than `2^64` others, the block
numbers are distinct. -/
theorem Numbered.nodup (h : Numbered bldr)
    (hp : (bldr.canonicals.filter fun blk => blk.blockType = PayloadBlock).length ≤ 1)
    (ho : (otherNumbers bldr.canonicals).length < 2 ^ 64) :
    (bldr.canonicals.map BuilderBlock.blockNumber).Nodup := by
  have hperm := (List.filter_append_perm (fun blk => decide (blk.blockType = PayloadBlock))
    bldr.canonicals).map BuilderBlock.blockNumber
  have hothers : ((bldr.canonicals.filter fun blk => !decide (blk.blockType = PayloadBlock)).map
      BuilderBlock.blockNumber).map Subtype.val = otherNumbers bldr.canonicals := by
    simp [otherNumbers]
  have hvals : ∀ n ∈ otherNumbers bldr.canonicals, n ≠ 0 := by
    rw [h.others]
    simp only [List.mem_map, List.mem_range]
    rintro n ⟨j, hj, rfl⟩
    omega
  rw [← hperm.nodup_iff, List.map_append, List.nodup_append]
  refine ⟨?_, ?_, ?_⟩
  · rcases hP : bldr.canonicals.filter (fun blk => decide (blk.blockType = PayloadBlock)) with
      _ | ⟨a, _ | ⟨b, t⟩⟩
    · simp only [hP, List.map_nil, List.nodup_nil]
    · simp only [hP, List.map_cons, List.map_nil, List.nodup_singleton]
    · rw [hP] at hp
      simp at hp
  · apply List.Nodup.of_map Subtype.val
    rw [hothers, h.others]
    refine List.Nodup.map_on (fun x hx y hy hxy => ?_) (List.nodup_range _)
    simp only [List.mem_range] at hx hy
    omega
  · intro n hn hn'
    have h0 : n.val = 0 := by
      obtain ⟨blk, hblk, rfl⟩ := List.mem_map.1 hn
      simp only [List.mem_filter, decide_eq_true_eq] at hblk
      exact h.payload blk hblk.1 hblk.2
    exact hvals n.val (hothers ▸ List.mem_map_of_mem _ hn') h0

/-- Every run from `Builder()` numbers the payload blocks 0 and the other blocks 1, 2, … modulo
`2^64` in the order they were added; the numbers are distinct when there is at most one payload
block and fewer than `2^64` others. -/
theorem run_blockNumbers (calls : List BuilderCall) {b : BundleBuilder}
    (h : Builder.run NewEndpointID calls = some b) :
    (∀ blk ∈ b.canonicals, blk.blockType = PayloadBlock → blk.blockNumber.val = 0) ∧
      otherNumbers b.canonicals =
        (List.range (otherNumbers b.canonicals).length).map (fun j => (j + 1) % 2 ^ 64) ∧
      ((b.canonicals.filter fun blk => blk.blockType = PayloadBlock).length ≤ 1 →
        (otherNumbers b.canonicals).length < 2 ^ 64 →
        (b.canonicals.map BuilderBlock.blockNumber).Nodup) := by
  have hb := run_numbered NewEndpointID numbered_Builder calls h
  exact ⟨hb.payload, hb.others, hb.nodup⟩

/-- The blocks of the builder's own example: a hop count, a payload and a bundle age. -/
def exampleBlocks : List BuilderCall :=
  [.HopCountBlock [.int ⟨64, by decide⟩], .PayloadBlock [.bytes [104, 105]],
    .BundleAgeBlock [.uint ⟨0, by decide⟩]]

theorem run_blockNumbers_exampleBlocks :
    ∃ b, Builder.run (fun s => .ok (dtnEndpoint s)) exampleBlocks = some b ∧
      (∀ blk ∈ b.canonicals, blk.blockType = PayloadBlock → blk.blockNumber.val = 0) ∧
      otherNumbers b.canonicals =
        (List.range (otherNumbers b.canonicals).length).map (fun j => (j + 1) % 2 ^ 64) ∧
      ((b.canonicals.filter fun blk => blk.blockType = PayloadBlock).length ≤ 1 →
        (otherNumbers b.canonicals).length < 2 ^ 64 →
        (b.canonicals.map BuilderBlock.blockNumber).Nodup) :=
  ⟨_, rfl, run_blockNumbers (fun s => .ok (dtnEndpoint s)) exampleBlocks rfl⟩

/-- Two payload blocks. -/
def twoPayloads : List BuilderCall := [.PayloadBlock [.bytes [1]], .PayloadBlock [.bytes [2]]]

/-- Both payload blocks of `twoPayloads` are numbered 0. -/
theorem twoPayloads_sameNumber : ¬ ∀ (NewEndpointID : String → Except String EndpointID)
    (calls : List BuilderCall) (b : BundleBuilder), Builder.run NewEndpointID calls = some b →
      (b.canonicals.map BuilderBlock.blockNumber).Nodup :=
  fun h => absurd (h (fun s => .ok (dtnEndpoint s)) twoPayloads _ rfl) (by decide)

end Numbers

end Dtn7
