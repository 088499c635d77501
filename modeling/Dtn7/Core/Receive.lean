import Dtn7.Core.Processing

/-!
# The reverse block walk of `receive`

`receive` walks the canonical blocks from the highest index down and removes an unknown block
that asks for it from the very slice it walks.  Walking downwards is what makes this safe:
when index `i` is visited, the blocks below it are untouched and the blocks above it are
already filtered, which is `walkPack`.  `receiveBlocks_walkPack` turns this invariant into the
walk's closed form, and `receive_blocks` states what `receive` does with a fresh bundle: it
reports every unknown block that asks for a report, from the top down to the highest unknown
block that asks for the bundle's deletion, and then deletes the bundle there once; without
such a block it dispatches the bundle with exactly the unknown blocks that ask for removal
removed.  The emitter is arbitrary, so the result holds for every behaviour of the nested
status-report runs.
-/

namespace Dtn7

section Walk

variable (env : Env) (e : Emitter) (bp : BundlePack) (B : List CanonicalBlock)

/-- A block whose type this node does not know. -/
def unknownBlock (cb : CanonicalBlock) : Bool := !env.isKnownBlockType cb.BlockType

/-- The unknown block carries the given block control flag. -/
def unknownWith (flag : BlockControlFlags) (cb : CanonicalBlock) : Bool :=
  unknownBlock env cb && cb.blockControlFlags.has flag

/-- The blocks that survive the walk: all but the unknown ones asking for removal. -/
def keptBlocks (B : List CanonicalBlock) : List CanonicalBlock :=
  B.filter fun cb => !unknownWith env RemoveBlock cb

/-- The indices below `i` of unknown blocks carrying `flag`, ascending. -/
def flaggedIndices (flag : BlockControlFlags) (i : Nat) : List Nat :=
  (List.range i).filter fun j => B[j]?.any (unknownWith env flag)

/-- The indices, from `i - 1` down to `k`, of the unknown blocks asking for a report. -/
def reportIndices (i k : Nat) : List Nat :=
  ((flaggedIndices env B StatusReportBlock i).filter (k ≤ ·)).reverse

/-- The pack as the walk holds it before visiting index `i - 1`: the blocks below `i` as
received, the blocks from `i` on filtered. -/
def walkPack (i : Nat) : BundlePack :=
  { bp with bundle := { bp.bundle with
    canonicalBlocks := B.take i ++ keptBlocks env (B.drop i) } }

/-- The reports of the walk, one for each index of `js` in order, each about the pack as the
walk holds it when it visits that index. -/
def walkReports (js : List Nat) (c : Core) : Core :=
  js.foldl (fun c j => e c (walkPack env bp B (j + 1)) .receivedBundle .blockUnintelligible) c

theorem keptBlocks_cons (cb : CanonicalBlock) (B : List CanonicalBlock) :
    keptBlocks env (cb :: B) =
      if unknownWith env RemoveBlock cb then keptBlocks env B else cb :: keptBlocks env B := by
  by_cases h : unknownWith env RemoveBlock cb <;> simp [keptBlocks, List.filter_cons, h]

theorem flaggedIndices_succ (flag : BlockControlFlags) (i : Nat) :
    flaggedIndices env B flag (i + 1) = flaggedIndices env B flag i ++
      if B[i]?.any (unknownWith env flag) then [i] else [] := by
  simp only [flaggedIndices, List.range_succ, List.filter_append, List.filter_cons,
    List.filter_nil]

theorem lt_of_mem_flaggedIndices {flag : BlockControlFlags} {i j : Nat}
    (h : j ∈ flaggedIndices env B flag i) : j < i := by
  simpa using (List.mem_filter.1 h).1

theorem reportIndices_succ (i k : Nat) (hk : k ≤ i) :
    reportIndices env B (i + 1) k = (if B[i]?.any (unknownWith env StatusReportBlock) then [i]
      else []) ++ reportIndices env B i k := by
  unfold reportIndices
  rw [flaggedIndices_succ]
  split <;> simp [List.filter_append, hk]

theorem reportIndices_self (i : Nat) : reportIndices env B i i = [] := by
  simp only [reportIndices, List.reverse_eq_nil_iff, List.filter_eq_nil_iff, decide_eq_true_eq,
    Nat.not_le]
  exact fun j hj => lt_of_mem_flaggedIndices env B hj

theorem walkPack_length : walkPack env bp B B.length = { bp with bundle := { bp.bundle with
    canonicalBlocks := B } } := by
  simp [walkPack, keptBlocks]

theorem walkPack_canonicalBlocks_get? {i : Nat} {cb : CanonicalBlock} (h : B[i]? = some cb) :
    (walkPack env bp B (i + 1)).bundle.canonicalBlocks.get? i = some cb := by
  have hi : i < B.length := (List.getElem?_eq_some_iff.1 h).1
  simp [walkPack, List.getElem?_append_left (by simp; omega : i < (B.take (i + 1)).length), h]

theorem walkPack_succ {i : Nat} {cb : CanonicalBlock} (h : B[i]? = some cb)
    (hkept : unknownWith env RemoveBlock cb = false) :
    walkPack env bp B (i + 1) = walkPack env bp B i := by
  have hi : i < B.length := (List.getElem?_eq_some_iff.1 h).1
  simp [walkPack, List.take_succ, h, List.drop_eq_getElem_cons hi, keptBlocks_cons, hkept,
    (List.getElem?_eq_some_iff.1 h).2]

theorem walkPack_eraseIdx {i : Nat} {cb : CanonicalBlock} (h : B[i]? = some cb)
    (hremove : unknownWith env RemoveBlock cb = true) :
    { walkPack env bp B (i + 1) with bundle := { (walkPack env bp B (i + 1)).bundle with
      canonicalBlocks := (walkPack env bp B (i + 1)).bundle.canonicalBlocks.eraseIdx i } } =
      walkPack env bp B i := by
  have hi : i < B.length := (List.getElem?_eq_some_iff.1 h).1
  have htake : (B.take (i + 1)).length = i + 1 := by simp; omega
  simp [walkPack, List.eraseIdx_append_of_lt_length (by omega : i < (B.take (i + 1)).length),
    List.eraseIdx_eq_take_drop_succ, List.drop_eq_getElem_cons hi, keptBlocks_cons, hremove,
    (List.getElem?_eq_some_iff.1 h).2, List.take_take, Nat.min_le_left]

theorem walkReports_append (js js' : List Nat) (c : Core) :
    walkReports env e bp B (js ++ js') c =
      walkReports env e bp B js' (walkReports env e bp B js c) := by
  simp [walkReports, List.foldl_append]

/-- The closed form of the walk from index `i` down: the reports of the unknown blocks asking
for one, from the top down to the highest unknown block asking for deletion, then that
deletion; or, without such a block, all reports and the filtered blocks. -/
theorem receiveBlocks_walkPack (i : Nat) (hi : i ≤ B.length) (c : Core) :
    receiveBlocks env e c (walkPack env bp B i) i =
      match (flaggedIndices env B DeleteBundle i).getLast? with
      | some k => .error (bundleDeletion e (walkReports env e bp B (reportIndices env B i k) c)
          (walkPack env bp B (k + 1)) .blockUnintelligible)
      | none => .ok (walkReports env e bp B (reportIndices env B i 0) c, walkPack env bp B 0) := by
  induction i generalizing c with
  | zero => simp [receiveBlocks, flaggedIndices, reportIndices, walkReports]
  | succ i ih =>
    obtain ⟨cb, hcb⟩ : ∃ cb, B[i]? = some cb := ⟨B[i], List.getElem?_eq_getElem (by omega)⟩
    have ih := ih (by omega)
    simp only [receiveBlocks, walkPack_canonicalBlocks_get? env bp B hcb, flaggedIndices_succ, hcb,
      Option.any_some]
    have hrep := fun k hk => reportIndices_succ env B i k hk
    simp only [hcb, Option.any_some] at hrep
    by_cases hknown : env.isKnownBlockType cb.BlockType = true
    · have hu : ∀ flag, unknownWith env flag cb = false := by
        simp [unknownWith, unknownBlock, hknown]
      simp only [hknown, if_true, hu, Bool.false_eq_true, if_false, List.append_nil,
        walkPack_succ env bp B hcb (hu _), ih]
      cases hlast : (flaggedIndices env B DeleteBundle i).getLast? with
      | none => simp [hrep 0 (Nat.zero_le _), hu]
      | some k =>
        have hk := lt_of_mem_flaggedIndices env B (List.mem_of_getLast?_eq_some hlast)
        simp [hrep k hk.le, hu]
    · have hunk : ∀ flag, unknownWith env flag cb = cb.blockControlFlags.has flag := by
        simp [unknownWith, unknownBlock, hknown]
      simp only [hknown, Bool.false_eq_true, if_false, hunk]
      simp only [hunk] at hrep
      have hfirst : walkReports env e bp B
          (if cb.blockControlFlags.has StatusReportBlock then [i] else []) c =
          if cb.blockControlFlags.has StatusReportBlock then
            e c (walkPack env bp B (i + 1)) .receivedBundle .blockUnintelligible else c := by
        split <;> rfl
      by_cases hD : cb.blockControlFlags.has DeleteBundle = true
      · simp [hD, hrep i le_rfl, reportIndices_self, walkReports_append, hfirst]
      · have hnext : ∀ c', (if cb.blockControlFlags.has RemoveBlock then
            receiveBlocks env e c' { walkPack env bp B (i + 1) with
              bundle := { (walkPack env bp B (i + 1)).bundle with
                canonicalBlocks :=
                  (walkPack env bp B (i + 1)).bundle.canonicalBlocks.eraseIdx i } } i
            else receiveBlocks env e c' (walkPack env bp B (i + 1)) i) =
              receiveBlocks env e c' (walkPack env bp B i) i := by
          intro c'
          split <;> rename_i hR
          · rw [walkPack_eraseIdx env bp B hcb (by rwa [hunk])]
          · rw [walkPack_succ env bp B hcb (by simpa [hunk] using hR)]
        simp only [hD, Bool.false_eq_true, if_false, List.append_nil, hnext, ih]
        cases hlast : (flaggedIndices env B DeleteBundle i).getLast? with
        | none => simp [hrep 0 (Nat.zero_le _), walkReports_append, hfirst]
        | some k =>
          have hk := lt_of_mem_flaggedIndices env B (List.mem_of_getLast?_eq_some hlast)
          simp [hrep k hk.le, walkReports_append, hfirst]

/-- `receive` on a bundle the store does not know reports the unknown blocks that ask for it,
from the top down to the highest unknown block asking for the bundle's deletion, and deletes
the bundle there; without such a block it reports them all and dispatches the bundle with the
unknown blocks asking for removal removed and all others in order. -/
theorem receive_blocks (c : Core) (bp : BundlePack) :
    let bp₁ := bp.AddConstraint .dispatchPending
    let B := bp.bundle.canonicalBlocks
    let c₁ := if bp.bundle.primaryBlock.bundleControlFlags.has StatusRequestReception then
      e (c.push bp₁) bp₁ .receivedBundle .noInformation else c.push bp₁
    receive env e c bp =
      if KnowsBundle c.store bp then (c, bp)
      else match (flaggedIndices env B DeleteBundle B.length).getLast? with
        | some k => bundleDeletion e (walkReports env e bp₁ B (reportIndices env B B.length k) c₁)
            (walkPack env bp₁ B (k + 1)) .blockUnintelligible
        | none => dispatching env e (walkReports env e bp₁ B (reportIndices env B B.length 0) c₁)
            { bp₁ with bundle := { bp₁.bundle with canonicalBlocks := keptBlocks env B } } := by
  intro bp₁ B c₁
  unfold receive
  split
  · rfl
  · have hwalk := receiveBlocks_walkPack env e bp₁ B B.length le_rfl c₁
    rw [walkPack_length] at hwalk
    change (match receiveBlocks env e c₁ { bp₁ with bundle := { bp₁.bundle with
      canonicalBlocks := B } } B.length with
      | .error r => r
      | .ok (c, bp) => dispatching env e c bp) = _
    rw [hwalk]
    cases (flaggedIndices env B DeleteBundle B.length).getLast? <;> rfl

end Walk

end Dtn7
