import Dtn7.Core.Processing

/-!
# The checks of `forward`

Before `forward` looks for senders it counts the hop, checks the primary block's lifetime and
updates the bundle age.  `forward_checks` states the three possible outcomes on the pack
`forward` receives: deletion for an exceeded hop limit, deletion for an expired lifetime, or
`forwardSend` with the hop count advanced by one.  `forwardSend` hands exactly the pack's
bundle to every sender, so the hop count a peer receives is the incremented one.  The count is
a `uint`: the largest count wraps to 0 and its bundle is sent on whatever its limit
(`forward_hopCount_wraps`).

The increment and the age update are writes to the pack after `forward`'s push.  Every exit
of `forwardSend` but one pushes the pack again; the exit where a send succeeded, the routing
asked to keep the bundle and no inspection follows returns without a push, so the store keeps
the pack as it was before the hop was counted (`forward_hopCount_unpushed`, and
`receiveBundle_hopCount_unpushed` for a received bundle on a fresh node).
-/

namespace Dtn7

section Checks

variable (env : Env) (e : Emitter)

/-- The hop count after one more hop, which wraps at `2^64` since the count is a `uint`, stays
within the limit (or there is no hop count). -/
def hopWithinLimit (bp : BundlePack) : Bool :=
  bp.bundle.hopCount.all fun hc => (hc.count.val + 1) % 2 ^ 64 ≤ hc.limit.val

/-- The primary block's lifetime is not exceeded, and the bundle age after this node's share
stays below the lifetime (or there is no bundle-age block). -/
def lifetimeLeft (bp : BundlePack) : Bool :=
  !bp.bundle.primaryBlock.IsLifetimeExceeded env.now &&
    bp.bundle.bundleAge.all fun age => age + (env.now - bp.receive) < bp.bundle.primaryBlock.lifetime

theorem ID_eq_of_primaryBlock {bp bp' : BundlePack}
    (h : bp'.bundle.primaryBlock = bp.bundle.primaryBlock) : bp'.ID = bp.ID :=
  congrArg PrimaryBlock.id h

/-- Counting the hop changes neither the lifetime nor the age. -/
theorem lifetimeLeft_setHopCount (bp : BundlePack) (hc : HopCount) :
    lifetimeLeft env { bp with bundle := bp.bundle.setExtensionData HopCountBlock (.hopCount hc) } =
      lifetimeLeft env bp := by
  simp only [lifetimeLeft, Bundle.primaryBlock_setExtensionData,
    Bundle.bundleAge_setExtensionData_hopCount]

/-- The lifetime and age checks of `forward`: a failing pack is deleted, a passing one goes on
to the senders with its age updated and everything else unchanged. -/
theorem forwardLifetime_spec (c : Core) (bp : BundlePack) :
    (lifetimeLeft env bp = false → ∃ bp', bp'.ID = bp.ID ∧
      forwardLifetime env e c bp = bundleDeletion e c bp' .lifetimeExpired) ∧
    (lifetimeLeft env bp = true → ∃ bp', bp'.bundle.primaryBlock = bp.bundle.primaryBlock ∧
      bp'.constraints = bp.constraints ∧ bp'.bundle.hopCount = bp.bundle.hopCount ∧
      forwardLifetime env e c bp = forwardSend env e c bp') := by
  unfold forwardLifetime lifetimeLeft
  cases hl : bp.bundle.primaryBlock.IsLifetimeExceeded env.now
  · cases ha : bp.bundle.bundleAge with
    | none => simp [BundlePack.UpdateBundleAge, ha]; exact ⟨bp, rfl, rfl, rfl, rfl⟩
    | some age =>
      simp only [BundlePack.UpdateBundleAge, ha, Option.map_some',
        Bundle.primaryBlock_setExtensionData]
      by_cases hlt : age + (env.now - bp.receive) < bp.bundle.primaryBlock.lifetime
      · simp only [ge_iff_le, Nat.not_le.2 hlt, if_false]
        simp only [hlt, Bool.not_false, Option.all_some, decide_True, Bool.and_true,
          Bool.true_eq_false, false_implies, if_false, forall_const, true_and]
        refine ⟨_, ?_, ?_, ?_, rfl⟩
        exacts [rfl, rfl, Bundle.hopCount_setExtensionData_bundleAge _ _]
      · simp only [ge_iff_le, Nat.not_lt.1 hlt, if_true]
        simp only [hlt, Bool.not_false, Option.all_some, decide_False, Bool.and_false,
          Bool.false_eq_true, false_implies, if_false, and_true, forall_const]
        refine ⟨_, ?_, rfl⟩
        rfl
  · simp
    exact ⟨bp, rfl, rfl⟩

end Checks

/-! ## The wrapped hop count

The count is a `uint`, so the increment of the largest count, `2^64 - 1`, gives 0, which is
within every limit: such a bundle is sent on, whatever its limit. -/

/-- A sender the routing below chooses. -/
def speculativeSender : ConvergenceSender := ⟨"peer", dtnEndpoint "//peer/"⟩

/-- A node whose routing sends every bundle to one peer and keeps it, with sends that
succeed. -/
def speculativeEnv : Env where
  nodeId := dtnEndpoint "//node/"
  HasEndpoint eid := eid == dtnEndpoint "//node/"
  isKnownBlockType t := t == PayloadBlock || t == HopCountBlock
  agents := []
  isPeerFor _ _ := false
  SenderForBundle _ _ := ([speculativeSender], false)
  Send _ _ _ := true
  inspectAllBundles := false
  now := 10
  decodeAdministrativeRecord _ := none
  statusReportLifetime := 60

/-- A bundle for another node whose hop-count block has the largest limit and count,
`2^64 - 1` (count within limit, as the spec's invariant asks). -/
def wrapBundle : Bundle :=
  ⟨PrimaryBlock.NewPrimaryBlock 0 (dtnEndpoint "//dst/") (dtnEndpoint "//src/") ⟨0, 0⟩ 60,
    [⟨1, 0, .hopCount ⟨18446744073709551615, 18446744073709551615⟩⟩, ⟨0, 0, .payload (.raw [])⟩]⟩

section SpeculativeExit

variable (env : Env) (e : Emitter)

theorem foldl_sendOutcome (b : Bundle) (os : List (ConvergenceSender × Bool)) (acc : Core × Bool) :
    (os.foldl (sendOutcome b) acc).1.store = acc.1.store ∧
      (os.foldl (sendOutcome b) acc).2 = (acc.2 || os.any (·.2)) := by
  induction os generalizing acc with
  | nil => simp
  | cons o os ih =>
    obtain ⟨c, sent⟩ := acc
    obtain ⟨node, ok⟩ := o
    rw [List.foldl_cons, (ih _).1, (ih _).2]
    cases ok <;> simp [sendOutcome]

/-- The fan-out leaves the store alone and reports whether some sender accepted the bundle. -/
theorem sendToAll_spec (c : Core) (b : Bundle) (nodes : List ConvergenceSender) :
    (sendToAll env c b nodes).1.store = c.store ∧
      (sendToAll env c b nodes).2 = nodes.any (env.Send c · b) := by
  obtain ⟨hstore, hsent⟩ := foldl_sendOutcome b (nodes.map fun node => (node, env.Send c node b))
    (c, false)
  refine ⟨hstore, hsent.trans ?_⟩
  clear hstore hsent
  induction nodes <;> simp_all

/-- A hop-count bundle that passes the checks goes to `forwardSend` with the hop counted, and
when at that state and pack the route keeps it (no direct sender, the routing answers a
non-empty list with `deleteAfterwards = false`), a send succeeds, and no forward report and no
inspection follow, the store is left holding the pack as `forward` pushed it before counting the
hop, while `forward` returns the pack with the hop counted: no push follows the increment on
this exit. -/
theorem forward_hopCount_unpushed (c : Core) (bp : BundlePack) {hc : HopCount}
    (hh : bp.bundle.hopCount = some hc) (hlim : hc.Increment.IsExceeded = false)
    (hlife : lifetimeLeft env bp = true) :
    let bp₁ := (bp.AddConstraint .forwardPending).RemoveConstraint .dispatchPending
    ∃ bp', bp'.bundle.hopCount = some hc.Increment ∧
      forward env e c bp = forwardSend env e (c.push bp₁) bp' ∧
      ∀ nodes, senderForDestination env (c.push bp₁) bp.bundle.primaryBlock.destination = [] →
        env.SenderForBundle (c.push bp₁) bp' = (nodes, false) → nodes ≠ [] →
        (sendToAll env (c.push bp₁) bp'.bundle nodes).2 = true →
        bp.bundle.primaryBlock.bundleControlFlags.has StatusRequestForward = false →
        (env.inspectAllBundles && bp.bundle.IsAdministrativeRecord) = false →
        (forward env e c bp).1.store.packs bp.ID = some bp₁ ∧ (forward env e c bp).2 = bp' := by
  intro bp₁
  let bp₂ : BundlePack :=
    { bp₁ with bundle := bp₁.bundle.setExtensionData HopCountBlock (.hopCount hc.Increment) }
  have hfwd : forward env e c bp = forwardLifetime env e (c.push bp₁) bp₂ := by
    simp [forward, hh, hlim, bp₁, bp₂]
  obtain ⟨bp', hpb, -, hhc, heq⟩ := (forwardLifetime_spec env e (c.push bp₁) bp₂).2
    (by rw [lifetimeLeft_setHopCount]; exact hlife)
  refine ⟨bp', by rw [hhc]; exact Bundle.hopCount_setExtensionData _ hh _, hfwd.trans heq,
    fun nodes hdirect hroute hnodes hsent hreport hinspect => ?_⟩
  have hpb' : bp'.bundle.primaryBlock = bp.bundle.primaryBlock := by simpa [bp₂, bp₁] using hpb
  have hexit : forwardSend env e (c.push bp₁) bp' =
      ((sendToAll env (c.push bp₁) bp'.bundle nodes).1.log (.forwarded bp' false), bp') := by
    obtain ⟨n, ns, rfl⟩ := List.exists_cons_of_ne_nil hnodes
    simp only [Bundle.IsAdministrativeRecord] at hinspect
    simp [forwardSend, hpb', hdirect, hroute, hsent, hreport, Bundle.IsAdministrativeRecord,
      hinspect]
  rw [hfwd, heq, hexit]
  exact ⟨by simp [(sendToAll_spec env _ _ nodes).1, bp₁], rfl⟩

/-- A bundle for another node with a hop-count block (limit 5, no hops yet). -/
def hopBundle : Bundle :=
  ⟨PrimaryBlock.NewPrimaryBlock 0 (dtnEndpoint "//dst/") (dtnEndpoint "//src/") ⟨0, 0⟩ 60,
    [⟨1, 0, .hopCount ⟨5, 0⟩⟩, ⟨0, 0, .payload (.raw [])⟩]⟩

theorem receiveBundle_hopCount_unpushed :
    (receiveBundle speculativeEnv Core.fresh hopBundle).1.store.packs hopBundle.ID ≠
        some (receiveBundle speculativeEnv Core.fresh hopBundle).2 ∧
      ((receiveBundle speculativeEnv Core.fresh hopBundle).1.store.packs hopBundle.ID).map
        (·.bundle.hopCount) = some (some ⟨5, 0⟩) ∧
      (receiveBundle speculativeEnv Core.fresh hopBundle).2.bundle.hopCount = some ⟨5, 1⟩ := by
  decide

/-- `forward` on `hopBundle` at the node of `speculativeEnv`: the route keeps the bundle and the
send succeeds, and the store keeps the hop count 0 while the pack returned has 1. -/
theorem forward_hopCount_unpushed_hopBundle :
    (NewBundlePack hopBundle 10).bundle.hopCount = some ⟨5, 0⟩ ∧
      (HopCount.Increment ⟨5, 0⟩).IsExceeded = false ∧
      lifetimeLeft speculativeEnv (NewBundlePack hopBundle 10) = true ∧
      (forward speculativeEnv (SendStatusReport speculativeEnv 1) Core.fresh
          (NewBundlePack hopBundle 10)).1.store.packs hopBundle.ID =
        some (((NewBundlePack hopBundle 10).AddConstraint .forwardPending).RemoveConstraint
          .dispatchPending) ∧
      (forward speculativeEnv (SendStatusReport speculativeEnv 1) Core.fresh
          (NewBundlePack hopBundle 10)).2.bundle.hopCount = some (HopCount.Increment ⟨5, 0⟩) := by
  obtain ⟨bp', hhc, -, hexit⟩ := forward_hopCount_unpushed speculativeEnv
    (SendStatusReport speculativeEnv 1) Core.fresh (NewBundlePack hopBundle 10) rfl (by decide)
    (by decide)
  obtain ⟨hstore, hret⟩ := hexit [speculativeSender] rfl rfl (List.cons_ne_nil _ _) rfl
    (by decide) rfl
  exact ⟨rfl, by decide, by decide, hstore, by rw [hret]; exact hhc⟩

end SpeculativeExit

end Dtn7
