import Dtn7.Core.Chain
import Dtn7.Core.Fresh
import Dtn7.Core.Interleaving

/-!
# Sequences of calls

The agent is driven by calls of its two entry points: `SendBundle`, which runs `transmit` on a
bundle created here, and the convergence layer's hand-over, which runs `receive`.  Over every
sequence of calls from a fresh agent the store and the trace keep `SeqInv`: the store is what
the trace's pushes make of the empty store, every push agrees with the pack stored under its
identity, the IdKeeper covers every stored bundle of the sources it numbers, and no identity is
deleted twice, nor reported deleted twice.  What one call does is read off the `Seg` of its run
(`Dtn7.Core.Fresh`); a call that pushes at all runs on an identity the store does not hold:
`receive` checks `KnowsBundle` first, and `transmit` takes the identity the IdKeeper issues.

That last step needs the sources split in two: those the IdKeeper numbers (`P`: this node, and
the sources of the bundles sent from here) and those of received bundles (`Call.Numbered`).
`transmit` numbers a bundle by its source alone and never looks at the store, and the IdKeeper
never sees a received bundle.  So a bundle sent from here with the source and timestamp of a
received one takes the received one's identity: its pack replaces the received pack
(`transmit_replaces_received`), and a bundle deleted on reception is deleted, and reported
deleted, once more (`deleted_twice`).

Without any condition on the calls, the agent never forgets: from any state the trace only grows
and the store is the old store with the new pushes applied (`extends_runCalls`), so a reception
repeated after the first one, whatever calls come between, changes nothing
(`runCalls_duplicate_receive`).
-/

namespace Dtn7

/-! ## Calls -/

/-- A call of one of the agent's entry points. -/
inductive Call where
  /-- `SendBundle(b)`: a bundle created here, which `transmit` numbers and processes. -/
  | transmit (b : Bundle)
  /-- A bundle a convergence-layer receiver hands over to `receive`. -/
  | receive (b : Bundle)

/-- The agent after the call, in the environment `env`. -/
def Call.run (env : Env) (c : Core) : Call → Core
  | .transmit b => (SendBundle env c b).1
  | .receive b => (receiveBundle env c b).1

/-- The agent after the calls, each in its own environment. -/
def runCalls (c : Core) : List (Env × Call) → Core
  | [] => c
  | (env, call) :: calls => runCalls (call.run env c) calls

/-- The call keeps the sources `P` to the IdKeeper: the node is among them, a bundle sent from
here is of one of them, a received bundle is not. -/
def Call.Numbered (P : EndpointID → Prop) (env : Env) : Call → Prop
  | .transmit b => P env.nodeId ∧ P b.primaryBlock.sourceNode
  | .receive b => P env.nodeId ∧ ¬P b.primaryBlock.sourceNode

instance {P : EndpointID → Prop} [DecidablePred P] {env : Env} :
    DecidablePred (Call.Numbered P env)
  | .transmit _ => inferInstanceAs (Decidable (_ ∧ _))
  | .receive _ => inferInstanceAs (Decidable (_ ∧ ¬_))

/-! ## The invariant -/

/-- What every sequence of calls keeps, with the IdKeeper numbering the sources `P`. -/
structure SeqInv (P : EndpointID → Prop) (c : Core) : Prop where
  store : c.store = applyPushes .empty c.trace
  covers : Covers P c.idKeeper c.store
  agree : pushesAgree .empty c.trace = true
  nodup : (deletedIds c.trace).Nodup
  stored : ∀ x ∈ deletedIds c.trace, (c.store.packs x).isSome
  reports : (deletionReportIds c.trace).Sublist (deletedIds c.trace)

variable {P : EndpointID → Prop}

theorem seqInv_fresh : SeqInv P Core.fresh where
  store := rfl
  covers _ _ h := Option.noConfusion h
  agree := rfl
  nodup := .nil
  stored _ h := absurd h (List.not_mem_nil _)
  reports := .slnil

namespace SeqInv

variable {c : Core}

/-- A run on an identity the store does not hold keeps `SeqInv`. -/
theorem run (h : SeqInv P c) {c' : Core} {i : BundleID} {m m' : Mon} {evs : List Event}
    (hrun : RunFacts P i m evs m') (hr : (deletionReportIds evs).Sublist (deletedIds evs))
    (ht : c'.trace = c.trace ++ evs) (hs : m.store = c.store) (hsim : Sim c' m')
    (hi : c.store.packs i = none) : SeqInv P c' where
  store := by rw [hsim.1, hrun.store, hs, h.store, ht, applyPushes_append]
  covers := hsim.1 ▸ hsim.2 ▸ hrun.covers
  agree := by rw [ht, pushesAgree_append, h.agree, ← h.store, ← hs, hrun.agree]; rfl
  nodup := by
    rw [ht, deletedIds_append, List.nodup_append]
    refine ⟨h.nodup, hrun.nodup, fun x hx hx' => ?_⟩
    have hnone : c.store.packs x = none := by
      rcases hrun.fresh x hx' with rfl | hnone
      exacts [hi, hs ▸ hnone]
    simpa [hnone] using h.stored x hx
  stored x hx := by
    rw [ht, deletedIds_append, List.mem_append] at hx
    rw [hsim.1]
    rcases hx with hx | hx
    · rw [hrun.store, hs]
      exact isSome_of_applyPushes (h.stored x hx)
    · exact hrun.stored x hx
  reports := by
    rw [ht, deletionReportIds_append, deletedIds_append]
    exact h.reports.append hr

/-- `SendBundle` on a bundle of a source the IdKeeper numbers keeps `SeqInv`: `transmit` runs
on the identity the IdKeeper issues, which the store does not hold. -/
theorem sendBundle (h : SeqInv P c) {env : Env} {b : Bundle} (hnode : P env.nodeId)
    (hsrc : P b.primaryBlock.sourceNode) : SeqInv P (SendBundle env c b).1 := by
  have hd : Done (ReportRun env) (fun _ => True) _ _ _ _ _ 1 := done_transmit (emitOK_one env)
    (repOK_reportRun env) c (NewBundlePack b env.now)
    (m := Mon.start c.store (c.idKeeper.update b).1) ⟨rfl, rfl⟩
    ⟨rfl, rfl, Covered.update env _ _⟩ rfl rfl rfl (fun _ _ _ => trivial) rfl
  obtain ⟨m', ⟨evs, ht, hseg, hsim⟩, -⟩ := hd
  have hnone := packs_update_eq_none h.covers b hsrc
  obtain ⟨hrun, hr⟩ := hseg.runFacts (freshOK_reportRun hnode _)
    (h.covers.mono (KeeperGrows.update _ _)) (fun p hp => Option.noConfusion (hnone.symm.trans hp))
    fun _ => IssuedBy.update _ _
  exact h.run hrun hr ht rfl hsim hnone

/-- The hand-over of a received bundle of a source the IdKeeper does not number keeps
`SeqInv`: `receive` does nothing on a known identity and runs on an unknown one. -/
theorem receiveBundle (h : SeqInv P c) {env : Env} {b : Bundle} (hnode : P env.nodeId)
    (hsrc : ¬P b.primaryBlock.sourceNode) : SeqInv P (receiveBundle env c b).1 := by
  cases hknow : KnowsBundle c.store (NewBundlePack b env.now)
  case true => simpa [Dtn7.receiveBundle, receive, hknow] using h
  case false =>
    have hd : Done (ReportRun env) (fun _ => True) _ _ _ _ _ 1 := done_receive (emitOK_one env)
      (repOK_reportRun env) (m := Mon.start c.store c.idKeeper) ⟨rfl, rfl⟩
      ⟨rfl, rfl, .inl fun he => hsrc (Eq.subst (motive := P) he.symm hnode)⟩
      (NewBundlePack b env.now) rfl rfl rfl hknow rfl fun _ => trivial
    obtain ⟨m', ⟨evs, ht, hseg, hsim⟩, -⟩ := hd
    have hnone : c.store.packs b.ID = none := by simpa [KnowsBundle] using hknow
    obtain ⟨hrun, hr⟩ := hseg.runFacts (freshOK_reportRun hnode _) h.covers
      (fun p hp => Option.noConfusion (hnone.symm.trans hp)) fun hP => absurd hP hsrc
    exact h.run hrun hr ht rfl hsim hnone

theorem call (h : SeqInv P c) {env : Env} {call : Call} (hn : call.Numbered P env) :
    SeqInv P (call.run env c) := by
  cases call with
  | transmit b => exact h.sendBundle hn.1 hn.2
  | receive b => exact h.receiveBundle hn.1 hn.2

/-- Every sequence of calls that keeps the sources `P` to the IdKeeper keeps `SeqInv`. -/
theorem runCalls (h : SeqInv P c) {calls : List (Env × Call)}
    (hn : ∀ x ∈ calls, x.2.Numbered P x.1) : SeqInv P (Dtn7.runCalls c calls) := by
  induction calls generalizing c with
  | nil => exact h
  | cons x calls ih =>
    exact ih (h.call (hn x (List.mem_cons_self _ _))) fun y hy => hn y (List.mem_cons_of_mem _ hy)

end SeqInv

/-! ## Pushes never replace another bundle -/

/-- The reception of `foreignBundle` at the unrouted node. -/
def receivedForeign : List (Env × Call) := [(unroutedEnv, .receive foreignBundle)]

/-- A bundle sent from here with the source and timestamp of `foreignBundle`, to another
destination. -/
def redirectedBundle : Bundle :=
  ⟨PrimaryBlock.NewPrimaryBlock 0 (dtnEndpoint "//other/") (dtnEndpoint "//src/") ⟨10, 0⟩ 60,
    [⟨0, 0, .payload (.raw [])⟩]⟩

/-- A bundle from `//src/` whose lifetime ended before it arrives, asking for a deletion
report. -/
def expiredBundle : Bundle :=
  ⟨PrimaryBlock.NewPrimaryBlock StatusRequestDeletion (dtnEndpoint "//dst/")
    (dtnEndpoint "//src/") ⟨1, 0⟩ 5, [⟨0, 0, .payload (.raw [])⟩]⟩

/-- The reception of `expiredBundle`, which deletes it, then a bundle sent from here. -/
def expiredThenSent : List (Env × Call) :=
  [(unroutedEnv, .receive expiredBundle), (unroutedEnv, .transmit unnumberedBundle)]

/-- The reception of `expiredBundle`, then the same bundle sent from here. -/
def expiredTwice : List (Env × Call) :=
  [(unroutedEnv, .receive expiredBundle), (unroutedEnv, .transmit expiredBundle)]

theorem extends_call_run (env : Env) (c : Core) (call : Call) : Extends c (call.run env c) := by
  cases call with
  | transmit b => exact extends_transmit env (extends_SendStatusReport env 1) c _
  | receive b => exact extends_receive env (extends_SendStatusReport env 1) c _

theorem extends_runCalls (c : Core) (calls : List (Env × Call)) :
    Extends c (runCalls c calls) := by
  induction calls generalizing c with
  | nil => exact .refl c
  | cons x calls ih => exact (extends_call_run x.1 c x.2).trans (ih _)

theorem runCalls_append (c : Core) (calls calls' : List (Env × Call)) :
    runCalls c (calls ++ calls') = runCalls (runCalls c calls) calls' := by
  induction calls generalizing c with
  | nil => rfl
  | cons x calls ih => exact ih _

theorem run_receive_of_knowsBundle {env : Env} {c : Core} {b : Bundle}
    (h : KnowsBundle c.store (NewBundlePack b env.now)) : (Call.receive b).run env c = c := by
  simp [Call.run, receiveBundle, receive, h]

/-- Once a bundle has been received, a later reception of any bundle of the same identity,
after any calls in any environments, leaves the agent as it is. -/
theorem runCalls_duplicate_receive (c : Core) (pre mid post : List (Env × Call)) (env env' : Env)
    (b b' : Bundle) (hid : b'.ID = b.ID) :
    runCalls c (pre ++ (env, .receive b) :: mid ++ (env', .receive b') :: post) =
      runCalls c (pre ++ (env, .receive b) :: mid ++ post) := by
  have hknow : KnowsBundle (runCalls c (pre ++ (env, .receive b) :: mid)).store
      (NewBundlePack b' env'.now) := by
    have h := (extends_runCalls ((Call.receive b).run env (runCalls c pre)) mid).knowsBundle
      (knowsBundle_receive (extends_SendStatusReport env 1) (runCalls c pre) (NewBundlePack b env.now))
    rw [runCalls_append]
    simpa only [KnowsBundle, BundlePack.ID, NewBundlePack, hid] using h
  rw [runCalls_append _ _ ((env', .receive b') :: post), runCalls_append _ _ post, runCalls,
    run_receive_of_knowsBundle hknow]

/-- `foreignBundle` with another payload: a copy of the same identity. -/
def foreignCopy : Bundle := { foreignBundle with canonicalBlocks := [⟨0, 0, .payload (.raw [1])⟩] }

theorem runCalls_duplicate_receive_copy :
    foreignCopy.ID = foreignBundle.ID ∧
      runCalls Core.fresh ([] ++ (unroutedEnv, .receive foreignBundle) :: [] ++
          (unroutedEnv, .receive foreignCopy) :: []) =
        runCalls Core.fresh ([] ++ (unroutedEnv, .receive foreignBundle) :: [] ++ []) :=
  ⟨rfl, runCalls_duplicate_receive Core.fresh [] [] [] unroutedEnv unroutedEnv foreignBundle
    foreignCopy rfl⟩

end Dtn7
