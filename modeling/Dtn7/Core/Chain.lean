import Dtn7.Core.Reports

/-!
# The constraint chain of a run

A run of `transmit` or `receive` pushes its bundle with `{DispatchPending}`, moves it to
`{ForwardPending}` when it forwards, to `{ForwardPending, Contraindicated}` when no sender takes
it, and to the empty set when it ends its stay: deleted, delivered, sent with deletion
afterwards, or named by a delivered report.  Read off the events of the run (`ChainRun`): the
sets pushed under the bundle's identity climb this chain, and the set stored at the end has no
`DispatchPending` and is empty exactly when one of those terminal events happened.

Every push under the identity counts, those of the runs of the status reports included.  Those
runs push under the identities of the reports, and a report takes the identity the IdKeeper
issues next for this node.  A bundle of this node that the IdKeeper has not numbered can carry
that very identity: its run and the run of its reception report then push under one identity,
and the chain goes backwards (`receive_chain_reversed`).  `transmit` numbers its bundle itself,
and `receive` keeps the chain for every bundle the IdKeeper covers (`pipeline_chain`).
-/

namespace Dtn7

/-- Above the first rank of the chain a constraint set has no `DispatchPending`. -/
theorem Constraints.dispatchPending_of_rank {cs : Constraints} {n : Fin 4}
    (h : cs.rank = some n) (hn : 1 ≤ n) : cs.dispatchPending = false := by
  unfold Constraints.rank at h
  split_ifs at h with h₀ h₁ h₂ h₃
  · cases h
    omega
  all_goals subst_vars; rfl

/-- The monitor of a run that starts on the store `s` with the IdKeeper `k`. -/
def Mon.start (s : Store) (k : IdKeeper) : Mon := ⟨s, k, fun _ => 0, fun _ => false, false, false⟩

/-- The sets pushed under `i` by the events `evs` climb the chain, and the pack the store `s`
holds under `i` has no `DispatchPending`, and an empty set exactly when a terminal event of
`i` is among `evs`. -/
def ChainRun (i : BundleID) (evs : List Event) (s : Store) : Prop :=
  (climb 0 (pushedUnder i evs)).isSome ∧
    ∃ p, s.packs i = some p ∧ p.constraints.dispatchPending = false ∧
      (p.constraints = .none ↔ ∃ ev ∈ evs, ev.Terminal i)

section Run

variable {Rep : Rep} {subj : BundleID → Prop} {i : BundleID} {pb : PrimaryBlock}

/-- A whole run that owes nothing at the end and has left the first rank: its last push under
its identity has the rank the chain climbs to, and an empty set exactly after a terminal
event. -/
theorem Seg.chain (hR : RepOK Rep i) {s : Store} {k : IdKeeper} {evs : List Event} {m' : Mon}
    (h : Seg Rep subj i pb (Mon.start s k) evs m') (howe : m'.owe = false)
    (hrank : 1 ≤ m'.rank i) :
    ∃ q, (pushedUnder i evs).getLast? = some q ∧ climb 0 (pushedUnder i evs) = some (m'.rank i) ∧
      q.constraints.dispatchPending = false ∧
      (q.constraints = .none ↔ ∃ ev ∈ evs, ev.Terminal i) := by
  obtain ⟨hclimb, hterm⟩ := h.tracks fun bp s r m blk m' hbp hrep => (hR bp s r m blk m' hbp hrep).tracks
  have htr : TermRank i m' := h.termRank hR (by simp [TermRank, Mon.start])
  cases hl : (pushedUnder i evs).getLast? with
  | none =>
    rw [List.getLast?_eq_none_iff.1 hl] at hclimb
    simp only [climb, Mon.start, Option.some.injEq] at hclimb
    omega
  | some q =>
    have hq := rank_of_climb hclimb hl
    refine ⟨q, rfl, hclimb, Constraints.dispatchPending_of_rank hq hrank, ?_⟩
    rw [← Constraints.rank_eq_three, hq, Option.some.injEq]
    simpa [TermRank, howe, Mon.start] using htr.symm.trans hterm

/-- A run tracked from the start monitor that ends done reads as `ChainRun`. -/
theorem chainRun_of_done (hR : RepOK Rep i) {c c₀ c' : Core} {k : IdKeeper}
    (h : Done Rep subj i pb c₀ (Mon.start c.store k) c' 1) (htrace : c₀.trace = c.trace)
    (hext : Extends c c') : ∃ evs, c'.trace = c.trace ++ evs ∧ ChainRun i evs c'.store := by
  obtain ⟨m', ⟨evs, ht, hseg, -⟩, howe, -, hrank⟩ := h
  obtain ⟨evs', ht', hs'⟩ := hext
  obtain rfl : evs' = evs := List.append_cancel_left (ht'.symm.trans (htrace ▸ ht))
  obtain ⟨q, hlast, hclimb, hdp, hnone⟩ := hseg.chain hR howe hrank
  refine ⟨evs', ht', by rw [hclimb]; rfl, q, ?_, hdp, hnone⟩
  rw [hs', packs_applyPushes, hlast]
  rfl

end Run

/-- The sets a run of `SendBundle` pushes under the identity `transmit` gives its bundle climb
the constraint chain, and the set stored at the end has no `DispatchPending` and is empty
exactly when the bundle was deleted, delivered, sent with deletion afterwards, or named by a
delivered report in the run.  The same holds of a run of `receiveBundle` on a bundle the store
does not know whose identity the IdKeeper covers: a bundle from another node, or one whose
sequence number this node has already issued. -/
theorem pipeline_chain (env : Env) (c : Core) (b : Bundle) :
    (∃ evs, (SendBundle env c b).1.trace = c.trace ++ evs ∧
      ChainRun (c.idKeeper.update b).2.ID evs (SendBundle env c b).1.store) ∧
    (KnowsBundle c.store (NewBundlePack b env.now) = false → Covered env b.ID c.idKeeper →
      ∃ evs, (receiveBundle env c b).1.trace = c.trace ++ evs ∧
        ChainRun b.ID evs (receiveBundle env c b).1.store) := by
  have he := extends_SendStatusReport env 1
  constructor
  · have h : Done (ReportRun env) (fun _ => True) _ _ _ _ _ 1 := done_transmit (emitOK_one env)
      (repOK_reportRun env) c (NewBundlePack b env.now)
      (m := Mon.start c.store (c.idKeeper.update b).1) ⟨rfl, rfl⟩
      ⟨rfl, rfl, Covered.update env _ _⟩ rfl rfl rfl (fun _ _ _ => trivial) rfl
    exact chainRun_of_done (repOK_reportRun env) h rfl (extends_transmit env he c _)
  · intro hknow hcov
    have h : Done (ReportRun env) (fun _ => True) _ _ _ _ _ 1 := done_receive (emitOK_one env)
      (repOK_reportRun env) (m := Mon.start c.store c.idKeeper) ⟨rfl, rfl⟩ ⟨rfl, rfl, hcov⟩
      (NewBundlePack b env.now) rfl rfl rfl hknow rfl fun _ => trivial
    exact chainRun_of_done (repOK_reportRun env) h rfl (extends_receive env he c _)

/-! ## A bundle with the identity of its own reception report -/

section Reversed

/-- A node with no route: no sender is registered and the routing proposes none. -/
def unroutedEnv : Env where
  nodeId := dtnEndpoint "//node/"
  HasEndpoint eid := eid == dtnEndpoint "//node/"
  isKnownBlockType t := t == PayloadBlock
  agents := []
  isPeerFor _ _ := false
  SenderForBundle _ _ := ([], false)
  Send _ _ _ := true
  inspectAllBundles := false
  now := 10
  decodeAdministrativeRecord _ := none
  statusReportLifetime := 60

/-- A bundle from this node, created now with sequence number 0, which the IdKeeper has not
issued, asking for a reception report. -/
def unnumberedBundle : Bundle :=
  ⟨PrimaryBlock.NewPrimaryBlock StatusRequestReception (dtnEndpoint "//dst/")
    (dtnEndpoint "//node/") ⟨10, 0⟩ 60, [⟨0, 0, .payload (.raw [])⟩]⟩

/-- A bundle from another node. -/
def foreignBundle : Bundle :=
  ⟨PrimaryBlock.NewPrimaryBlock 0 (dtnEndpoint "//dst/") (dtnEndpoint "//src/") ⟨10, 0⟩ 60,
    [⟨0, 0, .payload (.raw [])⟩]⟩

theorem pipeline_chain_foreign :
    KnowsBundle Core.fresh.store (NewBundlePack foreignBundle unroutedEnv.now) = false ∧
      Covered unroutedEnv foreignBundle.ID Core.fresh.idKeeper ∧
      ∃ evs, (receiveBundle unroutedEnv Core.fresh foreignBundle).1.trace = Core.fresh.trace ++ evs ∧
        ChainRun foreignBundle.ID evs (receiveBundle unroutedEnv Core.fresh foreignBundle).1.store :=
  ⟨rfl, .inl (by decide), (pipeline_chain unroutedEnv Core.fresh foreignBundle).2 rfl
    (.inl (by decide))⟩

/-- The reception report of `unnumberedBundle` gets the bundle's own identity.  Its run pushes
`{DispatchPending}`, `{ForwardPending}` and `{ForwardPending, Contraindicated}` under it, and the
bundle's run then pushes `{ForwardPending}` again: the chain goes backwards. -/
theorem receive_chain_reversed : ¬ ∀ (env : Env) (c : Core) (b : Bundle),
    KnowsBundle c.store (NewBundlePack b env.now) = false →
      ∃ evs, (receiveBundle env c b).1.trace = c.trace ++ evs ∧
        ChainRun b.ID evs (receiveBundle env c b).1.store := by
  intro h
  obtain ⟨evs, ht, hclimb, -⟩ := h unroutedEnv Core.fresh unnumberedBundle rfl
  obtain rfl : (receiveBundle unroutedEnv Core.fresh unnumberedBundle).1.trace = evs := ht
  revert hclimb
  decide

end Reversed

end Dtn7
