import Dtn7.Core.Stages

/-!
# The status-report emitter

The agent's emitter is `SendStatusReport env 1`: for each report it logs the report and runs
`transmit` on the report bundle, with `SendStatusReport env 0`, which does nothing, as the
emitter of that run.  So a report appends the report event and a whole run of `transmit` that
emits nothing (`ReportRun`), and a report of the inner run appends nothing (`NoReports`).  Both
discharge the contracts of `Dtn7.Core.Stages`.  The bound loses nothing: a status report asks
for no report, so its run never emits, and every depth from one on gives the same emitter
(`SendStatusReport_succ`).

The report gets its identity from the IdKeeper: its source is this node and its sequence number
lies above every number the IdKeeper had issued for this node.  So a report never takes the
identity of a bundle the IdKeeper covers (`Covered`), and the runs of reports touch the bundle
that emitted them only by processing a delivered report about it, which leaves it with an empty
constraint set and marked.
-/

namespace Dtn7

/-! ## The IdKeeper's numbers -/

theorem KeeperGrows.update (k : IdKeeper) (b : Bundle) : KeeperGrows k (k.update b).1 := by
  intro src n hn
  by_cases hsrc : src = b.primaryBlock.sourceNode
  · subst hsrc
    refine ⟨k.nextSequence b.primaryBlock.sourceNode b.primaryBlock.creationTimestamp.sequenceNumber,
      by simp [IdKeeper.update], ?_⟩
    simp only [IdKeeper.nextSequence, hn]
    split <;> omega
  · exact ⟨n, by simp [IdKeeper.update, hsrc, hn], le_rfl⟩

/-- A bundle the IdKeeper has numbered is covered by the IdKeeper after. -/
theorem Covered.update (env : Env) (k : IdKeeper) (b : Bundle) :
    Covered env (k.update b).2.ID (k.update b).1 := by
  by_cases hsrc : b.primaryBlock.sourceNode = env.nodeId
  · exact .inr ⟨k.nextSequence b.primaryBlock.sourceNode
      b.primaryBlock.creationTimestamp.sequenceNumber,
      by simp [IdKeeper.update, ← hsrc], by simp [IdKeeper.update, Bundle.ID, PrimaryBlock.id]⟩
  · exact .inl (by simpa [IdKeeper.update, Bundle.ID, PrimaryBlock.id] using hsrc)

/-- A bundle of this node that the IdKeeper numbers gets an identity no covered bundle has. -/
theorem ID_update_ne {env : Env} {i : BundleID} {k : IdKeeper} (hcov : Covered env i k)
    (b : Bundle) (hsrc : b.primaryBlock.sourceNode = env.nodeId) : (k.update b).2.ID ≠ i := by
  intro h
  rcases hcov with hne | ⟨n, hn, hle⟩
  · exact hne (h ▸ by simpa [IdKeeper.update, Bundle.ID, PrimaryBlock.id] using hsrc)
  · have hseq := congrArg (·.timestamp.sequenceNumber) h
    simp only [IdKeeper.update, Bundle.ID, PrimaryBlock.id, IdKeeper.nextSequence, hsrc, hn]
      at hseq
    split at hseq <;> omega

/-! ## The two emitters -/

/-- Reports that append nothing: the emitter of the reports' own runs. -/
def NoReports : Rep := fun _ _ _ m blk m' => blk = [] ∧ m' = m

/-- The report about `bp` with status `s` and reason `r` as `transmit` numbers it with the
IdKeeper `k`: the IdKeeper after, and the pack before `DispatchPending` is added. -/
def reportPack (env : Env) (bp : BundlePack) (s : StatusInformationPos) (r : StatusReportReason)
    (k : IdKeeper) : IdKeeper × BundlePack :=
  let rb := NewBundlePack (statusReportBundle env bp s r) env.now
  ((k.update rb.bundle).1, { rb with bundle := (k.update rb.bundle).2 })

/-- What the agent's emitter appends for a report about `bp`: the report event, then a run of
`transmit` on the report that emits nothing and processes no delivered report but one about
`bp`, from a monitor whose IdKeeper has numbered the report; the report's identity is not
`bp`'s. -/
def ReportRun (env : Env) : Rep := fun bp s r m blk m' =>
  let q := reportPack env bp s r m.keeper
  ∃ evs m₂, blk = .statusReport bp s r :: evs ∧ q.2.ID ≠ bp.ID ∧
    Seg NoReports (fun x => s = .deliveredBundle ∧ x = bp.ID) q.2.ID q.2.bundle.primaryBlock
      { m with
        keeper := q.1
        rank := Function.update m.rank q.2.ID 0
        owe := false
        deleted := false } evs m₂ ∧
    m' = { m₂ with owe := m.owe, deleted := m.deleted }

section Emitters

variable (env : Env) {i : BundleID}

theorem emitOK_zero : EmitOK env (SendStatusReport env 0) NoReports i :=
  fun c m _ _ _ h _ _ => ⟨[], m, by simp [SendStatusReport], ⟨rfl, rfl⟩, h⟩

theorem repOK_noReports : RepOK NoReports i := by
  rintro bp s r m blk m' - ⟨rfl, rfl⟩
  exact ⟨rfl, rfl, .refl _, .inl ⟨rfl, rfl⟩, .nil _ _⟩

/-- The report carries one status assertion, about `bp`. -/
theorem subjOK_reportPack (bp : BundlePack) (s : StatusInformationPos) (r : StatusReportReason)
    (k : IdKeeper) :
    SubjOK env (fun x => s = .deliveredBundle ∧ x = bp.ID) (reportPack env bp s r k).2 := by
  intro ar har hd
  have hadm : AdministrativeRecordPayload.has AdministrativeRecordPayload = true := by decide
  have hrec : parsedAdministrativeRecord env (reportPack env bp s r k).2 =
      some ⟨BundleStatusRecordTypeCode, ⟨[s], r, bp.ID⟩⟩ := by
    show parsedAdministrativeRecord env (NewBundlePack (statusReportBundle env bp s r) env.now) = _
    simp [parsedAdministrativeRecord, statusReportBundle, NewBundlePack, hadm,
      Bundle.IsAdministrativeRecord, PrimaryBlock.NewPrimaryBlock, Bundle.PayloadData,
      Bundle.ExtensionBlock, NewAdministrativeRecordFromCbor, CanonicalBlock.BlockType,
      BlockData.blockType]
  rw [hrec, Option.some.injEq] at har
  subst har
  exact ⟨(List.mem_singleton.1 hd).symm, rfl⟩

/-- The agent's emitter appends a `ReportRun`. -/
theorem emitOK_one : EmitOK env (SendStatusReport env 1) (ReportRun env) i := by
  intro c m bp s r h hid hcov
  have hk : (c.log (.statusReport bp s r)).idKeeper = m.keeper := h.2
  obtain ⟨m₂, ⟨evs, ht, hseg, hsim⟩, -, -, -⟩ := done_transmit
    (emitOK_zero env : EmitOK env _ NoReports (reportPack env bp s r m.keeper).2.ID)
    repOK_noReports (c.log (.statusReport bp s r))
    (NewBundlePack (statusReportBundle env bp s r) env.now) (m := { m with
      keeper := (reportPack env bp s r m.keeper).1
      rank := Function.update m.rank (reportPack env bp s r m.keeper).2.ID 0
      owe := false
      deleted := false })
    (by rw [hk]; simp [Sim, reportPack, h.1]) ⟨rfl, rfl, Covered.update env _ _⟩
    (by rw [hk]; rfl) (by rw [hk]) rfl
    (by rw [hk]; exact subjOK_reportPack env bp s r m.keeper) (Function.update_same _ _ _)
  refine ⟨_, _, ?_, ⟨evs, m₂, rfl, ID_update_ne (hid.symm ▸ hcov) _ rfl, hseg, rfl⟩, hsim⟩
  show (transmit _ _ _ _).1.trace = _
  rw [ht]
  simp

end Emitters

/-! ## The runs of reports -/

section Inner

variable {subj : BundleID → Prop} {j : BundleID} {pb : PrimaryBlock}

/-- A report's own run keeps the IdKeeper and touches another identity only by processing a
delivered report about it. -/
theorem Seg.frame_noReports {m m' : Mon} {evs : List Event}
    (h : Seg NoReports subj j pb m evs m') {x : BundleID} (hx : x ≠ j) :
    m'.keeper = m.keeper ∧ ((m'.rank x = m.rank x ∧ m'.term x = m.term x) ∨
      (subj x ∧ m'.rank x = 3 ∧ m'.term x = true)) := by
  induction h with
  | nil => exact ⟨rfl, .inl ⟨rfl, rfl⟩⟩
  | advance _ _ _ _ _ _ _ _ ih | settle _ _ _ _ _ _ ih | terminal _ _ _ _ _ ih =>
    simpa [Function.update_noteq hx] using ih
  | delete q reason blk hid _ _ hblk _ _ ih =>
    obtain ⟨rfl, rfl⟩ : blk = [] ∧ _ := hblk.elim id fun ⟨_, _, h⟩ => h
    simpa [Function.update_noteq hx] using ih
  | quiet _ _ _ ih => exact ih
  | @subject m₀ _ _ p _ hs _ ih =>
    by_cases hp : p.ID = x
    · subst hp
      obtain ⟨hk, h | h⟩ := ih
      · exact ⟨hk, .inr ⟨hs, by simpa using h⟩⟩
      · exact ⟨hk, .inr h⟩
    · simpa [Function.update_noteq (Ne.symm hp)] using ih
  | report bp s r blk _ _ hrep _ ih =>
    obtain ⟨rfl, rfl⟩ := hrep
    exact ih

end Inner

/-- The blocks the agent's emitter appends keep what the stages need. -/
theorem repOK_reportRun (env : Env) {i : BundleID} : RepOK (ReportRun env) i := by
  rintro bp s r m blk m' hid ⟨evs, m₂, rfl, hne, hseg, rfl⟩
  have hx : i ≠ (reportPack env bp s r m.keeper).2.ID := hid ▸ Ne.symm hne
  obtain ⟨hk, hfor⟩ := hseg.frame_noReports hx
  have htr := hseg.tracks (x := i) fun _ _ _ _ _ _ _ h => by
    obtain ⟨rfl, rfl⟩ := h
    exact .nil _ _
  refine ⟨rfl, rfl, hk ▸ KeeperGrows.update _ _, ?_, ?_⟩
  · rcases hfor with ⟨hr, ht⟩ | ⟨⟨hs, -⟩, hr, ht⟩
    · exact .inl ⟨by simpa [Function.update_noteq hx] using hr, ht⟩
    · exact .inr ⟨hs, hr, ht⟩
  · exact (Tracks.silent (fun _ => Event.noConfusion) (by simp [Event.Terminal]) _ _).trans
      (htr.congr (by simp [Function.update_noteq hx]) rfl)

/-! ## Reports about reports

The stages after `receive` call the emitter only when the bundle's primary block asks for a
deletion, delivery or forwarding report, and no stage changes the primary block's flags.  A
status report asks for none, so its own run never emits (`transmit_emitter`): the agent's
emitter `SendStatusReport env 1` loses nothing by giving its inner run an emitter that does
nothing (`SendStatusReport_succ`). -/

/-- The flags ask for a report from a stage after `receive`: a deletion, delivery or forwarding
report. -/
def requestsReports (bcf : BundleControlFlags) : Bool :=
  bcf.has StatusRequestDeletion || bcf.has StatusRequestDelivery || bcf.has StatusRequestForward

section Emitter

variable (env : Env) (e e' : Emitter) {bp : BundlePack}
  (h : requestsReports bp.bundle.primaryBlock.bundleControlFlags = false) (c : Core)

include h

theorem bundleDeletion_emitter (r : StatusReportReason) :
    bundleDeletion e c bp r = bundleDeletion e' c bp r := by
  simp_all [requestsReports, bundleDeletion]

theorem localDelivery_emitter : localDelivery env e c bp = localDelivery env e' c bp := by
  have hd := fun c => bundleDeletion_emitter e e' h c .noInformation
  simp_all [requestsReports, localDelivery]

theorem forwardSend_emitter :
    forwardSend env e c bp = forwardSend env e' c bp := by
  simp_all [requestsReports, forwardSend]

theorem forwardLifetime_emitter :
    forwardLifetime env e c bp = forwardLifetime env e' c bp := by
  unfold forwardLifetime
  split
  · exact bundleDeletion_emitter e e' h c _
  · split
    · rename_i age bp' hage
      have h' : requestsReports bp'.bundle.primaryBlock.bundleControlFlags = false := by
        simp only [BundlePack.UpdateBundleAge, Option.map_eq_some'] at hage
        obtain ⟨a, -, ha⟩ := hage
        cases ha
        simpa using h
      split
      · exact bundleDeletion_emitter e e' h' c _
      · exact forwardSend_emitter env e e' h' c
    · exact forwardSend_emitter env e e' h c

theorem forward_emitter : forward env e c bp = forward env e' c bp := by
  unfold forward
  dsimp only
  split
  · split
    · exact bundleDeletion_emitter e e' (by simpa using h) _ _
    · exact forwardLifetime_emitter env e e' (by simpa using h) _
  · exact forwardLifetime_emitter env e e' (by simpa using h) _

theorem dispatching_emitter : dispatching env e c bp = dispatching env e' c bp := by
  unfold dispatching
  split
  · exact localDelivery_emitter env e e' h _
  · exact forward_emitter env e e' h _

/-- `transmit` calls the emitter nowhere in its run on a bundle that asks for no report. -/
theorem transmit_emitter : transmit env e c bp = transmit env e' c bp := by
  have h' : requestsReports (c.idKeeper.update bp.bundle).2.primaryBlock.bundleControlFlags =
      false := by
    simpa [IdKeeper.update] using h
  unfold transmit
  dsimp only
  split
  · exact bundleDeletion_emitter e e' (by simpa using h') _ _
  · exact dispatching_emitter env e e' (by simpa using h') _

end Emitter

/-- **Reports about reports.**  A status report asks for no report, so the run of `transmit` on
it never calls the emitter, and the recursion of `SendStatusReport` through `transmit` ends
after one report: every depth from one on gives the emitter of depth one. -/
theorem SendStatusReport_succ (env : Env) (n : Nat) :
    SendStatusReport env (n + 1) = SendStatusReport env 1 := by
  funext c bp s r
  exact congrArg Prod.fst
    (@transmit_emitter env _ _ (NewBundlePack (statusReportBundle env bp s r) env.now)
      (by show requestsReports AdministrativeRecordPayload = false; decide) _)

end Dtn7
