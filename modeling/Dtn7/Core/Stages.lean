import Dtn7.Core.Segment

/-!
# Every stage of the pipeline runs as `Seg` says

Each stage of `Dtn7.Core.Processing` is shown to append only what `Seg` allows, from the last
stage up to the entry points: `done_transmit` and `done_receive`.  A stage starts from a
monitor that owes no empty push, has not deleted the run's bundle and covers the run's
identity (`Pre`), and ends owing nothing, with the IdKeeper grown and the run's rank at a
bound (`Done`).  The inspection of a status report keeps all of that and can only raise the
rank (`Inspected`).

The status-report emitter is a parameter here as in the pipeline, and enters through two
contracts: what it appends is a block `Rep` describes (`EmitOK`), and every such block keeps
the run's bookkeeping (`RepOK`).  `Dtn7.Core.Reports` discharges both for the emitter the
agent uses.
-/

namespace Dtn7

/-! ## Contracts -/

section Stages

variable (env : Env) {e : Emitter} {Rep : Rep} {subj : BundleID → Prop} {i : BundleID}
  {pb : PrimaryBlock}

variable (e Rep i) in
/-- The emitter appends what `Rep` describes, from every state of a run on `i`. -/
def EmitOK : Prop :=
  ∀ c m bp s r, Sim c m → bp.ID = i → Covered env i m.keeper →
    ∃ blk m', (e c bp s r).trace = c.trace ++ blk ∧ Rep bp s r m blk m' ∧ Sim (e c bp s r) m'

variable (subj) in
/-- The delivered reports the pack carries are about subjects `subj` allows. -/
def SubjOK (bp : BundlePack) : Prop :=
  ∀ ar, parsedAdministrativeRecord env bp = some ar →
    .deliveredBundle ∈ ar.content.statusInformation → subj ar.content.refBundle

variable (i) in
/-- What a stage needs of the monitor when it starts. -/
structure Pre (m : Mon) : Prop where
  owe : m.owe = false
  deleted : m.deleted = false
  covered : Covered env i m.keeper

variable (Rep subj i pb) in
/-- A stage took the agent from `c`, tracked by `m`, to `c'`, owing no empty push at the end,
with the IdKeeper grown and the run's rank at least `n`. -/
def Done (c : Core) (m : Mon) (c' : Core) (n : Fin 4) : Prop :=
  ∃ m', Runs Rep subj i pb c m c' m' ∧ m'.owe = false ∧ KeeperGrows m.keeper m'.keeper ∧
    n ≤ m'.rank i

variable (Rep subj i pb) in
/-- A piece of a stage that keeps the monitor's bookkeeping and IdKeeper and does not lower
the run's rank: the inspection of a status report. -/
def Inspected (c : Core) (m : Mon) (c' : Core) : Prop :=
  ∃ m', Runs Rep subj i pb c m c' m' ∧ m'.owe = m.owe ∧ m'.deleted = m.deleted ∧
    m'.keeper = m.keeper ∧ m.rank i ≤ m'.rank i

theorem Done.of_runs {c c₁ c' : Core} {m m₁ : Mon} {n : Fin 4}
    (h : Runs Rep subj i pb c m c₁ m₁) (hk : KeeperGrows m.keeper m₁.keeper)
    (h' : Done Rep subj i pb c₁ m₁ c' n) : Done Rep subj i pb c m c' n := by
  obtain ⟨m', hrun, howe, hk', hn⟩ := h'
  exact ⟨m', h.trans hrun, howe, hk.trans hk', hn⟩

theorem Pre.of_inspected {m m' : Mon} (h : Pre env i m) (howe : m'.owe = m.owe)
    (hdel : m'.deleted = m.deleted) (hk : KeeperGrows m.keeper m'.keeper) : Pre env i m' :=
  ⟨howe.trans h.owe, hdel.trans h.deleted, h.covered.mono hk⟩

theorem Inspected.refl {c : Core} {m : Mon} (h : Sim c m) : Inspected Rep subj i pb c m c :=
  ⟨m, .refl h, rfl, rfl, rfl, Fin.le_refl _⟩

theorem Inspected.of_runs {c c₁ c₂ : Core} {m m₁ : Mon} (h : Runs Rep subj i pb c m c₁ m₁)
    (ho : m₁.owe = m.owe) (hd : m₁.deleted = m.deleted) (hk : m₁.keeper = m.keeper)
    (hr : m.rank i ≤ m₁.rank i) (h' : Inspected Rep subj i pb c₁ m₁ c₂) :
    Inspected Rep subj i pb c m c₂ := by
  obtain ⟨m₂, hrun', ho', hd', hk', hr'⟩ := h'
  exact ⟨m₂, h.trans hrun', ho'.trans ho, hd'.trans hd, hk'.trans hk, Fin.le_trans hr hr'⟩

theorem rank_le_update_three (r : BundleID → Fin 4) (x y : BundleID) :
    r y ≤ Function.update r x 3 y := by
  rw [Function.update_apply]
  split
  · exact Fin.le_last _
  · exact Fin.le_refl _

theorem Done.mono {c c' : Core} {m : Mon} {n n' : Fin 4} (h : Done Rep subj i pb c m c' n')
    (hn : n ≤ n') : Done Rep subj i pb c m c' n := by
  obtain ⟨m', hrun, howe, hk, hn'⟩ := h
  exact ⟨m', hrun, howe, hk, Fin.le_trans hn hn'⟩

theorem Done.of_inspected {c c' : Core} {m : Mon} {n : Fin 4}
    (h : Inspected Rep subj i pb c m c') (howe : m.owe = false) (hn : n ≤ m.rank i) :
    Done Rep subj i pb c m c' n := by
  obtain ⟨m', hrun, ho, -, hk, hr⟩ := h
  exact ⟨m', hrun, ho.trans howe, hk ▸ .refl _, Fin.le_trans hn hr⟩

theorem SubjOK.of_bundle {bp bp' : BundlePack} (h : SubjOK env subj bp)
    (hpb : bp'.bundle.primaryBlock = bp.bundle.primaryBlock)
    (hp : bp'.bundle.PayloadData = bp.bundle.PayloadData) : SubjOK env subj bp' := fun ar har =>
  h ar (by simpa [parsedAdministrativeRecord, Bundle.IsAdministrativeRecord, hpb, hp] using har)

/-- Writing the hop-count or bundle-age block keeps the pack's identity and payload. -/
theorem setExtensionData_keeps (bp : BundlePack) (t : Nat) (data : BlockData)
    (hdata : data.blockType = t) (ht : PayloadBlock ≠ t) :
    let bp' : BundlePack := { bp with bundle := bp.bundle.setExtensionData t data }
    bp'.ID = bp.ID ∧ bp'.bundle.primaryBlock = bp.bundle.primaryBlock ∧
      bp'.constraints = bp.constraints ∧ bp'.bundle.PayloadData = bp.bundle.PayloadData :=
  ⟨rfl, rfl, rfl, Bundle.PayloadData_setExtensionData _ t data hdata ht⟩

/-! ### Status reports -/

section Emit

variable {env}
variable (hE : EmitOK env e Rep i) (hR : RepOK Rep i)

include hE in
/-- What the emitter appends: nothing when the report is not requested, a block `Rep`
describes otherwise. -/
theorem emit_spec {c : Core} {m : Mon} (h : Sim c m) (hcov : Covered env i m.keeper)
    (bp : BundlePack) (hid : bp.ID = i) (s : StatusInformationPos) (r : StatusReportReason)
    (b : Bool) :
    ∃ blk m₁, (if b then e c bp s r else c).trace = c.trace ++ blk ∧
      (blk = [] ∧ m₁ = m ∨ Rep bp s r m blk m₁) ∧ Sim (if b then e c bp s r else c) m₁ := by
  cases b
  · exact ⟨[], m, by simp, .inl ⟨rfl, rfl⟩, h⟩
  · obtain ⟨blk, m₁, ht, hrep, hsim⟩ := hE c m bp s r h hid hcov
    exact ⟨blk, m₁, ht, .inr hrep, hsim⟩

include hR in
theorem emitted_frame {bp : BundlePack} {s : StatusInformationPos} {r : StatusReportReason}
    {m m₁ : Mon} {blk : List Event} (hid : bp.ID = i)
    (h : blk = [] ∧ m₁ = m ∨ Rep bp s r m blk m₁) :
    m₁.owe = m.owe ∧ m₁.deleted = m.deleted ∧ KeeperGrows m.keeper m₁.keeper ∧
      (s ≠ .deliveredBundle → m₁.rank i = m.rank i) := by
  rcases h with ⟨-, rfl⟩ | hrep
  · exact ⟨rfl, rfl, .refl _, fun _ => rfl⟩
  · have hok := hR bp s r m blk m₁ hid hrep
    refine ⟨hok.owe, hok.deleted, hok.keeper, fun hs => ?_⟩
    rcases hok.own with ⟨h, -⟩ | ⟨h, -⟩
    exacts [h, absurd h hs]

include hE hR in
/-- A status report other than a deletion report, if requested. -/
theorem runs_emit {c : Core} {m : Mon} (h : Sim c m) (hcov : Covered env i m.keeper)
    (bp : BundlePack) (hid : bp.ID = i) (s : StatusInformationPos) (r : StatusReportReason)
    (hs : s ≠ .deletedBundle) (b : Bool) :
    ∃ m₁, Runs Rep subj i pb c m (if b then e c bp s r else c) m₁ ∧ m₁.owe = m.owe ∧
      m₁.deleted = m.deleted ∧ KeeperGrows m.keeper m₁.keeper ∧
      (s ≠ .deliveredBundle → m₁.rank i = m.rank i) := by
  obtain ⟨blk, m₁, ht, hblk, hsim⟩ := emit_spec hE h hcov bp hid s r b
  refine ⟨m₁, ⟨blk, ht, ?_, hsim⟩, emitted_frame hR hid hblk⟩
  rcases hblk with ⟨rfl, rfl⟩ | hrep
  · exact .nil _
  · simpa using Seg.report bp s r blk hid hs hrep (.nil _)

end Emit

/-! ### The stages, from the last up -/

section Pipeline

variable {env}
variable (hE : EmitOK env e Rep i) (hR : RepOK Rep i)

theorem runs_bundleContraindicated {c : Core} {m : Mon} (h : Sim c m) (bp : BundlePack)
    (hid : bp.ID = i) (hpb : bp.bundle.primaryBlock = pb)
    (hcons : bp.constraints = { forwardPending := true }) (hle : m.rank i ≤ 2) :
    Runs Rep subj i pb c m (bundleContraindicated c bp).1 { m with
      store := m.store.Push (bp.AddConstraint .contraindicated)
      rank := Function.update m.rank i 2 } :=
  (runs_quiet h (.contraindication bp) trivial).trans
    (runs_advance (c := c.log _) h (bp.AddConstraint .contraindicated) 2 (by simpa using hid)
      (by simpa using hpb)
      (by simp [BundlePack.AddConstraint, hcons, Constraints.set, Constraints.rank])
      (by decide) hle)

/-- Contraindicating a pack that waits to be forwarded ends the stage at rank 2. -/
theorem done_bundleContraindicated {c : Core} {m : Mon} (h : Sim c m) (howe : m.owe = false)
    (bp : BundlePack) (hid : bp.ID = i) (hpb : bp.bundle.primaryBlock = pb)
    (hcons : bp.constraints = { forwardPending := true }) (hle : m.rank i ≤ 2) :
    Done Rep subj i pb c m (bundleContraindicated c bp).1 2 :=
  ⟨_, runs_bundleContraindicated h bp hid hpb hcons hle, howe, .refl _, by simp⟩

include hE hR in
/-- A deletion ends the stage at rank 3. -/
theorem done_bundleDeletion {c : Core} {m : Mon} (h : Sim c m) (hpre : Pre env i m)
    (bp : BundlePack) (hid : bp.ID = i) (hpb : bp.bundle.primaryBlock = pb)
    (reason : StatusReportReason) : Done Rep subj i pb c m (bundleDeletion e c bp reason).1 3 := by
  obtain ⟨blk, m₁, ht, hblk, hsim⟩ := emit_spec hE h hpre.covered bp hid .deletedBundle reason
    (bp.bundle.primaryBlock.bundleControlFlags.has StatusRequestDeletion)
  obtain ⟨howe, hdel, hk, -⟩ := emitted_frame hR hid hblk
  refine ⟨{ m₁ with
      store := m₁.store.Push bp.PurgeConstraints
      rank := Function.update m₁.rank i 3
      term := Function.update m₁.term i true
      deleted := true },
    ⟨blk ++ [.push bp.PurgeConstraints, .deletion bp.PurgeConstraints reason], ?_,
    .delete _ reason blk (by simpa using hid) (by simpa using hpb) rfl
      (hblk.imp_right fun hrep => ⟨bp, hid, hrep⟩) (hdel.trans hpre.deleted) (.nil _), ?_⟩,
    howe.trans hpre.owe, hk, by simp⟩
  · simp [bundleDeletion, ht]
  · simp [Sim, bundleDeletion, hsim.1, hsim.2]

/-- The status items loop pushes the subject, purged, once for each delivered item. -/
theorem inspected_inspectStatusItems (p : BundlePack) (sips : List StatusInformationPos) :
    ∀ {c : Core} {m : Mon}, Sim c m → m.store.packs p.ID = some p →
      (.deliveredBundle ∈ sips → subj p.ID) →
      Inspected Rep subj i pb c m (inspectStatusItems p c sips) := by
  induction sips generalizing p with
  | nil => exact fun h _ _ => .refl h
  | cons sip sips ih =>
    intro c m h hp hs
    cases sip
    case deliveredBundle =>
      have hrun : Runs Rep subj i pb _ _ _ _ := runs_subject h p hp (hs (.head _))
      exact .of_runs hrun rfl rfl rfl (rank_le_update_three _ _ _)
        (ih p.PurgeConstraints hrun.sim (by simp) fun hd => by simpa using hs (.tail _ hd))
    all_goals exact ih p h hp fun hd => hs (.tail _ hd)

theorem inspected_inspectStatusReport {c : Core} {m : Mon} (h : Sim c m)
    (ar : AdministrativeRecord)
    (hs : .deliveredBundle ∈ ar.content.statusInformation → subj ar.content.refBundle) :
    Inspected Rep subj i pb c m (inspectStatusReport c ar) := by
  unfold inspectStatusReport
  dsimp only
  split
  · exact .refl h
  · split
    next p hq =>
      obtain ⟨hp, hid⟩ := QueryFromStatusReport_eq_singleton hq
      exact inspected_inspectStatusItems p _ h (by rw [← h.1, hid]; exact hp) (hid ▸ hs)
    · exact .refl h

theorem inspected_checkAdministrativeRecord {c : Core} {m : Mon} (h : Sim c m) (bp : BundlePack)
    (hsubj : SubjOK env subj bp) :
    Inspected Rep subj i pb c m (checkAdministrativeRecord env c bp).1 := by
  unfold checkAdministrativeRecord
  split
  · exact .refl h
  · split
    · exact .refl h
    · split
      · exact .refl h
      · rename_i hadmin _ hpay ar har
        exact inspected_inspectStatusReport h ar (hsubj ar (by
          simp_all [parsedAdministrativeRecord]))

/-- A fold whose every step only logs quiet events. -/
theorem runs_foldl {σ α : Type} (core : σ → Core) (f : σ → α → σ) {m : Mon}
    (hf : ∀ s a, Sim (core s) m → Runs Rep subj i pb (core s) m (core (f s a)) m) :
    ∀ (l : List α) (s : σ), Sim (core s) m → Runs Rep subj i pb (core s) m (core (l.foldl f s)) m
  | [], _, h => .refl h
  | a :: l, s, h => (hf s a h).trans (runs_foldl core f hf l (f s a) (hf s a h).sim)

theorem runs_sendToAll {c : Core} {m : Mon} (h : Sim c m) (bndl : Bundle)
    (nodes : List ConvergenceSender) : Runs Rep subj i pb c m (sendToAll env c bndl nodes).1 m := by
  refine runs_foldl Prod.fst (sendOutcome bndl) (fun ⟨c, sent⟩ ⟨node, ok⟩ h => ?_) _ (c, false) h
  cases ok
  · exact runs_quiets h [.send node bndl false, .restart node] (by simp [sendOutcome,
      Core.RegisterConvergenceSender, Core.RemoveConvergenceSender]) (by simp [Event.Quiet])
      (by simp [sendOutcome]) rfl
  · exact runs_quiet h _ trivial

include hE hR in
theorem done_localDelivery {c : Core} {m : Mon} (h : Sim c m) (hpre : Pre env i m)
    (bp : BundlePack) (hid : bp.ID = i) (hpb : bp.bundle.primaryBlock = pb)
    (hsubj : SubjOK env subj bp) : Done Rep subj i pb c m (localDelivery env e c bp).1 3 := by
  have hcheck : Inspected Rep subj i pb c m (if bp.bundle.IsAdministrativeRecord then
      checkAdministrativeRecord env c bp else (c, true)).1 := by
    split
    · exact inspected_checkAdministrativeRecord h bp hsubj
    · exact .refl h
  unfold localDelivery
  split
  next c₁ ok hsplit =>
  rw [hsplit] at hcheck
  obtain ⟨m₁, hrun, howe, hdel, hk, -⟩ := hcheck
  have hk₁ : KeeperGrows m.keeper m₁.keeper := hk ▸ .refl _
  have hpre₁ : Pre env i m₁ := hpre.of_inspected env howe hdel hk₁
  refine .of_runs hrun hk₁ ?_
  split
  · exact done_bundleDeletion hE hR hrun.sim hpre₁ bp hid hpb _
  · have hagents : Runs Rep subj i pb _ _ _ _ := runs_foldl id
      (fun c agent => if agent == bp.bundle.primaryBlock.destination then
        c.log (.deliver agent bp.bundle) else c) (m := m₁)
      (fun c agent h => by dsimp only; split; exacts [runs_quiet h _ trivial, .refl h])
      env.agents c₁ hrun.sim
    have hnotify : Runs Rep subj i pb _ _ _ _ := runs_terminal hagents.sim _ bp (.inl rfl) hid
    obtain ⟨m₃, hreport : Runs Rep subj i pb _ _ _ _, howe₃, -, hk₃, -⟩ := runs_emit hE hR
      hnotify.sim hpre₁.covered bp hid .deliveredBundle .noInformation (by decide)
      (bp.bundle.primaryBlock.bundleControlFlags.has StatusRequestDelivery)
    exact .of_runs hagents (.refl _) (.of_runs hnotify (.refl _) (.of_runs hreport hk₃
      ⟨_, runs_settle hreport.sim bp.PurgeConstraints (by simpa using hid) (by simpa using hpb)
        rfl howe₃, rfl, .refl _, by simp⟩))

include hE hR in
theorem done_forwardSend {c : Core} {m : Mon} (h : Sim c m) (hpre : Pre env i m)
    (bp : BundlePack) (hid : bp.ID = i) (hpb : bp.bundle.primaryBlock = pb)
    (hcons : bp.constraints = { forwardPending := true }) (hrank : m.rank i = 1)
    (hsubj : SubjOK env subj bp) : Done Rep subj i pb c m (forwardSend env e c bp).1 1 := by
  have hcontra : ∀ {c'}, Sim c' m → Done Rep subj i pb c' m (bundleContraindicated c' bp).1 1 :=
    fun h' => (done_bundleContraindicated h' hpre.owe bp hid hpb hcons (by omega)).mono (by decide)
  unfold forwardSend
  dsimp only
  generalize (if (senderForDestination env c bp.bundle.primaryBlock.destination).isEmpty then
    env.SenderForBundle c bp else (senderForDestination env c bp.bundle.primaryBlock.destination,
      true)) = route
  obtain ⟨nodes, d⟩ := route
  dsimp only
  split
  · exact hcontra h
  · have hsend : Runs Rep subj i pb _ _ (sendToAll env c bp.bundle nodes).1 _ :=
      runs_sendToAll h bp.bundle nodes
    refine .of_runs hsend (.refl _) ?_
    split
    · cases d
      · have hlog : Runs Rep subj i pb _ _ _ _ := runs_quiet hsend.sim (.forwarded bp false) rfl
        obtain ⟨m₂, hreport : Runs Rep subj i pb _ _ _ _, howe₂, -, hk₂, hr₂⟩ := runs_emit hE hR
          hlog.sim hpre.covered bp hid .forwardedBundle .noInformation (by decide)
          (bp.bundle.primaryBlock.bundleControlFlags.has StatusRequestForward)
        have hrank₂ : m₂.rank i = 1 := (hr₂ (by decide)).trans hrank
        refine .of_runs hlog (.refl _) (.of_runs hreport hk₂ ?_)
        generalize (if bp.bundle.primaryBlock.bundleControlFlags.has StatusRequestForward then
          _ else _) = c₂ at hreport ⊢
        simp only [Bool.false_eq_true, if_false]
        split
        · have hcontra₂ : Runs Rep subj i pb _ _ _ _ := runs_bundleContraindicated hreport.sim bp
            hid hpb hcons (by omega)
          exact .of_runs hcontra₂ (.refl _) (.of_inspected
            (inspected_checkAdministrativeRecord hcontra₂.sim _ (hsubj.of_bundle env rfl rfl))
            (howe₂.trans hpre.owe) (by simp))
        · exact ⟨m₂, .refl hreport.sim, howe₂.trans hpre.owe, .refl _, by omega⟩
      · have hlog : Runs Rep subj i pb _ _ _ _ := runs_terminal hsend.sim (.forwarded bp true) bp
          (.inr rfl) hid
        obtain ⟨m₂, hreport : Runs Rep subj i pb _ _ _ _, howe₂, -, hk₂, -⟩ := runs_emit hE hR
          hlog.sim hpre.covered bp hid .forwardedBundle .noInformation (by decide)
          (bp.bundle.primaryBlock.bundleControlFlags.has StatusRequestForward)
        exact .of_runs hlog (.refl _) (.of_runs hreport hk₂
          ⟨_, runs_settle hreport.sim bp.PurgeConstraints (by simpa using hid) (by simpa using hpb)
            rfl howe₂, rfl, .refl _, by simp⟩)
    · exact hcontra hsend.sim

include hE hR in
theorem done_forwardLifetime {c : Core} {m : Mon} (h : Sim c m) (hpre : Pre env i m)
    (bp : BundlePack) (hid : bp.ID = i) (hpb : bp.bundle.primaryBlock = pb)
    (hcons : bp.constraints = { forwardPending := true }) (hrank : m.rank i = 1)
    (hsubj : SubjOK env subj bp) : Done Rep subj i pb c m (forwardLifetime env e c bp).1 1 := by
  unfold forwardLifetime
  split
  · exact (done_bundleDeletion hE hR h hpre bp hid hpb _).mono (by decide)
  · split
    next age bp' hage =>
      obtain ⟨hid', hpb', hcons', hpay'⟩ : bp'.ID = bp.ID ∧
          bp'.bundle.primaryBlock = bp.bundle.primaryBlock ∧ bp'.constraints = bp.constraints ∧
          bp'.bundle.PayloadData = bp.bundle.PayloadData := by
        simp only [BundlePack.UpdateBundleAge, Option.map_eq_some', Prod.mk.injEq] at hage
        obtain ⟨_, -, -, rfl⟩ := hage
        exact setExtensionData_keeps bp _ _ rfl (by decide)
      split
      · exact (done_bundleDeletion hE hR h hpre bp' (hid'.trans hid) (hpb'.trans hpb) _).mono
          (by decide)
      · exact done_forwardSend hE hR h hpre bp' (hid'.trans hid) (hpb'.trans hpb)
          (hcons'.trans hcons) hrank (hsubj.of_bundle env hpb' hpay')
    · exact done_forwardSend hE hR h hpre bp hid hpb hcons hrank hsubj

include hE hR in
theorem done_forward {c : Core} {m : Mon} (h : Sim c m) (hpre : Pre env i m)
    (bp : BundlePack) (hid : bp.ID = i) (hpb : bp.bundle.primaryBlock = pb)
    (hcons : bp.constraints = { dispatchPending := true }) (hrank : m.rank i ≤ 1)
    (hsubj : SubjOK env subj bp) : Done Rep subj i pb c m (forward env e c bp).1 1 := by
  have hcons₁ : ((bp.AddConstraint .forwardPending).RemoveConstraint .dispatchPending).constraints =
      { forwardPending := true } := by
    simp [BundlePack.AddConstraint, BundlePack.RemoveConstraint, hcons, Constraints.set]
  have hpush : Runs Rep subj i pb _ _ _ _ := runs_advance h
    ((bp.AddConstraint .forwardPending).RemoveConstraint .dispatchPending) 1 (by simpa using hid)
    (by simpa using hpb) (by simp [hcons₁, Constraints.rank]) (by decide) hrank
  have hpre₁ : Pre env i { m with
      store := m.store.Push ((bp.AddConstraint .forwardPending).RemoveConstraint .dispatchPending)
      rank := Function.update m.rank i 1 } := ⟨hpre.owe, hpre.deleted, hpre.covered⟩
  have hsubj₁ : SubjOK env subj ((bp.AddConstraint .forwardPending).RemoveConstraint
      .dispatchPending) := hsubj.of_bundle env rfl rfl
  refine .of_runs hpush (.refl _) ?_
  unfold forward
  dsimp only
  split
  · obtain ⟨hid₂, hpb₂, hcons₂, hpay₂⟩ := setExtensionData_keeps
      ((bp.AddConstraint .forwardPending).RemoveConstraint .dispatchPending) HopCountBlock
      (.hopCount (HopCount.Increment _)) rfl (by decide)
    split
    · exact (done_bundleDeletion hE hR hpush.sim hpre₁ _ (hid₂.trans (by simpa using hid))
        (hpb₂.trans (by simpa using hpb)) _).mono (by decide)
    · exact done_forwardLifetime hE hR hpush.sim hpre₁ _ (hid₂.trans (by simpa using hid))
        (hpb₂.trans (by simpa using hpb)) (hcons₂.trans hcons₁) (by simp)
        (hsubj₁.of_bundle env hpb₂ hpay₂)
  · exact done_forwardLifetime hE hR hpush.sim hpre₁ _ (by simpa using hid) (by simpa using hpb)
      hcons₁ (by simp) hsubj₁

include hE hR in
theorem done_dispatching {c : Core} {m : Mon} (h : Sim c m) (hpre : Pre env i m)
    (bp : BundlePack) (hid : bp.ID = i) (hpb : bp.bundle.primaryBlock = pb)
    (hcons : bp.constraints = { dispatchPending := true }) (hrank : m.rank i ≤ 1)
    (hsubj : SubjOK env subj bp) : Done Rep subj i pb c m (dispatching env e c bp).1 1 := by
  have hlog : Runs Rep subj i pb _ _ _ _ := runs_quiet h (.dispatching bp) trivial
  unfold dispatching
  split
  · exact .of_runs hlog (.refl _)
      ((done_localDelivery hE hR hlog.sim hpre bp hid hpb hsubj).mono (by decide))
  · exact .of_runs hlog (.refl _) (done_forward hE hR hlog.sim hpre bp hid hpb hcons hrank hsubj)

include hE hR in
/-- The end of `receive`: the block walk, and the dispatch when the walk did not delete. -/
theorem done_walk (hsubj : ∀ x, subj x) (n : Nat) :
    ∀ {c : Core} {m : Mon} (bp : BundlePack), Sim c m → Pre env i m → bp.ID = i →
      bp.bundle.primaryBlock = pb → bp.constraints = { dispatchPending := true } → m.rank i ≤ 1 →
      Done Rep subj i pb c m (match receiveBlocks env e c bp n with
        | .error r => r
        | .ok (c, bp) => dispatching env e c bp).1 1 := by
  induction n with
  | zero =>
    intro c m bp h hpre hid hpb hcons hrank
    exact done_dispatching hE hR h hpre bp hid hpb hcons hrank fun _ _ _ => hsubj _
  | succ n ih =>
    intro c m bp h hpre hid hpb hcons hrank
    generalize hw : receiveBlocks env e c bp (n + 1) = w
    unfold receiveBlocks at hw
    split at hw
    · exact hw ▸ ih bp h hpre hid hpb hcons hrank
    · split at hw
      · exact hw ▸ ih bp h hpre hid hpb hcons hrank
      · rename_i cb _ _
        obtain ⟨m₁, hreport : Runs Rep subj i pb _ _ _ _, howe, hdel, hk, hr⟩ := runs_emit hE hR h
          hpre.covered bp hid .receivedBundle .blockUnintelligible (by decide)
          (cb.blockControlFlags.has StatusReportBlock)
        have hpre₁ := hpre.of_inspected env howe hdel hk
        have hrank₁ : m₁.rank i ≤ 1 := (hr (by decide)).symm ▸ hrank
        refine .of_runs hreport hk ?_
        dsimp only at hw
        split at hw
        · exact hw ▸ (done_bundleDeletion hE hR hreport.sim hpre₁ bp hid hpb _).mono (by decide)
        · split at hw
          · exact hw ▸ ih _ hreport.sim hpre₁ hid hpb hcons hrank₁
          · exact hw ▸ ih bp hreport.sim hpre₁ hid hpb hcons hrank₁

include hE hR in
/-- A run of `receive` on a bundle the store does not know, from rank 0. -/
theorem done_receive {c : Core} {m : Mon} (h : Sim c m) (hpre : Pre env i m) (bp : BundlePack)
    (hid : bp.ID = i) (hpb : bp.bundle.primaryBlock = pb) (hcons : bp.constraints = .none)
    (hknow : KnowsBundle c.store bp = false) (hrank : m.rank i = 0) (hsubj : ∀ x, subj x) :
    Done Rep subj i pb c m (receive env e c bp).1 1 := by
  have hcons₀ : (bp.AddConstraint .dispatchPending).constraints = { dispatchPending := true } := by
    simp [BundlePack.AddConstraint, hcons, Constraints.set, Constraints.none]
  have hpush : Runs Rep subj i pb _ _ _ _ := runs_advance h (bp.AddConstraint .dispatchPending) 0
    (by simpa using hid) (by simpa using hpb) (by simp [hcons₀, Constraints.rank]) (by decide)
    (by omega)
  obtain ⟨m₂, hreport : Runs Rep subj i pb _ _ _ _, howe, hdel, hk, hr⟩ := runs_emit hE hR hpush.sim
    hpre.covered (bp.AddConstraint .dispatchPending) (by simpa using hid) .receivedBundle
    .noInformation (by decide)
    ((bp.AddConstraint .dispatchPending).bundle.primaryBlock.bundleControlFlags.has
      StatusRequestReception)
  unfold receive
  rw [hknow]
  exact .of_runs hpush (.refl _) (.of_runs hreport hk (done_walk hE hR hsubj _ _ hreport.sim
    (Pre.of_inspected env ⟨hpre.owe, hpre.deleted, hpre.covered⟩ howe hdel hk) (by simpa using hid)
    (by simpa using hpb) hcons₀ (by simp [hr (by decide)])))

include hE hR in
/-- A run of `transmit`, tracked from the IdKeeper's update on, from rank 0. -/
theorem done_transmit (c : Core) (bp : BundlePack) {m : Mon}
    (h : Sim { c with idKeeper := (c.idKeeper.update bp.bundle).1 } m) (hpre : Pre env i m)
    (hid : (c.idKeeper.update bp.bundle).2.ID = i)
    (hpb : (c.idKeeper.update bp.bundle).2.primaryBlock = pb) (hcons : bp.constraints = .none)
    (hsubj : SubjOK env subj { bp with bundle := (c.idKeeper.update bp.bundle).2 })
    (hrank : m.rank i = 0) :
    Done Rep subj i pb { c with idKeeper := (c.idKeeper.update bp.bundle).1 } m
      (transmit env e c bp).1 1 := by
  unfold transmit
  generalize c.idKeeper.update bp.bundle = kb at *
  obtain ⟨k, bndl⟩ := kb
  dsimp only at *
  have hcons₀ : ({ bp with bundle := bndl }.AddConstraint .dispatchPending).constraints =
      { dispatchPending := true } := by
    simp [BundlePack.AddConstraint, hcons, Constraints.set, Constraints.none]
  have hpush : Runs Rep subj i pb _ _ _ _ := runs_advance h
    ({ bp with bundle := bndl }.AddConstraint .dispatchPending) 0 (by exact hid) (by exact hpb)
    (by simp [hcons₀, Constraints.rank]) (by decide) (by omega)
  have hpre₁ : Pre env i { m with
      store := m.store.Push ({ bp with bundle := bndl }.AddConstraint .dispatchPending)
      rank := Function.update m.rank i 0 } := ⟨hpre.owe, hpre.deleted, hpre.covered⟩
  refine .of_runs hpush (.refl _) ?_
  split
  · exact (done_bundleDeletion hE hR hpush.sim hpre₁ _ (by exact hid) (by exact hpb) _).mono
      (by decide)
  · exact done_dispatching hE hR hpush.sim hpre₁ _ (by exact hid) (by exact hpb) hcons₀ (by simp)
      (hsubj.of_bundle env rfl rfl)

end Pipeline

end Stages

end Dtn7
