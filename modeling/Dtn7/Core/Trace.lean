import Dtn7.Core.Processing

/-!
# The store is the replay of the trace

Every stage of the pipeline changes the agent's state in one way only: it appends events to
the trace, and its store is the store it started from with the `push` events among them applied
in order.  `Extends c c'` says this of two states; it is a preorder, every primitive operation
of the stages has it, and so every stage has it as long as the status-report emitter does
(`extends_transmit`, `extends_receive`).  The emitter `SendStatusReport` itself has it at every
depth (`extends_SendStatusReport`), which closes the recursion.

Two consequences are used later: the trace of a run determines what the run did to the store,
and the store never forgets an identity (`Extends.knowsBundle`), since the only store operation
is an upsert.
-/

namespace Dtn7

/-- The store after the `push` events of `evs`, in order. -/
def applyPushes (s : Store) : List Event → Store
  | [] => s
  | .push bp :: evs => applyPushes (s.Push bp) evs
  | _ :: evs => applyPushes s evs

theorem applyPushes_append (s : Store) (evs evs' : List Event) :
    applyPushes s (evs ++ evs') = applyPushes (applyPushes s evs) evs' := by
  induction evs generalizing s with
  | nil => rfl
  | cons ev evs ih => cases ev <;> exact ih _

/-- An identity the store holds stays held. -/
theorem isSome_applyPushes {s : Store} {i : BundleID} (h : (s.packs i).isSome)
    (evs : List Event) : ((applyPushes s evs).packs i).isSome := by
  induction evs generalizing s with
  | nil => exact h
  | cons ev evs ih =>
    cases ev
    case push bp => exact ih (by rw [Store.packs_Push]; split <;> simp_all)
    all_goals exact ih h

/-- `c'` is `c` after more events: the trace grows by them, and the store by their pushes. -/
def Extends (c c' : Core) : Prop :=
  ∃ evs, c'.trace = c.trace ++ evs ∧ c'.store = applyPushes c.store evs

namespace Extends

theorem refl (c : Core) : Extends c c := ⟨[], by simp, rfl⟩

theorem trans {c c' c'' : Core} (h : Extends c c') (h' : Extends c' c'') : Extends c c'' := by
  obtain ⟨evs, ht, hs⟩ := h
  obtain ⟨evs', ht', hs'⟩ := h'
  exact ⟨evs ++ evs', by rw [ht', ht, List.append_assoc], by rw [hs', hs, applyPushes_append]⟩

theorem knowsBundle {c c' : Core} (h : Extends c c') {bp : BundlePack}
    (hk : KnowsBundle c.store bp) : KnowsBundle c'.store bp := by
  obtain ⟨evs, -, hs⟩ := h
  unfold KnowsBundle at *
  rw [hs]
  exact isSome_applyPushes hk evs

end Extends

theorem extends_push (c : Core) (bp : BundlePack) : Extends c (c.push bp) :=
  ⟨[.push bp], rfl, rfl⟩

/-- Logging an event other than a push. -/
theorem extends_log (c : Core) {ev : Event} (h : ∀ bp, ev ≠ .push bp) : Extends c (c.log ev) :=
  ⟨[ev], rfl, by cases ev <;> first | rfl | exact absurd rfl (h _)⟩

theorem extends_idKeeper (c : Core) (k : IdKeeper) : Extends c { c with idKeeper := k } :=
  ⟨[], by simp, rfl⟩

theorem extends_convergenceSenders (c : Core) (l : List ConvergenceSender) :
    Extends c { c with convergenceSenders := l } := ⟨[], by simp, rfl⟩

/-! ## The stages -/

section Stages

variable (env : Env) {e : Emitter} (he : ∀ c bp s r, Extends c (e c bp s r))
include he

omit he in
theorem extends_bundleContraindicated (c : Core) (bp : BundlePack) :
    Extends c (bundleContraindicated c bp).1 :=
  (extends_log c (by simp)).trans (extends_push _ _)

theorem extends_bundleDeletion (c : Core) (bp : BundlePack) (r : StatusReportReason) :
    Extends c (bundleDeletion e c bp r).1 := by
  have hc : Extends c (if bp.bundle.primaryBlock.bundleControlFlags.has StatusRequestDeletion then
      e c bp .deletedBundle r else c) := by
    split
    · exact he ..
    · exact .refl c
  exact (hc.trans (extends_push _ _)).trans (extends_log _ (by simp))

omit he in
theorem extends_inspectStatusItems (p : BundlePack) (c : Core) (sips : List StatusInformationPos) :
    Extends c (inspectStatusItems p c sips) := by
  induction sips generalizing p c with
  | nil => exact .refl c
  | cons sip sips ih =>
    cases sip
    case deliveredBundle =>
      exact ((extends_log c (by simp)).trans (extends_push _ _)).trans (ih _ _)
    all_goals exact ih p c

omit he in
theorem extends_inspectStatusReport (c : Core) (ar : AdministrativeRecord) :
    Extends c (inspectStatusReport c ar) := by
  unfold inspectStatusReport
  dsimp only
  split
  · exact .refl c
  · split
    · exact extends_inspectStatusItems _ c _
    · exact .refl c

omit he in
theorem extends_checkAdministrativeRecord (c : Core) (bp : BundlePack) :
    Extends c (checkAdministrativeRecord env c bp).1 := by
  unfold checkAdministrativeRecord
  repeat' split
  all_goals first | exact .refl c | exact extends_inspectStatusReport c _

theorem extends_localDelivery (c : Core) (bp : BundlePack) :
    Extends c (localDelivery env e c bp).1 := by
  have hcheck : Extends c (if bp.bundle.IsAdministrativeRecord then
      checkAdministrativeRecord env c bp else (c, true)).1 := by
    split
    · exact extends_checkAdministrativeRecord env c bp
    · exact .refl c
  have hagents : ∀ (agents : List EndpointID) c, Extends c (agents.foldl (fun c agent =>
      if agent == bp.bundle.primaryBlock.destination then c.log (.deliver agent bp.bundle)
      else c) c) := by
    intro agents
    induction agents with
    | nil => exact .refl
    | cons a agents ih =>
      intro c
      rw [List.foldl_cons]
      refine .trans ?_ (ih _)
      split
      · exact extends_log c (by simp)
      · exact .refl c
  unfold localDelivery
  split
  next c' ok hsplit =>
  rw [hsplit] at hcheck
  split
  · exact hcheck.trans (extends_bundleDeletion he _ _ _)
  · refine .trans ?_ (extends_push _ _)
    have hnotify := ((hcheck.trans (hagents env.agents c')).trans
      (extends_log _ (fun _ => Event.noConfusion)) : Extends c (Core.log _ (.notifyIncoming bp)))
    split
    · exact hnotify.trans (he ..)
    · exact hnotify

omit he in
theorem extends_sendToAll (c : Core) (bndl : Bundle) (nodes : List ConvergenceSender) :
    Extends c (sendToAll env c bndl nodes).1 := by
  suffices ∀ (os : List (ConvergenceSender × Bool)) (acc : Core × Bool),
      Extends acc.1 (os.foldl (sendOutcome bndl) acc).1 from this _ (c, false)
  intro os
  induction os with
  | nil => exact fun acc => .refl _
  | cons o os ih =>
    intro acc
    rw [List.foldl_cons]
    refine .trans ?_ (ih _)
    obtain ⟨c, sent⟩ := acc
    obtain ⟨node, ok⟩ := o
    cases ok
    · exact ((extends_log _ (by simp)).trans (extends_log _ (by simp))).trans
        ((extends_convergenceSenders _ _).trans (extends_convergenceSenders _ _))
    · exact extends_log _ (by simp)

theorem extends_forwardSend (c : Core) (bp : BundlePack) :
    Extends c (forwardSend env e c bp).1 := by
  unfold forwardSend
  dsimp only
  generalize (if (senderForDestination env c bp.bundle.primaryBlock.destination).isEmpty then
    env.SenderForBundle c bp else (senderForDestination env c bp.bundle.primaryBlock.destination,
      true)) = route
  obtain ⟨nodes, d⟩ := route
  have hsend := extends_sendToAll env c bp.bundle nodes
  have hreport : Extends c (if bp.bundle.primaryBlock.bundleControlFlags.has
      StatusRequestForward then e ((sendToAll env c bp.bundle nodes).1.log (.forwarded bp d)) bp
        .forwardedBundle .noInformation
      else (sendToAll env c bp.bundle nodes).1.log (.forwarded bp d)) := by
    split
    · exact (hsend.trans (extends_log _ (by simp))).trans (he ..)
    · exact hsend.trans (extends_log _ (by simp))
  dsimp only
  split
  · exact extends_bundleContraindicated c bp
  · split
    · split
      · exact hreport.trans (extends_push _ _)
      · split
        · exact (hreport.trans (extends_bundleContraindicated _ _)).trans
            (extends_checkAdministrativeRecord env _ _)
        · exact hreport
    · exact hsend.trans (extends_bundleContraindicated _ _)

theorem extends_forwardLifetime (c : Core) (bp : BundlePack) :
    Extends c (forwardLifetime env e c bp).1 := by
  unfold forwardLifetime
  repeat' split
  all_goals first
    | exact extends_bundleDeletion he _ _ _
    | exact extends_forwardSend env he _ _

theorem extends_forward (c : Core) (bp : BundlePack) : Extends c (forward env e c bp).1 := by
  have hpush := extends_push c ((bp.AddConstraint .forwardPending).RemoveConstraint .dispatchPending)
  unfold forward
  dsimp only
  repeat' split
  all_goals first
    | exact hpush.trans (extends_bundleDeletion he _ _ _)
    | exact hpush.trans (extends_forwardLifetime env he _ _)

theorem extends_dispatching (c : Core) (bp : BundlePack) :
    Extends c (dispatching env e c bp).1 := by
  have hlog : Extends c (c.log (.dispatching bp)) := extends_log c (by simp)
  unfold dispatching
  dsimp only
  split
  · exact hlog.trans (extends_localDelivery env he _ _)
  · exact hlog.trans (extends_forward env he _ _)

/-- Both outcomes of the block walk extend the state the walk started from. -/
theorem extends_receiveBlocks (i : Nat) : ∀ (c₀ c : Core) (bp : BundlePack) (r : Core × BundlePack),
    Extends c₀ c → (receiveBlocks env e c bp i = .ok r ∨ receiveBlocks env e c bp i = .error r) →
      Extends c₀ r.1 := by
  induction i with
  | zero =>
    rintro c₀ c bp r h (hr | hr) <;> cases hr
    exact h
  | succ i ih =>
    intro c₀ c bp r h hr
    unfold receiveBlocks at hr
    split at hr
    · exact ih _ _ _ _ h hr
    · next cb _ =>
      split at hr
      · exact ih _ _ _ _ h hr
      · have hc : Extends c₀ (if cb.blockControlFlags.has StatusReportBlock then
            e c bp .receivedBundle .blockUnintelligible else c) := by
          split
          · exact h.trans (he ..)
          · exact h
        dsimp only at hr
        split at hr
        · rcases hr with hr | hr <;> cases hr
          exact hc.trans (extends_bundleDeletion he _ _ _)
        · split at hr <;> exact ih _ _ _ _ hc hr

/-- The end of `receive`: the walk, and the dispatch when the walk did not delete. -/
theorem extends_walk_dispatching {c₀ c : Core} (h : Extends c₀ c) (bp : BundlePack) (n : Nat) :
    Extends c₀ (match receiveBlocks env e c bp n with
      | .error r => r
      | .ok (c, bp) => dispatching env e c bp).1 := by
  split
  next r hr => exact extends_receiveBlocks env he _ _ c _ _ h (.inr hr)
  next c' bp' hr =>
    exact (extends_receiveBlocks env he _ _ c _ _ h (.inl hr)).trans
      (extends_dispatching env he _ _)

theorem extends_receive (c : Core) (bp : BundlePack) : Extends c (receive env e c bp).1 := by
  unfold receive
  split
  · exact .refl c
  · dsimp only
    refine extends_walk_dispatching env he ?_ _ _
    split
    · exact (extends_push c _).trans (he ..)
    · exact extends_push c _

theorem extends_transmit (c : Core) (bp : BundlePack) : Extends c (transmit env e c bp).1 := by
  unfold transmit
  dsimp only
  split
  · exact ((extends_idKeeper c _).trans (extends_push _ _)).trans (extends_bundleDeletion he _ _ _)
  · exact ((extends_idKeeper c _).trans (extends_push _ _)).trans (extends_dispatching env he _ _)

end Stages

/-- The status-report emitter extends the state at every depth. -/
theorem extends_SendStatusReport (env : Env) (n : Nat) (c : Core) (bp : BundlePack)
    (s : StatusInformationPos) (r : StatusReportReason) :
    Extends c (SendStatusReport env n c bp s r) := by
  induction n generalizing c bp s r with
  | zero => exact .refl c
  | succ n ih => exact (extends_log c (by simp)).trans (extends_transmit env ih _ _)

end Dtn7
