import Dtn7.Core.Processing

/-!
# The fan-out of `forward` under every interleaving

`forward` hands the bundle to every chosen sender in a goroutine of its own and waits for all
of them.  A goroutine whose send succeeds logs the success and sets `bundleSent` through a
`sync.Once`.  One whose send fails logs the failure and the restart, closes the sender, removes
it from the registry and registers it again.  The steps of different goroutines interleave in
any order, while `sendToAll` runs the goroutines one after another in the order of the senders.

`Interleaves ts exec` says that `exec` runs the step lists `ts` of the goroutines in some
interleaving: the steps of each goroutine in their own order, those of different goroutines in
any order.  Running the goroutines one after another is one interleaving
(`interleaves_flatten`), and it is what `sendToAll` computes (`sendToAll_eq_runSteps`).

What the rest of `forward` reads after `wg.Wait()` comes out the same in every interleaving
(`sendToAll_interleavings`): `bundleSent`, the store, the IdKeeper and which senders are
registered; the trace holds the same events, in another order.  The registry is the one place
where order could matter, since a failed sender is first removed and then registered again.
Within its own goroutine the removal comes first, so the last step on a sender's registration
is always a registration (`Interleaves.removes_registered`), and a sender ends up registered
exactly when it was registered before or one of its sends failed.  The list itself may differ:
a sender that is chosen twice and fails twice is registered twice when both removals come
before both registrations.

## Main results

* `sendToAll_interleavings`: every interleaving of the fan-out agrees with `sendToAll` in
  `bundleSent`, the store, the IdKeeper, the registered senders, and the events of the trace.
-/

namespace Dtn7

/-! ## The goroutines' steps -/

/-- One atomic step of a send goroutine. -/
inductive FanOutStep where
  /-- The log line of the send's outcome. -/
  | send (node : ConvergenceSender) (bndl : Bundle) (ok : Bool)
  /-- The log line "Restarting ConvergenceSender", and `node.Close()`. -/
  | restart (node : ConvergenceSender)
  /-- `c.RemoveConvergenceSender(node)`. -/
  | remove (node : ConvergenceSender)
  /-- `c.RegisterConvergenceSender(node)`. -/
  | register (node : ConvergenceSender)
  /-- `once.Do(func() { bundleSent = true })`. -/
  | sent
  deriving DecidableEq

namespace FanOutStep

/-- A step's effect on the agent and on `bundleSent`. -/
def apply : FanOutStep → Core × Bool → Core × Bool
  | send node bndl ok, (c, s) => (c.log (.send node bndl ok), s)
  | restart node, (c, s) => (c.log (.restart node), s)
  | remove node, (c, s) => (c.RemoveConvergenceSender node, s)
  | register node, (c, s) => (c.RegisterConvergenceSender node, s)
  | sent, (c, _) => (c, true)

/-- The event a step records in the trace. -/
def event? : FanOutStep → Option Event
  | send node bndl ok => some (.send node bndl ok)
  | restart node => some (.restart node)
  | _ => none

/-- Whether a sender is registered after the step, from whether it was before. -/
def registered (node : ConvergenceSender) (m : Bool) : FanOutStep → Bool
  | remove n => if node = n then false else m
  | register n => if node = n then true else m
  | _ => m

end FanOutStep

/-- The steps of the goroutine that sends `bndl` to `node`, whose `Send` gave `ok`. -/
def goroutine (bndl : Bundle) : ConvergenceSender × Bool → List FanOutStep
  | (node, true) => [.send node bndl true, .sent]
  | (node, false) => [.send node bndl false, .restart node, .remove node, .register node]

/-- The agent and `bundleSent` after the steps, in order. -/
def runSteps (st : Core × Bool) (steps : List FanOutStep) : Core × Bool :=
  steps.foldl (fun st s => s.apply st) st

/-- Whether `node` is registered after the steps, from whether it was before. -/
def registeredAfter (node : ConvergenceSender) (m : Bool) (steps : List FanOutStep) : Bool :=
  steps.foldl (FanOutStep.registered node) m

@[simp] theorem runSteps_nil (st : Core × Bool) : runSteps st [] = st := rfl

@[simp] theorem runSteps_cons (st : Core × Bool) (s : FanOutStep) (steps : List FanOutStep) :
    runSteps st (s :: steps) = runSteps (s.apply st) steps := rfl

theorem runSteps_append (st : Core × Bool) (steps steps' : List FanOutStep) :
    runSteps st (steps ++ steps') = runSteps (runSteps st steps) steps' :=
  List.foldl_append _ _ _ _

/-- One outcome of `sendToAll` is its goroutine run alone. -/
theorem sendOutcome_eq_runSteps (bndl : Bundle) (st : Core × Bool) (o : ConvergenceSender × Bool) :
    sendOutcome bndl st o = runSteps st (goroutine bndl o) := by
  obtain ⟨c, s⟩ := st
  obtain ⟨node, _ | _⟩ := o <;> rfl

/-- `sendToAll` runs the goroutines one after another, in the order of the senders. -/
theorem sendToAll_eq_runSteps (env : Env) (c : Core) (bndl : Bundle)
    (nodes : List ConvergenceSender) :
    sendToAll env c bndl nodes =
      runSteps (c, false)
        ((nodes.map fun node => (node, env.Send c node bndl)).map (goroutine bndl)).flatten := by
  unfold sendToAll
  generalize (c, false) = st
  induction nodes generalizing st with
  | nil => rfl
  | cons node nodes ih =>
    simp only [List.map_cons, List.foldl_cons, List.flatten_cons, runSteps_append,
      sendOutcome_eq_runSteps]
    exact ih _

/-! ## What a run of steps does

A run of steps only appends to the trace, touches neither the store nor the IdKeeper, sets
`bundleSent` exactly when it holds a `sent` step, and leaves a sender registered as its last
removal or registration says. -/

section Steps

variable (steps : List FanOutStep)

/-- What no step changes, no run of steps changes. -/
theorem runSteps_frame {α : Type} (f : Core × Bool → α)
    (hf : ∀ (s : FanOutStep) st, f (s.apply st) = f st)
    (st : Core × Bool) : f (runSteps st steps) = f st := by
  induction steps generalizing st with
  | nil => rfl
  | cons s steps ih => rw [runSteps_cons, ih, hf]

theorem runSteps_store (st : Core × Bool) : (runSteps st steps).1.store = st.1.store :=
  runSteps_frame steps (·.1.store) (fun s _ => by cases s <;> rfl) st

theorem runSteps_idKeeper (st : Core × Bool) : (runSteps st steps).1.idKeeper = st.1.idKeeper :=
  runSteps_frame steps (·.1.idKeeper) (fun s _ => by cases s <;> rfl) st

theorem runSteps_trace (st : Core × Bool) :
    (runSteps st steps).1.trace = st.1.trace ++ steps.filterMap FanOutStep.event? := by
  induction steps generalizing st with
  | nil => simp
  | cons s steps ih =>
    obtain ⟨c, b⟩ := st
    rw [runSteps_cons, ih]
    cases s <;> simp [FanOutStep.apply, FanOutStep.event?, Core.RemoveConvergenceSender,
      Core.RegisterConvergenceSender]

theorem runSteps_sent (st : Core × Bool) :
    (runSteps st steps).2 = (st.2 || decide (FanOutStep.sent ∈ steps)) := by
  induction steps generalizing st with
  | nil => simp
  | cons s steps ih =>
    obtain ⟨c, b⟩ := st
    rw [runSteps_cons, ih]
    cases s <;> simp [FanOutStep.apply]

theorem registered_apply (node : ConvergenceSender) (s : FanOutStep) (st : Core × Bool) :
    decide (node ∈ (s.apply st).1.convergenceSenders) =
      s.registered node (decide (node ∈ st.1.convergenceSenders)) := by
  obtain ⟨c, b⟩ := st
  cases s with
  | remove n | register n =>
    by_cases hn : node = n <;> simp [FanOutStep.apply, FanOutStep.registered,
      Core.RemoveConvergenceSender, Core.RegisterConvergenceSender, hn]
  | _ => rfl

theorem mem_runSteps (node : ConvergenceSender) (st : Core × Bool) :
    node ∈ (runSteps st steps).1.convergenceSenders ↔
      registeredAfter node (decide (node ∈ st.1.convergenceSenders)) steps = true := by
  induction steps generalizing st with
  | nil => simp [registeredAfter]
  | cons s steps ih => rw [runSteps_cons, ih, registered_apply]; rfl

end Steps

/-- Every removal of `node` is followed, later in the steps, by a registration of `node`. -/
def RemovesRegistered (node : ConvergenceSender) (steps : List FanOutStep) : Prop :=
  ∀ pre post, steps = pre ++ .remove node :: post → .register node ∈ post

theorem RemovesRegistered.tail {node : ConvergenceSender} {s : FanOutStep}
    {steps : List FanOutStep} (h : RemovesRegistered node (s :: steps)) :
    RemovesRegistered node steps :=
  fun pre post hs => h (s :: pre) post (by rw [hs, List.cons_append])

/-- When every removal of `node` is made good by a later registration, `node` ends registered
exactly when it was before or some step registers it. -/
theorem registeredAfter_of_removesRegistered {node : ConvergenceSender}
    {steps : List FanOutStep} (h : RemovesRegistered node steps) (m : Bool) :
    registeredAfter node m steps = (m || decide (.register node ∈ steps)) := by
  induction steps generalizing m with
  | nil => simp [registeredAfter]
  | cons s steps ih =>
    unfold registeredAfter at ih ⊢
    rw [List.foldl_cons, ih h.tail]
    cases s with
    | remove n =>
      by_cases hn : node = n
      · subst hn
        simp [FanOutStep.registered, h [] steps rfl]
      · simp [FanOutStep.registered, hn]
    | register n => by_cases hn : node = n <;> simp [FanOutStep.registered, hn]
    | _ => simp [FanOutStep.registered]

theorem removesRegistered_goroutine (node : ConvergenceSender) (bndl : Bundle)
    (o : ConvergenceSender × Bool) : RemovesRegistered node (goroutine bndl o) := by
  intro pre post h
  obtain ⟨n, _ | _⟩ := o <;> simp only [goroutine] at h
  · rcases pre with _ | ⟨_, _ | ⟨_, _ | ⟨_, _ | ⟨_, _⟩⟩⟩⟩ <;> simp at h
    obtain ⟨-, -, rfl, rfl⟩ := h
    exact List.mem_singleton_self _
  · rcases pre with _ | ⟨_, _ | ⟨_, _⟩⟩ <;> simp at h

/-! ## Interleavings -/

/-- `exec` runs the step lists `ts` in some interleaving: each list's steps in its own order,
those of different lists in any order. -/
inductive Interleaves {α : Type} : List (List α) → List α → Prop
  /-- Every list has run to its end. -/
  | done {ts : List (List α)} (h : ∀ t ∈ ts, t = []) : Interleaves ts []
  /-- List `i` takes its next step. -/
  | step {ts : List (List α)} {exec : List α} (i : Nat) {a : α} {t : List α}
      (hi : ts[i]? = some (a :: t)) (h : Interleaves (ts.set i t) exec) :
      Interleaves ts (a :: exec)

section Interleaving

variable {α : Type}

theorem flatten_perm_set : ∀ {ts : List (List α)} {i : Nat} {a : α} {t : List α},
    ts[i]? = some (a :: t) → ts.flatten.Perm (a :: (ts.set i t).flatten)
  | _ :: _, 0, _, _, h => by
    rw [List.getElem?_cons_zero, Option.some.injEq] at h
    subst h
    exact .refl _
  | u :: _, _ + 1, _, _, h => by
    rw [List.getElem?_cons_succ] at h
    simp only [List.flatten_cons, List.set_cons_succ]
    exact ((flatten_perm_set h).append_left u).trans List.perm_middle

/-- An interleaving runs exactly the steps of its lists. -/
theorem Interleaves.perm {ts : List (List α)} {exec : List α} (h : Interleaves ts exec) :
    exec.Perm ts.flatten := by
  induction h with
  | done h => simp [List.flatten_eq_nil_iff.2 h]
  | step i hi _ ih => exact (ih.cons _).trans (flatten_perm_set hi).symm

theorem Interleaves.nil_cons {ts : List (List α)} {exec : List α} (h : Interleaves ts exec) :
    Interleaves ([] :: ts) exec := by
  induction h with
  | done h => exact .done fun t ht => (List.mem_cons.1 ht).elim id (h t)
  | step i hi _ ih => exact .step (i + 1) (by rwa [List.getElem?_cons_succ]) ih

/-- Running the lists one after another is an interleaving. -/
theorem interleaves_flatten : ∀ ts : List (List α), Interleaves ts ts.flatten
  | [] => .done fun _ h => absurd h (List.not_mem_nil _)
  | t :: ts => by
    induction t with
    | nil => exact (interleaves_flatten ts).nil_cons
    | cons a t ih => exact .step 0 List.getElem?_cons_zero ih

end Interleaving

/-- In an interleaving of lists in which every removal of `node` is followed by a
registration of `node`, so it is in the whole run: the registration belongs to the removal's
own list, whose later steps all come later in the run. -/
theorem Interleaves.removes_registered {node : ConvergenceSender} {ts : List (List FanOutStep)}
    {exec : List FanOutStep} (h : Interleaves ts exec) (hts : ∀ t ∈ ts, RemovesRegistered node t) :
    RemovesRegistered node exec := by
  induction h with
  | done _ => intro pre post h; simp at h
  | @step ts exec i a t hi h ih =>
    have hmem : a :: t ∈ ts := List.getElem?_mem hi
    intro pre post hpre
    cases pre with
    | nil =>
      obtain ⟨rfl, rfl⟩ := List.cons.inj hpre
      have hreg : FanOutStep.register node ∈ t := hts _ hmem [] t rfl
      have hlen : i < ts.length := (List.getElem?_eq_some_iff.1 hi).1
      exact h.perm.mem_iff.2 (List.mem_flatten.2
        ⟨t, List.mem_iff_getElem?.2 ⟨i, by simp [List.getElem?_set, hlen]⟩, hreg⟩)
    | cons b pre =>
      refine ih (fun t' ht' => ?_) pre post (List.cons.inj hpre).2
      rcases List.mem_or_eq_of_mem_set ht' with ht' | rfl
      exacts [hts t' ht', (hts _ hmem).tail]

/-! ## Every interleaving of the fan-out -/

/-- A sender ends registered in a run of the goroutines exactly when it was registered before
or one of its sends failed. -/
theorem mem_runSteps_interleaving {c : Core} {bndl : Bundle}
    {outcomes : List (ConvergenceSender × Bool)} {exec : List FanOutStep}
    (h : Interleaves (outcomes.map (goroutine bndl)) exec) (node : ConvergenceSender) :
    node ∈ (runSteps (c, false) exec).1.convergenceSenders ↔
      node ∈ c.convergenceSenders ∨ (node, false) ∈ outcomes := by
  have hrr := h.removes_registered fun t ht => by
    obtain ⟨o, -, rfl⟩ := List.mem_map.1 ht
    exact removesRegistered_goroutine node bndl o
  have hreg : FanOutStep.register node ∈ exec ↔ (node, false) ∈ outcomes := by
    rw [h.perm.mem_iff, List.mem_flatten]
    constructor
    · rintro ⟨_, ht, hs⟩
      obtain ⟨⟨n, _ | _⟩, ho, rfl⟩ := List.mem_map.1 ht <;> simp [goroutine] at hs
      exact hs ▸ ho
    · exact fun ho => ⟨_, List.mem_map_of_mem _ ho, by simp [goroutine]⟩
  rw [mem_runSteps, registeredAfter_of_removesRegistered hrr, ← hreg]
  simp

/-- **Every interleaving of the fan-out.**  Whatever order the steps of `forward`'s send
goroutines take, the fan-out ends with the `bundleSent`, the store, the IdKeeper and the
registered senders of `sendToAll`, and with its trace up to the order of the new events. -/
theorem sendToAll_interleavings (env : Env) (c : Core) (bndl : Bundle)
    (nodes : List ConvergenceSender) {exec : List FanOutStep}
    (h : Interleaves ((nodes.map fun node => (node, env.Send c node bndl)).map (goroutine bndl))
      exec) :
    (runSteps (c, false) exec).2 = (sendToAll env c bndl nodes).2 ∧
      (runSteps (c, false) exec).1.store = (sendToAll env c bndl nodes).1.store ∧
      (runSteps (c, false) exec).1.idKeeper = (sendToAll env c bndl nodes).1.idKeeper ∧
      (∀ node, node ∈ (runSteps (c, false) exec).1.convergenceSenders ↔
        node ∈ (sendToAll env c bndl nodes).1.convergenceSenders) ∧
      c.trace <+: (runSteps (c, false) exec).1.trace ∧
      (runSteps (c, false) exec).1.trace.Perm (sendToAll env c bndl nodes).1.trace := by
  have hseq := interleaves_flatten
    ((nodes.map fun node => (node, env.Send c node bndl)).map (goroutine bndl))
  rw [sendToAll_eq_runSteps]
  refine ⟨?_, by simp only [runSteps_store], by simp only [runSteps_idKeeper], fun node => ?_,
    ⟨_, (runSteps_trace exec (c, false)).symm⟩, ?_⟩
  · simp only [runSteps_sent, h.perm.mem_iff]
  · rw [mem_runSteps_interleaving h, mem_runSteps_interleaving hseq]
  · simp only [runSteps_trace]
    exact (h.perm.trans hseq.perm.symm).filterMap _ |>.append_left _

/-- A sender whose sends fail. -/
def failingSender : ConvergenceSender := ⟨"a", dtnEndpoint "//a/"⟩

/-- A sender whose sends succeed. -/
def workingSender : ConvergenceSender := ⟨"b", dtnEndpoint "//b/"⟩

/-- A node whose sends succeed exactly to `workingSender`. -/
def twoSendersEnv : Env where
  nodeId := dtnEndpoint "//node/"
  HasEndpoint eid := eid == dtnEndpoint "//node/"
  isKnownBlockType _ := true
  agents := []
  isPeerFor _ _ := false
  SenderForBundle _ _ := ([failingSender, workingSender], false)
  Send _ node _ := node == workingSender
  inspectAllBundles := false
  now := 10
  decodeAdministrativeRecord _ := none
  statusReportLifetime := 60

/-- A bundle for the fan-out. -/
def fanOutBundle : Bundle :=
  ⟨PrimaryBlock.NewPrimaryBlock 0 (dtnEndpoint "//dst/") (dtnEndpoint "//src/") ⟨0, 0⟩ 60, []⟩

/-- The failing goroutine starts, the working one runs to its end, then the failing one. -/
def failingInterrupted : List FanOutStep :=
  [.send failingSender fanOutBundle false, .send workingSender fanOutBundle true, .sent,
    .restart failingSender, .remove failingSender, .register failingSender]

theorem sendToAll_interleavings_failingInterrupted :
    Interleaves (([failingSender, workingSender].map fun node =>
        (node, twoSendersEnv.Send Core.fresh node fanOutBundle)).map (goroutine fanOutBundle))
      failingInterrupted ∧
    (runSteps (Core.fresh, false) failingInterrupted).2 =
        (sendToAll twoSendersEnv Core.fresh fanOutBundle [failingSender, workingSender]).2 ∧
      (runSteps (Core.fresh, false) failingInterrupted).1.store =
        (sendToAll twoSendersEnv Core.fresh fanOutBundle [failingSender, workingSender]).1.store ∧
      (runSteps (Core.fresh, false) failingInterrupted).1.idKeeper =
        (sendToAll twoSendersEnv Core.fresh fanOutBundle [failingSender, workingSender]).1.idKeeper ∧
      (∀ node, node ∈ (runSteps (Core.fresh, false) failingInterrupted).1.convergenceSenders ↔
        node ∈ (sendToAll twoSendersEnv Core.fresh fanOutBundle
          [failingSender, workingSender]).1.convergenceSenders) ∧
      Core.fresh.trace <+: (runSteps (Core.fresh, false) failingInterrupted).1.trace ∧
      (runSteps (Core.fresh, false) failingInterrupted).1.trace.Perm
        (sendToAll twoSendersEnv Core.fresh fanOutBundle [failingSender, workingSender]).1.trace :=
  have h : Interleaves (([failingSender, workingSender].map fun node =>
      (node, twoSendersEnv.Send Core.fresh node fanOutBundle)).map (goroutine fanOutBundle))
      failingInterrupted :=
    .step 0 List.getElem?_cons_zero <| .step 1 (List.getElem?_cons_succ.trans List.getElem?_cons_zero) <|
      .step 1 (List.getElem?_cons_succ.trans List.getElem?_cons_zero) <|
      .step 0 List.getElem?_cons_zero <| .step 0 List.getElem?_cons_zero <|
      .step 0 List.getElem?_cons_zero <| .done (by simp)
  ⟨h, sendToAll_interleavings twoSendersEnv Core.fresh fanOutBundle _ h⟩

/- A sender chosen twice whose sends fail is registered once when each goroutine runs to its
end, and twice when both removals come before both registrations. -/
example : Interleaves [goroutine fanOutBundle (failingSender, false),
      goroutine fanOutBundle (failingSender, false)]
      [.send failingSender fanOutBundle false, .send failingSender fanOutBundle false,
        .restart failingSender, .restart failingSender, .remove failingSender,
        .remove failingSender, .register failingSender, .register failingSender] ∧
    (runSteps (Core.fresh, false) [.send failingSender fanOutBundle false,
        .send failingSender fanOutBundle false, .restart failingSender, .restart failingSender,
        .remove failingSender, .remove failingSender, .register failingSender,
        .register failingSender]).1.convergenceSenders = [failingSender, failingSender] ∧
    (sendToAll twoSendersEnv Core.fresh fanOutBundle [failingSender, failingSender]).1.convergenceSenders =
      [failingSender] :=
  ⟨.step 0 List.getElem?_cons_zero <| .step 1 (List.getElem?_cons_succ.trans List.getElem?_cons_zero) <|
    .step 0 List.getElem?_cons_zero <| .step 1 (List.getElem?_cons_succ.trans List.getElem?_cons_zero) <|
    .step 0 List.getElem?_cons_zero <| .step 1 (List.getElem?_cons_succ.trans List.getElem?_cons_zero) <|
    .step 0 List.getElem?_cons_zero <| .step 1 (List.getElem?_cons_succ.trans List.getElem?_cons_zero) <|
    .done (by simp), by decide, by decide⟩

end Dtn7
