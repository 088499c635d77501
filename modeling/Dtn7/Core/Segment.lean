import Dtn7.Core.Trace
import Dtn7.Core.AdministrativeRecord

/-!
# What one run of the pipeline appends to the trace

A run of the pipeline on a bundle of identity `i` appends events to the trace.  `Seg` says,
once for all stages, which sequences of events a run may append and how each event moves a
monitor `Mon`: the store and the IdKeeper, the rank of the constraint set last pushed under
each identity on the chain `{DispatchPending} → {ForwardPending} → {ForwardPending,
Contraindicated} → {}`, which identities have seen a terminal event, whether a terminal event
of the run's own bundle still waits for its empty push, and whether the run deleted its bundle.

The run's own pushes carry its primary block and move up the chain; an empty push follows a
terminal event (local delivery, sending with deletion afterwards) or comes with a deletion,
which happens at most once.  Processing a delivered report pushes the subject's stored pack
with its constraints purged.  A status report the run emits appends a block of events that the
parameter `Rep` describes: nothing, for the runs of the reports themselves (`NoReports`), or a
whole run of `transmit` on the report (`ReportRun`), which emits no report itself.

`Runs` relates the agent's states before and after a piece of a run to the monitor's; every
stage of `Dtn7.Core.Processing` has it (`Dtn7.Core.Stages`).  The properties of whole runs are
then read off `Seg` by induction.
-/

namespace Dtn7

/-! ## Ranks and events -/

/-- The position of a constraint set on the chain `{DispatchPending} → {ForwardPending} →
{ForwardPending, Contraindicated} → {}`, or `none` off the chain. -/
def Constraints.rank (cs : Constraints) : Option (Fin 4) :=
  if cs = { dispatchPending := true } then some 0
  else if cs = { forwardPending := true } then some 1
  else if cs = { forwardPending := true, contraindicated := true } then some 2
  else if cs = .none then some 3
  else Option.none

theorem Constraints.rank_eq_three {cs : Constraints} : cs.rank = some 3 ↔ cs = .none := by
  unfold Constraints.rank
  split_ifs <;> simp_all [Constraints.none]

theorem Constraints.rank_none : Constraints.none.rank = some 3 := rank_eq_three.2 rfl

/-- The events that end the stay of the bundle `i`: its deletion, its local delivery, its
sending with deletion afterwards, or a delivered report about it. -/
def Event.Terminal (i : BundleID) : Event → Prop
  | .deletion bp _ | .notifyIncoming bp | .deliveredReport bp => bp.ID = i
  | .forwarded bp d => d = true ∧ bp.ID = i
  | _ => False

/-- The events a stage logs that neither push, report, delete, report a delivery nor end a
bundle's stay: the log lines of the pipeline's decisions, sends, restarts, deliveries to agents
and a sending that keeps the bundle. -/
def Event.Quiet : Event → Prop
  | .dispatching _ | .contraindication _ | .send _ _ _ | .restart _ | .deliver _ _ => True
  | .forwarded _ d => d = false
  | _ => False

theorem Event.Terminal.unique {ev : Event} {x y : BundleID} (hx : ev.Terminal x)
    (hy : ev.Terminal y) : x = y := by
  cases ev <;> simp_all [Event.Terminal]

theorem Event.Quiet.not_terminal {ev : Event} (h : ev.Quiet) (x : BundleID) : ¬ev.Terminal x := by
  cases ev <;> simp_all [Event.Quiet, Event.Terminal]

/-! ## The pushes under one identity -/

/-- The packs pushed under the identity `x`, in order. -/
def pushedUnder (x : BundleID) : List Event → List BundlePack
  | [] => []
  | .push q :: evs => if q.ID = x then q :: pushedUnder x evs else pushedUnder x evs
  | _ :: evs => pushedUnder x evs

theorem pushedUnder_append (x : BundleID) (evs evs' : List Event) :
    pushedUnder x (evs ++ evs') = pushedUnder x evs ++ pushedUnder x evs' := by
  induction evs with
  | nil => rfl
  | cons ev evs ih =>
    cases ev
    case push q => by_cases hq : q.ID = x <;> simp [pushedUnder, hq, ih]
    all_goals exact ih

/-- The store after the events holds, under `x`, the last pack pushed under `x`, if any. -/
theorem packs_applyPushes (s : Store) (evs : List Event) (x : BundleID) :
    (applyPushes s evs).packs x = (pushedUnder x evs).getLast?.or (s.packs x) := by
  induction evs generalizing s with
  | nil => rfl
  | cons ev evs ih =>
    cases ev
    case push q =>
      rw [applyPushes, ih, Store.packs_Push]
      by_cases hq : q.ID = x
      · cases hl : (pushedUnder x evs).getLast? <;> simp [pushedUnder, hq, hl, List.getLast?_cons]
      · simp [pushedUnder, hq, Ne.symm hq]
    all_goals exact ih s

/-- Climb the constraint chain from rank `r` through the constraint sets of the packs `l`: the
rank reached, or `none` when a set is off the chain or below the one before it. -/
def climb : Fin 4 → List BundlePack → Option (Fin 4)
  | r, [] => some r
  | r, q :: l => match q.constraints.rank with
    | some n => if r ≤ n then climb n l else none
    | none => none

theorem climb_append (r : Fin 4) (l l' : List BundlePack) :
    climb r (l ++ l') = (climb r l).bind (climb · l') := by
  induction l generalizing r with
  | nil => rfl
  | cons q l ih =>
    simp only [List.cons_append, climb]
    split
    · split
      · exact ih _
      · rfl
    · rfl

/-- The last set of a climb has the rank the climb reaches. -/
theorem rank_of_climb {r r' : Fin 4} {l : List BundlePack} (h : climb r l = some r')
    {q : BundlePack} (hq : l.getLast? = some q) : q.constraints.rank = some r' := by
  induction l generalizing r with
  | nil => cases hq
  | cons q' l ih =>
    simp only [climb] at h
    split at h
    next n hn =>
      split at h
      · cases l with
        | nil =>
          simp only [climb, Option.some.injEq] at h
          simp only [List.getLast?_singleton, Option.some.injEq] at hq
          exact hq ▸ h ▸ hn
        | cons q'' l => exact ih h (by simpa [List.getLast?_cons] using hq)
      · cases h
    · cases h

/-! ## The monitor -/

/-- What a run has done so far, as far as the trace tells. -/
structure Mon where
  store : Store
  keeper : IdKeeper
  /-- The rank of the constraint set last pushed under each identity in this run. -/
  rank : BundleID → Fin 4
  /-- The identities that have seen a terminal event in this run. -/
  term : BundleID → Bool
  /-- A terminal event of the run's own bundle waits for its empty push. -/
  owe : Bool
  /-- The run has deleted its own bundle. -/
  deleted : Bool

/-- The agent's state agrees with the monitor. -/
def Sim (c : Core) (m : Mon) : Prop := c.store = m.store ∧ c.idKeeper = m.keeper

/-- What a status report a run emits may append: the pack reported on, the status, the reason,
and the monitor before and after the events. -/
abbrev Rep := BundlePack → StatusInformationPos → StatusReportReason → Mon → List Event → Mon →
  Prop

section Seg

variable (Rep : Rep) (subj : BundleID → Prop) (i : BundleID) (pb : PrimaryBlock)

/-- The events a run on the bundle `i` with primary block `pb` may append, and the monitor
before and after them; `subj` bounds the subjects of the delivered reports it may process. -/
inductive Seg : Mon → List Event → Mon → Prop
  | nil (m : Mon) : Seg m [] m
  /-- A push of the run's pack with a constraint set below the empty one, up the chain. -/
  | advance {m m' : Mon} {evs : List Event} (q : BundlePack) (n : Fin 4) (hid : q.ID = i)
      (hpb : q.bundle.primaryBlock = pb) (hrank : q.constraints.rank = some n) (hn : n < 3)
      (hle : m.rank i ≤ n)
      (h : Seg { m with
        store := m.store.Push q
        rank := Function.update m.rank i n } evs m') :
      Seg m (.push q :: evs) m'
  /-- The empty push a terminal event waits for. -/
  | settle {m m' : Mon} {evs : List Event} (q : BundlePack) (hid : q.ID = i)
      (hpb : q.bundle.primaryBlock = pb) (hempty : q.constraints = .none) (howe : m.owe = true)
      (h : Seg { m with
        store := m.store.Push q
        rank := Function.update m.rank i 3
        owe := false } evs m') :
      Seg m (.push q :: evs) m'
  /-- The deletion of the run's bundle: the deletion report the bundle may request, an empty
  push and the deletion, once. -/
  | delete {m m₁ m' : Mon} {evs : List Event} (q : BundlePack) (reason : StatusReportReason)
      (blk : List Event) (hid : q.ID = i) (hpb : q.bundle.primaryBlock = pb)
      (hempty : q.constraints = .none)
      (hblk : blk = [] ∧ m₁ = m ∨ ∃ bp, bp.ID = i ∧ Rep bp .deletedBundle reason m blk m₁)
      (hdel : m₁.deleted = false)
      (h : Seg { m₁ with
        store := m₁.store.Push q
        rank := Function.update m₁.rank i 3
        term := Function.update m₁.term i true
        deleted := true } evs m') :
      Seg m (blk ++ .push q :: .deletion q reason :: evs) m'
  /-- The local delivery of the run's bundle, or its sending with deletion afterwards. -/
  | terminal {m m' : Mon} {evs : List Event} (ev : Event) (q : BundlePack)
      (hev : ev = .notifyIncoming q ∨ ev = .forwarded q true) (hid : q.ID = i)
      (h : Seg { m with
        term := Function.update m.term i true
        owe := true } evs m') :
      Seg m (ev :: evs) m'
  | quiet {m m' : Mon} {evs : List Event} (ev : Event) (hq : ev.Quiet) (h : Seg m evs m') :
      Seg m (ev :: evs) m'
  /-- A delivered report about the stored pack `p`: `p` is stored again, purged. -/
  | subject {m m' : Mon} {evs : List Event} (p : BundlePack)
      (hp : m.store.packs p.ID = some p) (hs : subj p.ID)
      (h : Seg { m with
        store := m.store.Push p.PurgeConstraints
        rank := Function.update m.rank p.ID 3
        term := Function.update m.term p.ID true } evs m') :
      Seg m (.deliveredReport p.PurgeConstraints :: .push p.PurgeConstraints :: evs) m'
  /-- A status report about the run's pack `bp`, other than a deletion report. -/
  | report {m m₁ m' : Mon} {evs : List Event} (bp : BundlePack) (s : StatusInformationPos)
      (r : StatusReportReason) (blk : List Event) (hbp : bp.ID = i) (hs : s ≠ .deletedBundle)
      (hrep : Rep bp s r m blk m₁) (h : Seg m₁ evs m') : Seg m (blk ++ evs) m'

variable {Rep subj i pb}

theorem Seg.append {m₁ m₂ m₃ : Mon} {evs evs' : List Event} (h : Seg Rep subj i pb m₁ evs m₂)
    (h' : Seg Rep subj i pb m₂ evs' m₃) : Seg Rep subj i pb m₁ (evs ++ evs') m₃ := by
  induction h with
  | nil => exact h'
  | advance q n hid hpb hrank hn hle _ ih => exact .advance q n hid hpb hrank hn hle (ih h')
  | settle q hid hpb hempty howe _ ih => exact .settle q hid hpb hempty howe (ih h')
  | delete q reason blk hid hpb hempty hblk hdel _ ih =>
    exact List.append_assoc .. ▸ .delete q reason blk hid hpb hempty hblk hdel (ih h')
  | terminal ev q hev hid _ ih => exact .terminal ev q hev hid (ih h')
  | quiet ev hq _ ih => exact .quiet ev hq (ih h')
  | subject p hp hs _ ih => exact .subject p hp hs (ih h')
  | report bp s r blk hbp hs hrep _ ih => exact List.append_assoc .. ▸ .report bp s r blk hbp hs hrep (ih h')

end Seg

/-! ## The IdKeeper -/

/-- The IdKeeper `k'` has issued at least what `k` had, for every source. -/
def KeeperGrows (k k' : IdKeeper) : Prop :=
  ∀ src h, k.data src = some h → ∃ h', k'.data src = some h' ∧ h ≤ h'

theorem KeeperGrows.refl (k : IdKeeper) : KeeperGrows k k := fun _ h hk => ⟨h, hk, le_rfl⟩

theorem KeeperGrows.trans {k k' k'' : IdKeeper} (h : KeeperGrows k k') (h' : KeeperGrows k' k'') :
    KeeperGrows k k'' := fun src n hk => by
  obtain ⟨n', hk', hle⟩ := h src n hk
  obtain ⟨n'', hk'', hle'⟩ := h' src n' hk'
  exact ⟨n'', hk'', hle.trans hle'⟩

/-- No report this node issues from its IdKeeper `k` can have the identity `i`: `i` is not
from this node, or its sequence number is one `k` has already issued. -/
def Covered (env : Env) (i : BundleID) (k : IdKeeper) : Prop :=
  i.sourceNode ≠ env.nodeId ∨ ∃ h, k.data env.nodeId = some h ∧ i.timestamp.sequenceNumber ≤ h

theorem Covered.mono {env : Env} {i : BundleID} {k k' : IdKeeper} (h : Covered env i k)
    (hk : KeeperGrows k k') : Covered env i k' := by
  rcases h with h | ⟨n, hn, hle⟩
  · exact .inl h
  · obtain ⟨n', hn', hle'⟩ := hk _ n hn
    exact .inr ⟨n', hn', hle.trans hle'⟩

/-! ## Runs of the stages -/

section Runs

variable {Rep : Rep} {subj : BundleID → Prop} {i : BundleID} {pb : PrimaryBlock}

variable (Rep subj i pb) in
/-- From the state `c`, tracked by `m`, the agent reaches `c'`, tracked by `m'`, by events a
run on the bundle `i` may append. -/
def Runs (c : Core) (m : Mon) (c' : Core) (m' : Mon) : Prop :=
  ∃ evs, c'.trace = c.trace ++ evs ∧ Seg Rep subj i pb m evs m' ∧ Sim c' m'

theorem Runs.refl {c : Core} {m : Mon} (h : Sim c m) : Runs Rep subj i pb c m c m :=
  ⟨[], by simp, .nil m, h⟩

theorem Runs.trans {c c₁ c₂ : Core} {m m₁ m₂ : Mon} (h : Runs Rep subj i pb c m c₁ m₁)
    (h' : Runs Rep subj i pb c₁ m₁ c₂ m₂) : Runs Rep subj i pb c m c₂ m₂ := by
  obtain ⟨evs, ht, hs, -⟩ := h
  obtain ⟨evs', ht', hs', hsim⟩ := h'
  exact ⟨evs ++ evs', by rw [ht', ht, List.append_assoc], hs.append hs', hsim⟩

theorem Runs.sim {c c' : Core} {m m' : Mon} (h : Runs Rep subj i pb c m c' m') : Sim c' m' := by
  obtain ⟨-, -, -, hsim⟩ := h
  exact hsim

theorem runs_advance {c : Core} {m : Mon} (h : Sim c m) (q : BundlePack) (n : Fin 4)
    (hid : q.ID = i) (hpb : q.bundle.primaryBlock = pb) (hrank : q.constraints.rank = some n)
    (hn : n < 3) (hle : m.rank i ≤ n) :
    Runs Rep subj i pb c m (c.push q) { m with
      store := m.store.Push q
      rank := Function.update m.rank i n } :=
  ⟨[.push q], rfl, .advance q n hid hpb hrank hn hle (.nil _), by simp [Sim, h.1, h.2]⟩

theorem runs_settle {c : Core} {m : Mon} (h : Sim c m) (q : BundlePack) (hid : q.ID = i)
    (hpb : q.bundle.primaryBlock = pb) (hempty : q.constraints = .none) (howe : m.owe = true) :
    Runs Rep subj i pb c m (c.push q) { m with
      store := m.store.Push q
      rank := Function.update m.rank i 3
      owe := false } :=
  ⟨[.push q], rfl, .settle q hid hpb hempty howe (.nil _), by simp [Sim, h.1, h.2]⟩

theorem runs_terminal {c : Core} {m : Mon} (h : Sim c m) (ev : Event) (q : BundlePack)
    (hev : ev = .notifyIncoming q ∨ ev = .forwarded q true) (hid : q.ID = i) :
    Runs Rep subj i pb c m (c.log ev) { m with
      term := Function.update m.term i true
      owe := true } :=
  ⟨[ev], rfl, .terminal ev q hev hid (.nil _), h⟩

theorem runs_quiet {c : Core} {m : Mon} (h : Sim c m) (ev : Event) (hq : ev.Quiet) :
    Runs Rep subj i pb c m (c.log ev) m :=
  ⟨[ev], rfl, .quiet ev hq (.nil _), h⟩

theorem runs_subject {c : Core} {m : Mon} (h : Sim c m) (p : BundlePack)
    (hp : m.store.packs p.ID = some p) (hs : subj p.ID) :
    Runs Rep subj i pb c m ((c.log (.deliveredReport p.PurgeConstraints)).push p.PurgeConstraints)
      { m with
        store := m.store.Push p.PurgeConstraints
        rank := Function.update m.rank p.ID 3
        term := Function.update m.term p.ID true } :=
  ⟨[.deliveredReport p.PurgeConstraints, .push p.PurgeConstraints], by simp,
    .subject p hp hs (.nil _), by simp [Sim, h.1, h.2]⟩

theorem Seg.quiets {m : Mon} {evs : List Event} (h : ∀ ev ∈ evs, ev.Quiet) :
    Seg Rep subj i pb m evs m := by
  induction evs with
  | nil => exact .nil m
  | cons ev evs ih =>
    exact .quiet ev (h ev (.head _)) (ih fun ev hev => h ev (.tail _ hev))

/-- A piece of a stage that only logs quiet events. -/
theorem runs_quiets {c c' : Core} {m : Mon} (h : Sim c m) (evs : List Event)
    (ht : c'.trace = c.trace ++ evs) (hq : ∀ ev ∈ evs, ev.Quiet) (hs : c'.store = c.store)
    (hk : c'.idKeeper = c.idKeeper) : Runs Rep subj i pb c m c' m :=
  ⟨evs, ht, .quiets hq, hs.trans h.1, hk.trans h.2⟩

end Runs

/-! ## Reading a run off its events

`Tracks x` says that the monitor's rank of `x` is where the pushes under `x` climb to, and that
its mark of `x` is set exactly by a terminal event of `x`.  Every constructor of `Seg` keeps it,
for every identity, so it holds of a whole run as soon as it holds of the report blocks.
`TermRank` ties the mark to the rank for the run's own identity: a terminal event is followed by
the empty push it owes, so that a run that owes nothing is marked exactly when its bundle's
constraint set is empty.
-/

/-- Under the ranks `r` and marks `t` of a monitor before the events and `r'`, `t'` after
them, the rank of `x` is where the pushes under `x` climb to, and `x` is marked exactly when it
was before or a terminal event of `x` happened. -/
def Tracks (x : BundleID) (r : BundleID → Fin 4) (t : BundleID → Bool) (evs : List Event)
    (r' : BundleID → Fin 4) (t' : BundleID → Bool) : Prop :=
  climb (r x) (pushedUnder x evs) = some (r' x) ∧
    (t' x = true ↔ t x = true ∨ ∃ ev ∈ evs, ev.Terminal x)

/-- The run's bundle is marked exactly when its constraint set is empty or it owes the empty
push. -/
def TermRank (x : BundleID) (m : Mon) : Prop := m.term x = true ↔ (m.rank x = 3 ∨ m.owe = true)

/-- What a report block about the pack of identity `i`, with status `s`, keeps. -/
structure BlockOK (i : BundleID) (s : StatusInformationPos) (m : Mon) (blk : List Event)
    (m' : Mon) : Prop where
  owe : m'.owe = m.owe
  deleted : m'.deleted = m.deleted
  keeper : KeeperGrows m.keeper m'.keeper
  own : (m'.rank i = m.rank i ∧ m'.term i = m.term i) ∨
    (s = .deliveredBundle ∧ m'.rank i = 3 ∧ m'.term i = true)
  tracks : Tracks i m.rank m.term blk m'.rank m'.term

/-- Every block `Rep` describes for a report about the pack of identity `i` keeps `BlockOK`. -/
def RepOK (Rep : Rep) (i : BundleID) : Prop :=
  ∀ bp s r m blk m', bp.ID = i → Rep bp s r m blk m' → BlockOK i s m blk m'

namespace Tracks

variable {x : BundleID} {r r₁ r' : BundleID → Fin 4} {t t₁ t' : BundleID → Bool}

theorem nil (r : BundleID → Fin 4) (t : BundleID → Bool) : Tracks x r t [] r t :=
  ⟨rfl, ⟨.inl, fun h => h.resolve_right fun ⟨_, h, _⟩ => absurd h (List.not_mem_nil _)⟩⟩

theorem trans {evs evs' : List Event} (h : Tracks x r t evs r₁ t₁)
    (h' : Tracks x r₁ t₁ evs' r' t') : Tracks x r t (evs ++ evs') r' t' := by
  obtain ⟨hc, ht⟩ := h
  obtain ⟨hc', ht'⟩ := h'
  refine ⟨by rw [pushedUnder_append, climb_append, hc]; exact hc', ?_⟩
  rw [ht', ht]
  simp only [List.mem_append, or_and_right, exists_or, or_assoc]

theorem push (q : BundlePack) {y : BundleID} {n : Fin 4} (hy : q.ID = y)
    (hq : q.constraints.rank = some n) (hle : r y ≤ n) :
    Tracks x r t [.push q] (Function.update r y n) t := by
  refine ⟨?_, by simp [Event.Terminal]⟩
  subst hy
  by_cases hx : q.ID = x
  · subst hx
    simp [pushedUnder, climb, hq, hle]
  · simp [pushedUnder, climb, hx, Ne.symm hx]

theorem terminal {ev : Event} {y : BundleID} (hev : ev.Terminal y) :
    Tracks x r t [ev] r (Function.update t y true) := by
  have hpush : pushedUnder x [ev] = [] := by cases ev <;> simp_all [Event.Terminal, pushedUnder]
  refine ⟨by rw [hpush]; rfl, ?_⟩
  by_cases hx : x = y
  · subst hx
    simpa using .inr hev
  · simp only [Function.update_noteq hx, List.mem_singleton, exists_eq_left]
    exact ⟨.inl, fun h => h.resolve_right fun h' => hx (h'.unique hev)⟩

/-- An event that neither pushes nor ends a stay. -/
theorem silent {ev : Event} (hp : ∀ q, ev ≠ .push q) (ht : ¬ev.Terminal x)
    (r : BundleID → Fin 4) (t : BundleID → Bool) : Tracks x r t [ev] r t := by
  have hpush : pushedUnder x [ev] = [] := by cases ev <;> simp_all [pushedUnder]
  refine ⟨by rw [hpush]; rfl, ?_⟩
  simp only [List.mem_singleton, exists_eq_left]
  exact ⟨.inl, fun h' => h'.resolve_right ht⟩

theorem quiet {ev : Event} (h : ev.Quiet) (r : BundleID → Fin 4) (t : BundleID → Bool) :
    Tracks x r t [ev] r t :=
  silent (fun q hq => by subst hq; exact h) (h.not_terminal x) r t

/-- Tracking `x` reads the ranks and marks at `x` only. -/
theorem congr {evs : List Event} (h : Tracks x r t evs r' t') {r₁ : BundleID → Fin 4}
    {t₁ : BundleID → Bool} (hr : r₁ x = r x) (ht : t₁ x = t x) : Tracks x r₁ t₁ evs r' t' := by
  unfold Tracks at *
  rwa [hr, ht]

end Tracks

section Reading

variable {Rep : Rep} {subj : BundleID → Prop} {i : BundleID} {pb : PrimaryBlock}

/-- A run tracks every identity whose tracking its report blocks keep. -/
theorem Seg.tracks {x : BundleID}
    (hblk : ∀ bp s r m blk m', bp.ID = i → Rep bp s r m blk m' →
      Tracks x m.rank m.term blk m'.rank m'.term)
    {m m' : Mon} {evs : List Event} (h : Seg Rep subj i pb m evs m') :
    Tracks x m.rank m.term evs m'.rank m'.term := by
  induction h with
  | nil m => exact .nil _ _
  | advance q n hid _ hrank _ hle _ ih => exact (Tracks.push q hid hrank hle).trans ih
  | settle q hid _ hempty _ _ ih =>
    exact (Tracks.push q hid (hempty ▸ Constraints.rank_none) (by omega)).trans ih
  | @delete m m₁ _ _ q reason blk hid _ hempty hblk' _ _ ih =>
    have h₁ : Tracks x m.rank m.term blk m₁.rank m₁.term := by
      rcases hblk' with ⟨rfl, rfl⟩ | ⟨bp, hbp, hrep⟩
      exacts [.nil _ _, hblk _ _ _ _ _ _ hbp hrep]
    exact h₁.trans ((Tracks.push q hid (hempty ▸ Constraints.rank_none) (by omega)).trans
      ((Tracks.terminal (show (Event.deletion q reason).Terminal i from hid)).trans ih))
  | terminal ev q hev hid _ ih =>
    refine (Tracks.terminal ?_).trans ih
    rcases hev with rfl | rfl
    exacts [hid, ⟨rfl, hid⟩]
  | quiet ev hq _ ih => exact (Tracks.quiet hq _ _).trans ih
  | subject p _ _ _ ih =>
    exact ((Tracks.terminal (show (Event.deliveredReport p.PurgeConstraints).Terminal p.ID from rfl)).trans
      ((Tracks.push p.PurgeConstraints rfl Constraints.rank_none (by omega)).trans ih))
  | report bp s r blk hbp _ hrep _ ih => exact (hblk _ _ _ _ _ _ hbp hrep).trans ih
theorem TermRank.frame {m m' : Mon} (h : TermRank i m) (howe : m'.owe = m.owe)
    (hown : (m'.rank i = m.rank i ∧ m'.term i = m.term i) ∨ (m'.rank i = 3 ∧ m'.term i = true)) :
    TermRank i m' := by
  unfold TermRank at *
  rcases hown with ⟨hr, ht⟩ | ⟨hr, ht⟩ <;> simp_all

/-- The run's own mark stays tied to its rank. -/
theorem Seg.termRank (hR : RepOK Rep i) {m m' : Mon} {evs : List Event}
    (h : Seg Rep subj i pb m evs m') (ht : TermRank i m) : TermRank i m' := by
  induction h with
  | nil => exact ht
  | @advance m₀ _ _ q n _ _ _ hn hle _ ih =>
    refine ih ?_
    have h₁ : m₀.rank i ≠ 3 := by omega
    have h₂ : n ≠ 3 := by omega
    simp only [TermRank, Function.update_same] at ht ⊢
    simp_all
  | settle q _ _ _ howe _ ih =>
    refine ih ?_
    simp only [TermRank] at ht ⊢
    simp_all
  | delete => exact ‹TermRank i _ → _› (by simp [TermRank])
  | terminal => exact ‹TermRank i _ → _› (by simp [TermRank])
  | quiet _ _ _ ih => exact ih ht
  | @subject m₀ _ _ p _ _ _ ih =>
    refine ih ?_
    by_cases hp : p.ID = i
    · subst hp
      simp [TermRank]
    · simpa [TermRank, Function.update_noteq (Ne.symm hp)] using ht
  | report bp s r blk hbp _ hrep _ ih =>
    have hok := hR _ _ _ _ _ _ hbp hrep
    exact ih (ht.frame hok.owe (hok.own.imp_right (·.2)))

end Reading

end Dtn7
