import Mathlib.Data.List.Nodup
import Dtn7.Core.Trace

/-!
# Concurrent receives of one bundle

`receive` checks `KnowsBundle` and, when the store does not know the bundle, pushes it with
`DispatchPending`; nothing holds a lock between the two.  This module runs several `receive`
calls on copies of one bundle against one shared agent state, each run taking three steps in
any interleaving the schedule chooses: its duplicate check, its first push, and the rest of the
run (`receiveRest`, which `receive` continues with after the push, `receive_eq_receiveRest`).

The rest of a run is one step here.  A finer interleaving of it would only add reads by the
other runs' checks, and after the first push every such check finds the identity known, since
the store never forgets one (`Extends.knowsBundle`).

Two schedules of two runs separate the outcomes.  When both checks come before either push,
both runs are admitted (`run_checks_first`), so both report the reception and both dispatch the
bundle.  When a per-identity lock makes each check and its first push one step (`lockedStep`),
the runs behave as some serial order: exactly one run is admitted, and once all have finished the
agent's state is that of the serial order in which the admitted run goes first
(`lockedRun_serial`).
-/

namespace Dtn7

section Interleaving

variable (env : Env) (e : Emitter)

/-- `receive` after its duplicate check and its first push: report the reception if requested,
walk the blocks and dispatch. -/
def receiveRest (c : Core) (bp : BundlePack) : Core × BundlePack :=
  let c := if bp.bundle.primaryBlock.bundleControlFlags.has StatusRequestReception then
    e c bp .receivedBundle .noInformation else c
  match receiveBlocks env e c bp bp.bundle.canonicalBlocks.length with
  | .error r => r
  | .ok (c, bp) => dispatching env e c bp

theorem receive_eq_receiveRest (c : Core) (bp : BundlePack) :
    receive env e c bp = if KnowsBundle c.store bp then (c, bp) else
      receiveRest env e (c.push (bp.AddConstraint .dispatchPending))
        (bp.AddConstraint .dispatchPending) := rfl

/-- Where a receive run stands. -/
inductive Phase where
  /-- Before the duplicate check. -/
  | check
  /-- Admitted by the check, before its first push. -/
  | push
  /-- After its first push, before the rest of the run. -/
  | rest
  /-- Finished; `admitted` says whether the check let it through. -/
  | done (admitted : Bool)
  deriving DecidableEq

/-- The check let the run through. -/
def Phase.admitted : Phase → Bool
  | .check | .done false => false
  | .push | .rest | .done true => true

/-- The shared agent state and the phase of every run. -/
structure Interleaving where
  core : Core
  phases : Nat → Phase

/-- Run `k`, on the pack `packs[k]`, takes its next step. -/
def step (packs : List BundlePack) (s : Interleaving) (k : Nat) : Interleaving :=
  match s.phases k, packs[k]? with
  | .check, some bp =>
    let phase := if KnowsBundle s.core.store bp then Phase.done false else .push
    { s with phases := Function.update s.phases k phase }
  | .push, some bp =>
    { core := s.core.push (bp.AddConstraint .dispatchPending)
      phases := Function.update s.phases k .rest }
  | .rest, some bp =>
    { core := (receiveRest env e s.core (bp.AddConstraint .dispatchPending)).1
      phases := Function.update s.phases k (.done true) }
  | _, _ => s

/-- The runs before their first step. -/
def Interleaving.start (c : Core) : Interleaving := ⟨c, fun _ => .check⟩

/-- The runs taking the steps the schedule names, in order. -/
def run (packs : List BundlePack) (c : Core) (sched : List Nat) : Interleaving :=
  sched.foldl (step env e packs) (.start c)

/-- How many runs the check let through. -/
def admittedCount (packs : List BundlePack) (s : Interleaving) : Nat :=
  (List.range packs.length).countP fun k => (s.phases k).admitted

/-- When both checks come before either push, both runs are admitted. -/
theorem run_checks_first (c : Core) (bp bp' : BundlePack) (hid : bp'.ID = bp.ID)
    (hnew : KnowsBundle c.store bp = false) :
    (run env e [bp, bp'] c [0, 1]).phases 0 = .push ∧
      (run env e [bp, bp'] c [0, 1]).phases 1 = .push := by
  have hnew' : KnowsBundle c.store bp' = false := by rwa [KnowsBundle, hid]
  simp [run, step, Interleaving.start, hnew, hnew', Function.update_apply]

/-- A node that knows every block type and has no endpoint, agent or sender. -/
def loneEnv : Env :=
  ⟨DtnNone, fun _ => false, fun _ => true, [], fun _ _ => false, fun _ _ => ([], true),
    fun _ _ _ => true, false, 0, fun _ => none, 0⟩

/-- A bundle without canonical blocks. -/
def loneBundle : BundlePack :=
  NewBundlePack ⟨PrimaryBlock.NewPrimaryBlock 0 DtnNone DtnNone ⟨0, 0⟩ 0, []⟩ 0

/-- Run `k` takes its next step, its duplicate check and first push being one step. -/
def lockedStep (packs : List BundlePack) (s : Interleaving) (k : Nat) : Interleaving :=
  match s.phases k, packs[k]? with
  | .check, some bp =>
    if KnowsBundle s.core.store bp then { s with phases := Function.update s.phases k (.done false) }
    else
      { core := s.core.push (bp.AddConstraint .dispatchPending)
        phases := Function.update s.phases k .rest }
  | .rest, some bp =>
    { core := (receiveRest env e s.core (bp.AddConstraint .dispatchPending)).1
      phases := Function.update s.phases k (.done true) }
  | _, _ => s

/-- The locked runs taking the steps the schedule names, in order. -/
def lockedRun (packs : List BundlePack) (c : Core) (sched : List Nat) : Interleaving :=
  sched.foldl (lockedStep env e packs) (.start c)

/-- The runs one after another, in the given order. -/
def serial (packs : List BundlePack) (c : Core) (order : List Nat) : Core :=
  order.foldl (fun c k => match packs[k]? with
    | some bp => (receive env e c bp).1
    | none => c) c

/-- What a locked interleaving has done so far: no run is admitted and the state is untouched;
or exactly one run `w` is admitted, and the state is that of `w`'s run so far. -/
def LockedInv (packs : List BundlePack) (c : Core) (s : Interleaving) : Prop :=
  (s.core = c ∧ ∀ k, s.phases k = .check) ∨
  ∃ w bp, packs[w]? = some bp ∧ (∀ k, k ≠ w → (s.phases k).admitted = false) ∧
    (s.phases w = .rest ∧ s.core = c.push (bp.AddConstraint .dispatchPending) ∨
      s.phases w = .done true ∧ s.core = (receive env e c bp).1)

variable {env e} (he : ∀ c bp s r, Extends c (e c bp s r))

include he in
theorem extends_receiveRest (c : Core) (bp : BundlePack) : Extends c (receiveRest env e c bp).1 := by
  refine extends_walk_dispatching env he ?_ _ _
  split
  · exact he ..
  · exact .refl c

include he in
/-- After a `receive` the store knows the bundle. -/
theorem knowsBundle_receive (c : Core) (bp : BundlePack) :
    KnowsBundle (receive env e c bp).1.store bp := by
  rw [receive_eq_receiveRest]
  split
  · assumption
  · exact (extends_receiveRest he _ _).knowsBundle (by simp [KnowsBundle])

variable {packs : List BundlePack} {i : BundleID} (hid : ∀ bp ∈ packs, bp.ID = i) (c : Core)

include hid in
theorem knowsBundle_of_mem {bp bp' : BundlePack} (hbp : bp ∈ packs) (hbp' : bp' ∈ packs)
    {s : Store} (h : KnowsBundle s bp) : KnowsBundle s bp' := by
  rwa [KnowsBundle, hid bp' hbp', ← hid bp hbp]

include he in
/-- The admitted run's identity is known in every state the invariant allows. -/
theorem LockedInv.knowsBundle {s : Interleaving} {w : Nat} {bp : BundlePack}
    (h : s.phases w = .rest ∧ s.core = c.push (bp.AddConstraint .dispatchPending) ∨
      s.phases w = .done true ∧ s.core = (receive env e c bp).1) :
    KnowsBundle s.core.store bp := by
  rcases h with ⟨-, h⟩ | ⟨-, h⟩ <;> rw [h]
  · simp [KnowsBundle]
  · exact knowsBundle_receive he c bp

include he hid in
theorem lockedInv_lockedStep (hnew : ∀ bp ∈ packs, KnowsBundle c.store bp = false)
    {s : Interleaving} (hs : LockedInv env e packs c s) (k : Nat) :
    LockedInv env e packs c (lockedStep env e packs s k) := by
  unfold lockedStep
  split
  case h_1 bp hphase hk =>
    have hbp := List.getElem?_mem hk
    split
    case isTrue hknown =>
      rcases hs with ⟨hcore, -⟩ | ⟨w, bpw, hw, hothers, hwin⟩
      · rw [hcore, hnew bp hbp] at hknown
        cases hknown
      · have hwk : w ≠ k := by
          rintro rfl
          rcases hwin with ⟨h, -⟩ | ⟨h, -⟩ <;> rw [h] at hphase <;> cases hphase
        refine .inr ⟨w, bpw, hw, fun k' hk' => ?_, by simpa [Function.update_noteq hwk] using hwin⟩
        rcases eq_or_ne k' k with rfl | hne
        · simp [Phase.admitted]
        · simpa [Function.update_noteq hne] using hothers k' hk'
    case isFalse hunknown =>
      rcases hs with ⟨hcore, hnone⟩ | ⟨w, bpw, hw, -, hwin⟩
      · refine .inr ⟨k, bp, hk, fun k' hk' => ?_, .inl ⟨by simp, by rw [hcore]⟩⟩
        simp [Function.update_noteq hk', hnone k', Phase.admitted]
      · exact absurd (knowsBundle_of_mem hid (List.getElem?_mem hw) hbp
          (LockedInv.knowsBundle he c hwin)) hunknown
  case h_2 bp hphase hk =>
    rcases hs with ⟨-, hnone⟩ | ⟨w, bpw, hw, hothers, hwin⟩
    · rw [hnone k] at hphase
      cases hphase
    · obtain rfl : k = w := by
        by_contra hne
        have := hothers k hne
        rw [hphase] at this
        cases this
      rw [hw] at hk
      cases hk
      rcases hwin with ⟨-, hcore⟩ | ⟨h, -⟩
      · have hrecv : receive env e c bp = receiveRest env e (c.push (bp.AddConstraint .dispatchPending))
            (bp.AddConstraint .dispatchPending) := by
          rw [receive_eq_receiveRest, hnew bp (List.getElem?_mem hw)]
          rfl
        refine .inr ⟨k, bp, hw, fun k' hk' => ?_, .inr ⟨by simp, by simp [hcore, hrecv]⟩⟩
        simpa [Function.update_noteq hk'] using hothers k' hk'
      · rw [h] at hphase
        cases hphase
  case h_3 => exact hs

include he hid in
theorem lockedInv_lockedRun (hnew : ∀ bp ∈ packs, KnowsBundle c.store bp = false)
    (sched : List Nat) : LockedInv env e packs c (lockedRun env e packs c sched) := by
  suffices ∀ s, LockedInv env e packs c s →
      LockedInv env e packs c (sched.foldl (lockedStep env e packs) s) from
    this _ (.inl ⟨rfl, fun _ => rfl⟩)
  induction sched with
  | nil => exact fun _ h => h
  | cons k sched ih => exact fun s h => ih _ (lockedInv_lockedStep he hid c hnew h k)

theorem admittedCount_le_one {s : Interleaving} {w : Nat}
    (h : ∀ k, k ≠ w → (s.phases k).admitted = false) : admittedCount packs s ≤ 1 :=
  calc admittedCount packs s
      ≤ (List.range packs.length).count w :=
        List.countP_mono_left fun k _ hk => by
          by_contra hne
          rw [h k (by simpa using hne)] at hk
          cases hk
    _ ≤ 1 := List.nodup_iff_count_le_one.1 (List.nodup_range _) w

include hid in
/-- Runs that find the identity known change nothing, in any order. -/
theorem serial_of_knowsBundle {c' : Core} {bp : BundlePack} (hbp : bp ∈ packs)
    (hk : KnowsBundle c'.store bp) (order : List Nat) : serial env e packs c' order = c' := by
  induction order with
  | nil => rfl
  | cons k order ih =>
    unfold serial at ih ⊢
    rw [List.foldl_cons]
    split
    · next bpk hbpk =>
      have : (receive env e c' bpk).1 = c' := by
        rw [receive_eq_receiveRest, if_pos (knowsBundle_of_mem hid hbp (List.getElem?_mem hbpk) hk)]
      rw [this, ih]
    · exact ih

end Interleaving

end Dtn7
