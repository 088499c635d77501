import Mathlib.Data.List.Nodup
import Dtn7.Core.Reports

/-!
# What a run does to the store

The store's side of a run, read off `Seg`.  A run on a bundle of identity `i` pushes under `i`
the bundle's own primary block, purges packs already stored, and, through its status reports,
pushes reports under identities the IdKeeper issues afresh.  As long as the IdKeeper covers
every stored bundle of the sources it numbers (`Covers`), this node among them, those fresh
identities are new to the store.  So every push of a run agrees with the pack stored under its
identity (`pushesAgree`), and every deletion of a run is of `i` itself, at most once, or of a
report new to the store (`RunFacts`).  `Dtn7.Core.Sequences` carries this over whole sequences
of calls.
-/

namespace Dtn7

/-! ## Pushes that agree with the store -/

/-- Every push of the events finds under its identity no pack or a pack of the same primary
block, the store growing by the pushes. -/
def pushesAgree : Store → List Event → Bool
  | _, [] => true
  | s, .push q :: evs =>
    (s.packs q.ID).all (·.bundle.primaryBlock == q.bundle.primaryBlock) &&
      pushesAgree (s.Push q) evs
  | s, _ :: evs => pushesAgree s evs

theorem pushesAgree_append (s : Store) (evs evs' : List Event) :
    pushesAgree s (evs ++ evs') = (pushesAgree s evs && pushesAgree (applyPushes s evs) evs') := by
  induction evs generalizing s with
  | nil => rfl
  | cons ev evs ih =>
    cases ev
    case push q => simp [pushesAgree, applyPushes, ih, Bool.and_assoc]
    all_goals exact ih s

/-- `pushesAgree` says what it is for: every push of the events finds under its identity, in the
store the pushes before it have made, no pack or a pack of its primary block. -/
theorem pushesAgree_iff (s : Store) (evs : List Event) : pushesAgree s evs = true ↔
    ∀ pre q post, evs = pre ++ .push q :: post →
      ∀ p, (applyPushes s pre).packs q.ID = some p →
        p.bundle.primaryBlock = q.bundle.primaryBlock := by
  constructor
  · rintro h pre q post rfl p hp
    rw [pushesAgree_append, Bool.and_eq_true] at h
    have h₂ := h.2
    simp only [pushesAgree, hp, Option.all_some, Bool.and_eq_true, beq_iff_eq] at h₂
    exact h₂.1
  · induction evs generalizing s with
    | nil => intro; rfl
    | cons ev evs ih =>
      intro h
      cases ev
      case push q₀ =>
        refine Bool.and_eq_true_iff.2 ⟨?_, ih _ fun pre q post he =>
          h (.push q₀ :: pre) q post (by rw [he]; rfl)⟩
        cases hq : s.packs q₀.ID with
        | none => rfl
        | some p => simpa using h [] q₀ evs rfl p hq
      all_goals
        refine ih s fun pre q post he p hp => h (_ :: pre) q post (by rw [he]; rfl) p ?_
        exact hp

/-- A store only grows. -/
theorem isSome_of_applyPushes {s : Store} {x : BundleID} {evs : List Event}
    (h : (s.packs x).isSome) : ((applyPushes s evs).packs x).isSome :=
  isSome_applyPushes h evs

/-! ## Deletions and deletion reports -/

/-- The identity a deletion event deletes. -/
def Event.deletedId : Event → Option BundleID
  | .deletion bp _ => some bp.ID
  | _ => none

/-- The identity a `DeletedBundle` status report is about. -/
def Event.deletionReportId : Event → Option BundleID
  | .statusReport bp .deletedBundle _ => some bp.ID
  | _ => none

/-- The identities the events delete, in order. -/
def deletedIds (evs : List Event) : List BundleID := evs.filterMap Event.deletedId

/-- The identities the events' `DeletedBundle` status reports are about, in order. -/
def deletionReportIds (evs : List Event) : List BundleID := evs.filterMap Event.deletionReportId

theorem Event.Quiet.deletedId_eq_none {ev : Event} (h : ev.Quiet) : ev.deletedId = none := by
  cases ev <;> simp_all [Event.Quiet, Event.deletedId]

theorem Event.Quiet.deletionReportId_eq_none {ev : Event} (h : ev.Quiet) :
    ev.deletionReportId = none := by
  cases ev <;> simp_all [Event.Quiet, Event.deletionReportId]

@[simp] theorem deletedIds_append (evs evs' : List Event) :
    deletedIds (evs ++ evs') = deletedIds evs ++ deletedIds evs' := List.filterMap_append ..

@[simp] theorem deletionReportIds_append (evs evs' : List Event) :
    deletionReportIds (evs ++ evs') = deletionReportIds evs ++ deletionReportIds evs' :=
  List.filterMap_append ..

@[simp] theorem deletedIds_cons (ev : Event) (evs : List Event) :
    deletedIds (ev :: evs) = ev.deletedId.toList ++ deletedIds evs := by
  cases h : ev.deletedId <;> simp only [deletedIds, List.filterMap_cons, h] <;> rfl

@[simp] theorem deletionReportIds_cons (ev : Event) (evs : List Event) :
    deletionReportIds (ev :: evs) = ev.deletionReportId.toList ++ deletionReportIds evs := by
  cases h : ev.deletionReportId <;> simp only [deletionReportIds, List.filterMap_cons, h] <;> rfl

@[simp] theorem deletedIds_nil : deletedIds [] = [] := rfl

@[simp] theorem deletionReportIds_nil : deletionReportIds [] = [] := rfl

/-! ## Identities the IdKeeper has issued -/

/-- The IdKeeper `k` has issued the sequence number of `x` for its source. -/
def IssuedBy (k : IdKeeper) (x : BundleID) : Prop :=
  ∃ h, k.data x.sourceNode = some h ∧ x.timestamp.sequenceNumber ≤ h

/-- Every bundle stored in `s` whose source is among `P` has a number the IdKeeper `k` has
issued. -/
def Covers (P : EndpointID → Prop) (k : IdKeeper) (s : Store) : Prop :=
  ∀ x p, s.packs x = some p → P x.sourceNode → IssuedBy k x

theorem IssuedBy.mono {k k' : IdKeeper} {x : BundleID} (h : IssuedBy k x)
    (hk : KeeperGrows k k') : IssuedBy k' x := by
  obtain ⟨n, hn, hle⟩ := h
  obtain ⟨n', hn', hle'⟩ := hk _ n hn
  exact ⟨n', hn', hle.trans hle'⟩

theorem IssuedBy.update (k : IdKeeper) (b : Bundle) : IssuedBy (k.update b).1 (k.update b).2.ID :=
  ⟨_, by simp [IdKeeper.update, Bundle.ID, PrimaryBlock.id], le_rfl⟩

variable {P : EndpointID → Prop}

theorem Covers.mono {k k' : IdKeeper} {s : Store} (h : Covers P k s) (hk : KeeperGrows k k') :
    Covers P k' s := fun x p hx hP => (h x p hx hP).mono hk

theorem Covers.push {k : IdKeeper} {s : Store} (h : Covers P k s) {q : BundlePack}
    (hq : P q.ID.sourceNode → IssuedBy k q.ID) : Covers P k (s.Push q) := by
  intro x p hx hP
  rw [Store.packs_Push] at hx
  split at hx
  · subst_vars
    exact hq hP
  · exact h x p hx hP

/-- A bundle of a source the IdKeeper covers gets, when the IdKeeper numbers it, an identity
the store does not hold. -/
theorem packs_update_eq_none {k : IdKeeper} {s : Store} (h : Covers P k s) (b : Bundle)
    (hP : P b.primaryBlock.sourceNode) : s.packs (k.update b).2.ID = none := by
  cases hx : s.packs (k.update b).2.ID with
  | none => rfl
  | some p =>
    obtain ⟨n, hn, hle⟩ := h _ p hx
      (by simpa [IdKeeper.update, Bundle.ID, PrimaryBlock.id] using hP)
    simp only [IdKeeper.update, Bundle.ID, PrimaryBlock.id] at hn hle
    simp only [IdKeeper.nextSequence, hn] at hle
    split at hle <;> omega

/-! ## The facts of a run -/

/-- The pack stored under `i`, if any, has the primary block `pb`. -/
def OwnPB (i : BundleID) (pb : PrimaryBlock) (s : Store) : Prop :=
  ∀ p, s.packs i = some p → p.bundle.primaryBlock = pb

/-- Every pack stored under `x` in `s'` stands for one stored under `x` in `s`, with the same
primary block. -/
def KeepsPB (x : BundleID) (s s' : Store) : Prop :=
  ∀ p', s'.packs x = some p' →
    ∃ p, s.packs x = some p ∧ p'.bundle.primaryBlock = p.bundle.primaryBlock

namespace KeepsPB

variable {x : BundleID} {s s₁ s' : Store}

theorem refl (s : Store) : KeepsPB x s s := fun p hp => ⟨p, hp, rfl⟩

theorem trans (h : KeepsPB x s s₁) (h' : KeepsPB x s₁ s') : KeepsPB x s s' := fun p'' hp'' => by
  obtain ⟨p', hp', he'⟩ := h' p'' hp''
  obtain ⟨p, hp, he⟩ := h p' hp'
  exact ⟨p, hp, he'.trans he⟩

theorem push_ne (s : Store) {q : BundlePack} (hq : q.ID ≠ x) : KeepsPB x s (s.Push q) := by
  simpa [KeepsPB, Store.packs_Push, Ne.symm hq] using refl (x := x) s

/-- Purging the constraints of a stored pack keeps its primary block. -/
theorem push_purge {p : BundlePack} (hp : s.packs p.ID = some p) :
    KeepsPB x s (s.Push p.PurgeConstraints) := by
  by_cases hx : p.ID = x
  · subst hx
    intro p' hp'
    simp only [Store.packs_Push, BundlePack.ID_PurgeConstraints, if_true, Option.some.injEq] at hp'
    exact ⟨p, hp, by rw [← hp']; rfl⟩
  · exact push_ne s hx

theorem ownPB {i : BundleID} {pb : PrimaryBlock} (h : KeepsPB i s s') (hown : OwnPB i pb s) :
    OwnPB i pb s' := fun p' hp' => by
  obtain ⟨p, hp, he⟩ := h p' hp'
  exact he.trans (hown p hp)

end KeepsPB

/-- A push of a pack with the primary block `pb`. -/
theorem OwnPB.push {i : BundleID} {pb : PrimaryBlock} {s : Store} {q : BundlePack}
    (hpb : q.bundle.primaryBlock = pb) (h : OwnPB i pb s) : OwnPB i pb (s.Push q) := by
  intro p hp
  rw [Store.packs_Push] at hp
  split at hp
  · cases hp
    exact hpb
  · exact h p hp

/-- What a report block about the pack of identity `i`, with status `s`, does to the store when
the IdKeeper covers the sources `P`. -/
structure FreshBlock (P : EndpointID → Prop) (i : BundleID) (s : StatusInformationPos) (m : Mon)
    (blk : List Event) (m' : Mon) : Prop where
  store : m'.store = applyPushes m.store blk
  keeper : KeeperGrows m.keeper m'.keeper
  deleted : m'.deleted = m.deleted
  own : KeepsPB i m.store m'.store
  covers : Covers P m'.keeper m'.store
  agree : pushesAgree m.store blk = true
  fresh : ∀ x ∈ deletedIds blk, x ≠ i ∧ m.store.packs x = none
  nodup : (deletedIds blk).Nodup
  stored : ∀ x ∈ deletedIds blk, (m'.store.packs x).isSome
  reports : (deletionReportIds blk).Sublist (if s = .deletedBundle then [i] else [])

/-- Every block `Rep` describes for a report about the pack of identity `i`, from a state whose
IdKeeper covers the sources `P`, keeps `FreshBlock`. -/
def FreshOK (P : EndpointID → Prop) (Rep : Rep) (i : BundleID) : Prop :=
  ∀ bp s r m blk m', bp.ID = i → Rep bp s r m blk m' → Covers P m.keeper m.store →
    FreshBlock P i s m blk m'

/-- What a piece of a run on `i` does to the store: it pushes what agrees with the store, keeps
the IdKeeper covering `P`, and deletes `i`, at most once and only if the run has not deleted it
yet, or identities new to the store, each once. -/
structure RunFacts (P : EndpointID → Prop) (i : BundleID) (m : Mon) (evs : List Event)
    (m' : Mon) : Prop where
  store : m'.store = applyPushes m.store evs
  keeper : KeeperGrows m.keeper m'.keeper
  covers : Covers P m'.keeper m'.store
  agree : pushesAgree m.store evs = true
  fresh : ∀ x ∈ deletedIds evs, x = i ∨ m.store.packs x = none
  nodup : (deletedIds evs).Nodup
  once : i ∈ deletedIds evs → m.deleted = false
  deletedMono : m.deleted = true → m'.deleted = true
  deletedOf : i ∈ deletedIds evs → m'.deleted = true
  stored : ∀ x ∈ deletedIds evs, (m'.store.packs x).isSome

namespace RunFacts

variable {i : BundleID}

theorem nil {m : Mon} (h : Covers P m.keeper m.store) : RunFacts P i m [] m :=
  ⟨rfl, .refl _, h, rfl, by simp, .nil, by simp, id, by simp, by simp⟩

theorem trans {m m₁ m' : Mon} {evs evs' : List Event} (h : RunFacts P i m evs m₁)
    (h' : RunFacts P i m₁ evs' m') : RunFacts P i m (evs ++ evs') m' where
  store := by rw [h'.store, h.store, applyPushes_append]
  keeper := h.keeper.trans h'.keeper
  covers := h'.covers
  agree := by rw [pushesAgree_append, h.agree, ← h.store, h'.agree]; rfl
  fresh x hx := by
    rw [deletedIds_append, List.mem_append] at hx
    rcases hx with hx | hx
    · exact h.fresh x hx
    · refine (h'.fresh x hx).imp_right fun hnone => Option.not_isSome_iff_eq_none.1 fun hs => ?_
      have hs' : ((applyPushes m.store evs).packs x).isSome := isSome_of_applyPushes hs
      simp [← h.store, hnone] at hs'
  nodup := by
    rw [deletedIds_append, List.nodup_append]
    refine ⟨h.nodup, h'.nodup, fun x hx hx' => ?_⟩
    rcases h'.fresh x hx' with rfl | hnone
    · exact absurd (h'.once hx') (by simp [h.deletedOf hx])
    · simpa [hnone] using h.stored x hx
  once hx := by
    rw [deletedIds_append, List.mem_append] at hx
    rcases hx with hx | hx
    · exact h.once hx
    · cases hm : m.deleted
      · rfl
      · simpa [h.deletedMono hm] using h'.once hx
  deletedMono hm := h'.deletedMono (h.deletedMono hm)
  deletedOf hx := by
    rw [deletedIds_append, List.mem_append] at hx
    rcases hx with hx | hx
    exacts [h'.deletedMono (h.deletedOf hx), h'.deletedOf hx]
  stored x hx := by
    rw [deletedIds_append, List.mem_append] at hx
    rcases hx with hx | hx
    · rw [h'.store]
      exact isSome_of_applyPushes (h.stored x hx)
    · exact h'.stored x hx

/-- A single event that deletes nothing. -/
theorem single {m m' : Mon} (ev : Event) (hd : ev.deletedId = none)
    (hs : m'.store = applyPushes m.store [ev]) (hk : m'.keeper = m.keeper)
    (hcov : Covers P m'.keeper m'.store) (hagree : pushesAgree m.store [ev] = true)
    (hdel : m'.deleted = m.deleted) : RunFacts P i m [ev] m' where
  store := hs
  keeper := hk ▸ .refl _
  covers := hcov
  agree := hagree
  fresh := by simp [hd]
  nodup := by simp [hd]
  once := by simp [hd]
  deletedMono := by simp [hdel]
  deletedOf := by simp [hd]
  stored := by simp [hd]

/-- An event that neither pushes nor deletes. -/
theorem silent {m m' : Mon} (ev : Event) (hp : ∀ q, ev ≠ .push q) (hd : ev.deletedId = none)
    (hcov : Covers P m.keeper m.store) (hs : m'.store = m.store) (hk : m'.keeper = m.keeper)
    (hdel : m'.deleted = m.deleted) : RunFacts P i m [ev] m' :=
  single ev hd (by cases ev <;> simp_all [applyPushes]) hk (hs ▸ hk ▸ hcov)
    (by cases ev <;> simp_all [pushesAgree]) hdel

/-- A push that agrees with the store, of an identity the IdKeeper covers. -/
theorem push {m m' : Mon} (q : BundlePack)
    (hq : ∀ p, m.store.packs q.ID = some p → p.bundle.primaryBlock = q.bundle.primaryBlock)
    (hiss : P q.ID.sourceNode → IssuedBy m.keeper q.ID) (hcov : Covers P m.keeper m.store)
    (hs : m'.store = m.store.Push q) (hk : m'.keeper = m.keeper)
    (hdel : m'.deleted = m.deleted) : RunFacts P i m [.push q] m' :=
  single _ rfl hs hk (hs ▸ hk ▸ hcov.push hiss)
    (by cases hp : m.store.packs q.ID <;> simp [pushesAgree, hp, hq]) hdel

/-- The deletion of the run's bundle, stored and not deleted yet. -/
theorem deletion {m m' : Mon} (q : BundlePack) (reason : StatusReportReason) (hid : q.ID = i)
    (hstored : (m.store.packs i).isSome) (hdel : m.deleted = false)
    (hcov : Covers P m.keeper m.store) (hs : m'.store = m.store) (hk : m'.keeper = m.keeper)
    (hdel' : m'.deleted = true) : RunFacts P i m [.deletion q reason] m' where
  store := hs
  keeper := hk ▸ .refl _
  covers := hs ▸ hk ▸ hcov
  agree := rfl
  fresh := by simp [Event.deletedId, hid]
  nodup := by simp [Event.deletedId]
  once _ := hdel
  deletedMono _ := hdel'
  deletedOf _ := hdel'
  stored := by simpa [Event.deletedId, hid, hs] using hstored

/-- A report block, read through its contract. -/
theorem block {m m' : Mon} {s : StatusInformationPos} {blk : List Event}
    (h : FreshBlock P i s m blk m') : RunFacts P i m blk m' where
  store := h.store
  keeper := h.keeper
  covers := h.covers
  agree := h.agree
  fresh x hx := .inr (h.fresh x hx).2
  nodup := h.nodup
  once hx := absurd rfl (h.fresh i hx).1
  deletedMono hm := h.deleted ▸ hm
  deletedOf hx := absurd rfl (h.fresh i hx).1
  stored := h.stored

end RunFacts

/-! ## Whole runs -/

section Runs

variable {Rep : Rep} {subj : BundleID → Prop} {i : BundleID} {pb : PrimaryBlock}

/-- A run whose report blocks keep `FreshBlock`, from a state whose IdKeeper covers `P` and
whose pack under `i`, if any, has the run's primary block, keeps `RunFacts`; its deletion reports
are among its deletions. -/
theorem Seg.runFacts (hF : FreshOK P Rep i) {m m' : Mon} {evs : List Event}
    (h : Seg Rep subj i pb m evs m') (hcov : Covers P m.keeper m.store)
    (hown : OwnPB i pb m.store) (hi : P i.sourceNode → IssuedBy m.keeper i) :
    RunFacts P i m evs m' ∧ (deletionReportIds evs).Sublist (deletedIds evs) := by
  induction h with
  | nil => exact ⟨.nil hcov, .slnil⟩
  | @advance m _ _ q _ hid hpb _ _ _ _ ih | @settle m _ _ q hid hpb _ _ _ ih =>
    obtain ⟨h₂, hr⟩ := ih (hcov.push (hid ▸ hi)) (hown.push hpb) hi
    exact ⟨(RunFacts.push q (fun p hp => (hown p (hid ▸ hp)).trans hpb.symm) (hid ▸ hi) hcov
      (by rfl) (by rfl) (by rfl)).trans h₂,
      by simpa [Event.deletionReportId, Event.deletedId] using hr⟩
  | @delete m m₁ _ evs q reason blk hid hpb _ hblk hdel _ ih =>
    obtain ⟨hb, hown₁, hrep⟩ : RunFacts P i m blk m₁ ∧ OwnPB i pb m₁.store ∧
        (deletionReportIds blk).Sublist [i] := by
      rcases hblk with ⟨rfl, rfl⟩ | ⟨bp, hbp, hrep⟩
      · exact ⟨.nil hcov, hown, List.nil_sublist _⟩
      · have hf := hF _ _ _ _ _ _ hbp hrep hcov
        exact ⟨.block hf, hf.own.ownPB hown, by simpa using hf.reports⟩
    have hi₁ : P i.sourceNode → IssuedBy m₁.keeper i := fun h => (hi h).mono hb.keeper
    have h₁ : RunFacts P i m₁ [.push q] { m₁ with store := m₁.store.Push q } :=
      RunFacts.push q
      (fun p hp => (hown₁ p (hid ▸ hp)).trans hpb.symm) (hid ▸ hi₁) hb.covers rfl rfl rfl
    have h₂ : RunFacts P i { m₁ with store := m₁.store.Push q } [.deletion q reason]
      { m₁ with
        store := m₁.store.Push q
        rank := Function.update m₁.rank i 3
        term := Function.update m₁.term i true
        deleted := true } :=
      RunFacts.deletion q reason hid (by simp [← hid]) hdel h₁.covers rfl rfl rfl
    obtain ⟨h₃, hr⟩ := ih h₂.covers (hown₁.push hpb) hi₁
    refine ⟨hb.trans (h₁.trans (h₂.trans h₃)), ?_⟩
    have hsub : (deletionReportIds blk ++ deletionReportIds evs).Sublist (i :: deletedIds evs) := by
      rcases List.sublist_singleton.mp hrep with h | h <;> rw [h]
      exacts [hr.cons i, hr.cons₂ i]
    simpa [Event.deletedId, Event.deletionReportId, hid] using
      hsub.trans (List.sublist_append_right (deletedIds blk) _)
  | @terminal m _ _ ev q hev _ _ ih =>
    obtain ⟨h₂, hr⟩ := ih hcov hown hi
    obtain ⟨hp, hd, hdr⟩ :
        (∀ q, ev ≠ .push q) ∧ ev.deletedId = none ∧ ev.deletionReportId = none := by
      rcases hev with rfl | rfl <;> exact ⟨fun _ => Event.noConfusion, rfl, rfl⟩
    exact ⟨(RunFacts.silent ev hp hd hcov (by rfl) (by rfl) (by rfl)).trans h₂, by
      simpa [hd, hdr] using hr⟩
  | @quiet m _ _ ev hq _ ih =>
    obtain ⟨h₂, hr⟩ := ih hcov hown hi
    exact ⟨(RunFacts.silent ev (fun q h => by subst h; exact hq) hq.deletedId_eq_none hcov rfl rfl
      rfl).trans h₂, by simpa [hq.deletedId_eq_none,
        hq.deletionReportId_eq_none] using hr⟩
  | @subject m _ _ p hp _ _ ih =>
    have h₁ : RunFacts P i m [.deliveredReport p.PurgeConstraints] m :=
      RunFacts.silent _ (fun _ => Event.noConfusion) rfl hcov rfl rfl rfl
    have h₂ : RunFacts P i m [.push p.PurgeConstraints] { m with
        store := m.store.Push p.PurgeConstraints
        rank := Function.update m.rank p.ID 3
        term := Function.update m.term p.ID true } :=
      RunFacts.push _ (fun p' hp' => by simp_all) (hcov _ p hp) hcov rfl rfl rfl
    obtain ⟨h₃, hr⟩ := ih h₂.covers ((KeepsPB.push_purge hp).ownPB hown) hi
    exact ⟨h₁.trans (h₂.trans h₃),
      by simpa [Event.deletionReportId, Event.deletedId] using hr⟩
  | report bp s r blk hbp hs hrep _ ih =>
    have hf := hF _ _ _ _ _ _ hbp hrep hcov
    obtain ⟨h₂, hr⟩ := ih hf.covers (hf.own.ownPB hown) fun h => (hi h).mono hf.keeper
    refine ⟨(RunFacts.block hf).trans h₂, ?_⟩
    have hnil : deletionReportIds blk = [] := List.eq_nil_of_sublist_nil (by simpa [hs] using
      hf.reports)
    simpa [hnil] using hr.trans (List.sublist_append_right _ _)

end Runs

/-! ## The runs of reports -/

section Reports

variable {subj : BundleID → Prop} {j : BundleID} {pb : PrimaryBlock}

theorem freshOK_noReports (i : BundleID) : FreshOK P NoReports i := by
  rintro bp s r m blk m' - ⟨rfl, rfl⟩ hcov
  exact ⟨rfl, .refl _, rfl, .refl _, hcov, rfl, by simp, .nil, by simp, List.nil_sublist _⟩

/-- A report's own run deletes only the report, sends no deletion report, and keeps the primary
block of every other identity's pack. -/
theorem Seg.quiet_noReports {m m' : Mon} {evs : List Event}
    (h : Seg NoReports subj j pb m evs m') :
    (∀ x ∈ deletedIds evs, x = j) ∧ deletionReportIds evs = [] ∧
      ∀ x, x ≠ j → KeepsPB x m.store m'.store := by
  induction h with
  | nil => exact ⟨by simp, rfl, fun x _ => .refl _⟩
  | advance q _ hid _ _ _ _ _ ih | settle q hid _ _ _ _ ih =>
    obtain ⟨hd, hr, hk⟩ := ih
    exact ⟨by simpa [Event.deletedId] using hd,
      by simpa [Event.deletionReportId] using hr,
      fun x hx => (KeepsPB.push_ne _ (by rwa [hid, ne_comm])).trans (hk x hx)⟩
  | delete q reason blk hid _ _ hblk _ _ ih =>
    obtain ⟨rfl, rfl⟩ : blk = [] ∧ _ := hblk.elim id fun ⟨_, _, h⟩ => h
    obtain ⟨hd, hr, hk⟩ := ih
    exact ⟨by simpa [Event.deletedId, hid] using hd,
      by simpa [Event.deletionReportId] using hr,
      fun x hx => (KeepsPB.push_ne _ (by rwa [hid, ne_comm])).trans (hk x hx)⟩
  | terminal ev q hev _ _ ih =>
    obtain ⟨hd, hr, hk⟩ := ih
    exact ⟨by rcases hev with rfl | rfl <;> simpa [Event.deletedId] using hd,
      by rcases hev with rfl | rfl <;> simpa [Event.deletionReportId] using hr,
      hk⟩
  | quiet ev hq _ ih =>
    obtain ⟨hd, hr, hk⟩ := ih
    exact ⟨by simpa [hq.deletedId_eq_none] using hd,
      by simpa [hq.deletionReportId_eq_none] using hr, hk⟩
  | subject p hp _ _ ih =>
    obtain ⟨hd, hr, hk⟩ := ih
    exact ⟨by simpa [Event.deletedId] using hd,
      by simpa [Event.deletionReportId] using hr,
      fun x hx => (KeepsPB.push_purge hp).trans (hk x hx)⟩
  | report bp s r blk _ _ hrep _ ih =>
    obtain ⟨rfl, rfl⟩ := hrep
    exact ih

/-- When the IdKeeper covers this node, the agent's report blocks keep `FreshBlock`: a report
takes an identity new to the store, and its run deletes nothing else. -/
theorem freshOK_reportRun {env : Env} (hP : P env.nodeId) (i : BundleID) :
    FreshOK P (ReportRun env) i := by
  rintro bp s r m blk m' rfl ⟨evs, m₂, rfl, hne, hseg, rfl⟩ hcov
  have hnone : m.store.packs (reportPack env bp s r m.keeper).2.ID = none :=
    packs_update_eq_none hcov _ hP
  obtain ⟨hrun, -⟩ := hseg.runFacts (freshOK_noReports _) (hcov.mono (KeeperGrows.update _ _))
    (fun p hp => by simp_all) fun _ => IssuedBy.update _ _
  obtain ⟨hd, hr, hk⟩ := hseg.quiet_noReports
  exact {
    store := by simpa [applyPushes] using hrun.store
    keeper := (KeeperGrows.update _ _).trans hrun.keeper
    deleted := rfl
    own := hk _ (Ne.symm hne)
    covers := hrun.covers
    agree := hrun.agree
    fresh := fun x hx => by
      obtain rfl := hd x (by simpa [Event.deletedId] using hx)
      exact ⟨hne, hnone⟩
    nodup := by simpa [Event.deletedId] using hrun.nodup
    stored := fun x hx => hrun.stored x (by simpa [Event.deletedId] using hx)
    reports := by
      rw [← List.singleton_append, deletionReportIds_append, hr, List.append_nil]
      cases s <;> simp [Event.deletionReportId] }

end Reports

end Dtn7
