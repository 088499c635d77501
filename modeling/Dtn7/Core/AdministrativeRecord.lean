import Dtn7.Core.Processing

/-!
# What a status report does to the store

`checkAdministrativeRecord` is the only stage that writes a pack other than the one it was
handed: a status report that says a stored bundle was delivered releases that bundle's
constraints.  The frame of this write is narrow, and this module states it.

The loop of `inspectStatusReport` pushes the subject pack once for every `DeliveredBundle`
item, each time with its constraints purged; since purging is idempotent, the store after the
loop depends only on whether such an item occurs (`store_inspectStatusItems`).  The store after
the whole check is therefore a function of the report and of the store before it
(`store_checkAdministrativeRecord`), which gives both halves of the frame result: the store is
unchanged unless the report releases a stored pack (`ReleasesPack`), and then exactly that pack
is stored again with the empty constraint set and its bundle as it was; and a second check of
the same bundle finds the subject already purged.

The subject is found by `QueryFromStatusReport`, a lookup of the report's bundle identity, and
the store keeps every pack under its own identity (`Store.keyed`), so the pack written back is
stored under the identity the report names.
-/

namespace Dtn7

/-! ## The status items loop -/

theorem store_inspectStatusItems (p : BundlePack) (c : Core) (sips : List StatusInformationPos) :
    (inspectStatusItems p c sips).store =
      if .deliveredBundle ∈ sips then c.store.Push p.PurgeConstraints else c.store := by
  induction sips generalizing p c with
  | nil => rfl
  | cons sip sips ih =>
    cases sip <;> simp only [inspectStatusItems, ih, List.mem_cons, reduceCtorEq, false_or,
      true_or, if_true]
    · simp only [Core.store_push, Core.store_log, BundlePack.PurgeConstraints_PurgeConstraints]
      split <;> simp [Store.Push_Push_self]

theorem QueryFromStatusReport_eq_singleton {s : Store} {sr : StatusReport} {p : BundlePack}
    (h : QueryFromStatusReport s sr = [p]) : s.packs sr.refBundle = some p ∧ p.ID = sr.refBundle := by
  unfold QueryFromStatusReport at h
  cases hs : s.packs sr.refBundle <;> simp_all
  exact s.keyed _ _ hs

theorem store_inspectStatusReport (c : Core) (ar : AdministrativeRecord) :
    (inspectStatusReport c ar).store =
      match QueryFromStatusReport c.store ar.content with
      | [p] => if .deliveredBundle ∈ ar.content.statusInformation then
          c.store.Push p.PurgeConstraints else c.store
      | _ => c.store := by
  by_cases hempty : ar.content.statusInformation = []
  · simp only [inspectStatusReport, hempty, List.isEmpty_nil, if_true, List.not_mem_nil, if_false]
    split <;> rfl
  · simp only [inspectStatusReport, List.isEmpty_iff, hempty, if_false]
    rcases QueryFromStatusReport c.store ar.content with _ | ⟨p, _ | ⟨p', ps⟩⟩
    · rfl
    · exact store_inspectStatusItems p c _
    · rfl

/-- Inspecting a report again, on the store the first inspection left, changes nothing. -/
theorem store_inspectStatusReport_idem (c c' : Core) (ar : AdministrativeRecord)
    (h : c'.store = (inspectStatusReport c ar).store) :
    (inspectStatusReport c' ar).store = c'.store := by
  rw [store_inspectStatusReport] at h ⊢
  have hsame : c'.store = c.store → (match QueryFromStatusReport c'.store ar.content with
      | [p] => if .deliveredBundle ∈ ar.content.statusInformation then
          c'.store.Push p.PurgeConstraints else c'.store
      | _ => c'.store) = c'.store := by
    intro hs
    rw [hs] at h ⊢
    exact h.symm
  rcases hq : QueryFromStatusReport c.store ar.content with _ | ⟨p, _ | ⟨p', ps⟩⟩ <;> rw [hq] at h
  · exact hsame h
  · by_cases hd : StatusInformationPos.deliveredBundle ∈ ar.content.statusInformation
    · simp only [hd, if_true] at h
      have hq' : QueryFromStatusReport c'.store ar.content = [p.PurgeConstraints] := by
        simp [QueryFromStatusReport, h, (QueryFromStatusReport_eq_singleton hq).2]
      simp only [hq', hd, if_true]
      exact Store.Push_of_packs (by simp [h])
    · simp only [hd, if_false] at h
      exact hsame h
  · exact hsame h

/-! ## The check -/

section Check

variable (env : Env)

/-- The administrative record `checkAdministrativeRecord` finds in the pack's bundle: the
bundle is flagged as carrying one and its payload parses. -/
def parsedAdministrativeRecord (bp : BundlePack) : Option AdministrativeRecord :=
  if bp.bundle.IsAdministrativeRecord then
    bp.bundle.PayloadData.bind (NewAdministrativeRecordFromCbor env) else none

theorem store_checkAdministrativeRecord (c : Core) (bp : BundlePack) :
    (checkAdministrativeRecord env c bp).1.store =
      match parsedAdministrativeRecord env bp with
      | some ar => (inspectStatusReport c ar).store
      | none => c.store := by
  unfold checkAdministrativeRecord parsedAdministrativeRecord
  cases bp.bundle.IsAdministrativeRecord
  · rfl
  · cases bp.bundle.PayloadData with
    | none => rfl
    | some payload =>
      simp only [Bool.not_true, Bool.false_eq_true, if_false, if_true, Option.some_bind]
      cases NewAdministrativeRecordFromCbor env payload <;> rfl

/-- The report in `bp` releases the stored pack `p`: the bundle is flagged as an administrative
record, its payload parses as `ar`, a status report with status items, `QueryFromStatusReport`
finds exactly `p` for it, and one item is `DeliveredBundle`. -/
def ReleasesPack (c : Core) (bp : BundlePack) (ar : AdministrativeRecord) (p : BundlePack) :
    Prop :=
  bp.bundle.IsAdministrativeRecord = true ∧
    bp.bundle.PayloadData.bind (NewAdministrativeRecordFromCbor env) = some ar ∧
    ar.content.statusInformation ≠ [] ∧
    QueryFromStatusReport c.store ar.content = [p] ∧
    .deliveredBundle ∈ ar.content.statusInformation

variable {env}

theorem parsedAdministrativeRecord_eq_some {bp : BundlePack} {ar : AdministrativeRecord} :
    parsedAdministrativeRecord env bp = some ar ↔ bp.bundle.IsAdministrativeRecord = true ∧
      bp.bundle.PayloadData.bind (NewAdministrativeRecordFromCbor env) = some ar := by
  unfold parsedAdministrativeRecord
  split <;> simp_all

/-- A report that releases `p` stores `p` again with its constraints purged. -/
theorem store_checkAdministrativeRecord_of_releases {c : Core} {bp p : BundlePack}
    {ar : AdministrativeRecord} (h : ReleasesPack env c bp ar p) :
    (checkAdministrativeRecord env c bp).1.store = c.store.Push p.PurgeConstraints := by
  obtain ⟨hadm, hpay, -, hq, hd⟩ := h
  rw [store_checkAdministrativeRecord, parsedAdministrativeRecord_eq_some.2 ⟨hadm, hpay⟩]
  simp only [store_inspectStatusReport, hq, hd, if_true]

/-- Without a report that releases a pack the store is left as it is. -/
theorem store_checkAdministrativeRecord_of_not_releases {c : Core} {bp : BundlePack}
    (h : ∀ ar p, ¬ ReleasesPack env c bp ar p) :
    (checkAdministrativeRecord env c bp).1.store = c.store := by
  rw [store_checkAdministrativeRecord]
  cases har : parsedAdministrativeRecord env bp with
  | none => rfl
  | some ar =>
    obtain ⟨hadm, hpay⟩ := parsedAdministrativeRecord_eq_some.1 har
    dsimp only
    rw [store_inspectStatusReport]
    rcases hq : QueryFromStatusReport c.store ar.content with _ | ⟨p, _ | ⟨p', ps⟩⟩
    · rfl
    · have hd : .deliveredBundle ∉ ar.content.statusInformation := fun hd =>
        h ar p ⟨hadm, hpay, List.ne_nil_of_mem hd, hq, hd⟩
      exact if_neg hd
    · rfl

variable (env)

/-- `checkAdministrativeRecord` writes the store only for a report that releases a stored pack:
then the store differs only under that pack's identity, where it holds the same pack with the
empty constraint set, and otherwise the store is left as it is.  Checking the same bundle again
leaves the store as the first check left it. -/
theorem checkAdministrativeRecord_store (c : Core) (bp : BundlePack) :
    let c' := (checkAdministrativeRecord env c bp).1
    (∀ ar p, ReleasesPack env c bp ar p → ∀ i, c'.store.packs i =
      if i = p.ID then some { p with constraints := .none } else c.store.packs i) ∧
    ((∀ ar p, ¬ ReleasesPack env c bp ar p) → c'.store = c.store) ∧
    (checkAdministrativeRecord env c' bp).1.store = c'.store := by
  intro c'
  refine ⟨fun ar p h i => ?_, store_checkAdministrativeRecord_of_not_releases, ?_⟩
  · simp only [c', store_checkAdministrativeRecord_of_releases h, Store.packs_Push,
      BundlePack.ID_PurgeConstraints]
    rfl
  · rw [store_checkAdministrativeRecord env c']
    cases har : parsedAdministrativeRecord env bp with
    | none => rfl
    | some ar =>
      refine store_inspectStatusReport_idem c c' ar ?_
      simp only [c', store_checkAdministrativeRecord, har]

end Check

end Dtn7
