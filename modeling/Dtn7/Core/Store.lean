import Mathlib.Logic.Function.Basic
import Dtn7.Core.BundlePack

/-!
# The bundle store

The store maps bundle identities to packs.  Its implementation is not among the sources; it
is modelled from the spec's contract: `Push` is an upsert by identity (last writer wins),
`KnowsBundle` asks whether a pack of that identity was pushed, and `QueryFromStatusReport`
returns the packs whose identity is a status report's subject.  The store keeps pack values
as of each push, as a persistent store does, and it carries as a field the fact that every
pack sits under its own identity.
-/

namespace Dtn7

/-- The stored packs, each under its own identity. -/
structure Store where
  packs : BundleID → Option BundlePack
  keyed : ∀ i p, packs i = some p → p.ID = i

namespace Store

/-- The empty store. -/
def empty : Store := ⟨fun _ => none, fun _ _ h => by cases h⟩

/-- Modelled from the spec: `store.Push(bp)`. -/
def Push (s : Store) (bp : BundlePack) : Store where
  packs := Function.update s.packs bp.ID (some bp)
  keyed i p h := by
    rcases eq_or_ne i bp.ID with rfl | hi
    · simp only [Function.update_same, Option.some.injEq] at h
      exact h ▸ rfl
    · rw [Function.update_noteq hi] at h
      exact s.keyed i p h

@[simp] theorem packs_Push (s : Store) (bp : BundlePack) (i : BundleID) :
    (s.Push bp).packs i = if i = bp.ID then some bp else s.packs i := by
  simp [Push, Function.update_apply]

@[ext] theorem ext {s t : Store} (h : ∀ i, s.packs i = t.packs i) : s = t := by
  cases s; cases t; congr; funext i; exact h i

/-- Pushing the pack already stored under its identity changes nothing. -/
theorem Push_of_packs {s : Store} {bp : BundlePack} (h : s.packs bp.ID = some bp) :
    s.Push bp = s := by
  ext i
  rw [packs_Push]
  split <;> simp_all

theorem Push_Push_self (s : Store) (bp : BundlePack) : (s.Push bp).Push bp = s.Push bp :=
  Push_of_packs (by simp)

end Store

/-- Modelled from the spec: `KnowsBundle(store, bp)`. -/
def KnowsBundle (s : Store) (bp : BundlePack) : Bool := (s.packs bp.ID).isSome

/-- Modelled from the spec: `QueryFromStatusReport(store, sr)`. -/
def QueryFromStatusReport (s : Store) (sr : StatusReport) : List BundlePack :=
  (s.packs sr.refBundle).toList

end Dtn7
