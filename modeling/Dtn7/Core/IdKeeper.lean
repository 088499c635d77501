import Mathlib.Logic.Function.Basic
import Dtn7.Bundle.Bundle

/-!
# The IdKeeper

For locally originated bundles the IdKeeper keeps, per source endpoint, the highest creation
timestamp sequence number issued so far, and gives a bundle whose sequence number is not above
it the next one.  The type is not among the sources; it is modelled from the spec.  Issued
sequence numbers therefore strictly increase per source.
-/

namespace Dtn7

/-- The highest sequence number issued per source. -/
structure IdKeeper where
  data : EndpointID → Option Nat

namespace IdKeeper

/-- The IdKeeper of a fresh agent. -/
def empty : IdKeeper := ⟨fun _ => none⟩

/-- The sequence number `update` gives a bundle from `src` whose number is `seq`. -/
def nextSequence (k : IdKeeper) (src : EndpointID) (seq : Nat) : Nat :=
  match k.data src with
  | some h => if seq ≤ h then h + 1 else seq
  | none => seq

/-- Modelled from the spec: `idKeeper.update(bndl)` assigns the bundle the next sequence
number of its source if its own collides with one already issued, and records it. -/
def update (k : IdKeeper) (b : Bundle) : IdKeeper × Bundle :=
  let src := b.primaryBlock.sourceNode
  let ts := b.primaryBlock.creationTimestamp
  let seq := k.nextSequence src ts.sequenceNumber
  (⟨Function.update k.data src (some seq)⟩,
    { b with primaryBlock := { b.primaryBlock with creationTimestamp := { ts with
      sequenceNumber := seq } } })

end IdKeeper

end Dtn7
