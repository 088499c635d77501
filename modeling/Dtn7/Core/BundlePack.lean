import Dtn7.Bundle.Bundle

/-!
# Bundle packs and their constraints

A `BundlePack` is the pipeline's envelope around a bundle: the bundle, the time it was
received and its constraint set, the work that remains to be done on it.  The Go type keeps
the constraints as the key set of a map; here a constraint set has one flag per constraint of
the spec's closed vocabulary.  The type and its methods are not among the sources and are
modelled from the spec; fields the pipeline of the sources never reads are left out.
-/

namespace Dtn7

/-- A processing constraint. -/
inductive Constraint where
  | dispatchPending
  | forwardPending
  | reassemblyPending
  | contraindicated
  | localEndpoint
  deriving DecidableEq

/-- A constraint set, one flag per constraint. -/
structure Constraints where
  dispatchPending : Bool := false
  forwardPending : Bool := false
  reassemblyPending : Bool := false
  contraindicated : Bool := false
  localEndpoint : Bool := false
  deriving DecidableEq

namespace Constraints

/-- The empty constraint set. -/
def none : Constraints := {}

/-- Set one constraint's flag. -/
def set (cs : Constraints) : Constraint → Bool → Constraints
  | .dispatchPending, v => { cs with dispatchPending := v }
  | .forwardPending, v => { cs with forwardPending := v }
  | .reassemblyPending, v => { cs with reassemblyPending := v }
  | .contraindicated, v => { cs with contraindicated := v }
  | .localEndpoint, v => { cs with localEndpoint := v }

end Constraints

/-- A bundle in the pipeline. -/
structure BundlePack where
  bundle : Bundle
  receive : Nat
  constraints : Constraints
  deriving DecidableEq

/-- `NewBundlePack`: a pack with no constraints, received at `now`. -/
def NewBundlePack (b : Bundle) (now : Nat) : BundlePack := ⟨b, now, .none⟩

namespace BundlePack

/-- The identity of the pack's bundle. -/
def ID (bp : BundlePack) : BundleID := bp.bundle.ID

/-- `bp.AddConstraint(c)`. -/
def AddConstraint (bp : BundlePack) (c : Constraint) : BundlePack :=
  { bp with constraints := bp.constraints.set c true }

/-- `bp.RemoveConstraint(c)`. -/
def RemoveConstraint (bp : BundlePack) (c : Constraint) : BundlePack :=
  { bp with constraints := bp.constraints.set c false }

/-- `bp.PurgeConstraints()`. -/
def PurgeConstraints (bp : BundlePack) : BundlePack := { bp with constraints := .none }

/-- Modelled from the spec: `bp.UpdateBundleAge()` adds the time spent at this node since
reception to the bundle-age block, when there is one, and returns the new age. -/
def UpdateBundleAge (now : Nat) (bp : BundlePack) : Option (Nat × BundlePack) :=
  bp.bundle.bundleAge.map fun age =>
    let age := age + (now - bp.receive)
    (age, { bp with bundle := bp.bundle.setExtensionData BundleAgeBlock (.bundleAge age) })

@[simp] theorem ID_AddConstraint (bp : BundlePack) (c : Constraint) :
    (bp.AddConstraint c).ID = bp.ID := rfl

@[simp] theorem ID_RemoveConstraint (bp : BundlePack) (c : Constraint) :
    (bp.RemoveConstraint c).ID = bp.ID := rfl

@[simp] theorem ID_PurgeConstraints (bp : BundlePack) : bp.PurgeConstraints.ID = bp.ID := rfl

@[simp] theorem bundle_AddConstraint (bp : BundlePack) (c : Constraint) :
    (bp.AddConstraint c).bundle = bp.bundle := rfl

@[simp] theorem bundle_RemoveConstraint (bp : BundlePack) (c : Constraint) :
    (bp.RemoveConstraint c).bundle = bp.bundle := rfl

@[simp] theorem bundle_PurgeConstraints (bp : BundlePack) :
    bp.PurgeConstraints.bundle = bp.bundle := rfl

@[simp] theorem constraints_PurgeConstraints (bp : BundlePack) :
    bp.PurgeConstraints.constraints = .none := rfl

@[simp] theorem PurgeConstraints_PurgeConstraints (bp : BundlePack) :
    bp.PurgeConstraints.PurgeConstraints = bp.PurgeConstraints := rfl

end BundlePack

end Dtn7
