import BuildProvenance.Attestation.Document
import BuildProvenance.Watch.Collected

/-!
# Attesting a run

A run can be attested in one go, or in two steps: a partial attestation before
the run, with the materials alone, which is completed after the run.  The
materials of the partial attestation come first in the completed one.
-/

namespace BuildProvenance.Watcher

/-- The attestation before the run. -/
def startAttestation (watcher : Watcher) : Attestation :=
  (Attestation.empty.withPredicate {}).addMaterials watcher.materials

variable {σ : Type}

/-- The attestation of a run: how it was carried out, and what the stores gained. -/
def attest (watcher : Watcher) (clients : StoreClients σ) (fs : FileSystem) (run : Run) :
    Action σ Attestation := do
  let predicate ← Action.lift ((watcher.builder.predicate run).within .buildingPredicate)
  let artifacts ← watcher.collect clients fs
  Action.lift <|
    (Attestation.empty.withPredicate (predicate.addMaterials watcher.materials)).addSubjects
      artifacts

/-- Puts the materials of a partial attestation before those of a complete one. -/
def completeWith (partialAttestation complete : Attestation) : Attestation :=
  match partialAttestation.predicate, complete.predicate with
  | some started, some done =>
    { complete with
      predicate := some { done with
        materials := Material.addAll (Material.addAll [] started.materials) done.materials } }
  | _, _ => complete

/-- Completes a partial attestation. -/
def finish (watcher : Watcher) (clients : StoreClients σ) (fs : FileSystem)
    (partialAttestation : Attestation) (run : Run) : Action σ Attestation := do
  let complete ← watcher.attest clients fs run
  return completeWith partialAttestation complete

end BuildProvenance.Watcher
