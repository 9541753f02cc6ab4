import ShaderBuild.Cache.Custody

/-! When the modules in memory were used last, told without their stamps. -/

namespace ShaderBuild

/-- A step from one phase to the next answers a request with a module in memory, or puts one there.
-/
def Phase.uses : Phase → Phase → Bool
  | .arriving, .answered (.returned (.ok _)) => true
  | .produced _ _, .settled _ (.returned (.ok _)) => true
  | _, _ => false

/-- The key of the module that a move uses. -/
def Crowd.used? (crowd : Crowd) : Move → Option Fingerprint
  | .advance thread =>
    match crowd.threads[thread]?, (crowd.move (.advance thread)).threads[thread]? with
    | some (job, phase), some (_, next) => if phase.uses next then some job.key else none
    | _, _ => none
  | _ => none

namespace Custody

/-- The key of the module that is used when something happens. -/
def used? (custody : Custody) : Event → Option Fingerprint
  | .move move => if custody.live then custody.crowd.used? move else none
  | _ => none

/-- The keys that are used in a run, the latest first, and before them those that were used earlier.
-/
def uses (custody : Custody) (earlier : List Fingerprint) : List Event → List Fingerprint
  | [] => earlier
  | event :: events => (custody.take event).uses ((custody.used? event).toList ++ earlier) events

end Custody

end ShaderBuild
