import Scrc.Execution
import Scrc.Lib.Interaction

/-!
# The runtime port

The interfaces of package `runtime`: an engine prepares a script, a prepared script is run once
for every input.  Both are programs over an arbitrary interface `I` to the outside world, so what
is proved about the executor holds for every runtime.
-/

namespace Scrc

open Interaction

/-- The pair `(*execution.Result, error)`. -/
structure RunOutcome where
  result : Option Result
  err : Option GoError
  deriving DecidableEq, Inhabited

/-- `runtime.PreparedScript`. -/
structure PreparedScript (I : Interface) where
  run : GoString → Proc I RunOutcome
  close : Proc I Unit

/-- The triple `(PreparedScript, *execution.Result, error)`. -/
structure PrepareOutcome (I : Interface) where
  prepared : Option (PreparedScript I) := none
  result : Option Result := none
  err : Option GoError := none

/-- `runtime.Engine`, as far as the executor uses it to run a script. -/
structure Engine (I : Interface) where
  prepare : Script → Proc I (PrepareOutcome I)

end Scrc
