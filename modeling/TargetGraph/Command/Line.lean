import TargetGraph.Command.Execute
import TargetGraph.CommandLine.Reader

set_option relaxedAutoImplicit false
set_option autoImplicit false

/-!
# Running command lines

## Main definitions

* `TargetGraph.runCommandLine?` — what comes of the words of a command line.
-/

namespace TargetGraph

/-- What comes of the words of a command line in a fresh run of the program, if they make a
request. -/
def runCommandLine? {m : Type → Type} [Monad m] (host : Host m) (words : List String) :
    m (Option Outcome) :=
  match CommandLine.read words with
  | none => return none
  | some request => do
    let (outcome, _) ← request.execute host {}
    return some outcome

end TargetGraph
