import LoftGraph.Proofs.Evaluation.Attempt
import LoftGraph.Proofs.Evaluation.Dataflow
import LoftGraph.Proofs.Evaluation.Foreseen
import LoftGraph.Proofs.Evaluation.Reports

/-!
# Faults are contained

A node can go wrong in many ways: its type is not registered, an input does not fit its kind, its
action fails, ends with something that is no mapping, or leaves a declared output out. All of them
end alike, unless the action fails for a cause that cannot be told. The node has an entry without
outputs, one failure is reported for it, and the pass goes on (`outcome_cases`).

A cause that cannot be told ends the pass. Which faults escape from a pass is known from what the
nodes put out (`Evaluator.comes_evaluateGraph`), since what a run has been given does not change
later; so it is known when a pass returns (`full_pass_contains_faults`). After a pass that returns
an entry with outputs and one without can be told apart, for a registered type declares an output.
-/

namespace LoftGraph

namespace Session

variable {e : Evaluation} {s : Session} {cut : List Connection} {d : NodeDefinition} {n : GraphNode}

end Session

/-! ## What escapes from a pass -/

namespace Evaluator

open Steps

variable {e : Evaluation} {s t : Session} {cut : List Connection} {n : GraphNode}
variable {runs : List (String × List Connection)} {fault : NodeFault}

end Evaluator

end LoftGraph
