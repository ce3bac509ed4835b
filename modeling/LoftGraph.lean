import LoftGraph.Graph.Request
import LoftGraph.Main
import LoftGraph.Mesh.Buffer
import LoftGraph.Value.Seed
import LoftGraph.Value.Setting
import LoftGraph.Proofs.Graph.Cycle
import LoftGraph.Proofs.Graph.Order
import LoftGraph.Proofs.Graph.Walk
import LoftGraph.Proofs.Graph.Plan
import LoftGraph.Proofs.Evaluation.Evaluates
import LoftGraph.Proofs.Evaluation.History
import LoftGraph.Proofs.Evaluation.Nesting
import LoftGraph.Proofs.Evaluation.Quiet
import LoftGraph.Proofs.Evaluation.FullPass
import LoftGraph.Proofs.Evaluation.UpToDate
import LoftGraph.Proofs.Evaluation.Incremental
import LoftGraph.Proofs.Evaluation.Turns
import LoftGraph.Proofs.Graph.Circle
import LoftGraph.Proofs.Evaluation.Findings
import LoftGraph.Proofs.Evaluation.Settled
import LoftGraph.Proofs.Evaluation.Reports
import LoftGraph.Proofs.Evaluation.Dataflow
import LoftGraph.Proofs.Evaluation.Foreseen
import LoftGraph.Proofs.Evaluation.Reexecution
import LoftGraph.Proofs.Evaluation.Renewal
import LoftGraph.Proofs.Evaluation.Escape
import LoftGraph.Proofs.Evaluation.Attempt
import LoftGraph.Proofs.Evaluation.Containment
import LoftGraph.Proofs.Evaluation.Noninterference
import LoftGraph.Proofs.Evaluation.Reordering
import LoftGraph.Proofs.Graph.Editing
import LoftGraph.Proofs.Graph.Document
import LoftGraph.Proofs.Graph.Loading
import LoftGraph.Proofs.Mesh.Blocks
import LoftGraph.Proofs.Mesh.WellFormed
import LoftGraph.Proofs.Geometry.Manifold
import LoftGraph.Proofs.Geometry.Contents
import LoftGraph.Proofs.Geometry.Produced
import LoftGraph.Proofs.Geometry.Normalized
import LoftGraph.Proofs.Number.Exact
import LoftGraph.Proofs.Node.Coercion
import LoftGraph.Proofs.Node.Builtin
import LoftGraph.Proofs.Geometry.Measured
import LoftGraph.Proofs.Geometry.Wording
import LoftGraph.Proofs.Geometry.OpenTip
import LoftGraph.Proofs.Evaluation.Stage
import LoftGraph.Proofs.Body.Panel
import LoftGraph.Proofs.Body.Stages
import LoftGraph.Proofs.Body.Chain
import LoftGraph.Proofs.Number.Field
import LoftGraph.Proofs.Geometry.Way
import LoftGraph.Proofs.Geometry.SignedArea
import LoftGraph.Proofs.Geometry.Boundary
import LoftGraph.Proofs.Geometry.Convex
import LoftGraph.Proofs.Geometry.Ordering
import LoftGraph.Proofs.Geometry.Orientation
import LoftGraph.Proofs.Number.Compass
import LoftGraph.Proofs.Geometry.Similarity
import LoftGraph.Proofs.Geometry.Placement
import LoftGraph.Proofs.Geometry.Heights
import LoftGraph.Proofs.Mesh.Beginning
import LoftGraph.Proofs.Geometry.Piercing
import LoftGraph.Proofs.Geometry.TriangleCount
import LoftGraph.Proofs.Body.TriangleCount
import LoftGraph.Proofs.Mesh.Shading
import LoftGraph.Proofs.Mesh.Merging
import LoftGraph.Proofs.Geometry.Thinning
import LoftGraph.Proofs.Node.Kind
import LoftGraph.Proofs.Node.Passage
import LoftGraph.Proofs.Geometry.Growth
import LoftGraph.Proofs.Node.Registration
import LoftGraph.Proofs.Mesh.Gathering
