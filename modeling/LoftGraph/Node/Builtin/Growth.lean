import LoftGraph.Geometry.Spine
import LoftGraph.Node.Inputs

/-!
# Nodes that grow something

`pattern2D` grows a pattern of placed shapes, `spine` the mesh of a spine.  Both settle the counts
first.  Which absent measures matter depends on how far the growth gets: a pattern without steps
needs its drift alone, and a spine whose points are all removed needs no radii.
-/

namespace LoftGraph.Builtin

/-- The color of the nodes that grow something. -/
def growthColor : String := "#2196F3"

/-- A number port with a default. -/
def numberPort (id name : String) (default : Value) : Port := ⟨id, name, .number, default⟩

/-- The kind of an operand that may be absent. -/
def operandKind (x : Option Float) : String := if x.isSome then "float" else "NoneType"

/-- An absent right operand of an operation on a number. -/
def rightOperand (operation : String) : OpenUse := .operand operation "float" "NoneType"

/-- An absent left operand of an operation on a number. -/
def leftOperand (operation : String) : OpenUse := .operand operation "NoneType" "float"

/-- Two operands of an operation, neither of which may be absent. -/
def bothOperands (operation : String) (left right : Option Float) :
    Except NodeFault (Float × Float) :=
  match left, right with
  | some x, some y => .ok (x, y)
  | _, _ => .error (.openInput (.operand operation (operandKind left) (operandKind right)))

/-- The measures a pattern of at least one step needs beside its drift. -/
def withGrowth (inputs : Inputs) (s : PatternSettings Float) :
    Except NodeFault (PatternSettings Float) := do
  let rotationStart ← inputs.need .measure "rotationStart"
  let rotationStep ← inputs.need (rightOperand "+=") "rotationStep"
  let (scaleStart, scaleFactor) ←
    bothOperands "*=" (inputs.number? "scaleStart") (inputs.number? "scaleFactor")
  let spiralAmount ← inputs.need (rightOperand "+=") "spiralAmount"
  return { s with rotationStart, rotationStep, scaleStart, scaleFactor, spiralAmount }

/-- The settings of a pattern node. -/
def patternSettings (inputs : Inputs) : Except NodeFault (PatternSettings Float) := do
  let steps ← inputs.count "steps"
  let starPoints ← inputs.count "starPoints"
  let driftX ← inputs.need .measure "driftX"
  let driftY ← inputs.need .measure "driftY"
  let s : PatternSettings Float :=
    { PatternSettings.standard with
      shape := .ok (inputs.shape "shape")
      steps := .ok steps
      size := inputs.number? "size"
      driftX, driftY
      starPoints := .ok starPoints
      crossThickness := inputs.number? "crossThickness" }
  if 0 < steps then withGrowth inputs s else return s

def pattern2D : NodeDefinition where
  type := "pattern2D"
  name := "Pattern 2D"
  category := "Pattern"
  inputs :=
    [⟨"shape", "Shape", .shapeKind, .null⟩, numberPort "steps" "Steps" (.int 10),
     numberPort "size" "Size" (.int 20), numberPort "scaleStart" "Scale Start" (.int 1),
     numberPort "scaleFactor" "Scale Factor" (.float 1.1),
     numberPort "rotationStart" "Rotation Start" (.int 0),
     numberPort "rotationStep" "Rotation Step" (.int 15), numberPort "driftX" "Drift X" (.int 5),
     numberPort "driftY" "Drift Y" (.int 5), numberPort "spiralAmount" "Spiral" (.int 0),
     numberPort "starPoints" "Star Points" (.int 5),
     numberPort "crossThickness" "Cross Thickness" (.float 0.2)]
  outputs := [⟨"pattern", "Pattern", .pattern, .null⟩]
  action := fun _ inputs => .ofResult do
    let s ← patternSettings inputs
    let placements ← NodeFault.lift s.generate
    return [("pattern", .list (placements.map Value.ofPlacement))]
  description := "Generate a 2D pattern of shapes"
  color := some growthColor

/-- The radii a spine needs as soon as it keeps a point. -/
def withRadii (inputs : Inputs) (s : SpineSettings Float) :
    Except NodeFault (SpineSettings Float) := do
  let (endRadius, startRadius) ←
    bothOperands "-" (inputs.number? "endRadius") (inputs.number? "startRadius")
  return { s with startRadius, endRadius }

/-- The measures a spine of at least one step needs to walk. -/
def withWalk (inputs : Inputs) (s : SpineSettings Float) :
    Except NodeFault (SpineSettings Float) := do
  let spiralAmount ← inputs.need (rightOperand "+=") "spiralAmount"
  let _ ← NodeFault.lift (cosSin (Circular.radians (0 + spiralAmount)))
  let segmentLength ← inputs.need (rightOperand "*") "segmentLength"
  let driftX ← inputs.need (leftOperand "+") "driftX"
  let driftY ← inputs.need (leftOperand "+") "driftY"
  return { s with spiralAmount, segmentLength, driftX, driftY }

/-- The measures of a spine of at least one step, in the order in which its walk meets them. -/
def withSteps (inputs : Inputs) (steps removeFrequency : Int) (s : SpineSettings Float) :
    Except NodeFault (SpineSettings Float) := do
  let height ← inputs.need (.operand "/" "NoneType" "int") "height"
  let s := { s with height }
  if SpineSettings.keeps removeFrequency 0 then
    withWalk inputs (← withRadii inputs s)
  else
    let s ← withWalk inputs s
    if (List.range steps.toNat).any (SpineSettings.keeps removeFrequency) then withRadii inputs s
    else return s

/-- The settings of a spine node. -/
def spineSettings (inputs : Inputs) : Except NodeFault (SpineSettings Float) := do
  let steps ← inputs.count "steps"
  let removeFrequency ← inputs.count "removeFrequency"
  let seed ←
    if (inputs.value "seed").isNull then pure none
    else (some ∘ Seed.ofInt) <$> inputs.count "seed"
  let radiusVariation ← inputs.need .comparison "radiusVariation"
  let s : SpineSettings Float :=
    { SpineSettings.standard with
      steps := .ok steps
      removeFrequency := .ok removeFrequency
      radiusVariation, seed }
  let _ ← NodeFault.lift s.stream
  if 0 < steps then withSteps inputs steps removeFrequency s else return s

/-- The mesh of a spine with what is to be said about it. -/
def spineMesh (inputs : Inputs) : Except NodeFault (Mesh Float × List String) := do
  let s ← spineSettings inputs
  let points ← NodeFault.lift s.generate
  let warnings :=
    if points.length < 2 then [s!"Spine kept {points.length} ring(s); nothing to loft."] else []
  let mesh ← NodeFault.lift (Spine.mesh points Spine.ringSegments true)
  return (mesh, warnings)

def spine : NodeDefinition where
  type := "spine"
  name := "Spine"
  category := "Pattern"
  inputs :=
    [numberPort "steps" "Steps" (.int 20), numberPort "startRadius" "Start Radius" (.int 15),
     numberPort "endRadius" "End Radius" (.int 5), numberPort "height" "Height" (.int 200),
     numberPort "spiralAmount" "Spiral" (.int 0), numberPort "driftX" "Drift X" (.int 0),
     numberPort "driftY" "Drift Y" (.int 0),
     numberPort "segmentLength" "Segment Length" (.int 20),
     numberPort "radiusVariation" "Radius Variation" (.int 0),
     numberPort "removeFrequency" "Remove Frequency" (.int 0), numberPort "seed" "Seed" .null]
  outputs := [⟨"geometry", "Geometry", .geometry, .null⟩]
  action := fun _ inputs =>
    match spineMesh inputs with
    | .error fault => .fail fault
    | .ok (mesh, warnings) =>
      warnings.foldr Request.warn (.yields [("geometry", .mesh mesh)])
  description := "Generate a spine-based geometry"
  color := some growthColor

def growers : List NodeDefinition := [pattern2D, spine]

end LoftGraph.Builtin
