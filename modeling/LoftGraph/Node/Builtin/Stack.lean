import LoftGraph.Geometry.Hole
import LoftGraph.Geometry.Loft
import LoftGraph.Node.Builtin.Growth

/-!
# Nodes from a pattern to a mesh

`patternToShapes` takes the outlines of a pattern, `crossSections` stacks outlines, `addHoles`
pierces a stack and `loft` makes the mesh.  Without their main input they yield nothing: an empty
list, or the empty mesh.
-/

namespace LoftGraph.Builtin

/-- The color of the nodes on the way to the loft. -/
def stackColor : String := "#FF9800"

/-- The color of the nodes that make meshes. -/
def meshColor : String := "#9C27B0"

def patternToShapes : NodeDefinition where
  type := "patternToShapes"
  name := "Pattern to Shapes"
  category := "Transform"
  inputs :=
    [⟨"pattern", "Pattern", .pattern, .null⟩,
     ⟨"removeShapes", "Remove Shapes", .boolean, .bool false⟩,
     numberPort "removeFrequency" "Remove Frequency" (.int 2),
     ⟨"inverted", "Inverted", .boolean, .bool false⟩]
  outputs := [⟨"shapes", "Shapes", .point2DList, .null⟩]
  action := fun _ inputs =>
    match inputs.pattern? "pattern" with
    | none => .yields [("shapes", .list [])]
    | some placements => .ofResult do
      let frequency ← inputs.count "removeFrequency"
      let settings : OutlineSettings :=
        ⟨inputs.flag "removeShapes", .ok frequency, inputs.flag "inverted"⟩
      let outlines ←
        NodeFault.lift (measuredOutlines placements settings Placement.defaultSegments)
      return [("shapes", .list (outlines.map Value.ofOutline))]
  description := "Convert pattern instances to interpolatable shapes"
  color := some stackColor

/-- The easing curve of a name; none for the empty name. -/
def easingOf (name : String) : Except NodeFault (Option Easing) :=
  if name = "" then .ok none else some <$> NodeFault.lift (Easing.ofName name)

/-- The stack of outlines that a node makes. -/
def stackOf (inputs : Inputs) (outlines : Outlines Float) : Except NodeFault (Stack Float) := do
  let easing ← easingOf (inputs.text "easing")
  NodeFault.lift (LoftGraph.crossSections outlines
    ⟨easing.map Easing.apply, inputs.flag "normalize", !inputs.flag "sortByArea"⟩)

def crossSections : NodeDefinition where
  type := "crossSections"
  name := "Cross Sections"
  category := "Transform"
  inputs :=
    [⟨"shapes", "Shapes", .point2DList, .null⟩,
     ⟨"normalize", "Normalize", .boolean, .bool false⟩,
     ⟨"easing", "Easing", .string, .text "linear"⟩,
     ⟨"sortByArea", "Sort by Area", .boolean, .bool false⟩]
  outputs := [⟨"crossSections", "Cross Sections", .crossSectionSet, .null⟩]
  action := fun _ inputs =>
    match inputs.outlines? "shapes" with
    | none => .yields [("crossSections", .list [])]
    | some outlines =>
      match stackOf inputs outlines with
      | .error fault => .fail fault
      | .ok stack =>
        .notes (stack.notices.map Notice.message)
          (.yields [("crossSections", .list (stack.sections.map Value.ofSection))])
  description := "Generate cross sections from shapes"
  color := some stackColor

/-- The outer boundary shrunk by one scale, for sections as a host may give them. -/
def shrunk (scale : Float) : HoleShape Quantity := fun outer t =>
  (Hole.ofScale scale (outer.map (Point.map Quantity.toFloat)) t.toFloat).map (Point.map .real)

def addHoles : NodeDefinition where
  type := "addHoles"
  name := "Add Holes"
  category := "Transform"
  inputs :=
    [⟨"crossSections", "Cross Sections", .crossSectionSet, .null⟩,
     numberPort "frequency" "Frequency" (.int 2),
     numberPort "scale" "Scale" (.float Hole.defaultScale)]
  outputs := [⟨"crossSections", "Cross Sections", .crossSectionSet, .null⟩]
  action := fun _ inputs =>
    match inputs.sections? "crossSections" with
    | none => .yields [("crossSections", .list [])]
    | some sections => .ofResult do
      let frequency ← inputs.count "frequency"
      let scale ← inputs.need .number "scale"
      let pierced := LoftGraph.addHoles sections (Hole.ofFrequency frequency) (shrunk scale)
      return [("crossSections", .list (pierced.map Value.crossSection))]
  description := "Add holes to cross sections"
  color := some stackColor

/-- Has the section a ring that has to be tapered and twisted? -/
def hasRing {α : Type} (s : CrossSection α) : Bool :=
  !s.outer.isEmpty || s.holes.any (fun hole => !hole.isEmpty)

/-- The settings of a loft node.  The height is needed by any section, the taper and the twist by
any ring. -/
def loftSettings {α : Type} (inputs : Inputs) (sections : List (CrossSection α)) :
    Except NodeFault (LoftSettings Measure) := do
  let standard : LoftSettings Measure := LoftSettings.standard
  if sections.isEmpty then return standard
  let height := Measure.real (← inputs.need (rightOperand "*") "height")
  if !sections.any hasRing then return { standard with height }
  let taper := Measure.real (← inputs.need (leftOperand "*") "taper")
  let twist := Measure.real (← inputs.need (leftOperand "*") "twist")
  return { standard with height, taper, twist }

/-- The mesh of a stack with what is to be said about it. -/
def lofted (inputs : Inputs) (sections : List (CrossSection Quantity)) :
    Except NodeFault (Lofted Float) := do
  let settings ← loftSettings inputs sections
  NodeFault.lift (measuredLoft (sections.map (CrossSection.map Measure.ofQuantity)) settings)

def loft : NodeDefinition where
  type := "loft"
  name := "Loft"
  category := "Geometry"
  inputs :=
    [⟨"crossSections", "Cross Sections", .crossSectionSet, .null⟩,
     numberPort "height" "Height" (.int 200), numberPort "twist" "Twist" (.int 0),
     numberPort "taper" "Taper" (.int 0)]
  outputs := [⟨"geometry", "Geometry", .geometry, .null⟩]
  action := fun _ inputs =>
    match inputs.sections? "crossSections" with
    | none => .yields [("geometry", .mesh Mesh.empty)]
    | some sections =>
      match lofted inputs sections with
      | .error fault => .fail fault
      | .ok result =>
        .warnings (result.warnings.map LoftWarning.message)
          (.yields [("geometry", .mesh result.mesh)])
  description := "Loft cross sections into 3D geometry"
  color := some meshColor

/-- The nodes from a pattern to a mesh. -/
def stackers : List NodeDefinition := [patternToShapes, crossSections, addHoles, loft]

end LoftGraph.Builtin
