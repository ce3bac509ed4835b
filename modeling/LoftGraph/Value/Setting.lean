import LoftGraph.Geometry.Body
import LoftGraph.Geometry.Shell
import LoftGraph.Value.Display
import LoftGraph.Value.Number
import LoftGraph.Value.Seed

/-!
# Settings by name

A host gives the settings of a pattern, a spine or a body as named values; what it does not name
stays as it is.  Each kind of settings has a function that sets one of them by its name, and
`Setting.all` sets several in order.

A text must spell a number at once.  Any other value that is not what a setting asks for is kept as
a fault, because settings are looked at only where they are used.
-/

namespace LoftGraph

/-- Why a setting cannot be set. -/
inductive SettingFault where
  | unread (fault : ReadFault)
  /-- There is no setting of this name. -/
  | unknown (name : String)
  deriving Repr, DecidableEq

namespace Setting

/-- A number that may be whole; a value that is none is missing. -/
def measure (value : Value) : Except SettingFault Measure :=
  match value with
  | .int i => .ok (.whole i)
  | .bool b => .ok (.whole (if b then 1 else 0))
  | .float x => .ok (.real x)
  | .text s => (Value.spelledNumber s).map .real |>.mapError .unread
  | _ => .ok (.missing .notNumber)

/-- The whole number a number starts with; a value without one is a fault where it is used. -/
def count (value : Value) : Except SettingFault Count := do
  match ← measure value with
  | .whole i => return .ok i
  | .real x => return countOfFloat x
  | .missing why => return .error why

/-- How many points a ring has.  Only a whole number of them makes a ring, but what is no number to
share a turn among is told first. -/
def ringCount (value : Value) : Except SettingFault Count := do
  if let .bool b := value then return .error (if b then .notNumber else .noSegments)
  match ← measure value with
  | .whole i => return .ok i
  | .missing why => return .error why
  | .real x => return do
    if x.isNaN then throw .countOfNaN
    if x.isInf then throw .tooMany
    requireHeld (← countOfFloat x)
    throw (if x == 0.0 then .noSegments else .notNumber)

/-- A truth value: is the value anything at all? -/
def flag (value : Value) : Bool := !value.isVoid

/-- A primitive shape by its name. -/
def shapeNamed (value : Value) : Except Fault ShapeKind := ShapeKind.ofName value.plain

/-- An easing curve by its name.  What has items is no name. -/
def easingNamed (value : Value) : Except Fault Easing :=
  match value with
  | .list _ | .object _ => .error .unsuitableName
  | _ => Easing.ofName value.plain

def all {σ : Type} (set : σ → String → Value → Except SettingFault σ) (start : σ)
    (entries : Fields Value) : Except SettingFault σ :=
  entries.foldlM (fun settings entry => set settings entry.1 entry.2) start

/-- Sets named values in order, and passes over names of no setting. -/
def known {σ : Type} (set : σ → String → Value → Except SettingFault σ) (start : σ)
    (entries : Fields Value) : Except SettingFault σ :=
  all (fun settings name value =>
    match set settings name value with
    | .error (.unknown _) => .ok settings
    | result => result) start entries

end Setting

open Setting

/-- Sets a setting of a pattern. -/
def PatternSettings.set (s : PatternSettings Measure) (name : String) (value : Value) :
    Except SettingFault (PatternSettings Measure) := do
  match name with
  | "shape" => return { s with shape := shapeNamed value }
  | "steps" => return { s with steps := ← count value }
  | "size" => return { s with size := some (← measure value) }
  | "scaleStart" => return { s with scaleStart := ← measure value }
  | "scaleFactor" => return { s with scaleFactor := ← measure value }
  | "rotationStart" => return { s with rotationStart := ← measure value }
  | "rotationStep" => return { s with rotationStep := ← measure value }
  | "driftX" => return { s with driftX := ← measure value }
  | "driftY" => return { s with driftY := ← measure value }
  | "spiralAmount" => return { s with spiralAmount := ← measure value }
  | "starPoints" => return { s with starPoints := ← count value }
  | "crossThickness" => return { s with crossThickness := some (← measure value) }
  | _ => throw (.unknown name)

/-- Sets a setting of a spine.  An absent seed is none. -/
def SpineSettings.set (s : SpineSettings Measure) (name : String) (value : Value) :
    Except SettingFault (SpineSettings Measure) := do
  match name with
  | "steps" => return { s with steps := ← count value }
  | "startRadius" => return { s with startRadius := ← measure value }
  | "endRadius" => return { s with endRadius := ← measure value }
  | "height" => return { s with height := ← measure value }
  | "spiralAmount" => return { s with spiralAmount := ← measure value }
  | "driftX" => return { s with driftX := ← measure value }
  | "driftY" => return { s with driftY := ← measure value }
  | "segmentLength" => return { s with segmentLength := ← measure value }
  | "radiusVariation" => return { s with radiusVariation := ← measure value }
  | "removeFrequency" => return { s with removeFrequency := ← count value }
  | "seed" => return { s with seed := if value.isNull then none else some (Seed.ofValue value) }
  | _ => throw (.unknown name)

/-- Sets a setting of a shell. -/
def ShellSettings.set (s : ShellSettings Measure) (name : String) (value : Value) :
    Except SettingFault (ShellSettings Measure) := do
  match name with
  | "shape" => return { s with shape := value.plain }
  | "height" => return { s with height := ← measure value }
  | "radius" => return { s with radius := ← measure value }
  | "thickness" => return { s with thickness := ← measure value }
  | _ => throw (.unknown name)

/-- Sets a setting of a loft. -/
def LoftSettings.set (s : LoftSettings Measure) (name : String) (value : Value) :
    Except SettingFault (LoftSettings Measure) := do
  match name with
  | "height" => return { s with height := ← measure value }
  | "twist" => return { s with twist := ← measure value }
  | "taper" => return { s with taper := ← measure value }
  | "smooth" => return { s with smooth := flag value }
  | "closeTip" => return { s with closeTip := flag value }
  | _ => throw (.unknown name)

/-- Sets a setting of a body. -/
def BodySettings.set (s : BodySettings) (name : String) (value : Value) :
    Except SettingFault BodySettings := do
  match name with
  | "shape" => return { s with shape := shapeNamed value }
  | "steps" => return { s with steps := ← count value }
  | "size" => return { s with size := ← measure value }
  | "scale_start" => return { s with scaleStart := ← measure value }
  | "scale_factor" => return { s with scaleFactor := ← measure value }
  | "rotation_start" => return { s with rotationStart := ← measure value }
  | "rotation_step" => return { s with rotationStep := ← measure value }
  | "drift_x" => return { s with driftX := ← measure value }
  | "drift_y" => return { s with driftY := ← measure value }
  | "spiral_amount" => return { s with spiralAmount := ← measure value }
  | "inverted" => return { s with inverted := flag value }
  | "star_points" => return { s with starPoints := ← count value }
  | "cross_thickness" => return { s with crossThickness := ← measure value }
  | "height" => return { s with height := ← measure value }
  | "twist" => return { s with twist := ← measure value }
  | "taper" => return { s with taper := ← measure value }
  | "normalize" => return { s with normalize := flag value }
  | "easing" => return { s with easing := easingNamed value }
  | "enable_holes" => return { s with enableHoles := flag value }
  | "hole_frequency" => return { s with holeFrequency := ← count value }
  | "hole_scale" => return { s with holeScale := ← measure value }
  | "remove_shapes" => return { s with removeShapes := flag value }
  | "remove_frequency" => return { s with removeFrequency := ← count value }
  | "use_spine_mode" => return { s with useSpine := flag value }
  | "start_radius" => return { s with startRadius := ← measure value }
  | "end_radius" => return { s with endRadius := ← measure value }
  | "segment_length" => return { s with segmentLength := ← measure value }
  | "radius_variation" => return { s with radiusVariation := ← measure value }
  | _ => throw (.unknown name)

end LoftGraph
