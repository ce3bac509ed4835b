import LoftGraph.Proofs.Body.Panel
import LoftGraph.Proofs.Evaluation.Stage
import LoftGraph.Proofs.Geometry.OpenTip
import LoftGraph.Proofs.Node.Builtin

/-!
# The stages of the lofted road as nodes

Each stretch of the way from a panel to its body can be left to a node (`Stage.definition`). Set to
the controls of the panel (`Panel.controls`) and given what the stage before puts out, the node puts
out what lies at the end of the stretch (`Panel.Passes.answers`), and only the loft has something to
warn of. The last stage agrees when the tip of the body is not closed by a fan, which is the one
thing a loft node does not do.
-/

namespace LoftGraph

open Session (Answers)

namespace PatternSettings

/-- Without steps, shape and drift are all that a pattern looks at. -/
theorem generate_of_stepless {α : Type} [Circular α] {s s' : PatternSettings α} {steps : Int}
    (hnone : steps ≤ 0) (hs : s.steps = .ok steps) (hs' : s'.steps = .ok steps)
    (hshape : s.shape = s'.shape) (hx : s.driftX = s'.driftX) (hy : s.driftY = s'.driftY) :
    s.generate = s'.generate := by
  have hdistance : s.driftDistance = s'.driftDistance := by
    rw [driftDistance, driftDistance, hx, hy]
  have hgrow : ∀ {s : PatternSettings α}, s.steps = .ok steps →
      s.generate = (s.shape >>= fun _ => Scalar.checked s.driftDistance >>= fun _ => .ok []) := by
    intro s hs
    rw [generate, hs]
    show (s.shape >>= fun shape => _ >>= fun _ => s.grow shape steps.toNat s.start) = _
    rw [Int.toNat_of_nonpos hnone]
    rfl
  rw [hgrow hs, hgrow hs', hshape, hdistance]

end PatternSettings

/-! ## Controls -/

/-- One of the settings of a panel. -/
inductive Control where
  | real (x : Float)
  | count (i : Int)
  | switch (b : Bool)
  | name (s : String)
  | shape (k : ShapeKind)

namespace Control

def kind : Control → DataKind
  | real _ => .number
  | count _ => .number
  | switch _ => .boolean
  | name _ => .string
  | shape _ => .shapeKind

/-- What is set on the input of a node. -/
def value : Control → Value
  | real x => .float x
  | count i => .int i
  | switch b => .bool b
  | name s => .text s
  | shape k => .shape k

/-- What the input holds when the node runs: a count has become a floating point number. -/
def held : Control → Value
  | count i => .float (Float.ofInt i)
  | c => c.value

/-- Nothing is lost when the control is set. -/
def Exact : Control → Prop
  | count i => HeldExactly i
  | _ => True

theorem coerce_value {c : Control} (h : c.Exact) : c.kind.coerce c.value = .ok c.held := by
  cases c with
  | real x => exact DataKind.coerce_float x
  | count i => exact DataKind.coerce_int h
  | switch b => exact DataKind.coerce_bool b
  | name s => exact DataKind.coerce_text s
  | shape k => exact DataKind.coerce_shape k

end Control

/-! ## Stages -/

/-- A stretch of the way to a body. -/
inductive Stage where
  | pattern
  | shapes
  | stack
  | holes
  | loft
  deriving DecidableEq

namespace Stage

/-- The type of the nodes that go this stretch. -/
def definition : Stage → NodeDefinition
  | pattern => Builtin.pattern2D
  | shapes => Builtin.patternToShapes
  | stack => Builtin.crossSections
  | holes => Builtin.addHoles
  | loft => Builtin.loft

/-- The input for what the stage before puts out; the first stage has none. -/
def input : Stage → String
  | pattern => ""
  | shapes => "pattern"
  | stack => "shapes"
  | holes => "crossSections"
  | loft => "crossSections"

def output : Stage → String
  | pattern => "pattern"
  | shapes => "shapes"
  | stack => "crossSections"
  | holes => "crossSections"
  | loft => "geometry"

/-- The kind of what the node puts out. -/
def kind : Stage → DataKind
  | pattern => .pattern
  | shapes => .point2DList
  | stack => .crossSectionSet
  | holes => .crossSectionSet
  | loft => .geometry

theorem outputs_definition (st : Stage) :
    st.definition.outputs.map (fun port => (port.id, port.kind)) = [(st.output, st.kind)] := by
  cases st <;> rfl

theorem get?_definition (st : Stage) :
    Registry.builtin.get? st.definition.type = some st.definition := by
  cases st <;> rfl

end Stage

namespace Panel

/-- What the panel sets on the node of a stage, by input. -/
def controls (p : Panel) : Stage → Fields Control
  | .pattern =>
    [("shape", .shape p.shape), ("steps", .count p.steps), ("size", .real p.size),
     ("scaleStart", .real p.scaleStart), ("scaleFactor", .real p.scaleFactor),
     ("rotationStart", .real p.rotationStart), ("rotationStep", .real p.rotationStep),
     ("driftX", .real p.driftX), ("driftY", .real p.driftY),
     ("spiralAmount", .real p.spiralAmount), ("starPoints", .count p.starPoints),
     ("crossThickness", .real p.crossThickness)]
  | .shapes =>
    [("removeShapes", .switch p.removeShapes), ("removeFrequency", .count p.removeFrequency),
     ("inverted", .switch p.inverted)]
  | .stack =>
    [("normalize", .switch p.normalize), ("easing", .name p.easing),
     ("sortByArea", .switch (!p.removeShapes))]
  | .holes => [("frequency", .count p.holeFrequency), ("scale", .real p.holeScale)]
  | .loft => [("height", .real p.height), ("twist", .real p.twist), ("taper", .real p.taper)]

/-- The stages in order; there are only holes where they are wanted. -/
def stages (p : Panel) : List Stage :=
  if p.enableHoles then [.pattern, .shapes, .stack, .holes, .loft]
  else [.pattern, .shapes, .stack, .loft]

/-- The stage before. -/
def before (p : Panel) : Stage → Option Stage
  | .pattern => none
  | .shapes => some .pattern
  | .stack => some .shapes
  | .holes => some .stack
  | .loft => some (if p.enableHoles then .holes else .stack)

end Panel

/-- What there is at the end of a stage, as it crosses a connection. -/
def Waypoints.value (w : Waypoints) : Stage → Value
  | .pattern => .list (w.placements.map Value.ofPlacement)
  | .shapes => .list (w.outlines.map Value.ofOutline)
  | .stack => .list (w.stack.sections.map Value.ofSection)
  | .holes => .list (w.sections.map Value.ofSection)
  | .loft => .mesh w.lofted.mesh

theorem Waypoints.isNull_value (w : Waypoints) (st : Stage) : (w.value st).isNull = false := by
  cases st <;> rfl

theorem Waypoints.coerce_value (w : Waypoints) (st : Stage) :
    st.kind.coerce (w.value st) = .ok (w.value st) := by
  have hplacements := DataKind.coerce_placements (w.placements.map (Placement.map .real))
  have hsections (ss : List (CrossSection Float)) :=
    DataKind.coerce_sections (ss.map (CrossSection.map .real))
  simp only [List.map_map] at hplacements hsections
  cases st with
  | pattern => exact hplacements
  | shapes => exact DataKind.coerce_outlines w.outlines
  | stack => exact hsections w.stack.sections
  | holes => exact hsections w.sections
  | loft => rfl

/-- What is to be told about a stage. -/
def Waypoints.warned (w : Waypoints) : Stage → List String
  | .loft => w.lofted.warnings.map LoftWarning.message
  | _ => []

theorem Waypoints.warned_of_ne (w : Waypoints) {st : Stage} (h : st ≠ .loft) :
    w.warned st = [] := by
  cases st with
  | loft => exact absurd rfl h
  | _ => rfl

/-- What the inputs of the node of a stage hold. -/
def Panel.held (p : Panel) (w : Waypoints) (st : Stage) (name : String) : Value :=
  match (p.controls st).value? name with
  | some c => c.held
  | none => ((p.before st).map w.value).getD .null

namespace Panel

variable {p : Panel} {w : Waypoints} {inputs : Inputs}

theorem controls_exact (hexact : ∀ i ∈ p.counts, HeldExactly i) (st : Stage) :
    ∀ entry ∈ p.controls st, entry.2.Exact := by
  simp only [counts, List.forall_mem_cons] at hexact
  obtain ⟨hsteps, hstar, hholes, hremove, -⟩ := hexact
  cases st <;> simp [controls, Control.Exact, hsteps, hstar, hholes, hremove]

/-- Every input of the node of a stage has a control of its kind, but for the one that takes what
the stage before puts out. -/
theorem input_cases (p : Panel) {st : Stage} {port : Port} (hport : port ∈ st.definition.inputs) :
    (∃ c, (p.controls st).value? port.id = some c ∧ c.kind = port.kind) ∨
      ((p.controls st).value? port.id = none ∧ port.id = st.input ∧
        ∃ st', p.before st = some st' ∧ st'.kind = port.kind) := by
  cases st <;>
    simp only [Stage.definition, Builtin.pattern2D, Builtin.patternToShapes, Builtin.crossSections,
      Builtin.addHoles, Builtin.loft, Builtin.numberPort, List.mem_cons, List.not_mem_nil,
      or_false] at hport
  case pattern =>
    left
    obtain rfl | rfl | rfl | rfl | rfl | rfl | rfl | rfl | rfl | rfl | rfl | rfl := hport <;>
      exact ⟨_, rfl, rfl⟩
  case shapes =>
    obtain rfl | rfl | rfl | rfl := hport
    · exact .inr ⟨rfl, rfl, _, rfl, rfl⟩
    all_goals exact .inl ⟨_, rfl, rfl⟩
  case stack =>
    obtain rfl | rfl | rfl | rfl := hport
    · exact .inr ⟨rfl, rfl, _, rfl, rfl⟩
    all_goals exact .inl ⟨_, rfl, rfl⟩
  case holes =>
    obtain rfl | rfl | rfl := hport
    · exact .inr ⟨rfl, rfl, _, rfl, rfl⟩
    all_goals exact .inl ⟨_, rfl, rfl⟩
  case loft =>
    obtain rfl | rfl | rfl | rfl := hport
    · refine .inr ⟨rfl, rfl, _, rfl, ?_⟩
      split <;> rfl
    all_goals exact .inl ⟨_, rfl, rfl⟩

theorem mem_stages_iff {st : Stage} :
    st ∈ p.stages ↔ (st = .holes → p.enableHoles = true) := by
  cases hholes : p.enableHoles <;> cases st <;> simp [stages, hholes]

/-! ## What the nodes do -/

/-- The inputs of the node of a stage hold what the panel and the stage before give them. -/
def Holding (p : Panel) (w : Waypoints) (st : Stage) (inputs : Inputs) : Prop :=
  ∀ name ∈ st.definition.inputs.map Port.id, inputs.value name = p.held w st name

/-- The settings of a pattern node as long as it has not looked at how the pattern grows. -/
def ungrown (p : Panel) : PatternSettings Float :=
  { PatternSettings.standard with
    shape := .ok p.shape
    steps := .ok p.steps
    size := some p.size
    driftX := p.driftX
    driftY := p.driftY
    starPoints := .ok p.starPoints
    crossThickness := some p.crossThickness }

theorem Holding.withGrowth_eq (h : p.Holding w .pattern inputs) :
    Builtin.withGrowth inputs p.ungrown = .ok p.pattern := by
  have hrotationStart (use : OpenUse) : inputs.need use "rotationStart" = .ok p.rotationStart :=
    Inputs.need_float (h "rotationStart" (by decide)) use
  have hrotationStep (use : OpenUse) : inputs.need use "rotationStep" = .ok p.rotationStep :=
    Inputs.need_float (h "rotationStep" (by decide)) use
  have hspiral (use : OpenUse) : inputs.need use "spiralAmount" = .ok p.spiralAmount :=
    Inputs.need_float (h "spiralAmount" (by decide)) use
  have hscaleStart : inputs.number? "scaleStart" = some p.scaleStart :=
    Inputs.number?_float (h "scaleStart" (by decide))
  have hscaleFactor : inputs.number? "scaleFactor" = some p.scaleFactor :=
    Inputs.number?_float (h "scaleFactor" (by decide))
  simp only [Builtin.withGrowth, hrotationStart, hrotationStep, hspiral, hscaleStart,
    hscaleFactor]
  rfl

/-- A pattern node looks at how the pattern grows if there are steps. -/
theorem Holding.patternSettings_eq (h : p.Holding w .pattern inputs)
    (hexact : ∀ i ∈ p.counts, HeldExactly i) :
    Builtin.patternSettings inputs = .ok (if 0 < p.steps then p.pattern else p.ungrown) := by
  have hsteps : inputs.count "steps" = .ok p.steps :=
    Inputs.count_ofInt (hexact p.steps (by simp [counts])) (h "steps" (by decide))
  have hstar : inputs.count "starPoints" = .ok p.starPoints :=
    Inputs.count_ofInt (hexact p.starPoints (by simp [counts])) (h "starPoints" (by decide))
  have hdriftX (use : OpenUse) : inputs.need use "driftX" = .ok p.driftX :=
    Inputs.need_float (h "driftX" (by decide)) use
  have hdriftY (use : OpenUse) : inputs.need use "driftY" = .ok p.driftY :=
    Inputs.need_float (h "driftY" (by decide)) use
  have hshape : inputs.shape "shape" = p.shape := Inputs.shape_shape (h "shape" (by decide))
  have hsize : inputs.number? "size" = some p.size := Inputs.number?_float (h "size" (by decide))
  have hthickness : inputs.number? "crossThickness" = some p.crossThickness :=
    Inputs.number?_float (h "crossThickness" (by decide))
  simp only [Builtin.patternSettings, hsteps, hstar, hdriftX, hdriftY, hshape, hsize, hthickness]
  show (if 0 < p.steps then Builtin.withGrowth inputs p.ungrown else .ok p.ungrown) = _
  rw [h.withGrowth_eq]
  split <;> rfl

/-- Without steps it makes no difference how the pattern would grow. -/
theorem generate_eq (p : Panel) :
    (if 0 < p.steps then p.pattern else p.ungrown).generate = p.pattern.generate := by
  split
  · rfl
  · next hnone =>
    exact PatternSettings.generate_of_stepless (Int.not_lt.mp hnone) rfl rfl rfl rfl rfl

/-- A pattern node grows the pattern of the panel. -/
theorem Passes.answers_pattern (h : p.Passes w) (hexact : ∀ i ∈ p.counts, HeldExactly i)
    (id : String) :
    Answers Builtin.pattern2D id (p.held w .pattern) [("pattern", w.value .pattern)] [] := by
  intro inputs hin
  have haction : Builtin.pattern2D.action id inputs
      = .yields [("pattern", w.value .pattern)] := by
    show Request.ofResult (Builtin.patternSettings inputs >>= fun s =>
      NodeFault.lift s.generate >>= fun placements => _) = _
    rw [Holding.patternSettings_eq hin hexact]
    show Request.ofResult (NodeFault.lift (PatternSettings.generate _) >>= _) = _
    rw [p.generate_eq, h.placements]
    rfl
  rw [haction]
  exact ⟨rfl, rfl⟩

/-- An outline node takes the outlines of the panel. -/
theorem Passes.answers_shapes (h : p.Passes w) (hexact : ∀ i ∈ p.counts, HeldExactly i)
    (id : String) :
    Answers Builtin.patternToShapes id (p.held w .shapes) [("shapes", w.value .shapes)] [] := by
  intro inputs hin
  have hpattern : inputs.pattern? "pattern" = some (w.placements.map (Placement.map .real)) := by
    have hvalue : inputs.value "pattern"
        = .list ((w.placements.map (Placement.map .real)).map .placement) :=
      (hin "pattern" (by decide)).trans (congrArg Value.list (List.map_map ..).symm)
    rw [Inputs.pattern?_placements hvalue, List.map_map]
    exact congrArg some (List.map_congr_left fun placement _ => placement.ofQuantity_real)
  have hfrequency : inputs.count "removeFrequency" = .ok p.removeFrequency :=
    Inputs.count_ofInt (hexact _ (by simp [counts])) (hin "removeFrequency" (by decide))
  have hremove : inputs.flag "removeShapes" = p.removeShapes :=
    Inputs.flag_bool (hin "removeShapes" (by decide))
  have hinverted : inputs.flag "inverted" = p.inverted :=
    Inputs.flag_bool (hin "inverted" (by decide))
  have haction : Builtin.patternToShapes.action id inputs
      = .yields [("shapes", w.value .shapes)] := by
    simp only [Builtin.patternToShapes, hpattern, hfrequency, hremove, hinverted]
    show Request.ofResult (NodeFault.lift (measuredOutlines _ p.settings.outlines _) >>= _) = _
    rw [h.outlines]
    rfl
  rw [haction]
  exact ⟨rfl, rfl⟩

/-- A stacking node stacks the outlines as the panel says. What it has to say about resampling goes
to the log. -/
theorem Passes.answers_stack (h : p.Passes w) (id : String) :
    Answers Builtin.crossSections id (p.held w .stack) [("crossSections", w.value .stack)] [] := by
  intro inputs hin
  have houtlines : inputs.outlines? "shapes" = some w.outlines :=
    Inputs.outlines?_outlines (hin "shapes" (by decide))
  have hnormalize : inputs.flag "normalize" = p.normalize :=
    Inputs.flag_bool (hin "normalize" (by decide))
  have hsort : inputs.flag "sortByArea" = !p.removeShapes :=
    Inputs.flag_bool (hin "sortByArea" (by decide))
  have heasing : Builtin.easingOf (inputs.text "easing") = .ok (some w.easing) := by
    have hnamed : p.easing ≠ "" := by
      intro hempty
      cases (hempty ▸ h.easing : Easing.ofName "" = .ok w.easing)
    rw [Inputs.text_text (hin "easing" (by decide)), Builtin.easingOf, if_neg hnamed, h.easing]
    rfl
  have hstack : Builtin.stackOf inputs w.outlines = .ok w.stack := by
    simp only [Builtin.stackOf, heasing, hnormalize, hsort, Bool.not_not]
    show NodeFault.lift (crossSections w.outlines (p.settings.sections w.easing)) = _
    rw [h.stack]
    rfl
  have haction : Builtin.crossSections.action id inputs
      = .notes (w.stack.notices.map Notice.message)
          (.yields [("crossSections", w.value .stack)]) := by
    simp only [Builtin.crossSections, houtlines, hstack]
    rfl
  rw [haction, Request.result_notes, Request.warned_notes]
  exact ⟨rfl, rfl⟩

/-- A piercing node gives the stack the holes of the panel. -/
theorem Passes.answers_holes (h : p.Passes w) (hexact : ∀ i ∈ p.counts, HeldExactly i)
    (hholes : p.enableHoles = true) (id : String) :
    Answers Builtin.addHoles id (p.held w .holes) [("crossSections", w.value .holes)] [] := by
  intro inputs hin
  have hsections : inputs.sections? "crossSections"
      = some (w.stack.sections.map (CrossSection.map .real)) :=
    Inputs.sections?_sections
      ((hin "crossSections" (by decide)).trans (congrArg Value.list (List.map_map ..).symm))
  have hfrequency : inputs.count "frequency" = .ok p.holeFrequency :=
    Inputs.count_ofInt (hexact _ (by simp [counts])) (hin "frequency" (by decide))
  have hscale (use : OpenUse) : inputs.need use "scale" = .ok p.holeScale :=
    Inputs.need_float (hin "scale" (by decide)) use
  have haction : Builtin.addHoles.action id inputs
      = .yields [("crossSections", w.value .holes)] := by
    simp only [Builtin.addHoles, hsections, hfrequency, hscale]
    show Request.yields [("crossSections", .list ((addHoles _ _ _).map Value.crossSection))] = _
    rw [addHoles_real, ← h.sections_of_holes hholes, List.map_map]
    rfl
  rw [haction]
  exact ⟨rfl, rfl⟩

/-- A loft node lofts the stack as the panel says when no fan would close the tip. -/
theorem Passes.answers_loft (h : p.Passes w) (hopen : ¬ p.ClosesTip) (id : String) :
    Answers Builtin.loft id (p.held w .loft) [("geometry", w.value .loft)] (w.warned .loft) := by
  intro inputs hin
  have hlast : p.held w .loft "crossSections"
      = .list ((w.sections.map (CrossSection.map .real)).map .crossSection) := by
    rw [List.map_map]
    show w.value (if p.enableHoles then Stage.holes else Stage.stack) = _
    split
    · rfl
    · next hsolid => rw [h.sections_of_solid (Bool.not_eq_true _ ▸ hsolid)]; rfl
  have hsections : inputs.sections? "crossSections"
      = some (w.sections.map (CrossSection.map .real)) :=
    Inputs.sections?_sections ((hin "crossSections" (by decide)).trans hlast)
  have hlofted : Builtin.lofted inputs (w.sections.map (CrossSection.map .real))
      = .ok w.lofted := by
    rw [Loft.lofted_eq (hin "height" (by decide)) (hin "twist" (by decide))
      (hin "taper" (by decide)), List.map_map]
    have hsame : w.sections.map (CrossSection.map Measure.ofQuantity ∘ CrossSection.map .real)
        = w.sections.map (CrossSection.map .real) :=
      List.map_congr_left fun s _ => s.ofQuantity_real
    have hlofting : measuredLoft (w.sections.map (CrossSection.map .real)) p.settings.lofting
        = measuredLoft (w.sections.map (CrossSection.map .real))
            { p.settings.lofting with closeTip := false } :=
      congrArg (Except.map (Lofted.map Measure.toFloat))
        (Loft.loft_of_open fun i hi => hopen ⟨w, h, i, hi⟩)
    rw [hsame]
    show NodeFault.lift (measuredLoft _ { p.settings.lofting with closeTip := false }) = _
    rw [← hlofting, h.lofted]
    rfl
  have haction : Builtin.loft.action id inputs
      = .warnings (w.warned .loft) (.yields [("geometry", w.value .loft)]) := by
    simp only [Builtin.loft, hsections, hlofted]
    rfl
  rw [haction, Request.result_warnings, Request.warned_warnings]
  exact ⟨rfl, List.append_nil _⟩

/-- **The node of a stage** goes the stretch that the body would go. -/
theorem Passes.answers (h : p.Passes w) (hexact : ∀ i ∈ p.counts, HeldExactly i)
    (hopen : ¬ p.ClosesTip) {st : Stage} (hst : st ∈ p.stages) (id : String) :
    Answers st.definition id (p.held w st) [(st.output, w.value st)] (w.warned st) := by
  cases st with
  | pattern => exact h.answers_pattern hexact id
  | shapes => exact h.answers_shapes hexact id
  | stack => exact h.answers_stack id
  | holes => exact h.answers_holes hexact (mem_stages_iff.mp hst rfl) id
  | loft => exact h.answers_loft hopen id

end Panel

end LoftGraph
