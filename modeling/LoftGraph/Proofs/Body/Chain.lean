import LoftGraph.Proofs.Body.Stages
import LoftGraph.Proofs.Body.TriangleCount

/-!
# Chains of nodes

A graph is the `Panel.Chain` of a panel when its nodes are those of the stages, set to the controls
of the panel, and its connections lead from stage to stage. The names of the nodes and connections,
their places and the order in which they are declared are free.

A full pass over such a graph goes the way of the panel stage by stage (`Chain.cached_value`, by
`stage_induction`). So it ends with the one mesh that is the body of the panel, and its diagnostics
are the warnings of the loft (`chain_evaluates_to_body`).
-/

namespace LoftGraph

/-- The connection under no name. -/
def Connection.unnamed (c : Connection) : Connection := { c with id := "" }

namespace Panel

variable {p : Panel}

/-! ## From stage to stage -/

/-- The connections from stage to stage, when the nodes have these names. -/
def links (p : Panel) (names : Stage → String) : List Connection :=
  p.stages.filterMap fun st => (p.before st).map fun st' =>
    ⟨"", names st', st'.output, names st, st.input⟩

/-- The values that the panel sets on the node of a stage. -/
def overrides (p : Panel) (st : Stage) : Overrides :=
  .ofPorts ((p.controls st).map fun entry => (entry.1, entry.2.value))

theorem nodup_stages (p : Panel) : p.stages.Nodup := by
  unfold stages
  split <;> decide

/-- Stages are listed in the order in which they follow. -/
theorem pair_sublist_stages {st st' : Stage} (hst : st ∈ p.stages)
    (hbefore : p.before st = some st') : [st', st].Sublist p.stages := by
  cases st with
  | pattern => cases hbefore
  | shapes =>
    cases hbefore
    unfold stages
    split <;> decide
  | stack =>
    cases hbefore
    unfold stages
    split <;> decide
  | holes =>
    cases hbefore
    rw [stages, if_pos (mem_stages_iff.mp hst rfl)]
    decide
  | loft =>
    cases hbefore
    unfold stages
    split <;> decide

/-- **Induction along the stages.** -/
theorem stage_induction {P : Stage → Prop}
    (hstep : ∀ st ∈ p.stages, (∀ st', p.before st = some st' → P st') → P st) :
    ∀ st ∈ p.stages, P st := by
  have hpattern : P .pattern := hstep _ (mem_stages_iff.mpr nofun) nofun
  have hshapes : P .shapes := hstep _ (mem_stages_iff.mpr nofun) (by rintro _ ⟨⟩; exact hpattern)
  have hstack : P .stack := hstep _ (mem_stages_iff.mpr nofun) (by rintro _ ⟨⟩; exact hshapes)
  have hholes (hmem : .holes ∈ p.stages) : P .holes := hstep _ hmem (by rintro _ ⟨⟩; exact hstack)
  have hloft : P .loft := by
    refine hstep _ (mem_stages_iff.mpr nofun) ?_
    rintro _ ⟨⟩
    split
    · next henable => exact hholes (mem_stages_iff.mpr fun _ => henable)
    · exact hstack
  intro st hst
  cases st with
  | pattern => exact hpattern
  | shapes => exact hshapes
  | stack => exact hstack
  | holes => exact hholes hst
  | loft => exact hloft

/-! ## Chains -/

/-- The graph is a chain of the stages, whose nodes have these names. -/
structure Chain (p : Panel) (names : Stage → String) (g : Graph) : Prop where
  /-- Different stages have different nodes. -/
  injective : Function.Injective names
  ids : g.ids.Perm (p.stages.map names)
  type : ∀ n ∈ g.nodes, ∀ st, n.id = names st → n.type = st.definition.type
  /-- The controls of the panel are set on the nodes, in whatever order. -/
  overrides : ∀ n ∈ g.nodes, ∀ st, n.id = names st → n.overrides.Perm (p.overrides st)
  connections : (g.connections.map Connection.unnamed).Perm (p.links names)

/-- The chain with everything in order. -/
def graph (p : Panel) (names : Stage → String) : Graph where
  nodes := p.stages.map fun st => ⟨names st, st.definition.type, p.overrides st, none⟩
  connections := p.links names

/-- Every panel has a chain, under any names that are different. -/
theorem chain_graph (p : Panel) {names : Stage → String} (h : Function.Injective names) :
    p.Chain names (p.graph names) := by
  have hnode : ∀ n ∈ (p.graph names).nodes, ∀ st, n.id = names st →
      n = ⟨names st, st.definition.type, p.overrides st, none⟩ := by
    intro n hn st hid
    obtain ⟨st', -, rfl⟩ := List.mem_map.mp hn
    rw [h hid]
  constructor
  case injective => exact h
  case ids => exact .of_eq List.map_map
  case type =>
    intro n hn st hid
    rw [hnode n hn st hid]
  case overrides =>
    intro n hn st hid
    rw [hnode n hn st hid]
  case connections =>
    refine .of_eq ((List.map_filterMap).trans (List.filterMap_congr fun st _ => ?_))
    exact Option.map_map ..

namespace Chain

variable {names : Stage → String} {g : Graph} {n : GraphNode} {st : Stage}

theorem nodup_ids (h : p.Chain names g) : g.ids.Nodup :=
  h.ids.nodup_iff.mpr (p.nodup_stages.map h.injective)

theorem hasNode_iff (h : p.Chain names g) {x : String} :
    g.hasNode x = true ↔ ∃ st ∈ p.stages, names st = x := by
  rw [Graph.hasNode_iff, h.ids.mem_iff, List.mem_map]

/-- The nodes of a chain are those of its stages. -/
theorem exists_stage (h : p.Chain names g) (hn : n ∈ g.nodes) : ∃ st ∈ p.stages, names st = n.id :=
  h.hasNode_iff.mp (Graph.hasNode_of_mem hn)

/-- Every stage has its node. -/
theorem exists_node (h : p.Chain names g) (hst : st ∈ p.stages) :
    ∃ n, g.node? (names st) = some n ∧ n ∈ g.nodes ∧ n.id = names st := by
  obtain ⟨n, hn⟩ := Graph.exists_node?_of_hasNode (h.hasNode_iff.mpr ⟨st, hst, rfl⟩)
  exact ⟨n, hn, List.mem_of_find?_eq_some hn, Graph.node?_id hn⟩

/-- A connection of a chain leads from one stage to the next. -/
theorem connection_cases (h : p.Chain names g) {c : Connection} (hc : c ∈ g.connections) :
    ∃ st ∈ p.stages, ∃ st', p.before st = some st' ∧ c.fromNode = names st' ∧
      c.fromPort = st'.output ∧ c.toNode = names st ∧ c.toPort = st.input := by
  have hlink : c.unnamed ∈ p.links names :=
    h.connections.mem_iff.mp (List.mem_map_of_mem hc)
  obtain ⟨st, hst, hlink⟩ := List.mem_filterMap.mp hlink
  obtain ⟨st', hbefore, hlink⟩ := Option.map_eq_some_iff.mp hlink
  refine ⟨st, hst, st', hbefore, ?_⟩
  obtain ⟨id, fromNode, fromPort, toNode, toPort⟩ := c
  cases hlink
  exact ⟨rfl, rfl, rfl, rfl⟩

/-- A chain leads nowhere back. -/
theorem acyclic (h : p.Chain names g) : g.Acyclic := by
  refine Graph.acyclic_of_order (p.nodup_stages.map h.injective) ?_
  rintro a b ⟨c, hc, -, rfl, rfl⟩
  obtain ⟨st, hst, st', hbefore, hfrom, -, hto, -⟩ := h.connection_cases hc
  rw [hfrom, hto]
  exact (pair_sublist_stages hst hbefore).map names

/-- One connection leads to each stage that has one before it. -/
theorem incoming_eq (h : p.Chain names g) (hst : st ∈ p.stages) {st' : Stage}
    (hbefore : p.before st = some st') : ∃ c : Connection, g.incoming (names st) = [c] ∧
      c.fromNode = names st' ∧ c.fromPort = st'.output ∧ c.toPort = st.input := by
  have hlinks : (p.links names).filter (fun c => c.toNode = names st)
      = [⟨"", names st', st'.output, names st, st.input⟩] := by
    rw [links, List.filterMap_eq_flatMap_toList, List.filter_flatMap,
      flatMap_eq_of_mem p.nodup_stages hst, hbefore]
    · simp
    · intro other _ hne
      cases p.before other with
      | none => rfl
      | some _ => simp [h.injective.ne hne]
  have hperm : ((g.incoming (names st)).map Connection.unnamed).Perm
      ((p.links names).filter (fun c => c.toNode = names st)) := by
    have hfilter := h.connections.filter (fun c => c.toNode = names st)
    rwa [List.filter_map] at hfilter
  rw [hlinks, List.perm_singleton, List.map_eq_singleton_iff] at hperm
  obtain ⟨⟨id, fromNode, fromPort, toNode, toPort⟩, hincoming, hlink⟩ := hperm
  cases hlink
  exact ⟨_, hincoming, rfl, rfl, rfl⟩

theorem override?_eq (h : p.Chain names g) (hn : n ∈ g.nodes) (hid : n.id = names st)
    (name : String) : n.override? name = ((p.controls st).value? name).map Control.value := by
  let entries : Fields Value := (p.controls st).map fun entry => (entry.1, entry.2.value)
  have hnodup : entries.names.Nodup := by
    cases st <;> simp [entries, controls]
  have hperm : n.overrides.toPorts.Perm entries := by
    have hports := (h.overrides n hn st hid).filterMap
      (fun entry => entry.1.port?.map fun id => (id, entry.2))
    exact hports.trans (.of_eq (Overrides.toPorts_ofPorts entries))
  have hmine : n.overrides.toPorts.names.Nodup := (hperm.map Prod.fst).nodup_iff.mpr hnodup
  rw [GraphNode.override?, Fields.last?_perm hperm hmine, Fields.last?_of_nodup hnodup,
    Fields.value?_map]

theorem passCuts_eq_nil {s : Session} (h : p.Chain names g) (hs : s.Idle) :
    s.passCuts ⟨g, Registry.builtin⟩ = [] :=
  List.eq_nil_iff_forall_not_mem.mpr fun c hc =>
    h.acyclic.not_onCycle c ((Session.fullPass_solved builtin_quiet hs).onCycle c hc)

/-! ## Passes over a chain -/

section Pass

variable {w : Waypoints} {s : Session} (h : p.Chain names g) (hpass : p.Passes w)
  (hexact : ∀ i ∈ p.counts, HeldExactly i) (hopen : ¬ p.ClosesTip)

include h hpass hexact hopen

/-- The node of a stage works when the stage before has put out what lies at its end. -/
theorem works (hst : st ∈ p.stages) (hn : n ∈ g.nodes) (hid : n.id = names st)
    (hbefore : ∀ st', p.before st = some st' → s.cached (names st') st'.output = w.value st') :
    s.Works ⟨g, Registry.builtin⟩ [] n [(st.output, w.value st)] (w.warned st) st.definition
      (p.held w st) := by
  have hsource : ∀ st', p.before st = some st' → g.hasNode (names st') = true := fun st' hst' =>
    h.hasNode_iff.mpr ⟨st', (pair_sublist_stages hst hst').subset (.head _), rfl⟩
  have hsupply : Session.supply g [] n.id = g.incoming (names st) := by
    rw [Session.supply, hid]
    exact List.filter_eq_self.mpr fun _ _ => rfl
  constructor
  case typed =>
    show Registry.builtin.get? n.type = some st.definition
    rw [h.type n hn st hid, Stage.get?_definition]
  case fits =>
    intro port hport
    rcases p.input_cases hport with ⟨c, hc, hkind⟩ | ⟨hnone, hinput, st', hst', hkind⟩
    · have hset : n.override? port.id = some c.value := by
        rw [h.override?_eq hn hid, hc]
        rfl
      rw [Session.rawValue_of_override hset, held, hc, ← hkind]
      exact Control.coerce_value (controls_exact hexact st _ (Fields.mem_of_value? hc))
    · obtain ⟨c, hincoming, hfrom, hfromPort, hto⟩ := h.incoming_eq hst hst'
      have hunset : n.override? port.id = none := by
        rw [h.override?_eq hn hid, hnone]
        rfl
      have hnode : g.hasNode c.fromNode = true := hfrom ▸ hsource st' hst'
      have harriving : s.cached c.fromNode c.fromPort = w.value st' := by
        rw [hfrom, hfromPort, hbefore st' hst']
      have hvalue : (s.cached c.fromNode c.fromPort).isNull = false :=
        harriving ▸ w.isNull_value st'
      have hheld : p.held w st port.id = w.value st' := by
        rw [held, hnone, hst']
        rfl
      rw [Session.rawValue_of_arriving hunset (hsupply.trans hincoming) (hto.trans hinput.symm)
        hnode hvalue, harriving, hheld, ← hkind]
      exact w.coerce_value st'
  case answers => exact hpass.answers hexact hopen hst n.id
  case produces =>
    intro port hport
    have hentry := List.mem_map_of_mem (f := fun port => (port.id, port.kind)) hport
    rw [Stage.outputs_definition, List.mem_singleton] at hentry
    simp [Fields.has, Fields.value?_cons, (Prod.mk.inj hentry).1]
  case sources =>
    intro c hc
    obtain ⟨hmem, hto⟩ := Graph.mem_incoming.mp (hsupply ▸ hc)
    obtain ⟨st₁, hst₁, st', hst', hfrom, -, hname, -⟩ := h.connection_cases hmem
    rw [h.injective (hname.symm.trans hto)] at hst'
    exact hfrom ▸ hsource st' hst'

/-- **A full pass goes the way of the panel**: after it every stage has put out what lies at its
end. -/
theorem cached_value (hs : s.Idle) : ∀ st ∈ p.stages,
    (s.evaluateGraph ⟨g, Registry.builtin⟩).cached (names st) st.output = w.value st := by
  have hsolved := Session.fullPass_solved (e := ⟨g, Registry.builtin⟩) builtin_quiet hs
  rw [h.passCuts_eq_nil hs] at hsolved
  refine stage_induction fun st hst hbefore => ?_
  obtain ⟨n, hn, hmem, hid⟩ := h.exists_node hst
  have hworks := h.works hpass hexact hopen hst hmem hid hbefore
  have hentry := hsolved.entry (names st) n hn
  rw [hworks.outcome_eq Registry.builtin_built fun x => (hsolved.cached x).mp] at hentry
  rw [Session.cached, hentry]
  simp [Fields.value?_cons]

/-- A stage reports what is to be told about it. -/
theorem findings_eq (hs : s.Idle) (hst : st ∈ p.stages) (hn : n ∈ g.nodes)
    (hid : n.id = names st) :
    (s.evaluateGraph ⟨g, Registry.builtin⟩).findings ⟨g, Registry.builtin⟩ [] n
      = (w.warned st).map (.geometryWarning (names st)) := by
  have hsolved := Session.fullPass_solved (e := ⟨g, Registry.builtin⟩) builtin_quiet hs
  have hworks := h.works hpass hexact hopen hst hn hid fun st' hst' =>
    h.cached_value hpass hexact hopen hs st' ((pair_sublist_stages hst hst').subset (.head _))
  rw [hworks.findings_eq Registry.builtin_built fun x => (hsolved.cached x).mp, hid]

/-- Only the loft puts out a mesh. -/
theorem nodeMeshes_eq (hs : s.Idle) (hst : st ∈ p.stages) (hn : n ∈ g.nodes)
    (hid : n.id = names st) :
    (s.evaluateGraph ⟨g, Registry.builtin⟩).nodeMeshes Registry.builtin n
      = if st = .loft then [w.lofted.mesh] else [] := by
  have hcached := h.cached_value hpass hexact hopen hs st hst
  rw [Session.nodeMeshes, h.type n hn st hid, Stage.get?_definition, hid]
  cases st with
  | loft =>
    have hport : (s.evaluateGraph ⟨g, Registry.builtin⟩).portMesh? (names .loft)
        ⟨"geometry", "Geometry", .geometry, .null⟩ = some w.lofted.mesh := by
      have hmesh : (s.evaluateGraph ⟨g, Registry.builtin⟩).cached (names .loft) "geometry"
          = .mesh w.lofted.mesh := hcached
      rw [Session.portMesh?, hmesh]
    exact List.filterMap_cons_some hport
  | _ => rfl

end Pass

end Chain

end Panel

/-- **A chain of nodes evaluates to the body of the panel.** When the whole numbers of the panel are
ones that floating point holds, and its settings lead to a body whose tip is not closed by a fan, a
full pass over the chain puts out this one mesh, and its diagnostics are the warnings of the body,
each reported of the loft. -/
theorem chain_evaluates_to_body (p : Panel) (hcounts : ∀ i ∈ p.counts, i.natAbs ≤ Nat.pow 2 53)
    (body : Body) (hbody : p.settings.buildLofted = .ok body) (hopen : ¬ p.ClosesTip)
    (names : Stage → String) (g : Graph) (hchain : p.Chain names g) (s : Session) (hs : s.Idle) :
    let evaluated := s.meshOutputs ⟨g, Registry.builtin⟩
    evaluated.2 = [body.mesh] ∧ evaluated.1.diagnostics
      = body.warnings.map (fun warning => .geometryWarning (names .loft) warning.message) := by
  intro evaluated
  have hexact : ∀ i ∈ p.counts, HeldExactly i := fun i hi => exact_of_le (hcounts i hi)
  obtain ⟨w, hpass, rfl⟩ := Panel.buildLofted_eq_ok_iff.mp hbody
  have hloft : Stage.loft ∈ p.stages := Panel.mem_stages_iff.mpr nofun
  obtain ⟨n, hn, hmem, hid⟩ := hchain.exists_node hloft
  have hother : ∀ m ∈ g.nodes, m ≠ n → ∃ st ∈ p.stages, m.id = names st ∧ st ≠ .loft := by
    intro m hm hne
    obtain ⟨st, hst, hname⟩ := hchain.exists_stage hm
    refine ⟨st, hst, hname.symm, ?_⟩
    rintro rfl
    exact hne (List.inj_on_of_nodup_map hchain.nodup_ids hm hmem (hname.symm.trans hid.symm))
  constructor
  case left =>
    show g.nodes.flatMap _ = _
    rw [Session.meshes_of_producer Registry.builtin hchain.nodup_ids hmem,
      hchain.nodeMeshes_eq hpass hexact hopen hs hloft hmem hid]
    · rfl
    · intro m hm hne
      obtain ⟨st, hst, hname, hstage⟩ := hother m hm hne
      rw [hchain.nodeMeshes_eq hpass hexact hopen hs hst hm hname, if_neg hstage]
  case right =>
    have hquiet : ∀ x m, g.node? x = some m → x ≠ n.id →
        (s.evaluateGraph ⟨g, Registry.builtin⟩).findings ⟨g, Registry.builtin⟩
          (s.passCuts ⟨g, Registry.builtin⟩) m = [] := by
      intro x m hm hx
      have hne : m ≠ n := by
        rintro rfl
        exact hx (Graph.node?_id hm).symm
      obtain ⟨st, hst, hname, hstage⟩ := hother m (List.mem_of_find?_eq_some hm) hne
      rw [hchain.passCuts_eq_nil hs,
        hchain.findings_eq hpass hexact hopen hs hst (List.mem_of_find?_eq_some hm) hname,
        w.warned_of_ne hstage, List.map_nil]
    show (s.evaluateGraph ⟨g, Registry.builtin⟩).diagnostics = _
    rw [Session.diagnostics_of_reporter builtin_quiet hs hchain.acyclic (hid ▸ hn) hquiet,
      hchain.passCuts_eq_nil hs, hchain.findings_eq hpass hexact hopen hs hloft hmem hid,
      Diagnostic.noteAll_of_nodup]
    · exact List.map_map
    · rw [List.nil_append, List.map_map]
      exact hpass.nodup_messages.map fun _ _ hkey => (Prod.mk.inj (Prod.mk.inj hkey).2).2

/-- What is lofted on the way of a panel is what its settings stack. -/
theorem Panel.Passes.stacked_eq {p : Panel} {w : Waypoints} (h : p.Passes w) :
    p.settings.stacked = .ok w.sections := by
  have hplacements : p.settings.pattern.generate
      = .ok (w.placements.map (Placement.map .real)) := by
    rw [Panel.pattern_settings, PatternSettings.generate_real, h.placements]
    rfl
  refine bind_eq_ok_iff.mpr ⟨_, hplacements, bind_eq_ok_iff.mpr ⟨_, h.outlines, ?_⟩⟩
  exact bind_eq_ok_iff.mpr ⟨_, h.easing, bind_eq_ok_iff.mpr ⟨_, h.stack, h.sections⟩⟩

/-- A panel with as many tips as floating point counts. Its pattern has no steps, because a proof
cannot evaluate the circle functions that a step asks for. -/
def unstepped : Panel where
  shape := .star
  steps := 0
  size := 20
  scaleStart := 1
  scaleFactor := 1.1
  rotationStart := 0
  rotationStep := 15
  driftX := 5
  driftY := 5
  spiralAmount := 0
  inverted := true
  starPoints := 9007199254740992
  crossThickness := 0.2
  height := 200
  twist := 90
  taper := 0.5
  normalize := true
  easing := "easeOut"
  enableHoles := true
  holeFrequency := -1
  holeScale := 0.35
  removeShapes := true
  removeFrequency := 2
  startRadius := 15
  endRadius := 5
  segmentLength := 20
  radiusVariation := 0

/-- A panel of ten steps. Of the five outlines that it keeps the first and the last are removed, and
each of the others has a hole. -/
def stepped : Panel :=
  { unstepped with
    steps := 10
    starPoints := 7
    holeFrequency := 1
    removeFrequency := 4 }

theorem stepped_reads : stepped.settings.Reads .star 10 7 4 1 :=
  ⟨rfl, rfl, rfl, fun _ => rfl, fun _ => rfl⟩

/-- The last outline is removed, so there is no tip to be closed. -/
theorem stepped_tip {sections : List (CrossSection Float)} {body : Body}
    (hstacked : stepped.settings.stacked = .ok sections)
    (hbody : stepped.settings.buildLofted = .ok body) :
    Loft.tipCollapses (sections.map (CrossSection.map .real)) stepped.settings.lofting = false := by
  have hbuild : stepped.settings.build none = .ok body := hbody
  obtain ⟨sections', hstacked', -, htip, -⟩ := stepped_reads.triangleCount rfl hbuild
  cases Except.ok.inj (hstacked.symm.trans hstacked')
  exact eq_false_of_ne_true fun hclosed => htip hclosed (by decide)

theorem stepped_open : ¬ stepped.ClosesTip := by
  intro ⟨w, hw, i, hclosed⟩
  have hbody : stepped.settings.buildLofted = .ok w.body :=
    Panel.buildLofted_eq_ok_iff.mpr ⟨w, hw, rfl⟩
  cases (stepped_tip hw.stacked_eq hbody).symm.trans (Loft.tipCollapses_of_closedTip hclosed)

/-- Two pairs of outlines of fourteen vertices are joined, outside and inside. -/
theorem stepped_triangleCount {body : Body} (hbody : stepped.settings.buildLofted = .ok body) :
    body.mesh.triangleCount = 112 := by
  have hbuild : stepped.settings.build none = .ok body := hbody
  obtain ⟨sections, hstacked, -, -, htriangles⟩ := stepped_reads.triangleCount rfl hbuild
  have hjoints : stepped.settings.joints 4 (stepped.settings.kept 10) = 2 := by decide
  rw [htriangles, hjoints, stepped_tip hstacked hbody]
  rfl

/-- Nodes named for what they put out, or for what they do to it. -/
def Stage.label : Stage → String
  | .pattern => "pattern"
  | .shapes => "shapes"
  | .stack => "stack"
  | .holes => "holes"
  | .loft => "loft"

/-- The empty body of this panel. -/
theorem unstepped_passes :
    unstepped.Passes ⟨[], [], .easeOut, ⟨[], []⟩, [], ⟨Mesh.empty, []⟩⟩ where
  placements := rfl
  outlines := rfl
  easing := rfl
  stack := rfl
  sections := rfl
  lofted := by
    show Except.ok (Lofted.map Measure.toFloat ⟨Mesh.empty, []⟩) = _
    simp [Lofted.map, Mesh.map, Mesh.empty]

theorem Panel.chain_graph_label (p : Panel) : p.Chain Stage.label (p.graph Stage.label) := by
  refine p.chain_graph fun st st' => ?_
  cases st <;> cases st' <;> decide

theorem unstepped_chain_evaluates_to_body :
    let g := unstepped.graph Stage.label
    let evaluated := (Session.ofGraph g).meshOutputs ⟨g, Registry.builtin⟩
    let g' := stepped.graph Stage.label
    let evaluated' := (Session.ofGraph g').meshOutputs ⟨g', Registry.builtin⟩
    ((∀ i ∈ unstepped.counts, i.natAbs ≤ Nat.pow 2 53) ∧
      unstepped.settings.buildLofted = .ok ⟨Mesh.empty, [], []⟩ ∧ ¬ unstepped.ClosesTip ∧
      unstepped.Chain Stage.label g ∧ (Session.ofGraph g).Idle ∧
      evaluated.2 = [Mesh.empty] ∧ evaluated.1.diagnostics = []) ∧
    (∀ i ∈ stepped.counts, i.natAbs ≤ Nat.pow 2 53) ∧ ¬ stepped.ClosesTip ∧
      stepped.Chain Stage.label g' ∧ (Session.ofGraph g').Idle ∧
      ∀ body, stepped.settings.buildLofted = .ok body →
        evaluated'.2 = [body.mesh] ∧ body.mesh.triangleCount = 112 ∧
        evaluated'.1.diagnostics
          = body.warnings.map (fun warning => .geometryWarning "loft" warning.message) ∧
        ∀ warning ∈ body.warnings, ∃ i, warning = .collapsed i := by
  intro g evaluated g' evaluated'
  have hcounts : ∀ i ∈ unstepped.counts, i.natAbs ≤ Nat.pow 2 53 := by decide
  have hbody : unstepped.settings.buildLofted = .ok ⟨Mesh.empty, [], []⟩ :=
    Panel.buildLofted_eq_ok_iff.mpr ⟨_, unstepped_passes, rfl⟩
  have hopen : ¬ unstepped.ClosesTip := by
    rintro ⟨w, hw, i, -, hlast, -⟩
    rw [hw.unique unstepped_passes] at hlast
    cases hlast
  obtain ⟨hmeshes, hdiagnostics⟩ := chain_evaluates_to_body unstepped hcounts _ hbody hopen
    Stage.label g unstepped.chain_graph_label (Session.ofGraph g) rfl
  have hcounts' : ∀ i ∈ stepped.counts, i.natAbs ≤ Nat.pow 2 53 := by decide
  refine ⟨⟨hcounts, hbody, hopen, unstepped.chain_graph_label, rfl, hmeshes, hdiagnostics⟩,
    hcounts', stepped_open, stepped.chain_graph_label, rfl, fun body hbody' => ?_⟩
  obtain ⟨hmeshes', hdiagnostics'⟩ := chain_evaluates_to_body stepped hcounts' body hbody'
    stepped_open Stage.label g' stepped.chain_graph_label (Session.ofGraph g') rfl
  have hbuild : stepped.settings.build none = .ok body := hbody'
  exact ⟨hmeshes', stepped_triangleCount hbody', hdiagnostics',
    stepped_reads.warnings_collapsed rfl hbuild⟩

end LoftGraph
