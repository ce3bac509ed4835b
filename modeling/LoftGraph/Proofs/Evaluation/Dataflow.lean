import LoftGraph.Proofs.Evaluation.Settled
import LoftGraph.Proofs.Graph.Dependency

/-!
# The equations that a full pass solves

A pass resolves inputs by writing over them: defaults first, then what arrives over connections,
then what is set on the node. Read from the end, an input holds the last thing that was written
(`Session.rawValue`), and `Session.Supplied` says what a node is executed on without mentioning the
order of the writes. `resolve_eq_ok_iff` proves the two equal.

`Session.Entry` are the equations for the cached outputs of a node, one case for each way in which a
node may end. They leave no choice (`entry_iff`), and the cache after a full pass over quiet nodes
solves them for every node, on cycles too (`full_pass_solves_equations`).
-/

namespace LoftGraph

/-! ## What reaches an input -/

/-- The value set on an input of a node, if there is one. -/
def GraphNode.override? (n : GraphNode) (port : String) : Option Value :=
  Fields.last? n.overrides.toPorts port

namespace Session

variable {e : Evaluation} {s : Session} {g : Graph} {cut : List Connection}
variable {d : NodeDefinition} {n : GraphNode} {inputs : Inputs}

/-- What arrives over connections, by input, in their order: the values that are not absent, from
nodes that are there. -/
def arriving (s : Session) (g : Graph) (cs : List Connection) : Fields Value :=
  ((cs.filter (fun c => g.hasNode c.fromNode)).map
    (fun c => (c.toPort, s.cached c.fromNode c.fromPort))).filter (fun entry => !entry.2.isNull)

/-- What is given under a name: what is set on the node, else what arrives last over a connection
that is not cut. -/
def given? (s : Session) (g : Graph) (cut : List Connection) (n : GraphNode) (name : String) :
    Option Value :=
  (n.override? name).or (Fields.last? (s.arriving g (supply g cut n.id)) name)

/-- The names under which something is given. -/
def givenNames (s : Session) (g : Graph) (cut : List Connection) (n : GraphNode) : List String :=
  (s.arriving g (supply g cut n.id)).names ++ n.overrides.toPorts.names

/-- The value of an input before it is brought into its kind. -/
def rawValue (s : Session) (g : Graph) (cut : List Connection) (n : GraphNode) (port : Port) :
    Value :=
  (s.given? g cut n port.id).getD port.default

/-- What a node is executed on. -/
structure Supplied (s : Session) (g : Graph) (cut : List Connection) (d : NodeDefinition)
    (n : GraphNode) (inputs : Inputs) : Prop where
  /-- A declared input holds its raw value, brought into its kind. -/
  declared : ∀ port ∈ d.inputs, ∃ v, port.kind.coerce (s.rawValue g cut n port) = .ok v ∧
    inputs.ports.value? port.id = some v
  /-- What is given under a name that is not declared is there as it is. -/
  undeclared : ∀ name ∉ d.inputs.map Port.id, inputs.ports.value? name = s.given? g cut n name
  /-- Declared inputs come first, then the other names in the order in which they are given. -/
  names : inputs.ports.names = d.inputs.map Port.id ++
    ((s.givenNames g cut n).filter (fun name => name ∉ d.inputs.map Port.id)).eraseDups
  /-- What is set under names that no input can have is there besides. -/
  strays : inputs.strays = n.overrides.strays

theorem Supplied.nodup (h : s.Supplied g cut d n inputs) (hd : (d.inputs.map Port.id).Nodup) :
    inputs.ports.names.Nodup := by
  rw [h.names]
  refine List.nodup_append.mpr ⟨hd, nodup_eraseDups _, ?_⟩
  rintro name hname _ hother rfl
  have hnew : name ∉ d.inputs.map Port.id := by
    simpa using (List.mem_filter.mp (List.mem_eraseDups.mp hother)).2
  exact hnew hname

/-- There is only one thing a node can be executed on. -/
theorem Supplied.unique {inputs' : Inputs} (h : s.Supplied g cut d n inputs)
    (h' : s.Supplied g cut d n inputs') (hd : (d.inputs.map Port.id).Nodup) : inputs = inputs' := by
  obtain ⟨ports, strays⟩ := inputs
  obtain ⟨ports', strays'⟩ := inputs'
  obtain rfl : strays = strays' := h.strays.trans h'.strays.symm
  have hnames : ports.names = ports'.names := h.names.trans h'.names.symm
  refine congrArg (Inputs.mk · strays) (Fields.ext_of_nodup hnames (h.nodup hd) ?_)
  intro name _
  by_cases hname : name ∈ d.inputs.map Port.id
  · obtain ⟨port, hport, rfl⟩ := List.mem_map.mp hname
    obtain ⟨v, hv, hvalue⟩ := h.declared port hport
    obtain ⟨v', hv', hvalue'⟩ := h'.declared port hport
    obtain rfl : v = v' := Except.ok.inj (hv.symm.trans hv')
    exact hvalue.trans hvalue'.symm
  · exact (h.undeclared name hname).trans (h'.undeclared name hname).symm

/-! ## Resolving inputs -/

/-- Following connections writes what arrives, when only nodes that are there are cached. -/
theorem foldl_arrive (hknown : ∀ x, s.cache.has x = true → g.hasNode x = true)
    (cs : List Connection) (inputs : Fields Value) :
    cs.foldl s.arrive inputs = inputs.setAll (s.arriving g cs) := by
  induction cs generalizing inputs with
  | nil => rfl
  | cons c cs ih =>
    rw [List.foldl_cons, ih]
    by_cases hk : g.hasNode c.fromNode = true
    · by_cases hv : (s.cached c.fromNode c.fromPort).isNull = true
      · simp [arrive, arriving, hk, hv]
      · simp [arrive, arriving, hk, hv, Fields.setAll]
    · -- nothing is cached for a node that is not there
      have hnone : s.cache.value? c.fromNode = none :=
        Fields.value?_eq_none fun hx => hk (hknown _ hx)
      have hv : (s.cached c.fromNode c.fromPort).isNull = true := by simp [cached, hnone]
      simp [arrive, arriving, hk, hv]

theorem defaults_eq (hd : (d.inputs.map Port.id).Nodup) :
    d.defaults = d.inputs.map (fun port => (port.id, port.default)) :=
  Fields.ofEntries_of_nodup (by simpa [Fields.names, Function.comp_def] using hd)

theorem names_defaults (hd : (d.inputs.map Port.id).Nodup) :
    d.defaults.names = d.inputs.map Port.id := by
  simp [defaults_eq hd, Fields.names, Function.comp_def]

/-- The inputs before coercion are the defaults, written over with what is given. -/
theorem rawInputs_eq (hknown : ∀ x, s.cache.has x = true → g.hasNode x = true) :
    s.rawInputs g cut d n
      = d.defaults.setAll (s.arriving g (supply g cut n.id) ++ n.overrides.toPorts) := by
  rw [rawInputs, foldl_arrive hknown]
  exact List.foldl_append.symm

theorem value?_rawInputs (hknown : ∀ x, s.cache.has x = true → g.hasNode x = true) (name : String) :
    (s.rawInputs g cut d n).value? name
      = (s.given? g cut n name).or (d.defaults.value? name) := by
  rw [rawInputs_eq hknown, Fields.value?_setAll, Fields.last?_append]
  rfl

theorem value?_rawInputs_port (hknown : ∀ x, s.cache.has x = true → g.hasNode x = true)
    (hd : (d.inputs.map Port.id).Nodup) {port : Port} (hport : port ∈ d.inputs) :
    ((s.rawInputs g cut d n).value? port.id).getD .null = s.rawValue g cut n port := by
  have hdefault : d.defaults.value? port.id = some port.default := by
    refine Fields.value?_of_mem (names_defaults hd ▸ hd) ?_
    rw [defaults_eq hd]
    exact List.mem_map_of_mem hport
  rw [value?_rawInputs hknown, hdefault, rawValue]
  cases s.given? g cut n port.id <;> rfl

theorem names_rawInputs (hknown : ∀ x, s.cache.has x = true → g.hasNode x = true)
    (hd : (d.inputs.map Port.id).Nodup) :
    (s.rawInputs g cut d n).names = d.inputs.map Port.id ++
      ((s.givenNames g cut n).filter (fun name => name ∉ d.inputs.map Port.id)).eraseDups := by
  rw [rawInputs_eq hknown, Fields.names_setAll, names_defaults hd, Fields.names, List.map_append]
  rfl

theorem coerceInputs_cons (port : Port) (ports : List Port) (fields : Fields Value) :
    coerceInputs (port :: ports) fields
      = match port.kind.coerce ((fields.value? port.id).getD .null) with
        | .ok v => coerceInputs ports (fields.set port.id v)
        | .error fault => .error fault := by
  rw [coerceInputs, List.foldlM_cons, coerceInput]
  cases port.kind.coerce ((fields.value? port.id).getD .null) <;> rfl

/-- Bringing inputs of distinct names into their kinds fails only where one of them fails. -/
theorem coerceInputs_error {ports : List Port} (hd : (ports.map Port.id).Nodup)
    {fields : Fields Value} {fault : CoercionFault} (h : coerceInputs ports fields = .error fault) :
    ∃ port ∈ ports, port.kind.coerce ((fields.value? port.id).getD .null) = .error fault := by
  induction ports generalizing fields with
  | nil => cases h
  | cons port ports ih =>
    obtain ⟨hnew, hd⟩ := List.nodup_cons.mp hd
    rw [coerceInputs_cons] at h
    cases hv : port.kind.coerce ((fields.value? port.id).getD .null) with
    | error fault' =>
      simp only [hv, Except.error.injEq] at h
      exact ⟨port, .head _, h ▸ hv⟩
    | ok v =>
      simp only [hv] at h
      obtain ⟨other, hother, hfault⟩ := ih hd h
      have hne : port.id ≠ other.id := fun heq => hnew (heq ▸ List.mem_map_of_mem hother)
      exact ⟨other, .tail _ hother, Fields.value?_set_of_ne hne ▸ hfault⟩

/-- Bringing inputs of distinct names into their kinds changes each of them on its own. -/
theorem coerceInputs_ok {ports : List Port} (hd : (ports.map Port.id).Nodup)
    {fields out : Fields Value} (hnames : ports.map Port.id ⊆ fields.names)
    (h : coerceInputs ports fields = .ok out) :
    (∀ port ∈ ports, ∃ v, port.kind.coerce ((fields.value? port.id).getD .null) = .ok v ∧
        out.value? port.id = some v) ∧
      (∀ name ∉ ports.map Port.id, out.value? name = fields.value? name) ∧
      out.names = fields.names := by
  induction ports generalizing fields with
  | nil =>
    cases h
    simp
  | cons port ports ih =>
    obtain ⟨hnew, hd⟩ := List.nodup_cons.mp hd
    obtain ⟨hfirst, hrest⟩ := List.cons_subset.mp hnames
    rw [coerceInputs_cons] at h
    cases hv : port.kind.coerce ((fields.value? port.id).getD .null) with
    | error fault => simp [hv] at h
    | ok v =>
      simp only [hv] at h
      have hsame : (fields.set port.id v).names = fields.names := by
        rw [Fields.names_set, if_pos hfirst]
      obtain ⟨hdeclared, hother, hkept⟩ := ih hd (hsame ▸ hrest) h
      refine ⟨?_, ?_, hkept.trans hsame⟩
      · intro other hmem
        rcases List.mem_cons.mp hmem with rfl | hmem
        · exact ⟨v, hv, (hother _ hnew).trans (Fields.value?_set_self _ _ _)⟩
        · have hne : port.id ≠ other.id := fun heq => hnew (heq ▸ List.mem_map_of_mem hmem)
          obtain ⟨v', hv', hvalue⟩ := hdeclared other hmem
          exact ⟨v', Fields.value?_set_of_ne hne ▸ hv', hvalue⟩
      · intro name hname
        obtain ⟨hne, hname⟩ : name ≠ port.id ∧ name ∉ ports.map Port.id := by simpa using hname
        exact (hother name hname).trans (Fields.value?_set_of_ne (Ne.symm hne))

/-- Inputs that resolve are what the node is to be executed on. -/
theorem supplied_of_resolve (hknown : ∀ x, s.cache.has x = true → g.hasNode x = true)
    (hd : (d.inputs.map Port.id).Nodup) (h : s.resolve g cut d n = .ok inputs) :
    s.Supplied g cut d n inputs := by
  unfold resolve at h
  cases hc : coerceInputs d.inputs (s.rawInputs g cut d n) with
  | error fault => simp [hc] at h
  | ok ports =>
    simp only [hc, Except.ok.injEq] at h
    subst h
    have hdeclares : d.inputs.map Port.id ⊆ (s.rawInputs g cut d n).names := by
      rw [names_rawInputs hknown hd]
      exact List.subset_append_left _ _
    obtain ⟨hdeclared, hother, hkept⟩ := coerceInputs_ok hd hdeclares hc
    constructor
    case declared =>
      intro port hport
      rw [← value?_rawInputs_port hknown hd hport]
      exact hdeclared port hport
    case undeclared =>
      intro name hname
      have hdefault : d.defaults.value? name = none := by
        rw [← names_defaults hd, ← Fields.value?_isSome_iff] at hname
        simpa using hname
      rw [hother name hname, value?_rawInputs hknown, hdefault, Option.or_none]
    case names => exact hkept.trans (names_rawInputs hknown hd)
    case strays => rfl

/-- Inputs do not resolve only where an input cannot be brought into its kind. -/
theorem unfit_of_resolve (hknown : ∀ x, s.cache.has x = true → g.hasNode x = true)
    (hd : (d.inputs.map Port.id).Nodup) {fault : NodeFault}
    (h : s.resolve g cut d n = .error fault) :
    ∃ port ∈ d.inputs, ∃ fault', port.kind.coerce (s.rawValue g cut n port) = .error fault' := by
  unfold resolve at h
  cases hc : coerceInputs d.inputs (s.rawInputs g cut d n) with
  | ok ports => simp [hc] at h
  | error fault' =>
    obtain ⟨port, hport, hfault⟩ := coerceInputs_error hd hc
    exact ⟨port, hport, fault', value?_rawInputs_port hknown hd hport ▸ hfault⟩

/-- **Resolved inputs** are the one thing that the node can be executed on. -/
theorem resolve_eq_ok_iff (hknown : ∀ x, s.cache.has x = true → g.hasNode x = true)
    (hd : (d.inputs.map Port.id).Nodup) :
    s.resolve g cut d n = .ok inputs ↔ s.Supplied g cut d n inputs := by
  refine ⟨supplied_of_resolve hknown hd, fun h => ?_⟩
  cases hr : s.resolve g cut d n with
  | ok inputs' => rw [h.unique (supplied_of_resolve hknown hd hr) hd]
  | error fault =>
    obtain ⟨port, hport, fault', hfault⟩ := unfit_of_resolve hknown hd hr
    obtain ⟨v, hv, -⟩ := h.declared port hport
    cases hfault.symm.trans hv

/-! ## Equations for entries -/

/-- The equations for the outputs of a node, given what is cached. -/
inductive Entry (e : Evaluation) (cut : List Connection) (s : Session) (n : GraphNode) :
    Outputs → Prop
  /-- The type of the node is not registered. -/
  | untyped : e.registry.get? n.type = none → Entry e cut s n []
  /-- An input cannot be brought into its kind. -/
  | unfit {d : NodeDefinition} {port : Port} {fault : CoercionFault} :
      e.registry.get? n.type = some d → port ∈ d.inputs →
      port.kind.coerce (s.rawValue e.graph cut n port) = .error fault → Entry e cut s n []
  /-- The action fails. -/
  | failed {d : NodeDefinition} {inputs : Inputs} {fault : NodeFault} :
      e.registry.get? n.type = some d → s.Supplied e.graph cut d n inputs →
      (d.action n.id inputs).result = .error fault → Entry e cut s n []
  /-- The action ends with something that is no mapping of outputs. -/
  | shapeless {d : NodeDefinition} {inputs : Inputs} :
      e.registry.get? n.type = some d → s.Supplied e.graph cut d n inputs →
      (d.action n.id inputs).result = .ok none → Entry e cut s n []
  /-- A declared output is not produced. -/
  | lacking {d : NodeDefinition} {inputs : Inputs} {outputs : Outputs} {port : Port} :
      e.registry.get? n.type = some d → s.Supplied e.graph cut d n inputs →
      (d.action n.id inputs).result = .ok (some outputs) → port ∈ d.outputs →
      outputs.has port.id = false → Entry e cut s n []
  /-- The action ends with all declared outputs. -/
  | produced {d : NodeDefinition} {inputs : Inputs} {outputs : Outputs} :
      e.registry.get? n.type = some d → s.Supplied e.graph cut d n inputs →
      (d.action n.id inputs).result = .ok (some outputs) →
      (∀ port ∈ d.outputs, outputs.has port.id = true) → Entry e cut s n outputs

theorem missing_eq_nil_iff {outputs : Outputs} :
    d.missing (some outputs) = [] ↔ ∀ port ∈ d.outputs, outputs.has port.id = true := by
  simp [NodeDefinition.missing]

theorem kept_complete_of_all {outputs : Outputs} (type : String)
    (h : ∀ port ∈ d.outputs, outputs.has port.id = true) :
    kept (complete d type (some outputs)) = outputs := by
  rw [complete, missing_eq_nil_iff.mpr h]
  rfl

theorem kept_complete_of_missing {outputs : Option Outputs} (type : String)
    (h : d.missing outputs ≠ []) : kept (complete d type outputs) = [] := by
  unfold complete
  split
  · next hnil => exact absurd hnil h
  · rfl

theorem missing_none (h : d.outputs ≠ []) : d.missing none ≠ [] := by
  simpa [NodeDefinition.missing] using h

theorem missing_of_lacking {outputs : Outputs} {port : Port} (hport : port ∈ d.outputs)
    (h : outputs.has port.id = false) : d.missing (some outputs) ≠ [] := by
  intro hnil
  simp [missing_eq_nil_iff.mp hnil port hport] at h

theorem outcome_of_resolve (hd : e.registry.get? n.type = some d)
    (h : s.resolve e.graph cut d n = .ok inputs) :
    s.outcome e cut n = kept ((d.action n.id inputs).result.bind (complete d n.type)) := by
  simp [outcome, hd, h]

/-- A node can have no other outputs than those it puts out. -/
theorem Entry.eq_outcome {outputs : Outputs} (h : s.Entry e cut n outputs) (hb : e.registry.Built)
    (hknown : ∀ x, s.cache.has x = true → e.graph.hasNode x = true) :
    outputs = s.outcome e cut n := by
  have hexecuted : ∀ {d inputs}, e.registry.get? n.type = some d →
      s.Supplied e.graph cut d n inputs →
      s.outcome e cut n = kept ((d.action n.id inputs).result.bind (complete d n.type)) := by
    intro d inputs hd hin
    exact outcome_of_resolve hd ((resolve_eq_ok_iff hknown (hb.get? hd).nodup_inputs).mpr hin)
  cases h with
  | untyped hd => simp [outcome, hd]
  | @unfit d _ _ hd hport hfault =>
    cases hr : s.resolve e.graph cut d n with
    | error fault => simp [outcome, hd, hr]
    | ok inputs =>
      have hin := supplied_of_resolve hknown (hb.get? hd).nodup_inputs hr
      obtain ⟨v, hv, -⟩ := hin.declared _ hport
      cases hfault.symm.trans hv
  | failed hd hin hresult => rw [hexecuted hd hin, hresult]; rfl
  | shapeless hd hin hresult =>
    rw [hexecuted hd hin, hresult]
    exact (kept_complete_of_missing n.type (missing_none (hb.get? hd).outputs_ne_nil)).symm
  | lacking hd hin hresult hport hlacks =>
    rw [hexecuted hd hin, hresult]
    exact (kept_complete_of_missing n.type (missing_of_lacking hport hlacks)).symm
  | produced hd hin hresult hall =>
    rw [hexecuted hd hin, hresult]
    exact (kept_complete_of_all n.type hall).symm

/-- What a node puts out solves its equations. -/
theorem entry_outcome (hb : e.registry.Built)
    (hknown : ∀ x, s.cache.has x = true → e.graph.hasNode x = true) :
    s.Entry e cut n (s.outcome e cut n) := by
  cases hd : e.registry.get? n.type with
  | none =>
    have hout : s.outcome e cut n = [] := by simp [outcome, hd]
    exact hout ▸ .untyped hd
  | some d =>
    have hwf := hb.get? hd
    cases hr : s.resolve e.graph cut d n with
    | error fault =>
      obtain ⟨port, hport, fault', hfault⟩ := unfit_of_resolve hknown hwf.nodup_inputs hr
      have hout : s.outcome e cut n = [] := by simp [outcome, hd, hr]
      exact hout ▸ .unfit hd hport hfault
    | ok inputs =>
      have hin := supplied_of_resolve hknown hwf.nodup_inputs hr
      rw [outcome_of_resolve hd hr]
      cases hresult : (d.action n.id inputs).result with
      | error fault => exact .failed hd hin hresult
      | ok ended =>
        rw [Except.bind]
        cases ended with
        | none =>
          rw [kept_complete_of_missing n.type (missing_none hwf.outputs_ne_nil)]
          exact .shapeless hd hin hresult
        | some outputs =>
          by_cases hall : ∀ port ∈ d.outputs, outputs.has port.id = true
          · rw [kept_complete_of_all n.type hall]
            exact .produced hd hin hresult hall
          · simp only [not_forall, Bool.not_eq_true] at hall
            obtain ⟨port, hport, hlacks⟩ := hall
            rw [kept_complete_of_missing n.type (missing_of_lacking hport hlacks)]
            exact .lacking hd hin hresult hport hlacks

/-- **The equations leave no choice.** -/
theorem entry_iff (hb : e.registry.Built)
    (hknown : ∀ x, s.cache.has x = true → e.graph.hasNode x = true) (outputs : Outputs) :
    s.Entry e cut n outputs ↔ outputs = s.outcome e cut n :=
  ⟨fun h => h.eq_outcome hb hknown, fun h => h ▸ entry_outcome hb hknown⟩

end Session

/-- **A full pass solves the equations.** From every state that a history leads to, after a full
pass over quiet nodes exactly the nodes that are there have an entry, and the entry is the one that
its equations allow, read off the same cache. Connections that the pass cut carry nothing. -/
theorem full_pass_solves_equations (r : Registry) (hq : r.Quiet) (hb : r.Built) (g : Graph)
    (actions : List Action) :
    let h := Host.after r g actions
    let e : Evaluation := ⟨h.graph, r⟩
    let s := h.session.evaluateGraph e
    (∀ id, s.cache.has id = true ↔ h.graph.hasNode id = true) ∧
      ∀ id n, h.graph.node? id = some n →
        ∃ outputs, s.cache.value? id = some outputs ∧
          ∀ others, s.Entry e (h.session.passCuts e) n others ↔ others = outputs := by
  intro h e s
  have hsolved := Session.fullPass_solved (e := e) hq (Host.idle_after r g actions)
  refine ⟨hsolved.cached, fun id n hn => ⟨_, hsolved.entry id n hn, ?_⟩⟩
  exact Session.entry_iff hb fun x => (hsolved.cached x).mp

/-- A quiet type that says whether something is given under a name that it does not declare. -/
def probe : NodeDefinition where
  type := "probe"
  name := "Probe"
  category := "Basic"
  inputs := [⟨"in", "In", .boolean, .bool false⟩]
  outputs := [⟨"out", "Out", .boolean, .null⟩]
  action _ inputs := .yields [("out", .bool (inputs.ports.has "extra"))]

/-- The registry of this type alone. -/
def probes : Registry := ⟨[probe]⟩

theorem probes_quiet : probes.Quiet := by
  intro d hd id inputs
  obtain rfl : d = probe := by simpa [probes] using hd
  exact .finish _

theorem probes_built : probes.Built :=
  .register (r := .empty) (d := probe) .empty rfl

/-- A node that feeds itself, with a value set under a name that it does not declare. -/
def probed : Graph where
  nodes := [⟨"p", "probe", .ofPorts [("extra", .bool true)], none⟩]
  connections := [⟨"c", "p", "out", "p", "in"⟩]

theorem probed_pass_solves_equations :
    let e : Evaluation := ⟨probed, probes⟩
    let s := (Session.ofGraph probed).evaluateGraph e
    let back := (Session.ofGraph probed).passCuts e
    probes.Quiet ∧ probes.Built ∧ ∃ n, probed.node? "p" = some n ∧
      ∀ others, s.Entry e back n others ↔ others = [("out", .bool true)] := by
  obtain ⟨-, hentry⟩ := full_pass_solves_equations probes probes_quiet probes_built probed []
  obtain ⟨outputs, hvalue, hiff⟩ := hentry "p" _ rfl
  obtain rfl : [("out", .bool true)] = outputs := Option.some.inj hvalue
  exact ⟨probes_quiet, probes_built, _, rfl, hiff⟩

/-- The declared inputs of a node are not all that it is executed on: on them alone this one would
put out something else. -/
theorem undeclared_input_reaches_action :
    probes.Quiet ∧ probes.Built ∧
      ((Session.ofGraph probed).evaluateGraph ⟨probed, probes⟩).cache.value? "p"
        = some [("out", .bool true)] ∧
      ∀ inputs : Inputs, inputs.ports.names = probe.inputs.map Port.id →
        (probe.action "p" inputs).result = .ok (some [("out", .bool false)]) := by
  refine ⟨probes_quiet, probes_built, rfl, ?_⟩
  intro inputs hnames
  have hnone : inputs.ports.has "extra" = false := by
    rw [Bool.eq_false_iff, ne_eq, Fields.has_iff, hnames]
    decide
  simp [probe, Request.yields, Request.result, hnone]

end LoftGraph
