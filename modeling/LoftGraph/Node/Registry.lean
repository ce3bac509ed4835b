import LoftGraph.Node.Definition

/-!
# Registries of node types

A registry holds node types in the order in which they were registered.  `Registry.register`
refuses a type without a name, one that is already there, and one whose ports are missing or
ambiguous; a refusal says why and leaves the registry as it was.

* `get?_register`: what was registered is found, and nothing else changes.
* `Built` registries hold what was registered, so all their types are `WellFormed`.
* `byCategory` splits the types into groups, the groups in the order of their first type.
-/

namespace LoftGraph

/-- The two sides of a node. -/
inductive PortSide where
  | input
  | output
  deriving Repr, DecidableEq

/-- What makes a type fit to be registered. -/
structure NodeDefinition.WellFormed (d : NodeDefinition) : Prop where
  named : d.type ≠ ""
  inputs_ne_nil : d.inputs ≠ []
  /-- No two inputs have one name. -/
  nodup_inputs : (d.inputs.map Port.id).Nodup
  outputs_ne_nil : d.outputs ≠ []
  /-- No two outputs have one name. -/
  nodup_outputs : (d.outputs.map Port.id).Nodup

def PortSide.name : PortSide → String
  | input => "input"
  | output => "output"

/-- Why a node type is refused. -/
inductive RegistryFault where
  | unnamed
  /-- There already is one of this name. -/
  | taken (nodeType : String)
  /-- It has no ports on a side. -/
  | noPorts (nodeType : String) (side : PortSide)
  /-- Two ports of a side have one name. -/
  | repeatedPort (nodeType : String) (side : PortSide)
  deriving Repr, DecidableEq

/-- The sentence shown for a refusal. -/
def RegistryFault.message : RegistryFault → String
  | unnamed => "Node definition needs a type"
  | taken nodeType => s!"Node type '{nodeType}' is already registered"
  | noPorts nodeType side => s!"Node type '{nodeType}' declares no {side.name} ports"
  | repeatedPort nodeType side => s!"Node type '{nodeType}' has duplicate {side.name} port ids"

/-- Node types in the order in which they were registered. -/
structure Registry where
  definitions : List NodeDefinition

namespace Registry

def empty : Registry := ⟨[]⟩

def get? (r : Registry) (nodeType : String) : Option NodeDefinition :=
  r.definitions.find? (fun d => d.type = nodeType)

/-- Is there a type of this name? -/
def contains (r : Registry) (nodeType : String) : Bool := (r.get? nodeType).isSome

def types (r : Registry) : List String := r.definitions.map NodeDefinition.type

def size (r : Registry) : Nat := r.definitions.length

/-- Are the ports of a side there, and told apart by their names? -/
def checkPorts (nodeType : String) (side : PortSide) (ports : List Port) :
    Except RegistryFault Unit :=
  if ports.isEmpty then .error (.noPorts nodeType side)
  else if (ports.map Port.id).Nodup then .ok ()
  else .error (.repeatedPort nodeType side)

def check (r : Registry) (d : NodeDefinition) : Except RegistryFault Unit := do
  if d.type = "" then .error .unnamed
  else if r.contains d.type then .error (.taken d.type)
  else
    checkPorts d.type .input d.inputs
    checkPorts d.type .output d.outputs

/-- Registers a type, if it may be. -/
def register (r : Registry) (d : NodeDefinition) : Except RegistryFault Registry := do
  r.check d
  return ⟨r.definitions ++ [d]⟩

/-- The registry of some types, leaving out those that are refused. -/
def ofDefinitions (ds : List NodeDefinition) : Registry :=
  ds.foldl (fun r d => match r.register d with
    | .ok r' => r'
    | .error _ => r) empty

/-- The types in groups, the groups in the order of their first type. -/
def byCategory (r : Registry) : List (String × List NodeDefinition) :=
  let categories := (r.definitions.map NodeDefinition.category).eraseDups
  categories.map (fun category =>
    (category, r.definitions.filter (fun d => d.category = category)))

theorem definitions_register {r r' : Registry} {d : NodeDefinition} (h : r.register d = .ok r') :
    r'.definitions = r.definitions ++ [d] := by
  unfold register at h
  cases hc : r.check d with
  | error f => simp [hc, bind, Except.bind] at h
  | ok u =>
      simp only [hc, bind, Except.bind, pure, Except.pure, Except.ok.injEq] at h
      subst h
      rfl

/-- A type can be found exactly when its name is listed. -/
theorem contains_iff (r : Registry) (nodeType : String) :
    r.contains nodeType = true ↔ nodeType ∈ r.types := by
  simp [contains, get?, types, List.find?_isSome]

/-- A type that is registered was not there before. -/
theorem not_contains_of_register {r r' : Registry} {d : NodeDefinition}
    (h : r.register d = .ok r') : r.contains d.type = false := by
  unfold register check at h
  by_cases hn : d.type = ""
  · simp [hn, bind, Except.bind] at h
  · cases hc : r.contains d.type with
    | false => rfl
    | true => simp [hn, hc, bind, Except.bind] at h

/-- What was registered is found under its name, and what was there before still is. -/
theorem get?_register {r r' : Registry} {d : NodeDefinition} (h : r.register d = .ok r')
    (nodeType : String) :
    r'.get? nodeType = if nodeType = d.type then some d else r.get? nodeType := by
  have hn := not_contains_of_register h
  simp only [contains, get?, Option.isSome_eq_false_iff, Option.isNone_iff_eq_none] at hn
  unfold get?
  rw [definitions_register h, List.find?_append]
  by_cases ht : nodeType = d.type
  · subst ht
    rw [hn]
    simp
  · have : (d.type = nodeType) = False := by simp [Ne.symm ht]
    simp [ht, this]

theorem checkPorts_eq_ok {nodeType : String} {side : PortSide} {ports : List Port}
    (h : checkPorts nodeType side ports = .ok ()) : ports ≠ [] ∧ (ports.map Port.id).Nodup := by
  unfold checkPorts at h
  split at h
  · cases h
  · next hne =>
    split at h
    · next hd => exact ⟨by simpa using hne, hd⟩
    · cases h

/-- A type that is registered is fit for it. -/
theorem wellFormed_of_register {r r' : Registry} {d : NodeDefinition}
    (h : r.register d = .ok r') : d.WellFormed := by
  unfold register check at h
  by_cases hn : d.type = ""
  · simp [hn, bind, Except.bind] at h
  · have hfree := not_contains_of_register h
    cases hin : checkPorts d.type .input d.inputs with
    | error fault => simp [hn, hin, hfree, bind, Except.bind] at h
    | ok _ =>
      cases hout : checkPorts d.type .output d.outputs with
      | error fault => simp [hn, hin, hout, hfree, bind, Except.bind] at h
      | ok _ =>
        obtain ⟨hin, hind⟩ := checkPorts_eq_ok hin
        obtain ⟨hout, houtd⟩ := checkPorts_eq_ok hout
        exact ⟨hn, hin, hind, hout, houtd⟩

/-- Registries that come about by registering types. -/
inductive Built : Registry → Prop
  | empty : Built empty
  | register {r r' : Registry} {d : NodeDefinition} :
      Built r → r.register d = .ok r' → Built r'

theorem Built.wellFormed {r : Registry} (h : r.Built) : ∀ d ∈ r.definitions, d.WellFormed := by
  induction h with
  | empty => simp [Registry.empty]
  | register _ hr ih =>
    intro d hd
    rw [definitions_register hr, List.mem_append, List.mem_singleton] at hd
    rcases hd with hd | rfl
    · exact ih d hd
    · exact wellFormed_of_register hr

theorem Built.get? {r : Registry} (h : r.Built) {nodeType : String} {d : NodeDefinition}
    (hd : r.get? nodeType = some d) : d.WellFormed :=
  h.wellFormed d (List.mem_of_find?_eq_some hd)

end Registry

end LoftGraph
