import LoftGraph.Graph.Validation
import LoftGraph.Proofs.Graph.Circle
import LoftGraph.Proofs.Graph.Order

/-!
# What validation finds

Each kind of error is found exactly where its condition holds, as `unknownType_mem_errors`,
`unknownSource_mem_errors` and `circle_mem_errors` say. The circles found pass through exactly the
nodes that lead back to themselves (`exists_circle_error_iff`); there are some exactly when there is
such a node (`circle_error_iff`), and so exactly when there is no order to run the nodes in.
-/

namespace LoftGraph

namespace Graph

variable {g : Graph} {r : Registry}

theorem lastNode?_eq_none_iff {id : String} : g.lastNode? id = none ↔ ¬ g.hasNode id = true := by
  rw [hasNode_iff, lastNode?, ids, List.find?_eq_none]
  simp

theorem mem_errors {error : GraphError} : error ∈ (g.validate r).errors ↔
    error ∈ g.idErrors ∨ error ∈ g.typeErrors r ∨ error ∈ g.connectionErrors r ∨
      error ∈ g.circleErrors := by
  simp [validate]

theorem mem_idErrors {error : GraphError} : error ∈ g.idErrors ↔
    ∃ entry ∈ repeated g.ids, error = .repeatedId entry.1 entry.2 := by
  simp only [idErrors, List.mem_map, eq_comm]

theorem mem_typeErrors {error : GraphError} : error ∈ g.typeErrors r ↔
    ∃ n ∈ g.nodes, r.get? n.type = none ∧ error = .unknownType n.id n.type := by
  constructor
  · intro h
    obtain ⟨n, hn, rfl⟩ := List.mem_map.mp h
    obtain ⟨hn, hd⟩ := List.mem_filter.mp hn
    exact ⟨n, hn, by simpa [Registry.contains] using hd, rfl⟩
  · rintro ⟨n, hn, hd, rfl⟩
    exact List.mem_map_of_mem (List.mem_filter.mpr ⟨hn, by simp [Registry.contains, hd]⟩)

theorem mem_sourceErrors {c : Connection} {error : GraphError} : error ∈ g.sourceErrors r c ↔
    (¬ g.hasNode c.fromNode = true ∧ error = .unknownSource c.id c.fromNode) ∨
      ∃ n, g.lastNode? c.fromNode = some n ∧
        lacksPort r n (fun d => d.output? c.fromPort) = true ∧
        error = .unknownOutput c.id c.fromPort n.id := by
  rw [← lastNode?_eq_none_iff, sourceErrors]
  cases g.lastNode? c.fromNode with
  | none => simp
  | some n => by_cases hl : lacksPort r n (fun d => d.output? c.fromPort) <;> simp [hl]

theorem mem_targetErrors {c : Connection} {error : GraphError} : error ∈ g.targetErrors r c ↔
    (¬ g.hasNode c.toNode = true ∧ error = .unknownTarget c.id c.toNode) ∨
      ∃ n, g.lastNode? c.toNode = some n ∧
        lacksPort r n (fun d => d.input? c.toPort) = true ∧
        error = .unknownInput c.id c.toPort n.id := by
  rw [← lastNode?_eq_none_iff, targetErrors]
  cases g.lastNode? c.toNode with
  | none => simp
  | some n => by_cases hl : lacksPort r n (fun d => d.input? c.toPort) <;> simp [hl]

theorem mem_connectionErrors {error : GraphError} : error ∈ g.connectionErrors r ↔
    ∃ c ∈ g.connections, error ∈ g.sourceErrors r c ∨ error ∈ g.targetErrors r c := by
  simp [connectionErrors]

theorem mem_circleErrors {error : GraphError} :
    error ∈ g.circleErrors ↔ ∃ nodes ∈ g.dependencies.cycles, error = .circle nodes := by
  rw [circleErrors, List.mem_mergeSort, List.mem_map]
  simp only [eq_comm]

/-! ## One kind of error at a time -/

theorem unknownType_mem_errors {id type : String} :
    .unknownType id type ∈ (g.validate r).errors ↔
      ∃ n ∈ g.nodes, r.get? n.type = none ∧ id = n.id ∧ type = n.type := by
  simp [mem_errors, mem_idErrors, mem_typeErrors, mem_connectionErrors, mem_sourceErrors,
    mem_targetErrors, mem_circleErrors]

theorem unknownSource_mem_errors {id source : String} :
    .unknownSource id source ∈ (g.validate r).errors ↔
      ∃ c ∈ g.connections, ¬ g.hasNode c.fromNode = true ∧ id = c.id ∧ source = c.fromNode := by
  simp [mem_errors, mem_idErrors, mem_typeErrors, mem_connectionErrors, mem_sourceErrors,
    mem_targetErrors, mem_circleErrors]

theorem circle_mem_errors {nodes : List String} :
    .circle nodes ∈ (g.validate r).errors ↔ nodes ∈ g.dependencies.cycles := by
  simp [mem_errors, mem_idErrors, mem_typeErrors, mem_connectionErrors, mem_sourceErrors,
    mem_targetErrors, mem_circleErrors]

/-! ## Circles -/

/-- The circles that are found pass through the nodes that lead back to themselves. -/
theorem exists_circle_error_iff {id : String} :
    (∃ nodes, .circle nodes ∈ (g.validate r).errors ∧ id ∈ nodes) ↔
      Relation.TransGen g.Feeds id id := by
  simp only [circle_mem_errors, ← g.edge_dependencies, ← Dependencies.exists_circle_iff]
  constructor
  · rintro ⟨nodes, hnodes, hid⟩
    exact ⟨nodes, Dependencies.circle_of_mem_cycles hnodes, hid⟩
  · rintro ⟨c, hc, hid⟩
    obtain ⟨nodes, hnodes, hrotated⟩ := Dependencies.exists_mem_cycles g.wellFormed_dependencies hc
    exact ⟨nodes, hnodes, hrotated.perm.mem_iff.mp hid⟩

/-- A circle is found exactly when there is one. -/
theorem circle_error_iff :
    (∃ nodes, .circle nodes ∈ (g.validate r).errors) ↔ ∃ id, Relation.TransGen g.Feeds id id := by
  simp only [← exists_circle_error_iff (g := g) (r := r)]
  constructor
  · rintro ⟨nodes, hnodes⟩
    have hcircle := Dependencies.circle_of_mem_cycles (circle_mem_errors.mp hnodes)
    obtain ⟨id, hid⟩ := List.exists_mem_of_ne_nil nodes hcircle.ne_nil
    exact ⟨id, nodes, hnodes, hid⟩
  · rintro ⟨_, nodes, hnodes, -⟩
    exact ⟨nodes, hnodes⟩

/-- There is no order exactly when some node leads back to itself. -/
theorem order?_eq_none_iff_exists :
    g.dependencies.order? = none ↔ ∃ id, Relation.TransGen g.Feeds id id := by
  rw [order?_eq_none_iff, Acyclic]
  simp only [not_forall, not_not]

end Graph

end LoftGraph
