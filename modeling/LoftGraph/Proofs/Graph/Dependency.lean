import LoftGraph.Graph.Dependency
import LoftGraph.Proofs.Graph.Cycle
import Mathlib.Data.List.Nodup

/-!
# What dependencies keep of a graph

`Graph.dependencies` forgets ports, parallel connections and connections that dangle. What is left
is the relation that evaluation goes by: an edge is there exactly when one node feeds the other
(`edge_dependencies`).

`Dependencies.WellFormed` is what the algorithms on dependencies rely on; those of a graph are so
(`wellFormed_dependencies`), whatever the graph is.
-/

namespace LoftGraph

theorem nodup_eraseDups {α : Type} [BEq α] [LawfulBEq α] (xs : List α) : xs.eraseDups.Nodup := by
  match xs with
  | [] => simp
  | x :: xs =>
    rw [List.eraseDups_cons]
    refine List.nodup_cons.mpr ⟨?_, nodup_eraseDups _⟩
    simp [List.mem_eraseDups]
termination_by xs.length
decreasing_by exact Nat.lt_succ_of_le (List.length_filter_le _ _)

/-- A list without repetitions that is no shorter than one it lies in has everything of it. -/
theorem subset_of_length_le {α : Type} {xs ys : List α} (hd : xs.Nodup) (hsub : xs ⊆ ys)
    (hlength : ys.length ≤ xs.length) : ys ⊆ xs :=
  ((hd.subperm hsub).perm_of_length_le hlength).symm.subset

namespace Dependencies

variable {d : Dependencies} {a b : String}

/-- An edge leads from producer to consumer. -/
def Edge (d : Dependencies) (a b : String) : Prop := (a, b) ∈ d.edges

/-- Nodes and edges are listed once, and edges join nodes. -/
structure WellFormed (d : Dependencies) : Prop where
  nodup_nodes : d.nodes.Nodup
  nodup_edges : d.edges.Nodup
  /-- Every edge starts at a node. -/
  starts : ∀ e ∈ d.edges, e.1 ∈ d.nodes
  /-- Every edge ends at a node. -/
  ends : ∀ e ∈ d.edges, e.2 ∈ d.nodes

@[simp] theorem mem_successors : b ∈ d.successors a ↔ d.Edge a b := by
  simp [successors, Edge]

@[simp] theorem mem_predecessors : a ∈ d.predecessors b ↔ d.Edge a b := by
  simp [predecessors, Edge]

end Dependencies

namespace Graph

variable {g : Graph}

theorem mem_edges_dependencies {a b : String} : (a, b) ∈ g.dependencies.edges ↔ g.Feeds a b := by
  simp only [dependencies, List.mem_eraseDups, List.mem_map, List.mem_filter, Bool.and_eq_true,
    Prod.mk.injEq, Feeds, Joins, and_assoc]

/-- **Edges are feeding.** -/
theorem edge_dependencies (g : Graph) : g.dependencies.Edge = g.Feeds := by
  funext a b
  exact propext mem_edges_dependencies

theorem mem_nodes_dependencies {id : String} :
    id ∈ g.dependencies.nodes ↔ g.hasNode id = true :=
  mem_distinctIds

theorem wellFormed_dependencies (g : Graph) : g.dependencies.WellFormed where
  nodup_nodes := nodup_eraseDups _
  nodup_edges := nodup_eraseDups _
  starts := by
    rintro ⟨a, b⟩ he
    obtain ⟨c, -, hjoins, rfl, -⟩ := mem_edges_dependencies.mp he
    exact mem_nodes_dependencies.mpr hjoins.1
  ends := by
    rintro ⟨a, b⟩ he
    obtain ⟨c, -, hjoins, -, rfl⟩ := mem_edges_dependencies.mp he
    exact mem_nodes_dependencies.mpr hjoins.2

end Graph

end LoftGraph
