import LoftGraph.Graph.Basic
import Mathlib.Data.Finset.Card
import Mathlib.Logic.Relation

/-!
# Cycles of a graph

Evaluation looks at a graph through one relation: `Graph.Feeds a b` holds when a connection between
nodes that are there leads from `a` to `b`. Connections that dangle feed nothing, and parallel
connections feed the same.

* `Graph.OnCycle` says of a connection that its consumer leads back to its producer.
* `Graph.Acyclic` says that no node leads back to itself. `Acyclic.wellFounded` turns that into
  induction on producers, which is how facts about evaluation without cycles are proved.
-/

namespace LoftGraph

/-! ### Precedence in a list -/

/-- What precedes a member of a list without repetitions stands before it. -/
theorem mem_of_pair_sublist {a b : String} {before after : List String}
    (h : [a, b].Sublist (before ++ b :: after)) (hd : (before ++ b :: after).Nodup) :
    a ∈ before := by
  obtain ⟨front, back, hsplit, hfront, hback⟩ := List.sublist_append_iff.mp h
  have hb : b ∉ after := (List.nodup_cons.mp (List.nodup_append.mp hd).2.1).1
  cases front with
  | cons x front =>
    obtain ⟨rfl, -⟩ := List.cons.inj hsplit
    exact hfront.subset (.head _)
  | nil =>
    rw [List.nil_append] at hsplit
    subst hsplit
    cases hback with
    | cons _ h => exact absurd (h.subset (.tail _ (.head _))) hb
    | cons_cons _ h => exact absurd (h.subset (.head _)) hb

theorem idxOf_lt_of_pair_sublist {a b : String} {order : List String}
    (h : [a, b].Sublist order) (hd : order.Nodup) : order.idxOf a < order.idxOf b := by
  obtain ⟨before, after, rfl⟩ := List.append_of_mem (h.subset (.tail _ (.head _)))
  have ha : a ∈ before := mem_of_pair_sublist h hd
  have hb : b ∉ before := fun hin => (List.nodup_append.mp hd).2.2 b hin b (.head _) rfl
  rw [List.idxOf_append_of_mem ha, List.idxOf_append_of_notMem hb, List.idxOf_cons_self]
  exact List.idxOf_lt_length_of_mem ha

namespace Graph

variable {g : Graph}

/-! ### Nodes by identifier -/

theorem node?_id {id : String} {n : GraphNode} (h : g.node? id = some n) : n.id = id := by
  simpa using List.find?_some h

theorem hasNode_of_node? {id : String} {n : GraphNode} (h : g.node? id = some n) :
    g.hasNode id = true := by
  simp [hasNode, h]

theorem exists_node?_of_hasNode {id : String} (h : g.hasNode id = true) :
    ∃ n, g.node? id = some n :=
  Option.isSome_iff_exists.mp h

theorem hasNode_of_mem {n : GraphNode} (h : n ∈ g.nodes) : g.hasNode n.id = true :=
  (hasNode_iff g n.id).mpr (List.mem_map_of_mem h)

@[simp] theorem mem_distinctIds {id : String} : id ∈ g.distinctIds ↔ g.hasNode id = true := by
  rw [distinctIds, List.mem_eraseDups, hasNode_iff]

/-! ### Feeding -/

/-- Both ends of a connection are there. -/
def Joins (g : Graph) (c : Connection) : Prop :=
  g.hasNode c.fromNode = true ∧ g.hasNode c.toNode = true

/-- A connection between nodes that are there leads from one node to the other. -/
def Feeds (g : Graph) (producer consumer : String) : Prop :=
  ∃ c ∈ g.connections, g.Joins c ∧ c.fromNode = producer ∧ c.toNode = consumer

/-- A connection lies on a directed cycle: its consumer leads back to its producer. -/
def OnCycle (g : Graph) (c : Connection) : Prop :=
  c ∈ g.connections ∧ g.Joins c ∧ Relation.ReflTransGen g.Feeds c.toNode c.fromNode

/-- No node leads back to itself. -/
def Acyclic (g : Graph) : Prop := ∀ id, ¬ Relation.TransGen g.Feeds id id

theorem feeds_of_incoming {c : Connection} {id : String} (hc : c ∈ g.incoming id)
    (hs : g.hasNode c.fromNode = true) (ht : g.hasNode id = true) : g.Feeds c.fromNode id := by
  obtain ⟨hm, rfl⟩ := mem_incoming.mp hc
  exact ⟨c, hm, ⟨hs, ht⟩, rfl, rfl⟩

theorem Feeds.hasNode_left {a b : String} (h : g.Feeds a b) : g.hasNode a = true := by
  obtain ⟨c, -, hj, rfl, -⟩ := h
  exact hj.1

/-- A graph without cycles has no connection on one. -/
theorem Acyclic.not_onCycle (h : g.Acyclic) (c : Connection) : ¬ g.OnCycle c := by
  rintro ⟨hm, hj, hback⟩
  exact h c.fromNode (.head' ⟨c, hm, hj, rfl, rfl⟩ hback)

/-- A graph in which feeding leads to higher ranks has no cycles. -/
theorem acyclic_of_feeds_rank (rank : String → Nat)
    (h : ∀ a b, g.Feeds a b → rank a < rank b) : g.Acyclic := by
  have hup : ∀ a b, Relation.TransGen g.Feeds a b → rank a < rank b := by
    intro a b hab
    induction hab with
    | single hfeeds => exact h _ _ hfeeds
    | tail _ hfeeds ih => exact ih.trans (h _ _ hfeeds)
  exact fun id hid => Nat.lt_irrefl _ (hup id id hid)

/-- A graph whose connections all lead to higher ranks has no cycles. -/
theorem acyclic_of_rank (rank : String → Nat)
    (h : ∀ c ∈ g.connections, rank c.fromNode < rank c.toNode) : g.Acyclic := by
  refine acyclic_of_feeds_rank rank ?_
  rintro a b ⟨c, hc, -, rfl, rfl⟩
  exact h c hc

/-- A graph whose nodes can be listed producers first has no cycles. -/
theorem acyclic_of_order {order : List String} (hd : order.Nodup)
    (h : ∀ a b, g.Feeds a b → [a, b].Sublist order) : g.Acyclic :=
  acyclic_of_feeds_rank order.idxOf fun a b hab => idxOf_lt_of_pair_sublist (h a b hab) hd

/-! ### Induction on producers -/

/-- Without cycles a node has strictly fewer ancestors than the nodes that it feeds, so the relation
has no infinite descent. -/
theorem Acyclic.wellFounded (h : g.Acyclic) : WellFounded g.Feeds := by
  classical
  let ancestors : String → Finset String := fun id =>
    g.ids.toFinset.filter (fun a => Relation.TransGen g.Feeds a id)
  have fewer : ∀ a b, g.Feeds a b → (ancestors a).card < (ancestors b).card := by
    intro a b hab
    refine Finset.card_lt_card ⟨?_, ?_⟩
    · intro x hx
      obtain ⟨hm, hxa⟩ := Finset.mem_filter.mp hx
      exact Finset.mem_filter.mpr ⟨hm, hxa.tail hab⟩
    · intro hsub
      -- the producer itself is an ancestor of its consumer but not of itself
      have hmem : a ∈ ancestors b := by
        refine Finset.mem_filter.mpr ⟨?_, .single hab⟩
        exact List.mem_toFinset.mpr ((hasNode_iff g a).mp hab.hasNode_left)
      exact h a (Finset.mem_filter.mp (hsub hmem)).2
  exact Subrelation.wf (fun {a b} hab => fewer a b hab) (measure fun id => (ancestors id).card).wf

end Graph

end LoftGraph
