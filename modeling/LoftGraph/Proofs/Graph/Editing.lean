import LoftGraph.Graph.Request
import LoftGraph.Proofs.Graph.Cycle
import Mathlib.Data.List.Nodup

/-!
# What editing does

* `Edit.apply_eq_ok_iff`: an edit is carried out exactly when it is admissible, which says of the
  graph alone what the checks look for, and then has its result.
* `Edit.effect_of_apply`: an edit of a well-formed graph that is carried out has its effect and no
  other. `Edit.Effect.wellFormed`: with an admissible edit that keeps the graph well-formed.
* `EditRequest.perform_spec`: a request, carried out in place step by step, comes to its edit, and
  one that is refused leaves the graph as it was, because no check follows a change.
-/

namespace LoftGraph

/-- Of entries with distinct keys, the first one of a key is the only one. -/
theorem eraseP_eq_filter_of_nodup {α β : Type} [DecidableEq β] {key : α → β} {xs : List α}
    (h : (xs.map key).Nodup) (k : β) :
    xs.eraseP (fun x => key x = k) = xs.filter (fun x => key x ≠ k) := by
  induction xs with
  | nil => rfl
  | cons x rest ih =>
    obtain ⟨hnew, hrest⟩ := List.nodup_cons.mp h
    by_cases hx : key x = k
    · have hkeep : rest.filter (fun y => key y ≠ k) = rest := by
        refine List.filter_eq_self.mpr fun y hy => ?_
        have hne : key y ≠ k := fun hyk => hnew (List.mem_map.mpr ⟨y, hy, hyk.trans hx.symm⟩)
        simpa using hne
      rw [List.eraseP_cons_of_pos (by simpa using hx), List.filter_cons_of_neg (by simpa using hx),
        hkeep]
    · rw [List.eraseP_cons_of_neg (by simpa using hx), List.filter_cons_of_pos (by simpa using hx),
        ih hrest]

namespace Graph

variable {g g' : Graph}

theorem requireNode_eq_ok_iff {id : String} {u : Unit} :
    g.requireNode id = .ok u ↔ id ∈ g.ids := by
  rw [← hasNode_iff, requireNode]
  split <;> simp_all

theorem connection?_isSome_iff {id : String} :
    (g.connection? id).isSome = true ↔ id ∈ g.connections.map Connection.id := by
  simp [connection?, List.find?_isSome]

theorem rival?_eq_none_iff {c : Connection} : g.rival? c = none ↔
    (c.toNode, c.toPort) ∉ g.connections.map (fun o => (o.toNode, o.toPort)) := by
  simp only [rival?, incoming, List.find?_eq_none, List.mem_filter, List.mem_map, Prod.mk.injEq,
    decide_eq_true_eq, and_imp, not_exists, not_and]

theorem modifyFirst_eq_map {nodes : List GraphNode} (h : (nodes.map GraphNode.id).Nodup)
    {n : GraphNode} (hn : n ∈ nodes) (f : GraphNode → GraphNode) :
    modifyFirst n.id f nodes = nodes.map (fun m => if m.id = n.id then f n else m) := by
  induction nodes with
  | nil => cases hn
  | cons first rest ih =>
    obtain ⟨hnew, hrest⟩ := List.nodup_cons.mp h
    by_cases hid : first.id = n.id
    · obtain rfl : first = n := List.inj_on_of_nodup_map h (.head _) hn hid
      have hkeep : rest.map (fun m => if m.id = first.id then f first else m) = rest := by
        refine (List.map_congr_left fun m hm => if_neg fun heq => ?_).trans (List.map_id' rest)
        exact hnew (List.mem_map.mpr ⟨m, hm, heq⟩)
      simp [modifyFirst, hkeep]
    · have hmem : n ∈ rest := by
        rcases List.mem_cons.mp hn with rfl | hmem
        · exact absurd rfl hid
        · exact hmem
      simp [modifyFirst, hid, ih hrest hmem]

/-- One node is replaced by another of its identifier, and all else stays. -/
structure Replaces (g g' : Graph) (n n' : GraphNode) : Prop where
  mem : n ∈ g.nodes
  id_eq : n'.id = n.id
  nodes : g'.nodes = g.nodes.map (fun m => if m.id = n.id then n' else m)
  connections : g'.connections = g.connections

theorem replaces_modifyNode (hg : g.WellFormed) {id : String} (hid : id ∈ g.ids)
    {f : GraphNode → GraphNode} (hf : ∀ n, (f n).id = n.id) :
    ∃ n, n.id = id ∧ g.Replaces (g.modifyNode id f).touched n (f n) := by
  obtain ⟨n, hn, rfl⟩ := List.mem_map.mp hid
  exact ⟨n, rfl, hn, hf n, modifyFirst_eq_map hg.nodup_nodes hn f, rfl⟩

theorem Replaces.ids_eq {n n' : GraphNode} (h : g.Replaces g' n n') : g'.ids = g.ids := by
  rw [ids, h.nodes, List.map_map]
  refine List.map_congr_left fun m _ => ?_
  by_cases hm : m.id = n.id <;> simp [hm, h.id_eq]

/-- Well-formedness goes by the identifiers of the nodes and by the connections. -/
theorem WellFormed.congr (hg : g.WellFormed) (hids : g'.ids = g.ids)
    (hconnections : g'.connections = g.connections) : g'.WellFormed := by
  obtain ⟨hnodes, hconn, hstarts, hends, htargets⟩ := hg
  constructor
  · rwa [hids]
  · rwa [hconnections]
  · rwa [hconnections, hids]
  · rwa [hconnections, hids]
  · rwa [hconnections]

/-- Fewer connections keep a graph well-formed, if fewer nodes still hold their ends. -/
theorem WellFormed.sublist (hg : g.WellFormed) (hids : g'.ids.Sublist g.ids)
    (hconnections : g'.connections.Sublist g.connections)
    (hkept : ∀ c ∈ g'.connections, c.fromNode ∈ g'.ids ∧ c.toNode ∈ g'.ids) : g'.WellFormed where
  nodup_nodes := hg.nodup_nodes.sublist hids
  nodup_connections := hg.nodup_connections.sublist (hconnections.map _)
  starts := fun c hc => (hkept c hc).1
  ends := fun c hc => (hkept c hc).2
  nodup_targets := hg.nodup_targets.sublist (hconnections.map _)

end Graph

namespace Edit

/-- What has to hold of a graph for an edit of it. -/
def Admissible (g : Graph) : Edit → Prop
  | addNode n => n.id ∉ g.ids
  | moveNode id _ _ | removeNode id | setInput id _ _ | clearInput id _ => id ∈ g.ids
  | addConnection c exclusive =>
    c.fromNode ∈ g.ids ∧ c.toNode ∈ g.ids ∧ c.id ∉ g.connections.map Connection.id ∧
      (exclusive = true →
        (c.toNode, c.toPort) ∉ g.connections.map (fun o => (o.toNode, o.toPort)))
  | removeConnection id => id ∈ g.connections.map Connection.id

/-- What an edit makes of the nodes and connections of a graph. -/
def Effect (g g' : Graph) : Edit → Prop
  | addNode n => g'.nodes = g.nodes ++ [n] ∧ g'.connections = g.connections
  | moveNode id x y =>
    ∃ n, n.id = id ∧ g.Replaces g' n { n with position := some (.point x y) }
  | removeNode id =>
    g'.nodes = g.nodes.filter (fun n => n.id ≠ id) ∧
      g'.connections = g.connections.filter (fun c => c.fromNode ≠ id ∧ c.toNode ≠ id)
  | setInput id port value =>
    ∃ n overrides, n.id = id ∧ g.Replaces g' n { n with overrides } ∧
      overrides.toPorts = n.overrides.toPorts.set port value ∧
      overrides.strays = n.overrides.strays
  | clearInput id port =>
    ∃ n overrides, n.id = id ∧ g.Replaces g' n { n with overrides } ∧
      overrides.toPorts = n.overrides.toPorts.without port ∧
      overrides.strays = n.overrides.strays
  | addConnection c _ => g'.nodes = g.nodes ∧ g'.connections = g.connections ++ [c]
  | removeConnection id =>
    g'.nodes = g.nodes ∧ g'.connections = g.connections.filter (fun c => c.id ≠ id)

/-- What an edit makes of a graph when nothing is checked. -/
def result (g : Graph) : Edit → Graph
  | addNode n => { g with nodes := g.nodes ++ [n] }.touched
  | moveNode id x y =>
    (g.modifyNode id (fun n => { n with position := some (.point x y) })).touched
  | removeNode id =>
    { g with
      nodes := g.nodes.eraseP (fun n => n.id = id)
      connections := g.connections.filter (fun c => c.fromNode ≠ id ∧ c.toNode ≠ id) }.touched
  | setInput id port value =>
    (g.modifyNode id
      (fun n => { n with overrides := n.overrides.set (.ofPort port) value })).touched
  | clearInput id port =>
    (g.modifyNode id (fun n => { n with overrides := n.overrides.without port })).touched
  | addConnection c _ => { g with connections := g.connections ++ [c] }.touched
  | removeConnection id =>
    { g with connections := g.connections.eraseP (fun c => c.id = id) }.touched

variable {edit : Edit} {g g' : Graph}

/-- An edit is carried out exactly when it is admissible. -/
theorem apply_eq_ok_iff : edit.apply g = .ok g' ↔ edit.Admissible g ∧ g' = edit.result g := by
  have hnode : ∀ {id : String} {f : Graph},
      (g.requireNode id >>= fun _ => pure f) = .ok g' ↔ id ∈ g.ids ∧ g' = f := by
    intro id f
    rw [bind_eq_ok_iff]
    constructor
    · rintro ⟨_, hid, h⟩
      exact ⟨Graph.requireNode_eq_ok_iff.mp hid, (Except.ok.inj h).symm⟩
    · rintro ⟨hid, rfl⟩
      exact ⟨(), Graph.requireNode_eq_ok_iff.mpr hid, rfl⟩
  cases edit with
  | addNode n =>
    simp only [apply, Graph.addNode, Admissible, ← Graph.hasNode_iff]
    split
    · next hnode => exact iff_of_false nofun fun h => h.1 hnode
    · next hnode => exact ⟨fun h => ⟨hnode, (Except.ok.inj h).symm⟩, fun h => h.2 ▸ rfl⟩
  | moveNode id x y => exact hnode
  | removeNode id => exact hnode
  | setInput id port value => exact hnode
  | clearInput id port => exact hnode
  | addConnection c exclusive =>
    simp only [apply, Graph.addConnection, Graph.requireEnds, bind_eq_ok_iff,
      Graph.requireNode_eq_ok_iff, Admissible, ← Graph.connection?_isSome_iff,
      ← Graph.rival?_eq_none_iff]
    constructor
    · rintro ⟨_, ⟨_, hfrom, hto⟩, h⟩
      split at h
      · cases h
      · next hnew =>
        split at h
        · cases h
        · next hrival =>
          cases h
          refine ⟨⟨hfrom, hto, hnew, fun hexclusive => ?_⟩, rfl⟩
          rwa [if_pos hexclusive] at hrival
    · rintro ⟨⟨hfrom, hto, hnew, hfree⟩, rfl⟩
      have hrival : (if exclusive = true then g.rival? c else none) = none := by
        split
        · next hexclusive => exact hfree hexclusive
        · rfl
      refine ⟨(), ⟨(), hfrom, hto⟩, ?_⟩
      rw [if_neg hnew, hrival]
      rfl
  | removeConnection id =>
    simp only [apply, Graph.removeConnection, Admissible, ← Graph.connection?_isSome_iff]
    split
    · next hfound => exact ⟨fun h => ⟨hfound, (Except.ok.inj h).symm⟩, fun h => h.2 ▸ rfl⟩
    · next hfound => exact iff_of_false nofun fun h => hfound h.1

theorem exists_apply_iff : (∃ g', edit.apply g = .ok g') ↔ edit.Admissible g := by
  simp only [apply_eq_ok_iff, exists_and_left, exists_eq, and_true]

/-- An edit that is carried out has its effect. -/
theorem effect_of_apply (hg : g.WellFormed) (h : edit.apply g = .ok g') : edit.Effect g g' := by
  obtain ⟨hadmissible, rfl⟩ := apply_eq_ok_iff.mp h
  cases edit with
  | addNode n => exact ⟨rfl, rfl⟩
  | moveNode id x y => exact Graph.replaces_modifyNode hg hadmissible fun _ => rfl
  | removeNode id => exact ⟨eraseP_eq_filter_of_nodup hg.nodup_nodes id, rfl⟩
  | setInput id port value =>
    obtain ⟨n, hn, hreplaces⟩ := Graph.replaces_modifyNode hg hadmissible
      (f := fun n => { n with overrides := n.overrides.set (.ofPort port) value }) fun _ => rfl
    exact ⟨n, _, hn, hreplaces, n.overrides.toPorts_set port value,
      n.overrides.strays_set port value⟩
  | clearInput id port =>
    obtain ⟨n, hn, hreplaces⟩ := Graph.replaces_modifyNode hg hadmissible
      (f := fun n => { n with overrides := n.overrides.without port }) fun _ => rfl
    exact ⟨n, _, hn, hreplaces, n.overrides.toPorts_without port,
      n.overrides.strays_without port⟩
  | addConnection c exclusive => exact ⟨rfl, rfl⟩
  | removeConnection id => exact ⟨rfl, eraseP_eq_filter_of_nodup hg.nodup_connections id⟩

/-- Every edit that succeeds is counted. -/
theorem apply_revision (h : edit.apply g = .ok g') : g'.revision = g.revision + 1 := by
  obtain ⟨-, rfl⟩ := apply_eq_ok_iff.mp h
  cases edit <;> rfl

/-- Does the edit keep to one connection for an input port? -/
def Exclusive : Edit → Prop
  | addConnection _ exclusive => exclusive = true
  | _ => True

/-- The effect of an admissible edit keeps a graph well-formed. -/
theorem Effect.wellFormed (h : edit.Effect g g') (hg : g.WellFormed)
    (hadmissible : edit.Admissible g) (hexclusive : edit.Exclusive) : g'.WellFormed := by
  cases edit with
  | addNode n =>
    obtain ⟨hnodes, hconnections⟩ := h
    have hids : g'.ids = g.ids ++ [n.id] := by simp [Graph.ids, hnodes]
    constructor
    · rw [hids]
      exact hg.nodup_nodes.append (List.nodup_singleton _) (List.disjoint_singleton.mpr hadmissible)
    · rw [hconnections]
      exact hg.nodup_connections
    · rw [hconnections, hids]
      exact fun c hc => List.mem_append_left _ (hg.starts c hc)
    · rw [hconnections, hids]
      exact fun c hc => List.mem_append_left _ (hg.ends c hc)
    · rw [hconnections]
      exact hg.nodup_targets
  | moveNode id x y =>
    obtain ⟨n, -, hreplaces⟩ := h
    exact hg.congr hreplaces.ids_eq hreplaces.connections
  | removeNode id =>
    obtain ⟨hnodes, hconnections⟩ := h
    have hids : g'.ids = g.ids.filter (· ≠ id) := by
      rw [Graph.ids, hnodes, Graph.ids, List.filter_map]
      rfl
    refine hg.sublist (hids ▸ List.filter_sublist) (hconnections ▸ List.filter_sublist) ?_
    intro c hc
    rw [hconnections] at hc
    obtain ⟨hmem, hapart⟩ := List.mem_filter.mp hc
    obtain ⟨hfrom, hto⟩ : c.fromNode ≠ id ∧ c.toNode ≠ id := by simpa using hapart
    rw [hids]
    exact ⟨List.mem_filter.mpr ⟨hg.starts c hmem, by simpa using hfrom⟩,
      List.mem_filter.mpr ⟨hg.ends c hmem, by simpa using hto⟩⟩
  | setInput id port value =>
    obtain ⟨n, _, -, hreplaces, -⟩ := h
    exact hg.congr hreplaces.ids_eq hreplaces.connections
  | clearInput id port =>
    obtain ⟨n, _, -, hreplaces, -⟩ := h
    exact hg.congr hreplaces.ids_eq hreplaces.connections
  | addConnection c exclusive =>
    obtain ⟨hnodes, hconnections⟩ := h
    obtain ⟨hfrom, hto, hnew, hfree⟩ := hadmissible
    have hids : g'.ids = g.ids := congrArg (List.map GraphNode.id) hnodes
    have hends : ∀ o ∈ g.connections ++ [c], o.fromNode ∈ g.ids ∧ o.toNode ∈ g.ids := by
      intro o ho
      rcases List.mem_append.mp ho with ho | ho
      · exact ⟨hg.starts o ho, hg.ends o ho⟩
      · obtain rfl := List.mem_singleton.mp ho
        exact ⟨hfrom, hto⟩
    constructor
    · rw [hids]
      exact hg.nodup_nodes
    · rw [hconnections, List.map_append]
      exact hg.nodup_connections.append (List.nodup_singleton _) (List.disjoint_singleton.mpr hnew)
    · rw [hconnections, hids]
      exact fun o ho => (hends o ho).1
    · rw [hconnections, hids]
      exact fun o ho => (hends o ho).2
    · rw [hconnections, List.map_append]
      exact hg.nodup_targets.append (List.nodup_singleton _)
        (List.disjoint_singleton.mpr (hfree hexclusive))
  | removeConnection id =>
    obtain ⟨hnodes, hconnections⟩ := h
    have hids : g'.ids = g.ids := congrArg (List.map GraphNode.id) hnodes
    refine hg.sublist (hids ▸ List.Sublist.refl _) (hconnections ▸ List.filter_sublist) ?_
    intro c hc
    have hmem : c ∈ g.connections := (hconnections ▸ List.filter_sublist).subset hc
    rw [hids]
    exact ⟨hg.starts c hmem, hg.ends c hmem⟩

end Edit

/-! ## Step by step -/

namespace Editing

variable {α β : Type} {ed : Editor}

theorem bind_apply (x : Editing α) (f : α → Editing β) (ed : Editor) :
    (x >>= f) ed = match x ed with
      | .ok a ed => f a ed
      | .error refusal ed => .error refusal ed := by
  cases h : x ed <;> simp only [bind, EStateM.bind, h]

theorem get_apply (ed : Editor) : (get : Editing Editor) ed = .ok ed ed := rfl

theorem pure_apply (a : α) (ed : Editor) : (pure a : Editing α) ed = .ok a ed := rfl

theorem argument_ok (a : α) (ed : Editor) : argument (.ok a) ed = .ok a ed := rfl

theorem argument_error (fault : DocumentFault) (ed : Editor) :
    (argument (.error fault) : Editing α) ed = .error (.argument fault) ed := rfl

theorem change_apply (f : Graph → Graph) (ed : Editor) :
    change f ed = .ok () { ed with graph := f ed.graph } := rfl

theorem touch_apply (ed : Editor) : touch ed = .ok () { ed with graph := ed.graph.touched } := rfl

theorem require_apply (holds : Graph → Bool) (fault : EditFault) (ed : Editor) :
    require holds fault ed =
      if holds ed.graph then .ok () ed else .error (.edit fault) ed := by
  rw [require, bind_apply, get_apply]
  by_cases h : holds ed.graph <;> simp only [h] <;> rfl

theorem requireFree_apply (c : Connection) (ed : Editor) :
    requireFree c ed =
      match ed.graph.rival? c with
      | some other => .error (.edit (.inputConnected c.toNode c.toPort other.id)) ed
      | none => .ok () ed := by
  rw [requireFree, bind_apply, get_apply]
  cases h : ed.graph.rival? c <;> simp only [h] <;> rfl

theorem identify_apply (mint : String → Nat → String) (stem asked : String) (ed : Editor) :
    ∃ drawn, identify mint stem asked ed
      = .ok (if asked ≠ "" then asked else mint stem ed.drawn) ⟨ed.graph, drawn⟩ := by
  by_cases h : asked = ""
  · exact ⟨ed.drawn + 1, by subst h; rfl⟩
  · exact ⟨ed.drawn, by rw [identify, if_pos h, if_pos h]; rfl⟩

end Editing

namespace EditRequest

open Editing

/-- What carrying a request out comes to, by the edit that the request comes to. -/
def Spec (mint : String → Nat → String) (exclusive : Bool) (r : EditRequest) (ed : Editor) :
    EStateM.Result EditRefusal Editor String → Prop
  | .ok id after =>
    id = r.identifier mint ed.drawn ∧
      ∃ edit, r.edit? exclusive id = .ok edit ∧ edit.apply ed.graph = .ok after.graph
  | .error refusal after =>
    after.graph = ed.graph ∧
      ∀ edit, r.edit? exclusive (r.identifier mint ed.drawn) = .ok edit →
        ∃ fault, refusal = .edit fault ∧ edit.apply ed.graph = .error fault

variable {mint : String → Nat → String} {exclusive : Bool} {r : EditRequest} {ed : Editor}

/-- A request that first looks for a node, and then changes the graph at one go. -/
theorem spec_requireNode {id : String} {rest : Editing String} {g' : Graph} {edit : Edit}
    (hrest : rest ed = .ok id ⟨g', ed.drawn⟩) (hid : r.identifier mint ed.drawn = id)
    (hedit : r.edit? exclusive id = .ok edit)
    (happly : edit.apply ed.graph = (ed.graph.requireNode id >>= fun _ => pure g')) :
    r.Spec mint exclusive ed ((requireNode id >>= fun _ => rest) ed) := by
  rw [bind_apply, requireNode, require_apply]
  by_cases hnode : ed.graph.hasNode id = true
  · rw [if_pos hnode]
    rw [Graph.requireNode, if_pos hnode] at happly
    simp only [hrest]
    exact ⟨hid.symm, edit, hedit, happly⟩
  · rw [if_neg hnode]
    rw [Graph.requireNode, if_neg hnode] at happly
    refine ⟨rfl, fun other hother => ?_⟩
    rw [hid, hedit] at hother
    cases hother
    exact ⟨_, rfl, happly⟩

/-- The checks of a new connection come in the same order in both forms of the edit. -/
theorem addConnection_apply (exclusive : Bool) {c : Connection} {id : String}
    (hid : (addConnection c).identifier mint ed.drawn = id) :
    ∃ drawn, (addConnection c).perform mint exclusive ed =
      match ed.graph.addConnection { c with id } exclusive with
      | .ok g' => .ok id ⟨g', drawn⟩
      | .error fault => .error (.edit fault) ⟨ed.graph, drawn⟩ := by
  obtain ⟨drawn, hidentify⟩ := identify_apply mint "conn" c.id ed
  replace hid : (if c.id ≠ "" then c.id else mint "conn" ed.drawn) = id := hid
  rw [hid] at hidentify
  simp only [perform, requireNode, bind_apply, require_apply, Graph.addConnection,
    Graph.requireEnds, Graph.requireNode]
  by_cases hfrom : ed.graph.hasNode c.fromNode = true
  case neg => exact ⟨ed.drawn, by simp only [if_neg hfrom]; rfl⟩
  by_cases hto : ed.graph.hasNode c.toNode = true
  case neg => exact ⟨ed.drawn, by simp only [if_pos hfrom, if_neg hto]; rfl⟩
  refine ⟨drawn, ?_⟩
  simp only [if_pos hfrom, if_pos hto, hidentify]
  cases hconn : ed.graph.connection? id with
  | some other => simp only [Option.isNone_some, Option.isSome_some]; rfl
  | none =>
    cases exclusive with
    | false => rfl
    | true =>
      simp only [Option.isNone_none, if_true, bind_apply, requireFree_apply]
      have hrival : ed.graph.rival? { c with id } = ed.graph.rival? c := rfl
      cases h : ed.graph.rival? c with
      | some other => simp only [hrival, h]; rfl
      | none => simp only [hrival, h]; rfl

theorem perform_spec (mint : String → Nat → String) (exclusive : Bool) (r : EditRequest)
    (ed : Editor) : r.Spec mint exclusive ed (r.perform mint exclusive ed) := by
  cases r with
  | addNode type id place inputs =>
    obtain ⟨drawn, hidentify⟩ := identify_apply mint type id ed
    rw [perform, bind_apply, hidentify]
    simp only [bind_apply, require_apply]
    generalize hnew : (if id ≠ "" then id else mint type ed.drawn) = new
    have hid : (addNode type id place inputs).identifier mint ed.drawn = new := hnew
    by_cases hnode : ed.graph.hasNode new = true
    · simp only [hnode, Bool.not_true, Bool.false_eq_true, if_false]
      refine ⟨rfl, fun edit hedit => ⟨_, rfl, ?_⟩⟩
      rw [hid] at hedit
      obtain ⟨overrides, -, hedit⟩ := bind_eq_ok_iff.mp hedit
      cases hedit
      simp [Edit.apply, Graph.addNode, hnode]
    · simp only [hnode, Bool.not_false, if_true]
      cases hinputs : Document.overrides inputs with
      | error fault =>
        rw [argument_error]
        refine ⟨rfl, fun edit hedit => ?_⟩
        obtain ⟨overrides, hread, -⟩ := bind_eq_ok_iff.mp hedit
        rw [hinputs] at hread
        cases hread
      | ok overrides =>
        rw [argument_ok]
        simp only [change_apply, touch_apply, pure_apply]
        refine ⟨hid.symm, _, bind_eq_ok_iff.mpr ⟨overrides, hinputs, rfl⟩, ?_⟩
        simp [Edit.apply, Graph.addNode, hnode]
  | moveNode id place =>
    rw [perform, bind_apply]
    cases hplace : Document.coordinates place with
    | error fault =>
      rw [argument_error]
      refine ⟨rfl, fun edit hedit => ?_⟩
      obtain ⟨_, hread, -⟩ := bind_eq_ok_iff.mp hedit
      rw [hplace] at hread
      cases hread
    | ok xy =>
      rw [argument_ok]
      exact spec_requireNode rfl rfl (bind_eq_ok_iff.mpr ⟨xy, hplace, rfl⟩) rfl
  | removeNode id => exact spec_requireNode rfl rfl rfl rfl
  | setInput id port value => exact spec_requireNode rfl rfl rfl rfl
  | clearInput id port => exact spec_requireNode rfl rfl rfl rfl
  | addConnection c =>
    generalize hid : (addConnection c).identifier mint ed.drawn = id
    obtain ⟨drawn, hperform⟩ := addConnection_apply exclusive hid
    rw [hperform]
    cases happly : ed.graph.addConnection { c with id } exclusive with
    | ok g' => exact ⟨hid.symm, _, rfl, happly⟩
    | error fault =>
      refine ⟨rfl, fun edit hedit => ⟨fault, rfl, ?_⟩⟩
      rw [hid] at hedit
      cases hedit
      exact happly
  | removeConnection id =>
    rw [perform, bind_apply, require_apply]
    by_cases hfound : (ed.graph.connection? id).isSome = true
    · rw [if_pos hfound]
      refine ⟨rfl, .removeConnection id, rfl, ?_⟩
      rw [Edit.apply, Graph.removeConnection, if_pos hfound]
    · rw [if_neg hfound]
      refine ⟨rfl, fun edit hedit => ⟨_, rfl, ?_⟩⟩
      cases hedit
      exact if_neg hfound

theorem exclusive_of_edit? {id : String} {edit : Edit} (h : r.edit? true id = .ok edit) :
    edit.Exclusive := by
  cases r with
  | addNode =>
    obtain ⟨_, -, h⟩ := bind_eq_ok_iff.mp h
    cases h
    trivial
  | moveNode =>
    obtain ⟨_, -, h⟩ := bind_eq_ok_iff.mp h
    cases h
    trivial
  | addConnection c =>
    cases h
    rfl
  | _ =>
    cases h
    trivial

end EditRequest

namespace Editor

variable {mint : String → Nat → String} {ed : Editor}

theorem wellFormed_act (hed : ed.graph.WellFormed) (r : EditRequest) :
    (ed.act mint true r).graph.WellFormed := by
  have hspec := r.perform_spec mint true ed
  rw [act]
  cases hperform : r.perform mint true ed with
  | ok id after =>
    rw [hperform] at hspec
    obtain ⟨-, edit, hedit, happly⟩ := hspec
    exact (Edit.effect_of_apply hed happly).wellFormed hed (Edit.exists_apply_iff.mp ⟨_, happly⟩)
      (EditRequest.exclusive_of_edit? hedit)
  | error refusal after =>
    rw [hperform] at hspec
    exact hspec.1 ▸ hed

theorem wellFormed_after (hed : ed.graph.WellFormed) (requests : List EditRequest) :
    (ed.after mint true requests).graph.WellFormed := by
  induction requests generalizing ed with
  | nil => exact hed
  | cons r rest ih => exact ih (wellFormed_act hed r)

end Editor

/-- **Editing is safe, and a refusal leaves nothing behind.** After any requests to an editor whose
graph is well-formed, the graph is well-formed. The next request either comes to an admissible edit,
is counted and has the effect of that edit and no other, or it comes to no admissible edit and the
graph stays as it is. -/
theorem editing_keeps_wellFormed (mint : String → Nat → String) (ed : Editor)
    (hed : ed.graph.WellFormed) (requests : List EditRequest) (r : EditRequest) :
    let before := ed.after mint true requests
    before.graph.WellFormed ∧
      match r.perform mint true before with
      | .ok id after =>
        after.graph.WellFormed ∧ after.graph.revision = before.graph.revision + 1 ∧
          id = r.identifier mint before.drawn ∧
          ∃ edit, r.edit? true id = .ok edit ∧ edit.Admissible before.graph ∧
            edit.Effect before.graph after.graph
      | .error _ after =>
        after.graph = before.graph ∧
          ∀ edit, r.edit? true (r.identifier mint before.drawn) = .ok edit →
            ¬ edit.Admissible before.graph := by
  intro before
  have hbefore : before.graph.WellFormed := Editor.wellFormed_after hed requests
  have hafter : (before.act mint true r).graph.WellFormed := Editor.wellFormed_act hbefore r
  have hspec := r.perform_spec mint true before
  refine ⟨hbefore, ?_⟩
  rw [Editor.act] at hafter
  cases hperform : r.perform mint true before with
  | ok id after =>
    rw [hperform] at hspec hafter
    obtain ⟨hid, edit, hedit, happly⟩ := hspec
    exact ⟨hafter, Edit.apply_revision happly, hid, edit, hedit,
      Edit.exists_apply_iff.mp ⟨_, happly⟩, Edit.effect_of_apply hbefore happly⟩
  | error refusal after =>
    rw [hperform] at hspec
    obtain ⟨hsame, hfault⟩ := hspec
    refine ⟨hsame, fun edit hedit hadmissible => ?_⟩
    obtain ⟨fault, -, hrefused⟩ := hfault edit hedit
    obtain ⟨g', happly⟩ := Edit.exists_apply_iff.mpr hadmissible
    rw [hrefused] at happly
    cases happly

/-- Requests of which some are refused: a second node `a`, a second connection into an input and a
place that is none. -/
def mixedRequests : List EditRequest :=
  [.addNode "number" "a" .null .null, .addNode "number" "" .null .null,
    .addNode "number" "a" .null .null, .addConnection ⟨"k", "a", "value", "number-0", "value"⟩,
    .addConnection ⟨"", "number-0", "value", "number-0", "value"⟩, .moveNode "a" .null]

theorem mixed_requests_keep_wellFormed :
    let mint := fun stem _ => stem ++ "-0"
    let before := Editor.after mint true ⟨Graph.empty, 0⟩ mixedRequests
    Graph.empty.WellFormed ∧ before.graph.WellFormed ∧ before.graph.ids = ["a", "number-0"] ∧
      before.graph.connections = [⟨"k", "a", "value", "number-0", "value"⟩] ∧
      before.graph.revision = 3 ∧
      ∃ after, (EditRequest.removeNode "a").perform mint true before = .ok "a" after ∧
        after.graph.WellFormed ∧ after.graph.revision = 4 ∧ after.graph.ids = ["number-0"] ∧
        after.graph.connections = [] := by
  obtain ⟨hbefore, hafter, hrevision, -⟩ := editing_keeps_wellFormed (fun stem _ => stem ++ "-0")
    ⟨Graph.empty, 0⟩ Graph.wellFormed_empty mixedRequests (.removeNode "a")
  exact ⟨Graph.wellFormed_empty, hbefore, rfl, rfl, rfl, _, rfl, hafter, hrevision, rfl, rfl⟩

end LoftGraph
