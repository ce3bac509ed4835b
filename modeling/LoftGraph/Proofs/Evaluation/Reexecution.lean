import LoftGraph.Node.Inputs
import LoftGraph.Proofs.Evaluation.Incremental
import LoftGraph.Proofs.Evaluation.Settled

/-!
# Running nodes again

After a full pass every node is cached, so a call for one of them plans that node alone and cuts
nothing (`Session.Rested`, `Rested.evaluateNode`). The pass may have cut connections into the node,
and then it runs on inputs that it did not have before.

So calls change nothing for nodes that nothing was cut for, and for the others they change nothing
exactly when the node puts out the same without the cut (`reexecution_changes_nothing_iff`).
-/

namespace LoftGraph

namespace Session

open Diagnostic (noteAll Noted)

variable {e : Evaluation} {s t : Session} {id : String} {n : GraphNode}

/-- Every node is cached, for the graph as it is, the reports are accounted for and nothing is
running. -/
structure Rested (e : Evaluation) (s : Session) : Prop where
  idle : s.Idle
  accounted : s.Accounted
  level : s.revision = e.graph.revision
  cached : ∀ id, e.graph.hasNode id = true → s.cache.has id = true

/-- Running the node again, with nothing cut, gives what is there. -/
def Unmoved (e : Evaluation) (s : Session) (id : String) : Prop :=
  ∀ n, e.graph.node? id = some n → s.cache.value? id = some (s.outcome e [] n) ∧
    ∀ d ∈ s.findings e [] n, Noted s.diagnostics d

theorem Unmoved.congr (h : s.Unmoved e id) (hcache : t.cache = s.cache)
    (hdiagnostics : t.diagnostics = s.diagnostics) : t.Unmoved e id := by
  intro n hn
  rw [(alikeOver_of_cache hcache _).outcome_eq, (alikeOver_of_cache hcache _).findings_eq, hcache,
    hdiagnostics]
  exact h n hn

/-- **A call for a node at rest** runs that node alone and cuts nothing. -/
theorem Rested.evaluateNode (h : s.Rested e) (hq : e.registry.Quiet)
    (hn : e.graph.node? id = some n) :
    (s.evaluateNode e id).cache = s.cache.set id (s.outcome e [] n) ∧
      (s.evaluateNode e id).diagnostics = noteAll s.diagnostics (s.findings e [] n) := by
  have hid : e.graph.hasNode id = true := Graph.hasNode_of_node? hn
  have hplan : e.graph.plan s.cache.has s.executing id = ⟨[id], [], []⟩ := by
    refine Graph.plan_eq_single hid fun c _ => ?_
    by_cases hk : e.graph.hasNode c.fromNode = true
    · exact .inr (h.cached _ hk)
    · exact .inl (by simpa using hk)
  have hcall : s.evaluateNode e id = Session.run e (evaluateWithin e e.graph.nodes.length) []
      (s.announce ⟨[id], [], []⟩) id := by
    have hidle : id ∉ s.executing := by simp [h.idle.out]
    rw [Session.evaluateNode, sync_of_level h.level, nesting, evaluateWithin, evaluateFrom, hplan]
    simp [hid, hidle]
  have hcache : s.cache = (s.announce ⟨[id], [], []⟩).cache := (announce_fields s _).1.symm
  have hannounced := accounted_respected.announce s ⟨[id], [], []⟩ h.accounted
  rw [hcall, (run_quiet hq hn _ _ _).1, (run_diagnostics hq hn _ _ _ hannounced).1,
    h.accounted.announce_diagnostics, ← hcache,
    ← (alikeOver_of_cache hcache _).outcome_eq, ← (alikeOver_of_cache hcache _).findings_eq]
  simp

theorem Rested.evaluateNode_rested (h : s.Rested e) (hq : e.registry.Quiet)
    (hid : e.graph.hasNode id = true) : (s.evaluateNode e id).Rested e where
  idle := ((Call.completes_iff h.idle (.evaluateNode id) _).mpr rfl).idle h.idle
  accounted := ((Call.completes_iff h.idle (.evaluateNode id) _).mpr rfl).accounted h.accounted
  level := ((Call.completes_iff h.idle (.evaluateNode id) _).mpr rfl).revision
  cached := by
    obtain ⟨n, hn⟩ := Graph.exists_node?_of_hasNode hid
    intro x hx
    rw [(h.evaluateNode hq hn).1, Fields.has_set]
    exact .inr (h.cached x hx)

/-- Calls for nodes that would give what is there change nothing. -/
theorem Rested.foldl_evaluateNode (hq : e.registry.Quiet) {ids : List String} (s : Session)
    (h : s.Rested e) (hids : ∀ id ∈ ids, e.graph.hasNode id = true ∧ s.Unmoved e id) :
    (ids.foldl (fun t id => t.evaluateNode e id) s).cache = s.cache ∧
      (ids.foldl (fun t id => t.evaluateNode e id) s).diagnostics = s.diagnostics := by
  induction ids generalizing s with
  | nil => exact ⟨rfl, rfl⟩
  | cons id ids ih =>
    obtain ⟨hid, hunmoved⟩ := hids id (.head _)
    obtain ⟨n, hn⟩ := Graph.exists_node?_of_hasNode hid
    obtain ⟨hentry, hfound⟩ := hunmoved n hn
    obtain ⟨hcache, hdiagnostics⟩ := h.evaluateNode hq hn
    rw [Fields.set_eq_self hentry] at hcache
    rw [Diagnostic.noteAll_eq_self hfound] at hdiagnostics
    obtain ⟨ihcache, ihdiagnostics⟩ := ih _ (h.evaluateNode_rested hq hid) fun x hx =>
      ⟨(hids x (.tail _ hx)).1, (hids x (.tail _ hx)).2.congr hcache hdiagnostics⟩
    exact ⟨ihcache.trans hcache, ihdiagnostics.trans hdiagnostics⟩

/-- A call that changes nothing is for a node that would give what is there. -/
theorem Rested.unmoved (h : s.Rested e) (hq : e.registry.Quiet)
    (hcache : (s.evaluateNode e id).cache = s.cache)
    (hdiagnostics : (s.evaluateNode e id).diagnostics = s.diagnostics) : s.Unmoved e id := by
  intro n hn
  obtain ⟨hset, hnoted⟩ := h.evaluateNode hq hn
  refine ⟨?_, fun d hd => ?_⟩
  · rw [← hcache, hset, Fields.value?_set_self]
  · rw [← hdiagnostics, hnoted]
    exact Diagnostic.noted_noteAll hd

theorem rested_evaluateGraph (hq : e.registry.Quiet) (hs : s.Idle) :
    (s.evaluateGraph e).Rested e where
  idle := ((Call.completes_iff hs .evaluateGraph _).mpr rfl).idle hs
  accounted := (evaluates_evaluateGraph hs).accounted (s.accounted_clear e.graph)
  level := ((Call.completes_iff hs .evaluateGraph _).mpr rfl).revision
  cached := fun id => ((fullPass_solved hq hs).cached id).mpr

/-- A node that nothing was cut for would give what is there. -/
theorem Solved.unmoved {cuts : List Connection} (h : s.Solved e cuts)
    (hcuts : ∀ c ∈ e.graph.incoming id, c ∉ cuts) : s.Unmoved e id := by
  intro n hn
  have hsupply : supply e.graph cuts n.id = supply e.graph [] n.id := by
    rw [Graph.node?_id hn]
    exact List.filter_congr fun c hc => by simp [hcuts c hc]
  rw [← outcome_cut_congr hsupply, ← findings_cut_congr hsupply]
  exact ⟨h.entry id n hn, h.found id n hn⟩

end Session

/-- **When running nodes again changes nothing.** From every state that a history leads to, after a
full pass over quiet nodes:

* a call for a node runs it on what is cached, and leaves out no connection, also not one that the
  pass cut;
* calls for nodes into which the pass cut no connection change neither entries nor diagnostics;
* calls change neither, for all sequences of nodes, exactly when each node without a cut puts out
  what it put out with the cut, and finds nothing new. -/
theorem reexecution_changes_nothing_iff (r : Registry) (hq : r.Quiet) (g : Graph)
    (actions : List Action) :
    let h := Host.after r g actions
    let e : Evaluation := ⟨h.graph, r⟩
    let s := h.session.evaluateGraph e
    let back := h.session.passCuts e
    let again := fun ids : List String => ids.foldl (fun t id => t.evaluateNode e id) s
    (∀ id n, h.graph.node? id = some n →
      (s.evaluateNode e id).cache = s.cache.set id (s.outcome e [] n) ∧
        (s.evaluateNode e id).diagnostics
          = Diagnostic.noteAll s.diagnostics (s.findings e [] n)) ∧
      (∀ ids : List String, (∀ id ∈ ids, h.graph.hasNode id = true ∧
          ∀ c ∈ h.graph.incoming id, c ∉ back) →
        (again ids).cache = s.cache ∧ (again ids).diagnostics = s.diagnostics) ∧
      ((∀ ids : List String, (∀ id ∈ ids, h.graph.hasNode id = true) →
          (again ids).cache = s.cache ∧ (again ids).diagnostics = s.diagnostics) ↔
        ∀ id n, h.graph.node? id = some n → s.outcome e [] n = s.outcome e back n ∧
          ∀ d ∈ s.findings e [] n, Diagnostic.Noted s.diagnostics d) := by
  intro h e s back again
  have hidle : h.session.Idle := Host.idle_after r g actions
  have hsolved : s.Solved e back := Session.fullPass_solved hq hidle
  have hrested : s.Rested e := Session.rested_evaluateGraph hq hidle
  refine ⟨fun id n hn => hrested.evaluateNode hq hn, fun ids hids => ?_, ?_⟩
  · exact hrested.foldl_evaluateNode hq s fun id hid =>
      ⟨(hids id hid).1, hsolved.unmoved (hids id hid).2⟩
  · constructor
    · intro hall id n hn
      obtain ⟨hcache, hdiagnostics⟩ := hall [id] (by simpa using Graph.hasNode_of_node? hn)
      obtain ⟨hentry, hfound⟩ := hrested.unmoved hq hcache hdiagnostics n hn
      exact ⟨Option.some.inj (hentry.symm.trans (hsolved.entry id n hn)), hfound⟩
    · intro hsame ids hids
      refine hrested.foldl_evaluateNode hq s fun id hid => ⟨hids id hid, fun n hn => ?_⟩
      obtain ⟨hout, hfound⟩ := hsame id n hn
      exact ⟨hout ▸ hsolved.entry id n hn, hfound⟩

/-- A quiet type that puts out the opposite of what it gets. -/
def flip : NodeDefinition where
  type := "flip"
  name := "Flip"
  category := "Basic"
  inputs := [⟨"in", "In", .boolean, .bool false⟩]
  outputs := [⟨"out", "Out", .boolean, .null⟩]
  action _ inputs := .yields [("out", .bool (!inputs.flag "in"))]

/-- The registry of this type alone. -/
def flips : Registry := ⟨[flip]⟩

theorem flips_quiet : flips.Quiet := by
  intro d hd id inputs
  obtain rfl : d = flip := by simpa [flips] using hd
  exact .finish _

/-- A node that feeds itself and another one. -/
def flipping : Graph where
  nodes := [⟨"f", "flip", [], none⟩, ⟨"g", "flip", [], none⟩]
  connections := [⟨"l", "f", "out", "f", "in"⟩, ⟨"k", "f", "out", "g", "in"⟩]

theorem flipping_reexecution :
    let e : Evaluation := ⟨flipping, flips⟩
    let s := (Session.ofGraph flipping).evaluateGraph e
    flips.Quiet ∧
      (s.evaluateNode e "f").cache = s.cache.set "f" [("out", .bool false)] ∧
      (((s.evaluateNode e "g").evaluateNode e "g").cache = s.cache ∧
        ((s.evaluateNode e "g").evaluateNode e "g").diagnostics = s.diagnostics) := by
  obtain ⟨hcall, hkept, -⟩ := reexecution_changes_nothing_iff flips flips_quiet flipping []
  refine ⟨flips_quiet, (hcall "f" _ rfl).1, hkept ["g", "g"] ?_⟩
  decide +kernel

/-- A call for a node that leads back to itself may change its output: the pass has cut the
connection, and the call has not. -/
theorem reexecution_may_change_output :
    let e : Evaluation := ⟨flipping, flips⟩
    let s := (Session.ofGraph flipping).evaluateGraph e
    flips.Quiet ∧ flipping.hasNode "f" = true ∧
      s.cache.value? "f" = some [("out", .bool true)] ∧
      (s.evaluateNode e "f").cache.value? "f" = some [("out", .bool false)] :=
  ⟨flips_quiet, rfl, rfl, rfl⟩

end LoftGraph
