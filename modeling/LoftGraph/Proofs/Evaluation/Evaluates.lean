import LoftGraph.Graph.Session
import LoftGraph.Proofs.Graph.Plan

/-!
# Evaluation as a relation

`Session.Evaluates` is evaluation without a bound on anything: one rule for each thing that can
happen next to a `Task`. A task is what an evaluation is in the middle of, from a full pass down to
one answer to a running node. Planning and running call each other through the requests of running
nodes, so one relation covers all of it and one induction reaches everything.

* `Evaluates.executing`: whatever a task does, the nodes running after it are those running before.
* `Evaluates.respects`: a preorder that every elementary change respects holds between the sessions
  before and after a task (`Respected`). Revision, trace and cache are read off it.
* `Evaluates.only`: a task has one outcome at most.
-/

namespace LoftGraph

/-- What an evaluation is in the middle of. -/
inductive Task where
  /-- A node was asked for. -/
  | ask (id : String)
  /-- A node runs after everything it needs. -/
  | plan (root : String)
  /-- Nodes run one after the other. -/
  | runs (cut : List Connection) (ids : List String)
  /-- The node of an identifier runs. -/
  | run (cut : List Connection) (id : String)
  /-- A running node gets what it requests, until it ends with a result. -/
  | answer (id : String) (request : Request) (result : Except NodeFault (Option Outputs))
  /-- The nodes of a full pass are evaluated that have not been. -/
  | pass (nodes : List GraphNode)

namespace Session

/-- The session in which a node resolves its inputs. -/
def prepare (s : Session) (g : Graph) (cut : List Connection) (id : String) : Session :=
  ((s.record (.run id cut)).started id).noteDangling g cut id

/-- A session whose node has run with a result. -/
def conclude (s : Session) (id : String) (result : Except NodeFault Outputs) : Session :=
  settle id result (s.finished id)

/-- A task leads from one session to another. -/
inductive Evaluates (e : Evaluation) : Task → Session → Session → Prop
  | missing {id : String} {s : Session} :
      e.graph.hasNode id = false →
      Evaluates e (.ask id) s (s.reportAloud (.missingNode id))
  | busy {id : String} {s : Session} :
      e.graph.hasNode id = true → id ∈ s.executing →
      Evaluates e (.ask id) s (s.reportAloud (.requestedItself id))
  | granted {id : String} {s s' : Session} :
      e.graph.hasNode id = true → id ∉ s.executing →
      Evaluates e (.plan id) s s' → Evaluates e (.ask id) s s'
  | planned {root : String} {p : Plan} {s s' : Session} :
      e.graph.Plans s.cache.has s.executing root p →
      Evaluates e (.runs p.cut p.order) (s.announce p) s' → Evaluates e (.plan root) s s'
  | ranAll {cut : List Connection} {s : Session} : Evaluates e (.runs cut []) s s
  | ranNext {cut : List Connection} {id : String} {ids : List String} {s t s' : Session} :
      Evaluates e (.run cut id) s t → Evaluates e (.runs cut ids) t s' →
      Evaluates e (.runs cut (id :: ids)) s s'
  | absent {cut : List Connection} {id : String} {s : Session} :
      e.graph.node? id = none → Evaluates e (.run cut id) s s
  /-- The type of the node is not registered: it puts nothing out. -/
  | untyped {cut : List Connection} {id : String} {n : GraphNode} {s : Session} :
      e.graph.node? id = some n → e.registry.get? n.type = none →
      Evaluates e (.run cut id) s
        (((s.record (.run n.id cut)).reportAloud (.unknownNodeType n.id n.type)).store n.id [])
  /-- An input cannot be brought into its kind: the action is not entered. -/
  | unresolved {cut : List Connection} {id : String} {n : GraphNode} {d : NodeDefinition}
      {fault : NodeFault} {s : Session} :
      e.graph.node? id = some n → e.registry.get? n.type = some d →
      (s.prepare e.graph cut n.id).resolve e.graph cut d n = .error fault →
      Evaluates e (.run cut id) s ((s.prepare e.graph cut n.id).conclude n.id (.error fault))
  | acted {cut : List Connection} {id : String} {n : GraphNode} {d : NodeDefinition}
      {inputs : Inputs} {result : Except NodeFault (Option Outputs)} {s t : Session} :
      e.graph.node? id = some n → e.registry.get? n.type = some d →
      (s.prepare e.graph cut n.id).resolve e.graph cut d n = .ok inputs →
      Evaluates e (.answer n.id (d.action n.id inputs) result)
        ((s.prepare e.graph cut n.id).record (.enter n.id)) t →
      Evaluates e (.run cut id) s
        ((t.record (.leave n.id)).conclude n.id (result.bind (complete d n.type)))
  | finished {id : String} {outputs : Option Outputs} {s : Session} :
      Evaluates e (.answer id (.finish outputs) (.ok outputs)) s s
  | failed {id : String} {fault : NodeFault} {s : Session} :
      Evaluates e (.answer id (.fail fault) (.error fault)) s s
  /-- An output is read that is remembered. -/
  | held {id node port : String} {next : Value → Request}
      {result : Except NodeFault (Option Outputs)} {s s' : Session} :
      s.cache.has node = true →
      Evaluates e (.answer id (next (s.cached node port)) result) s s' →
      Evaluates e (.answer id (.output node port next) result) s s'
  /-- An output is read whose node has to be evaluated for it. -/
  | fetched {id node port : String} {next : Value → Request}
      {result : Except NodeFault (Option Outputs)} {s t s' : Session} :
      s.cache.has node = false → Evaluates e (.ask node) s t →
      Evaluates e (.answer id (next (t.cached node port)) result) t s' →
      Evaluates e (.answer id (.output node port next) result) s s'
  | evaluated {id node : String} {next : Request} {result : Except NodeFault (Option Outputs)}
      {s t s' : Session} :
      Evaluates e (.ask node) s t → Evaluates e (.answer id next result) t s' →
      Evaluates e (.answer id (.evaluate node next) result) s s'
  | warned {id message : String} {next : Request} {result : Except NodeFault (Option Outputs)}
      {s s' : Session} :
      Evaluates e (.answer id next result) (s.report (.geometryWarning id message)) s' →
      Evaluates e (.answer id (.warn message next) result) s s'
  | noted {id message : String} {next : Request} {result : Except NodeFault (Option Outputs)}
      {s s' : Session} :
      Evaluates e (.answer id next result) (s.logged .warning message) s' →
      Evaluates e (.answer id (.note message next) result) s s'
  | passedAll {s : Session} : Evaluates e (.pass []) s s
  | passedOver {n : GraphNode} {ns : List GraphNode} {s s' : Session} :
      s.cache.has n.id = true → Evaluates e (.pass ns) s s' →
      Evaluates e (.pass (n :: ns)) s s'
  | passedNext {n : GraphNode} {ns : List GraphNode} {s t s' : Session} :
      s.cache.has n.id = false → Evaluates e (.plan n.id) s t → Evaluates e (.pass ns) t s' →
      Evaluates e (.pass (n :: ns)) s s'

variable {e : Evaluation} {task : Task} {s s' : Session}

/-! ## Elementary changes

Reports and log lines leave alone what evaluation goes by: cache, running nodes, revision, trace. -/

@[simp] theorem report_fields (s : Session) (d : Diagnostic) :
    (s.report d).cache = s.cache ∧ (s.report d).executing = s.executing ∧
      (s.report d).revision = s.revision ∧ (s.report d).trace = s.trace := by
  unfold report
  split <;> simp

@[simp] theorem logged_fields (s : Session) (level : LogLevel) (message : String) :
    (s.logged level message).cache = s.cache ∧
      (s.logged level message).executing = s.executing ∧
      (s.logged level message).revision = s.revision ∧
      (s.logged level message).trace = s.trace := by
  simp [logged]

@[simp] theorem reportAloud_fields (s : Session) (d : Diagnostic) :
    (s.reportAloud d).cache = s.cache ∧ (s.reportAloud d).executing = s.executing ∧
      (s.reportAloud d).revision = s.revision ∧ (s.reportAloud d).trace = s.trace := by
  unfold reportAloud
  split <;> simp

theorem foldl_reportAloud_fields {α : Type} (f : α → Diagnostic) (xs : List α) (s : Session) :
    (xs.foldl (fun s x => s.reportAloud (f x)) s).cache = s.cache ∧
      (xs.foldl (fun s x => s.reportAloud (f x)) s).executing = s.executing ∧
      (xs.foldl (fun s x => s.reportAloud (f x)) s).revision = s.revision ∧
      (xs.foldl (fun s x => s.reportAloud (f x)) s).trace = s.trace := by
  induction xs generalizing s with
  | nil => simp
  | cons x xs ih =>
    obtain ⟨h₁, h₂, h₃, h₄⟩ := ih (s.reportAloud (f x))
    simp [h₁, h₂, h₃, h₄]

@[simp] theorem noteDangling_fields (s : Session) (g : Graph) (cut : List Connection)
    (id : String) :
    (s.noteDangling g cut id).cache = s.cache ∧
      (s.noteDangling g cut id).executing = s.executing ∧
      (s.noteDangling g cut id).revision = s.revision ∧
      (s.noteDangling g cut id).trace = s.trace :=
  foldl_reportAloud_fields _ _ s

@[simp] theorem record_fields (s : Session) (event : SessionEvent) :
    (s.record event).cache = s.cache ∧ (s.record event).executing = s.executing ∧
      (s.record event).revision = s.revision ∧ (s.record event).trace = s.trace ++ [event] := by
  simp [record]

@[simp] theorem announce_fields (s : Session) (p : Plan) :
    (s.announce p).cache = s.cache ∧ (s.announce p).executing = s.executing ∧
      (s.announce p).revision = s.revision ∧
      (s.announce p).trace = s.trace ++ [.plan p.order] := by
  obtain ⟨h₁, h₂, h₃, h₄⟩ :=
    foldl_reportAloud_fields Diagnostic.circularDependency p.circular s
  simp [announce, h₁, h₂, h₃, h₄]

@[simp] theorem prepare_fields (s : Session) (g : Graph) (cut : List Connection) (id : String) :
    (s.prepare g cut id).cache = s.cache ∧
      (s.prepare g cut id).executing = id :: s.executing ∧
      (s.prepare g cut id).revision = s.revision ∧
      (s.prepare g cut id).trace = s.trace ++ [.run id cut] := by
  simp [prepare, started]

/-- What is remembered of a result: its outputs, or none. -/
def kept : Except NodeFault Outputs → Outputs
  | .ok outputs => outputs
  | .error _ => []

@[simp] theorem conclude_fields (s : Session) (id : String) (result : Except NodeFault Outputs) :
    (s.conclude id result).cache = s.cache.set id (kept result) ∧
      (s.conclude id result).executing = s.executing.erase id ∧
      (s.conclude id result).revision = s.revision ∧
      (s.conclude id result).trace = s.trace := by
  cases result <;> simp [conclude, settle, kept, store, finished]

/-! ## What every task respects -/

/-- A preorder on sessions that every elementary change respects. -/
structure Respected (R : Session → Session → Prop) : Prop where
  refl : ∀ s, R s s
  trans : ∀ {s t u}, R s t → R t u → R s u
  report : ∀ s d, R s (s.report d)
  logged : ∀ s level message, R s (s.logged level message)
  record : ∀ s event, R s (s.record event)
  store : ∀ s id outputs, R s (s.store id outputs)
  started : ∀ s id, R s (s.started id)
  finished : ∀ s id, R s (s.finished id)

namespace Respected

variable {R : Session → Session → Prop}

theorem reportAloud (hR : Respected R) (s : Session) (d : Diagnostic) :
    R s (s.reportAloud d) := by
  unfold Session.reportAloud
  split
  · exact hR.refl s
  · exact hR.trans (hR.report s d) (hR.logged _ _ _)

theorem foldl_reportAloud {α : Type} (hR : Respected R) (f : α → Diagnostic) (xs : List α)
    (s : Session) : R s (xs.foldl (fun s x => s.reportAloud (f x)) s) := by
  induction xs generalizing s with
  | nil => exact hR.refl s
  | cons x xs ih => exact hR.trans (hR.reportAloud s (f x)) (ih _)

theorem announce (hR : Respected R) (s : Session) (p : Plan) : R s (s.announce p) :=
  hR.trans (hR.foldl_reportAloud _ _ s) (hR.record _ _)

theorem prepare (hR : Respected R) (s : Session) (g : Graph) (cut : List Connection)
    (id : String) : R s (s.prepare g cut id) := by
  have hstart : R s ((s.record (.run id cut)).started id) :=
    hR.trans (hR.record s _) (hR.started _ id)
  exact hR.trans hstart (hR.foldl_reportAloud _ _ _)

theorem conclude (hR : Respected R) (s : Session) (id : String)
    (result : Except NodeFault Outputs) : R s (s.conclude id result) := by
  refine hR.trans (hR.finished s id) ?_
  cases result with
  | ok outputs => exact hR.store _ _ _
  | error fault =>
    exact hR.trans (hR.logged _ _ _) (hR.trans (hR.report _ _) (hR.store _ _ _))

end Respected

/-- A task leads to a session that is related to the one before, if elementary changes do. -/
theorem Evaluates.respects {R : Session → Session → Prop} (h : Evaluates e task s s')
    (hR : Respected R) : R s s' := by
  induction h with
  | missing _ => exact hR.reportAloud _ _
  | busy _ _ => exact hR.reportAloud _ _
  | granted _ _ _ ih => exact ih
  | planned _ _ ih => exact hR.trans (hR.announce _ _) ih
  | ranAll => exact hR.refl _
  | ranNext _ _ ih₁ ih₂ => exact hR.trans ih₁ ih₂
  | absent _ => exact hR.refl _
  | untyped _ _ => exact hR.trans (hR.record _ _) (hR.trans (hR.reportAloud _ _) (hR.store _ _ _))
  | unresolved _ _ _ => exact hR.trans (hR.prepare _ _ _ _) (hR.conclude _ _ _)
  | @acted cut _ n _ _ _ s t _ _ _ _ ih =>
    have hentered : R s ((s.prepare e.graph cut n.id).record (.enter n.id)) :=
      hR.trans (hR.prepare _ _ _ _) (hR.record _ _)
    have hleft : R s (t.record (.leave n.id)) := hR.trans hentered (hR.trans ih (hR.record _ _))
    exact hR.trans hleft (hR.conclude _ _ _)
  | finished => exact hR.refl _
  | failed => exact hR.refl _
  | held _ _ ih => exact ih
  | fetched _ _ _ ih₁ ih₂ => exact hR.trans ih₁ ih₂
  | evaluated _ _ ih₁ ih₂ => exact hR.trans ih₁ ih₂
  | warned _ ih => exact hR.trans (hR.report _ _) ih
  | noted _ ih => exact hR.trans (hR.logged _ _ _) ih
  | passedAll => exact hR.refl _
  | passedOver _ _ ih => exact ih
  | passedNext _ _ _ ih₁ ih₂ => exact hR.trans ih₁ ih₂

/-- No task changes the revision that a session belongs to. -/
theorem Evaluates.revision (h : Evaluates e task s s') : s'.revision = s.revision := by
  refine h.respects (R := fun s t => t.revision = s.revision) ?_
  constructor <;> intros <;> simp_all [store, started, Session.finished]

/-- What is remembered stays remembered. -/
theorem Evaluates.cache_has (h : Evaluates e task s s') {id : String}
    (hid : s.cache.has id = true) : s'.cache.has id = true := by
  revert hid
  refine h.respects (R := fun s t => s.cache.has id = true → t.cache.has id = true) ?_
  constructor
  case store =>
    intro s key outputs hid
    exact (Fields.has_set _ _ _ _).mpr (.inr hid)
  all_goals intros; simp_all [started, Session.finished]

/-- Nodes that a task starts running it also finishes running. -/
theorem Evaluates.executing (h : Evaluates e task s s') : s'.executing = s.executing := by
  induction h with
  | missing _ => simp
  | busy _ _ => simp
  | granted _ _ _ ih => exact ih
  | planned _ _ ih => simpa using ih
  | ranAll => rfl
  | ranNext _ _ ih₁ ih₂ => exact ih₂.trans ih₁
  | absent _ => rfl
  | untyped _ _ => simp [store]
  | unresolved _ _ _ => simp
  | acted _ _ _ _ ih => simp [ih]
  | finished => rfl
  | failed => rfl
  | held _ _ ih => exact ih
  | fetched _ _ _ ih₁ ih₂ => exact ih₂.trans ih₁
  | evaluated _ _ ih₁ ih₂ => exact ih₂.trans ih₁
  | warned _ ih => simpa using ih
  | noted _ ih => simpa using ih
  | passedAll => rfl
  | passedOver _ _ ih => exact ih
  | passedNext _ _ _ ih₁ ih₂ => exact ih₂.trans ih₁

/-! ## One outcome -/

/-- A task has no other outcome than this one. -/
def Only (e : Evaluation) : Task → Session → Session → Prop
  | .answer id request result, s, s' =>
    ∀ {result' t}, Evaluates e (.answer id request result') s t → result' = result ∧ t = s'
  | task, s, s' => ∀ {t}, Evaluates e task s t → t = s'

theorem Evaluates.only (h : Evaluates e task s s') : Only e task s s' := by
  induction h with
  | missing hn =>
    intro t h
    cases h with
    | missing _ => rfl
    | busy hk _ => simp [hn] at hk
    | granted hk _ _ => simp [hn] at hk
  | busy hk hb =>
    intro t h
    cases h with
    | missing hn => simp [hn] at hk
    | busy _ _ => rfl
    | granted _ hb' _ => exact absurd hb hb'
  | granted hk hb _ ih =>
    intro t h
    cases h with
    | missing hn => simp [hn] at hk
    | busy _ hb' => exact absurd hb' hb
    | granted _ _ h => exact ih h
  | planned hp _ ih =>
    intro t h
    cases h with
    | planned hq h =>
      obtain rfl := hp.functional hq
      exact ih h
  | ranAll =>
    intro t h
    cases h
    rfl
  | ranNext _ _ ih₁ ih₂ =>
    intro t h
    cases h with
    | ranNext h₁ h₂ =>
      obtain rfl := ih₁ h₁
      exact ih₂ h₂
  | absent hn =>
    intro t h
    cases h <;> simp_all
  | untyped hn hd =>
    intro t h
    cases h <;> simp_all
  | unresolved hn hd hi =>
    intro t h
    cases h <;> simp_all
  | acted hn hd hi _ ih =>
    intro t h
    cases h with
    | absent hn' => simp_all
    | untyped hn' hd' => simp_all
    | unresolved hn' hd' hi' => simp_all
    | acted hn' hd' hi' h =>
      -- node, type and inputs are the same, so the requests are
      obtain rfl := Option.some.inj (hn.symm.trans hn')
      obtain rfl := Option.some.inj (hd.symm.trans hd')
      obtain rfl := Except.ok.inj (hi.symm.trans hi')
      obtain ⟨rfl, rfl⟩ := ih h
      rfl
  | finished =>
    intro result t h
    cases h
    exact ⟨rfl, rfl⟩
  | failed =>
    intro result t h
    cases h
    exact ⟨rfl, rfl⟩
  | held hc _ ih =>
    intro result t h
    cases h with
    | held _ h => exact ih h
    | fetched hc' _ _ => simp [hc] at hc'
  | fetched hc _ _ ih₁ ih₂ =>
    intro result t h
    cases h with
    | held hc' _ => simp [hc] at hc'
    | fetched _ h₁ h₂ =>
      obtain rfl := ih₁ h₁
      exact ih₂ h₂
  | evaluated _ _ ih₁ ih₂ =>
    intro result t h
    cases h with
    | evaluated h₁ h₂ =>
      obtain rfl := ih₁ h₁
      exact ih₂ h₂
  | warned _ ih =>
    intro result t h
    cases h with
    | warned h => exact ih h
  | noted _ ih =>
    intro result t h
    cases h with
    | noted h => exact ih h
  | passedAll =>
    intro t h
    cases h
    rfl
  | passedOver hc _ ih =>
    intro t h
    cases h with
    | passedOver _ h => exact ih h
    | passedNext hc' _ _ => simp [hc] at hc'
  | passedNext hc _ _ ih₁ ih₂ =>
    intro t h
    cases h with
    | passedOver hc' _ => simp [hc] at hc'
    | passedNext _ h₁ h₂ =>
      obtain rfl := ih₁ h₁
      exact ih₂ h₂

end Session

end LoftGraph
