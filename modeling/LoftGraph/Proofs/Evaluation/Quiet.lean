import LoftGraph.Proofs.Evaluation.Trace

/-!
# Quiet node types

The action of a quiet node asks nothing of other nodes, so it ends with the same result whatever the
session is, and running the node has a closed form: `run_quiet`. What the node puts out
(`Session.outcome`) depends on nothing but the cached values that reach it over connections that are
not cut (`outcome_congr`).

Invariants of quiet sessions are shown for one run of a node whose sources are cached;
`evaluateFrom_induction` lifts them to plans.
-/

namespace LoftGraph

namespace Request

/-- What a request ends with when nothing can be read. -/
def result : Request → Except NodeFault (Option Outputs)
  | finish outputs => .ok outputs
  | fail fault => .error fault
  | output _ _ next => result (next .null)
  | evaluate _ next => result next
  | warn _ next => result next
  | note _ next => result next

end Request

namespace Registry

/-- The actions of registered types are requests of some kind, on whatever inputs. -/
def Every (r : Registry) (P : Request → Prop) : Prop :=
  ∀ d ∈ r.definitions, ∀ id inputs, P (d.action id inputs)

theorem Every.action {r : Registry} {P : Request → Prop} (hr : r.Every P) {type : String}
    {d : NodeDefinition} (hd : r.get? type = some d) (id : String) (inputs : Inputs) :
    P (d.action id inputs) :=
  hr d (List.mem_of_find?_eq_some hd) id inputs

/-- No node of a registered type asks anything of other nodes. -/
abbrev Quiet (r : Registry) : Prop := r.Every Request.Quiet

end Registry

/-- A quiet type: it puts out what it gets. -/
def relay : NodeDefinition where
  type := "relay"
  name := "Relay"
  category := "Basic"
  inputs := [⟨"in", "In", .boolean, .bool false⟩]
  outputs := [⟨"out", "Out", .boolean, .null⟩]
  action _ inputs := .yields [("out", (inputs.ports.value? "in").getD .null)]

/-- The registry of this type alone. -/
def relays : Registry := ⟨[relay]⟩

theorem relays_quiet : relays.Quiet := by
  intro d hd id inputs
  obtain rfl : d = relay := by simpa [relays] using hd
  exact .finish _

namespace Session

variable {e : Evaluation} {evaluate : String → Session → Session} {cut : List Connection}
variable {id : String} {n : GraphNode} {s t : Session}

/-- A quiet request ends with its result and leaves alone what evaluation goes by. -/
theorem perform_quiet {request : Request} (hq : request.Quiet)
    (evaluate : String → Session → Session) (id : String) (s : Session) :
    (perform evaluate id request s).2 = request.result ∧
      (perform evaluate id request s).1.cache = s.cache ∧
      (perform evaluate id request s).1.executing = s.executing ∧
      (perform evaluate id request s).1.trace = s.trace := by
  induction hq generalizing s with
  | finish outputs => simp [perform, Request.result]
  | fail fault => simp [perform, Request.result]
  | warn message _ ih =>
    have hrest := ih (s.report (Diagnostic.geometryWarning id message))
    simpa only [report_fields, perform, Request.result] using hrest
  | note message _ ih =>
    have hrest := ih (s.logged .warning message)
    simpa only [logged_fields, perform, Request.result] using hrest

/-! ## What a node puts out -/

/-- What a node puts out, given what is cached. -/
def outcome (s : Session) (e : Evaluation) (cut : List Connection) (n : GraphNode) : Outputs :=
  match e.registry.get? n.type with
  | none => []
  | some d =>
    match s.resolve e.graph cut d n with
    | .error _ => []
    | .ok inputs => kept ((d.action n.id inputs).result.bind (complete d n.type))

theorem foldl_arrive_congr {cs : List Connection}
    (h : ∀ c ∈ cs, s.cached c.fromNode c.fromPort = t.cached c.fromNode c.fromPort)
    (inputs : Fields Value) : cs.foldl s.arrive inputs = cs.foldl t.arrive inputs := by
  induction cs generalizing inputs with
  | nil => rfl
  | cons c cs ih =>
    have hc : s.arrive inputs c = t.arrive inputs c := by
      simp only [arrive, h c (.head _)]
    rw [List.foldl_cons, List.foldl_cons, hc]
    exact ih (fun d hd => h d (.tail _ hd)) _

/-- Inputs resolve alike where the same values arrive. -/
theorem resolve_congr {g : Graph} {d : NodeDefinition}
    (h : ∀ c ∈ supply g cut n.id, s.cached c.fromNode c.fromPort = t.cached c.fromNode c.fromPort) :
    s.resolve g cut d n = t.resolve g cut d n := by
  unfold resolve rawInputs
  rw [foldl_arrive_congr h]

theorem outcome_congr
    (h : ∀ c ∈ supply e.graph cut n.id,
      s.cached c.fromNode c.fromPort = t.cached c.fromNode c.fromPort) :
    s.outcome e cut n = t.outcome e cut n := by
  unfold outcome
  cases e.registry.get? n.type with
  | none => rfl
  | some d => simp only [resolve_congr h]

theorem cached_congr (h : s.cache = t.cache) (id port : String) :
    s.cached id port = t.cached id port := by
  simp only [cached, h]

/-! ## Runs and plans -/

/-- Running a quiet node remembers its outcome and records one run. -/
theorem run_quiet (hq : e.registry.Quiet) (hn : e.graph.node? id = some n)
    (evaluate : String → Session → Session) (cut : List Connection) (s : Session) :
    (run e evaluate cut s id).cache = s.cache.set id (s.outcome e cut n) ∧
      (run e evaluate cut s id).executing = s.executing ∧
      runsOf (run e evaluate cut s id).trace = runsOf s.trace ++ [(id, cut)] := by
  obtain rfl := Graph.node?_id hn
  cases hd : e.registry.get? n.type with
  | none =>
    rw [run_untyped hn hd]
    simp [store, outcome, hd, runsOf]
  | some d =>
    have hresolve : (s.prepare e.graph cut n.id).resolve e.graph cut d n
        = s.resolve e.graph cut d n :=
      resolve_congr fun c _ => cached_congr (by simp) _ _
    cases hi : (s.prepare e.graph cut n.id).resolve e.graph cut d n with
    | error fault =>
      have hout : s.outcome e cut n = [] := by simp [outcome, hd, ← hresolve, hi]
      rw [run_unresolved hn hd hi, hout]
      simp [kept, runsOf]
    | ok inputs =>
      have hout : s.outcome e cut n
          = kept ((d.action n.id inputs).result.bind (complete d n.type)) := by
        simp [outcome, hd, ← hresolve, hi]
      obtain ⟨hresult, hcache, hexec, htrace⟩ :=
        perform_quiet (hq.action hd n.id inputs) evaluate n.id
          ((s.prepare e.graph cut n.id).record (.enter n.id))
      rw [run_acted hn hd hi, hout]
      simp [hresult, hcache, hexec, htrace, runsOf]

theorem has_run (hq : e.registry.Quiet) (hn : e.graph.node? id = some n)
    (evaluate : String → Session → Session) (cut : List Connection) (s : Session) (x : String) :
    (run e evaluate cut s id).cache.has x = true ↔ id = x ∨ s.cache.has x = true := by
  rw [(run_quiet hq hn evaluate cut s).1, Fields.has_set]

/-- **Induction over runs.** What a run keeps whose sources are cached, unless they are cut off, is
kept by the runs of nodes that differ, the sources of each being cached at first or run before
it. -/
theorem foldl_run_induction (hq : e.registry.Quiet) {P : Session → List String → Prop}
    {ids : List String}
    (hrun : ∀ t done id n, id ∈ ids → id ∉ done → e.graph.node? id = some n →
      (∀ c ∈ supply e.graph cut id, e.graph.hasNode c.fromNode = true →
        t.cache.has c.fromNode = true) →
      P t done → P (run e evaluate cut t id) (done ++ [id]))
    (hk : ∀ id ∈ ids, e.graph.hasNode id = true) (s : Session) (done : List String)
    (hd : (done ++ ids).Nodup)
    (hsources : ∀ before id after, ids = before ++ id :: after → ∀ c ∈ supply e.graph cut id,
      e.graph.hasNode c.fromNode = true → s.cache.has c.fromNode = true ∨ c.fromNode ∈ before)
    (h : P s done) : P (ids.foldl (run e evaluate cut) s) (done ++ ids) := by
  induction ids generalizing s done with
  | nil => simpa using h
  | cons id ids ih =>
    obtain ⟨n, hn⟩ := Graph.exists_node?_of_hasNode (hk id (.head _))
    have hnew : id ∉ done := fun hid => (List.nodup_append.mp hd).2.2 id hid id (.head _) rfl
    have hfirst : ∀ c ∈ supply e.graph cut id, e.graph.hasNode c.fromNode = true →
        s.cache.has c.fromNode = true :=
      fun c hc hkc => (hsources [] id ids rfl c hc hkc).resolve_right (by simp)
    have hstep := hrun s done id n (.head _) hnew hn hfirst h
    rw [List.append_cons] at hd ⊢
    refine ih (fun t done x m hx => hrun t done x m (.tail _ hx)) (fun x hx => hk x (.tail _ hx)) _
      (done ++ [id]) hd ?_ hstep
    intro before x after hids c hc hkc
    -- what stood before it has run now, the first node among it
    rw [has_run hq hn]
    rcases hsources (id :: before) x after (by rw [hids]; rfl) c hc hkc with h | h
    · exact .inl (.inr h)
    · rcases List.mem_cons.mp h with h | h
      · exact .inl (.inl h.symm)
      · exact .inr h

/-- Running quiet nodes one after the other makes each of them cached, and nothing else. -/
theorem runs_quiet (hq : e.registry.Quiet) {ids : List String}
    (hk : ∀ id ∈ ids, e.graph.hasNode id = true) (evaluate : String → Session → Session)
    (cut : List Connection) (s : Session) :
    (∀ x, (ids.foldl (run e evaluate cut) s).cache.has x = true ↔
        x ∈ ids ∨ s.cache.has x = true) ∧
      (ids.foldl (run e evaluate cut) s).executing = s.executing ∧
      runsOf (ids.foldl (run e evaluate cut) s).trace
        = runsOf s.trace ++ ids.map (fun id => (id, cut)) := by
  induction ids generalizing s with
  | nil => simp
  | cons id ids ih =>
    obtain ⟨n, hn⟩ := Graph.exists_node?_of_hasNode (hk id (.head _))
    obtain ⟨hcache, hexec, hruns⟩ := run_quiet hq hn evaluate cut s
    obtain ⟨ihcache, ihexec, ihruns⟩ :=
      ih (fun x hx => hk x (.tail _ hx)) (run e evaluate cut s id)
    refine ⟨?_, ihexec.trans hexec, ?_⟩
    · intro x
      rw [List.foldl_cons, ihcache, hcache, Fields.has_set, List.mem_cons, eq_comm (a := id)]
      tauto
    · rw [List.foldl_cons, ihruns, hruns]
      simp

/-- **Induction over a plan.** What the announcement of a plan establishes, and every run keeps
whose sources are cached unless they are cut off, holds when the plan has been carried out. -/
theorem evaluateFrom_induction (hq : e.registry.Quiet) (hs : s.Idle) {root : String}
    (hroot : e.graph.hasNode root = true) {p : Plan}
    (hp : e.graph.plan s.cache.has s.executing root = p) {P : Session → List String → Prop}
    (hstart : P (s.announce p) [])
    (hrun : ∀ t done id n, id ∈ p.order → id ∉ done → e.graph.node? id = some n →
      (∀ c ∈ supply e.graph p.cut id, e.graph.hasNode c.fromNode = true →
        t.cache.has c.fromNode = true) →
      P t done → P (run e evaluate p.cut t id) (done ++ [id])) :
    P (evaluateFrom e evaluate root s) p.order := by
  have hsound := (Graph.plans_plan hroot s.cache.has s.executing).sound hroot (by simp [hs.out])
  rw [evaluateFrom, hp]
  rw [hp] at hsound
  refine foldl_run_induction hq hrun hsound.known _ [] hsound.nodup ?_ hstart
  intro before id after horder c hc hk
  obtain ⟨hin, hcut⟩ := List.mem_filter.mp hc
  have hid : id ∈ p.order := by simp [horder]
  rw [(announce_fields s p).1]
  rcases hsound.settled id hid c hin hk with h | h | h
  · exact .inl h
  · simp [h] at hcut
  · exact .inr (mem_of_pair_sublist (horder ▸ h) (horder ▸ hsound.nodup))

end Session

end LoftGraph
