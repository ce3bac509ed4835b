import LoftGraph.Proofs.Evaluation.Accounts

/-!
# Full passes start anew

Trace and log are written and never read. So a session that continues the trace and log of another
(`Session.onTop`) does the same as it would alone, and each function of a session commutes with
`onTop`, from an elementary change up to a call. No bound and no kind of request matters for that.

A full pass begins by forgetting all that a session holds except trace and log
(`evaluateGraph_eq_onTop`). `full_pass_starts_anew` puts this together with what holds of every
reachable state: a pass finds in any of them what a new session finds, and so does a second pass.
-/

namespace LoftGraph

namespace Session

/-- A session whose trace and log continue those of another. -/
def onTop (s base : Session) : Session :=
  { s with trace := base.trace ++ s.trace, log := base.log ++ s.log }

variable {e : Evaluation} {evaluate : String → Session → Session} {cut : List Connection}
variable {id : String} {s base : Session}

/-! ## Elementary changes -/

@[simp] theorem cached_onTop (s base : Session) (id port : String) :
    (s.onTop base).cached id port = s.cached id port := rfl

theorem record_onTop (s base : Session) (event : SessionEvent) :
    (s.onTop base).record event = (s.record event).onTop base := by
  simp [record, onTop]

theorem logged_onTop (s base : Session) (level : LogLevel) (message : String) :
    (s.onTop base).logged level message = (s.logged level message).onTop base := by
  simp [logged, onTop]

theorem report_onTop (s base : Session) (d : Diagnostic) :
    (s.onTop base).report d = (s.report d).onTop base := by
  have hsame : (s.onTop base).hasReported d = s.hasReported d := rfl
  unfold report
  rw [hsame]
  split <;> rfl

theorem reportAloud_onTop (s base : Session) (d : Diagnostic) :
    (s.onTop base).reportAloud d = (s.reportAloud d).onTop base := by
  have hsame : (s.onTop base).hasReported d = s.hasReported d := rfl
  unfold reportAloud
  rw [hsame, report_onTop, logged_onTop]
  split <;> rfl

/-- What every step does alike on top of another session, the fold does. -/
theorem foldl_onTop {α : Type} {f : Session → α → Session} {xs : List α}
    (hf : ∀ x ∈ xs, ∀ s, f (s.onTop base) x = (f s x).onTop base) (s : Session) :
    xs.foldl f (s.onTop base) = (xs.foldl f s).onTop base := by
  induction xs generalizing s with
  | nil => rfl
  | cons x xs ih =>
    rw [List.foldl_cons, hf x (.head _), ih fun y hy => hf y (.tail _ hy)]
    rfl

theorem foldl_reportAloud_onTop {α : Type} (f : α → Diagnostic) (xs : List α)
    (s base : Session) :
    xs.foldl (fun s x => s.reportAloud (f x)) (s.onTop base)
      = (xs.foldl (fun s x => s.reportAloud (f x)) s).onTop base :=
  foldl_onTop (fun x _ s => reportAloud_onTop s base (f x)) s

theorem announce_onTop (s base : Session) (p : Plan) :
    (s.onTop base).announce p = (s.announce p).onTop base := by
  unfold announce
  rw [foldl_reportAloud_onTop, record_onTop]

theorem noteDangling_onTop (s base : Session) (g : Graph) (cut : List Connection) (id : String) :
    (s.onTop base).noteDangling g cut id = (s.noteDangling g cut id).onTop base :=
  foldl_reportAloud_onTop _ (s.dangling g cut id) s base

theorem prepare_onTop (s base : Session) (g : Graph) (cut : List Connection) (id : String) :
    (s.onTop base).prepare g cut id = (s.prepare g cut id).onTop base := by
  have hstarted : ((s.record (.run id cut)).onTop base).started id
      = ((s.record (.run id cut)).started id).onTop base := rfl
  rw [prepare, prepare, record_onTop, hstarted, noteDangling_onTop]

theorem conclude_onTop (s base : Session) (id : String) (result : Except NodeFault Outputs) :
    (s.onTop base).conclude id result = (s.conclude id result).onTop base := by
  cases result with
  | ok outputs => rfl
  | error fault =>
    have hfinished : (s.onTop base).finished id = (s.finished id).onTop base := rfl
    simp only [conclude, settle, hfinished, logged_onTop, report_onTop]
    rfl

/-! ## Runs and calls -/

theorem perform_onTop
    (hev : ∀ node s, evaluate node (s.onTop base) = (evaluate node s).onTop base)
    (request : Request) (s : Session) :
    perform evaluate id request (s.onTop base)
      = ((perform evaluate id request s).1.onTop base, (perform evaluate id request s).2) := by
  induction request generalizing s with
  | finish outputs => rfl
  | fail fault => rfl
  | output node port next ih =>
    have hsame : (s.onTop base).cache = s.cache := rfl
    by_cases hc : s.cache.has node = true
    · simpa [perform, hsame, hc] using ih (s.cached node port) s
    · have hrest := ih ((evaluate node s).cached node port) (evaluate node s)
      simpa [perform, hsame, hc, hev] using hrest
  | evaluate node next ih => simpa [perform, hev] using ih (evaluate node s)
  | warn message next ih =>
    simpa [perform, report_onTop] using ih (s.report (.geometryWarning id message))
  | note message next ih =>
    simpa [perform, logged_onTop] using ih (s.logged .warning message)

theorem run_onTop (hev : ∀ node s, evaluate node (s.onTop base) = (evaluate node s).onTop base)
    (s : Session) (id : String) :
    run e evaluate cut (s.onTop base) id = (run e evaluate cut s id).onTop base := by
  cases hn : e.graph.node? id with
  | none => rw [run_absent hn, run_absent hn]
  | some n =>
    cases hd : e.registry.get? n.type with
    | none =>
      rw [run_untyped hn hd, run_untyped hn hd, record_onTop, reportAloud_onTop]
      rfl
    | some d =>
      have hresolve : ((s.onTop base).prepare e.graph cut n.id).resolve e.graph cut d n
          = (s.prepare e.graph cut n.id).resolve e.graph cut d n := by
        rw [prepare_onTop]
        rfl
      cases hi : (s.prepare e.graph cut n.id).resolve e.graph cut d n with
      | error fault =>
        rw [run_unresolved hn hd (hresolve.trans hi), run_unresolved hn hd hi, prepare_onTop,
          conclude_onTop]
      | ok inputs =>
        simp only [run_acted hn hd (hresolve.trans hi), run_acted hn hd hi, prepare_onTop,
          record_onTop, perform_onTop hev, conclude_onTop]

theorem evaluateFrom_onTop
    (hev : ∀ node s, evaluate node (s.onTop base) = (evaluate node s).onTop base) (root : String)
    (s : Session) :
    evaluateFrom e evaluate root (s.onTop base) = (evaluateFrom e evaluate root s).onTop base := by
  have hplan : e.graph.plan (s.onTop base).cache.has (s.onTop base).executing root
      = e.graph.plan s.cache.has s.executing root := rfl
  rw [evaluateFrom, evaluateFrom, hplan, announce_onTop]
  exact foldl_onTop (fun id _ s => run_onTop hev s id) _

theorem evaluateWithin_onTop (depth : Nat) (id : String) (s : Session) :
    evaluateWithin e depth id (s.onTop base) = (evaluateWithin e depth id s).onTop base := by
  induction depth generalizing id s with
  | zero => rfl
  | succ depth ih =>
    have hsame : (s.onTop base).executing = s.executing := rfl
    unfold evaluateWithin
    rw [hsame, reportAloud_onTop, reportAloud_onTop, evaluateFrom_onTop ih]
    split
    · rfl
    · split <;> rfl

theorem evaluateFresh_onTop (s : Session) (n : GraphNode) :
    evaluateFresh e (s.onTop base) n = (evaluateFresh e s n).onTop base := by
  have hsame : (s.onTop base).cache = s.cache := rfl
  unfold evaluateFresh
  rw [hsame, evaluateFrom_onTop (evaluateWithin_onTop (nesting e))]
  split <;> rfl

/-- **A full pass forgets** all but trace and log, which it continues. -/
theorem evaluateGraph_eq_onTop (hs : s.Idle) :
    s.evaluateGraph e = ((ofGraph e.graph).evaluateGraph e).onTop s := by
  have hclear : s.clear e.graph = ((ofGraph e.graph).clear e.graph).onTop s := by
    simp [clear, onTop, ofGraph, hs.out]
  unfold evaluateGraph
  rw [hclear]
  exact foldl_onTop (fun n _ s => evaluateFresh_onTop s n) _

end Session

/-- **Full passes start anew.** In every state that a history leads to, nothing is running, the keys
that have been noted are those of the diagnostics, and no two diagnostics share a key. A full pass
from there, on whatever graph, adds to trace and log what a pass of a new session on that graph
records, and leaves the outputs and the diagnostics of that session; another pass leaves all but
trace and log as it is. -/
theorem full_pass_starts_anew (r : Registry) (g : Graph) (actions : List Action) :
    let h := Host.after r g actions
    h.session.executing = [] ∧
      (∀ key, key ∈ h.session.reported ↔ ∃ d ∈ h.session.diagnostics, d.key = key) ∧
      h.session.diagnostics.Pairwise (fun d d' => d.key ≠ d'.key) ∧
      ∀ g' : Graph,
        let e : Evaluation := ⟨g', r⟩
        let s := h.session.evaluateGraph e
        let new := (Session.ofGraph g').evaluateGraph e
        s = new.onTop h.session ∧ s.diagnostics = new.diagnostics ∧ s.cache = new.cache ∧
          { s.evaluateGraph e with trace := s.trace, log := s.log } = s := by
  intro h
  have hidle : h.session.Idle := Host.idle_after r g actions
  have haccounted : h.session.Accounted := Host.accounted_after r g actions
  refine ⟨hidle, fun key => ?_, List.pairwise_map.mp haccounted.nodup, fun g' => ?_⟩
  · rw [haccounted.reported, List.mem_map]
  · intro e s new
    have hs : s = new.onTop h.session := Session.evaluateGraph_eq_onTop hidle
    have hagain : s.evaluateGraph e = new.onTop s :=
      Session.evaluateGraph_eq_onTop ((Session.evaluates_evaluateGraph hidle).idle hidle)
    refine ⟨hs, by rw [hs]; rfl, by rw [hs]; rfl, ?_⟩
    rw [hagain, hs]
    rfl

end LoftGraph
