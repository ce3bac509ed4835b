import LoftGraph.Proofs.Evaluation.Accounts
import LoftGraph.Proofs.Evaluation.Quiet

/-!
# What is reported

A session that keeps account of its reports takes one in unless it has one of the same key
(`Diagnostic.note`), so its diagnostics only grow, and reports that it has already change nothing
(`noteAll_eq_self`).

What a run of a quiet node reports has a closed form, as what the node puts out has one.
`Session.findings` lists it and `run_diagnostics` says that a run takes in these reports and no
others. Like the outcome, findings depend on nothing but what reaches the node
(`AlikeOver.findings_eq`).
-/

namespace LoftGraph

namespace Diagnostic

variable {ds more : List Diagnostic} {d : Diagnostic}

/-- A condition of this key has been reported. -/
def Noted (ds : List Diagnostic) (d : Diagnostic) : Prop := ∃ other ∈ ds, other.key = d.key

/-- Takes a report in, unless there is one of its key. -/
def note (ds : List Diagnostic) (d : Diagnostic) : List Diagnostic :=
  if ds.any (fun other => other.key = d.key) then ds else ds ++ [d]

/-- Takes reports in, one after the other. -/
def noteAll (ds more : List Diagnostic) : List Diagnostic := more.foldl note ds

@[simp] theorem noteAll_nil (ds : List Diagnostic) : noteAll ds [] = ds := rfl

@[simp] theorem noteAll_cons (ds : List Diagnostic) (d : Diagnostic) (more : List Diagnostic) :
    noteAll ds (d :: more) = noteAll (note ds d) more := rfl

@[simp] theorem noteAll_append (ds xs ys : List Diagnostic) :
    noteAll ds (xs ++ ys) = noteAll (noteAll ds xs) ys :=
  List.foldl_append

theorem note_of_noted (h : Noted ds d) : note ds d = ds := by
  have hany : ds.any (fun other => other.key = d.key) = true := by simpa [Noted] using h
  rw [note, if_pos hany]

theorem note_of_new (h : ¬ Noted ds d) : note ds d = ds ++ [d] := by
  have hany : ¬ ds.any (fun other => other.key = d.key) = true := by simpa [Noted] using h
  rw [note, if_neg hany]

theorem Noted.of_mem (h : d ∈ ds) : Noted ds d := ⟨d, h, rfl⟩

theorem Noted.mono (h : Noted ds d) (hsub : ds ⊆ more) : Noted more d := by
  obtain ⟨other, hother, hkey⟩ := h
  exact ⟨other, hsub hother, hkey⟩

theorem prefix_note (ds : List Diagnostic) (d : Diagnostic) : ds <+: note ds d := by
  unfold note
  split
  · exact List.prefix_refl _
  · exact List.prefix_append _ _

theorem noted_note (ds : List Diagnostic) (d : Diagnostic) : Noted (note ds d) d := by
  by_cases h : Noted ds d
  · rwa [note_of_noted h]
  · rw [note_of_new h]
    exact .of_mem (by simp)

/-- Reports are never taken back. -/
theorem prefix_noteAll (ds more : List Diagnostic) : ds <+: noteAll ds more := by
  induction more generalizing ds with
  | nil => exact List.prefix_refl _
  | cons d more ih => exact (prefix_note ds d).trans (ih _)

/-- What was to be reported has been. -/
theorem noted_noteAll (h : d ∈ more) : Noted (noteAll ds more) d := by
  induction more generalizing ds with
  | nil => cases h
  | cons x more ih =>
    rcases List.mem_cons.mp h with rfl | h
    · exact (noted_note ds d).mono (prefix_noteAll _ more).subset
    · exact ih h

/-- Every diagnostic was there before or is one of the reports. -/
theorem mem_of_mem_noteAll (h : d ∈ noteAll ds more) : d ∈ ds ∨ d ∈ more := by
  induction more generalizing ds with
  | nil => exact .inl h
  | cons x more ih =>
    rcases ih h with h | h
    · unfold note at h
      split at h
      · exact .inl h
      · rcases List.mem_append.mp h with h | h
        · exact .inl h
        · exact .inr (List.mem_cons.mpr (.inl (List.mem_singleton.mp h)))
    · exact .inr (.tail _ h)

theorem filter_note (p : Key → Bool) (ds : List Diagnostic) (d : Diagnostic) :
    (note ds d).filter (fun x => p x.key)
      = noteAll (ds.filter fun x => p x.key) ([d].filter fun x => p x.key) := by
  by_cases hp : p d.key = true
  · have hsingle : [d].filter (fun x => p x.key) = [d] := by simp [hp]
    rw [hsingle, noteAll_cons, noteAll_nil]
    by_cases h : Noted ds d
    · -- a report of the same key has been chosen too
      have hchosen : Noted (ds.filter fun x => p x.key) d := by
        obtain ⟨other, hother, hkey⟩ := h
        exact ⟨other, List.mem_filter.mpr ⟨hother, hkey ▸ hp⟩, hkey⟩
      rw [note_of_noted h, note_of_noted hchosen]
    · have hnew : ¬ Noted (ds.filter fun x => p x.key) d :=
        fun hd => h (hd.mono List.filter_sublist.subset)
      rw [note_of_new h, note_of_new hnew, List.filter_append, hsingle]
  · have hsingle : [d].filter (fun x => p x.key) = [] := by simp [hp]
    rw [hsingle, noteAll_nil]
    by_cases h : Noted ds d
    · rw [note_of_noted h]
    · rw [note_of_new h, List.filter_append, hsingle, List.append_nil]

/-- What keys choose of reports that are taken in depends on what they choose of these alone. -/
theorem filter_noteAll (p : Key → Bool) (ds more : List Diagnostic) :
    (noteAll ds more).filter (fun d => p d.key)
      = noteAll (ds.filter fun d => p d.key) (more.filter fun d => p d.key) := by
  induction more generalizing ds with
  | nil => rfl
  | cons d more ih =>
    rw [noteAll_cons, ih, filter_note, ← noteAll_append, ← List.filter_append,
      List.singleton_append]

/-- Reports that have been made before change nothing. -/
theorem noteAll_eq_self (h : ∀ d ∈ more, Noted ds d) : noteAll ds more = ds := by
  induction more with
  | nil => rfl
  | cons d more ih =>
    rw [noteAll_cons, note_of_noted (h d (.head _))]
    exact ih fun x hx => h x (.tail _ hx)

end Diagnostic

/-- The warnings that a request gives when nothing can be read. -/
def Request.warned : Request → List String
  | .finish _ => []
  | .fail _ => []
  | .output _ _ next => warned (next .null)
  | .evaluate _ next => warned next
  | .warn message next => message :: warned next
  | .note _ next => warned next

namespace Session

open Diagnostic (noteAll Noted)

variable {e : Evaluation} {cut : List Connection} {id : String} {n : GraphNode} {s t : Session}

/-! ## Elementary changes -/

/-- What has been reported is what has been noted. -/
theorem Accounted.hasReported_iff (hs : s.Accounted) (d : Diagnostic) :
    s.hasReported d = true ↔ Noted s.diagnostics d := by
  simp [hasReported, hs.reported, Noted]

theorem Accounted.report_diagnostics (hs : s.Accounted) (d : Diagnostic) :
    (s.report d).diagnostics = Diagnostic.note s.diagnostics d := by
  by_cases h : s.hasReported d = true
  · rw [Diagnostic.note_of_noted ((hs.hasReported_iff d).mp h), Session.report, if_pos h]
  · rw [Diagnostic.note_of_new ((hs.hasReported_iff d).not.mp h), Session.report, if_neg h]

@[simp] theorem logged_diagnostics (s : Session) (level : LogLevel) (message : String) :
    (s.logged level message).diagnostics = s.diagnostics := rfl

@[simp] theorem record_diagnostics (s : Session) (event : SessionEvent) :
    (s.record event).diagnostics = s.diagnostics := rfl

@[simp] theorem store_diagnostics (s : Session) (id : String) (outputs : Outputs) :
    (s.store id outputs).diagnostics = s.diagnostics := rfl

theorem Accounted.reportAloud_diagnostics (hs : s.Accounted) (d : Diagnostic) :
    (s.reportAloud d).diagnostics = Diagnostic.note s.diagnostics d := by
  unfold Session.reportAloud
  split
  case isTrue h => rw [Diagnostic.note_of_noted ((hs.hasReported_iff d).mp h)]
  case isFalse => rw [logged_diagnostics, hs.report_diagnostics]

theorem foldl_reportAloud_diagnostics {α : Type} (f : α → Diagnostic) (xs : List α)
    (s : Session) (hs : s.Accounted) :
    (xs.foldl (fun s x => s.reportAloud (f x)) s).diagnostics
      = noteAll s.diagnostics (xs.map f) := by
  induction xs generalizing s with
  | nil => rfl
  | cons x xs ih =>
    rw [List.foldl_cons, ih _ (accounted_respected.reportAloud s (f x) hs),
      hs.reportAloud_diagnostics, List.map_cons, Diagnostic.noteAll_cons]

theorem Accounted.announce_diagnostics (hs : s.Accounted) (p : Plan) :
    (s.announce p).diagnostics
      = noteAll s.diagnostics (p.circular.map Diagnostic.circularDependency) :=
  foldl_reportAloud_diagnostics _ _ s hs

/-- What a result that is no mapping of outputs is reported as. -/
def faults (id : String) : Except NodeFault Outputs → List Diagnostic
  | .ok _ => []
  | .error fault => [.nodeExecutionError id fault.message]

theorem Accounted.conclude_diagnostics (hs : s.Accounted) (id : String)
    (result : Except NodeFault Outputs) :
    (s.conclude id result).diagnostics = noteAll s.diagnostics (faults id result) := by
  cases result with
  | ok outputs => rfl
  | error fault =>
    have hlogged : ((s.finished id).logged .error s!"Error evaluating node {id}").Accounted :=
      ⟨hs.reported, hs.nodup⟩
    exact hlogged.report_diagnostics (.nodeExecutionError id fault.message)

/-- A quiet request reports its warnings, and the session keeps account of them. -/
theorem perform_diagnostics {request : Request} (hq : request.Quiet)
    (evaluate : String → Session → Session) (id : String) (s : Session) (hs : s.Accounted) :
    (perform evaluate id request s).1.diagnostics
        = noteAll s.diagnostics (request.warned.map (Diagnostic.geometryWarning id)) ∧
      (perform evaluate id request s).1.Accounted := by
  induction hq generalizing s with
  | finish outputs => exact ⟨rfl, hs⟩
  | fail fault => exact ⟨rfl, hs⟩
  | warn message _ ih =>
    obtain ⟨hrest, haccounted⟩ := ih _ (hs.report (.geometryWarning id message))
    rw [hs.report_diagnostics] at hrest
    exact ⟨hrest, haccounted⟩
  | note message _ ih => exact ih _ (accounted_respected.logged s .warning message hs)

/-! ## What a run reports -/

/-- The reports of a run of a node, given what is cached. -/
def findings (s : Session) (e : Evaluation) (cut : List Connection) (n : GraphNode) :
    List Diagnostic :=
  match e.registry.get? n.type with
  | none => [.unknownNodeType n.id n.type]
  | some d =>
    (s.dangling e.graph cut n.id).map (fun c => .missingSource n.id c.id c.fromNode) ++
      match s.resolve e.graph cut d n with
      | .error fault => faults n.id (.error fault)
      | .ok inputs =>
        (d.action n.id inputs).warned.map (.geometryWarning n.id) ++
          faults n.id ((d.action n.id inputs).result.bind (complete d n.type))

theorem node_of_mem_faults {result : Except NodeFault Outputs} {d : Diagnostic}
    (h : d ∈ faults id result) : d.node = id := by
  cases result with
  | ok outputs => cases h
  | error fault => rw [List.mem_singleton.mp h]; rfl

/-- A node reports of itself. -/
theorem node_of_mem_findings {d : Diagnostic} (h : d ∈ s.findings e cut n) : d.node = n.id := by
  unfold findings at h
  split at h
  case h_1 => rw [List.mem_singleton.mp h]; rfl
  case h_2 =>
    rcases List.mem_append.mp h with h | h
    · obtain ⟨c, -, rfl⟩ := List.mem_map.mp h
      rfl
    · split at h
      · exact node_of_mem_faults h
      · rcases List.mem_append.mp h with h | h
        · obtain ⟨message, -, rfl⟩ := List.mem_map.mp h
          rfl
        · exact node_of_mem_faults h

/-- **A run reports its findings**, and the session keeps account of them. -/
theorem run_diagnostics (hq : e.registry.Quiet) (hn : e.graph.node? id = some n)
    (evaluate : String → Session → Session) (cut : List Connection) (s : Session)
    (hs : s.Accounted) :
    (run e evaluate cut s id).diagnostics = noteAll s.diagnostics (s.findings e cut n) ∧
      (run e evaluate cut s id).Accounted := by
  cases hd : e.registry.get? n.type with
  | none =>
    have hrecorded := accounted_respected.record s (.run n.id cut) hs
    rw [run_untyped hn hd, store_diagnostics, hrecorded.reportAloud_diagnostics]
    refine ⟨by simp [findings, hd], ?_⟩
    exact accounted_respected.store _ _ _ (accounted_respected.reportAloud _ _ hrecorded)
  | some d =>
    have hprepared := accounted_respected.prepare s e.graph cut n.id hs
    have hprepare : (s.prepare e.graph cut n.id).diagnostics = noteAll s.diagnostics
        ((s.dangling e.graph cut n.id).map (fun c => .missingSource n.id c.id c.fromNode)) :=
      foldl_reportAloud_diagnostics _ _ _ ⟨hs.reported, hs.nodup⟩
    have hresolve : (s.prepare e.graph cut n.id).resolve e.graph cut d n
        = s.resolve e.graph cut d n :=
      resolve_congr fun c _ => cached_congr (by simp) _ _
    cases hi : (s.prepare e.graph cut n.id).resolve e.graph cut d n with
    | error fault =>
      rw [run_unresolved hn hd hi, hprepared.conclude_diagnostics, hprepare]
      refine ⟨by simp [findings, hd, ← hresolve, hi], ?_⟩
      exact accounted_respected.conclude _ _ _ hprepared
    | ok inputs =>
      have hquiet := hq.action hd n.id inputs
      obtain ⟨hperform, hperformed⟩ := perform_diagnostics hquiet evaluate n.id
        ((s.prepare e.graph cut n.id).record (.enter n.id))
        (accounted_respected.record _ _ hprepared)
      have hleft := accounted_respected.record _ (.leave n.id) hperformed
      simp only [run_acted hn hd hi, (perform_quiet hquiet _ _ _).1]
      refine ⟨?_, accounted_respected.conclude _ _ _ hleft⟩
      rw [hleft.conclude_diagnostics, record_diagnostics, hperform, record_diagnostics, hprepare]
      simp [findings, hd, ← hresolve, hi]

/-! ## What findings and outcomes depend on -/

/-- Two sessions are alike to a node over these connections: the same sources are cached, and the
same values arrive. -/
def AlikeOver (s t : Session) (cs : List Connection) : Prop :=
  ∀ c ∈ cs, s.cache.has c.fromNode = t.cache.has c.fromNode ∧
    s.cached c.fromNode c.fromPort = t.cached c.fromNode c.fromPort

theorem AlikeOver.outcome_eq (h : s.AlikeOver t (supply e.graph cut n.id)) :
    s.outcome e cut n = t.outcome e cut n :=
  outcome_congr fun c hc => (h c hc).2

theorem AlikeOver.findings_eq (h : s.AlikeOver t (supply e.graph cut n.id)) :
    s.findings e cut n = t.findings e cut n := by
  have hdangling : s.dangling e.graph cut n.id = t.dangling e.graph cut n.id :=
    List.filter_congr fun c hc => by rw [(h c hc).1]
  unfold findings
  cases e.registry.get? n.type with
  | none => rfl
  | some d => simp only [hdangling, resolve_congr fun c hc => (h c hc).2]

/-- Outcomes depend on the cut through what it leaves of the connections. -/
theorem outcome_cut_congr {cut cut' : List Connection}
    (h : supply e.graph cut n.id = supply e.graph cut' n.id) :
    s.outcome e cut n = s.outcome e cut' n := by
  unfold outcome resolve rawInputs
  rw [h]

/-- Findings depend on the cut through what it leaves of the connections. -/
theorem findings_cut_congr {cut cut' : List Connection}
    (h : supply e.graph cut n.id = supply e.graph cut' n.id) :
    s.findings e cut n = s.findings e cut' n := by
  unfold findings dangling resolve rawInputs
  rw [h]

theorem alikeOver_of_cache (h : s.cache = t.cache) (cs : List Connection) : s.AlikeOver t cs :=
  fun c _ => ⟨by rw [h], cached_congr h _ _⟩

/-- Caches of nodes that are there are alike to a node when they agree on its sources. -/
theorem alikeOver_of_sources {g : Graph} {cs : List Connection}
    (hs : ∀ x, s.cache.has x = true → g.hasNode x = true)
    (ht : ∀ x, t.cache.has x = true → g.hasNode x = true)
    (h : ∀ c ∈ cs, g.hasNode c.fromNode = true →
      s.cache.value? c.fromNode = t.cache.value? c.fromNode) : s.AlikeOver t cs := by
  intro c hc
  have hvalue : s.cache.value? c.fromNode = t.cache.value? c.fromNode := by
    by_cases hk : g.hasNode c.fromNode = true
    · exact h c hc hk
    · rw [Fields.value?_eq_none fun hx => hk (hs _ hx),
        Fields.value?_eq_none fun hx => hk (ht _ hx)]
  simp only [Fields.has, cached, hvalue, and_self]

end Session

end LoftGraph
