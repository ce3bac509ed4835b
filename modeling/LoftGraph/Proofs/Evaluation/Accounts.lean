import LoftGraph.Proofs.Evaluation.History

/-!
# Accounts of reports

A session keeps its diagnostics in order and, beside them, the keys of what it has reported; only
the keys are asked whether a report is new. `Session.Accounted` says that the two agree and that no
key comes twice. Every elementary change keeps it (`accounted_respected`), hence every task and
every call, so it holds of every reachable state (`Host.accounted_after`).
-/

namespace LoftGraph

namespace Session

variable {e : Evaluation} {s s' : Session}

/-- The keys that a session has noted are those of its diagnostics, each of them once. -/
structure Accounted (s : Session) : Prop where
  reported : ∀ key, key ∈ s.reported ↔ key ∈ s.diagnostics.map Diagnostic.key
  /-- No two diagnostics share a key. -/
  nodup : (s.diagnostics.map Diagnostic.key).Nodup

theorem accounted_clear (s : Session) (g : Graph) : (s.clear g).Accounted where
  reported := by simp [clear]
  nodup := by simp [clear]

theorem Accounted.report (hs : s.Accounted) (d : Diagnostic) : (s.report d).Accounted := by
  by_cases h : s.hasReported d = true
  · rwa [Session.report, if_pos h]
  · have hnew : d.key ∉ s.diagnostics.map Diagnostic.key := by
      rw [← hs.reported]
      simpa [hasReported] using h
    rw [Session.report, if_neg h]
    constructor
    · intro key
      simp only [List.mem_cons, hs.reported, List.map_append, List.map_cons, List.map_nil,
        List.mem_append, List.not_mem_nil, or_false]
      exact or_comm
    · rw [List.map_append, List.map_singleton, List.nodup_append_comm]
      exact List.nodup_cons.mpr ⟨hnew, hs.nodup⟩

/-- Whatever happens in a session, it keeps account of its reports. -/
theorem accounted_respected : Respected fun s t => s.Accounted → t.Accounted where
  refl := fun _ hs => hs
  trans := fun hst htu hs => htu (hst hs)
  report := fun _ d hs => hs.report d
  logged := fun _ _ _ hs => ⟨hs.reported, hs.nodup⟩
  record := fun _ _ hs => ⟨hs.reported, hs.nodup⟩
  store := fun _ _ _ hs => ⟨hs.reported, hs.nodup⟩
  started := fun _ _ hs => ⟨hs.reported, hs.nodup⟩
  finished := fun _ _ hs => ⟨hs.reported, hs.nodup⟩

theorem Evaluates.accounted {task : Task} (h : Evaluates e task s s') (hs : s.Accounted) :
    s'.Accounted :=
  h.respects accounted_respected hs

theorem Accounted.sync (hs : s.Accounted) (g : Graph) : (s.sync g).Accounted := by
  unfold Session.sync
  split
  · exact hs
  · exact accounted_clear s g

end Session

theorem Call.Completes.accounted {e : Evaluation} {c : Call} {s s' : Session}
    (h : c.Completes e s s') (hs : s.Accounted) : s'.Accounted := by
  cases h with
  | clear => exact s.accounted_clear e.graph
  | evaluateGraph h => exact h.accounted (s.accounted_clear e.graph)
  | evaluateNode h => exact h.accounted (hs.sync e.graph)
  | heldOutput _ => exact hs.sync e.graph
  | newOutput _ h => exact h.accounted (hs.sync e.graph)
  | meshOutputs h => exact h.accounted (s.accounted_clear e.graph)

/-- Whatever a host does, its session keeps account of its reports. -/
theorem Host.accounted_after (r : Registry) (g : Graph) (actions : List Action) :
    (Host.after r g actions).session.Accounted := by
  -- a call completes as computed only where nothing is running
  refine (after_induction (P := fun h => h.session.Idle ∧ h.session.Accounted) ?_ ?_ actions).2
  · exact ⟨rfl, (Session.ofGraph g).accounted_clear g⟩
  · rintro h a ⟨hidle, hs⟩
    cases a with
    | edit edit => rw [session_act_edit]; exact ⟨hidle, hs⟩
    | call c =>
      have hcompletes := (c.completes_iff (e := ⟨h.graph, r⟩) hidle _).mpr rfl
      exact ⟨hcompletes.idle hidle, hcompletes.accounted hs⟩
    | report d aloud =>
      exact ⟨(Session.told_fields _ d aloud).2.1.trans hidle,
        Session.accounted_respected.told _ d aloud hs⟩

end LoftGraph
