import LoftGraph.Proofs.Evaluation.UpToDate
import LoftGraph.Proofs.Graph.Editing

/-!
# Incremental evaluation

A session keeps its cache from call to call and drops it when the revision of the graph has changed.
An edit that succeeds is counted (`Edit.apply_revision`) and leaves the session behind, so nothing
has to be shown of a cache that an edit outdates.

* `Host.upToDate_after`: after every history, the cache that the next call goes by is up to date if
  the graph is without cycles.
* `Host.alike_after`: that cache owes nothing to what came before the last edit. Two hosts of one
  graph are compared by it (`Host.Alike`).

`incremental_output_eq_fresh` puts both together.
-/

namespace LoftGraph

/-! ## Revisions -/

namespace Session

variable {s t : Session} {g : Graph}

theorem sync_of_level (h : s.revision = g.revision) : s.sync g = s := by
  rw [sync, if_pos h]

theorem sync_of_behind (h : s.revision < g.revision) : s.sync g = s.clear g := by
  rw [sync, if_neg (Nat.ne_of_lt h)]

/-- What is cached for the graph as it is goes by what is cached and for which revision. -/
theorem sync_cache (hcache : s.cache = t.cache) (hrevision : s.revision = t.revision) (g : Graph) :
    (s.sync g).cache = (t.sync g).cache := by
  unfold sync
  rw [hrevision]
  split
  · exact hcache
  · rfl

theorem told_sync_cache (s : Session) (d : Diagnostic) (aloud : Bool) (g : Graph) :
    ((s.told d aloud).sync g).cache = (s.sync g).cache :=
  sync_cache (told_fields s d aloud).1 (told_fields s d aloud).2.2.1 g

theorem revision_sync (s : Session) (g : Graph) : (s.sync g).revision = g.revision := by
  unfold sync
  split
  · assumption
  · rfl

end Session

/-- A call leaves the session level with the graph. -/
theorem Call.Completes.revision {e : Evaluation} {c : Call} {s s' : Session}
    (h : c.Completes e s s') : s'.revision = e.graph.revision := by
  cases h with
  | clear => rfl
  | evaluateGraph h => exact h.revision
  | evaluateNode h => exact h.revision.trans (s.revision_sync e.graph)
  | heldOutput _ => exact s.revision_sync e.graph
  | newOutput _ h => exact h.revision.trans (s.revision_sync e.graph)
  | meshOutputs h => exact h.revision

namespace Host

variable {r : Registry} {h k : Host}

/-- Nothing is running, and the session is not ahead of the graph. -/
structure Steady (h : Host) : Prop where
  idle : h.session.Idle
  behind : h.session.revision ≤ h.graph.revision

theorem revision_exec (hs : h.session.Idle) (c : Call) :
    (c.exec ⟨h.graph, r⟩ h.session).revision = h.graph.revision :=
  ((c.completes_iff hs _).mpr rfl).revision

/-- An edit is refused, or the session has fallen behind. -/
theorem act_edit (hs : h.Steady) (edit : Edit) :
    h.act r (.edit edit) = h ∨
      ∃ g', edit.apply h.graph = .ok g' ∧ h.act r (.edit edit) = ⟨g', h.session⟩ ∧
        h.session.revision < g'.revision := by
  cases hg : edit.apply h.graph with
  | error fault => exact .inl (by simp [act, hg])
  | ok g' =>
    refine .inr ⟨g', rfl, by simp [act, hg], ?_⟩
    rw [Edit.apply_revision hg]
    exact Nat.lt_succ_of_le hs.behind

theorem Steady.act (hs : h.Steady) (r : Registry) (a : Action) : (h.act r a).Steady := by
  cases a with
  | edit edit =>
    rcases act_edit hs (r := r) edit with hsame | ⟨g', -, hnew, hbehind⟩
    · rwa [hsame]
    · rw [hnew]
      exact ⟨hs.idle, hbehind.le⟩
  | call c =>
    have hcompletes := (c.completes_iff (e := ⟨h.graph, r⟩) hs.idle _).mpr rfl
    exact ⟨hcompletes.idle hs.idle, hcompletes.revision.le⟩
  | report d aloud =>
    obtain ⟨-, hexec, hrevision, -⟩ := Session.told_fields h.session d aloud
    exact ⟨hexec.trans hs.idle, hrevision.trans_le hs.behind⟩

theorem steady_after (r : Registry) (g : Graph) (actions : List Action) :
    (after r g actions).Steady := by
  refine after_induction (P := Steady) ⟨rfl, Nat.le_refl _⟩ ?_ actions
  exact fun h a hs => hs.act r a

/-! ## Caches of reachable sessions -/

/-- **What is cached is up to date** after every history, once the session has taken notice of the
last edit and the graph is without cycles now. It may have had cycles before. -/
theorem upToDate_after (hr : r.Quiet) (g : Graph) (actions : List Action) :
    let h := after r g actions
    h.graph.Acyclic → (h.session.sync h.graph).UpToDate ⟨h.graph, r⟩ := by
  refine (after_induction (P := fun h => h.Steady ∧
    (h.graph.Acyclic → (h.session.sync h.graph).UpToDate ⟨h.graph, r⟩)) ?_ ?_ actions).2
  · refine ⟨⟨rfl, Nat.le_refl _⟩, fun _ => ?_⟩
    rw [Session.sync_of_level rfl]
    exact Session.upToDate_nil rfl
  · rintro h a ⟨hs, hcurrent⟩
    refine ⟨hs.act r a, ?_⟩
    cases a with
    | edit edit =>
      rcases act_edit hs (r := r) edit with hsame | ⟨g', -, hnew, hbehind⟩
      · rwa [hsame]
      · -- whatever the edit did, the cache is dropped before it is used
        rw [hnew, Session.sync_of_behind hbehind]
        exact fun _ => Session.upToDate_nil rfl
    | call c =>
      intro hg
      rw [act, Session.sync_of_level (revision_exec hs.idle c)]
      exact (hcurrent hg).exec hr hg hs.idle c
    | report d aloud =>
      exact fun hg => (hcurrent hg).congr (Session.told_sync_cache _ d aloud _).symm

end Host

/-! ## Sessions with equal caches

Quiet nodes go by the cache alone, so what a call leaves in the cache depends on nothing else. -/

namespace Session

variable {e : Evaluation} {s t : Session}

theorem run_cache (hq : e.registry.Quiet) (h : s.cache = t.cache)
    (evaluate : String → Session → Session) (cut : List Connection) (id : String) :
    (run e evaluate cut s id).cache = (run e evaluate cut t id).cache := by
  cases hn : e.graph.node? id with
  | none => rw [run_absent hn, run_absent hn, h]
  | some n =>
    have hout : s.outcome e cut n = t.outcome e cut n :=
      outcome_congr fun c _ => cached_congr h _ _
    rw [(run_quiet hq hn evaluate cut s).1, (run_quiet hq hn evaluate cut t).1, h, hout]

theorem runs_cache (hq : e.registry.Quiet) (evaluate : String → Session → Session)
    (cut : List Connection) (ids : List String) (s t : Session) (h : s.cache = t.cache) :
    (ids.foldl (run e evaluate cut) s).cache = (ids.foldl (run e evaluate cut) t).cache := by
  induction ids generalizing s t with
  | nil => exact h
  | cons id ids ih => exact ih _ _ (run_cache hq h evaluate cut id)

theorem evaluateFrom_cache (hq : e.registry.Quiet) (h : s.cache = t.cache) (hs : s.Idle)
    (ht : t.Idle) (evaluate : String → Session → Session) (root : String) :
    (evaluateFrom e evaluate root s).cache = (evaluateFrom e evaluate root t).cache := by
  rw [evaluateFrom, evaluateFrom, h, hs.out, ht.out]
  refine runs_cache hq evaluate _ _ _ _ ?_
  rw [(announce_fields s _).1, (announce_fields t _).1, h]

theorem ask_cache (hq : e.registry.Quiet) (h : s.cache = t.cache) (hs : s.Idle) (ht : t.Idle)
    (id : String) :
    (evaluateWithin e (nesting e) id s).cache = (evaluateWithin e (nesting e) id t).cache := by
  rw [nesting, evaluateWithin, evaluateWithin]
  by_cases hk : e.graph.hasNode id = true
  · simpa [hk, hs.out, ht.out] using evaluateFrom_cache hq h hs ht _ id
  · simp [hk, h]

theorem pass_cache (hq : e.registry.Quiet) {ns : List GraphNode}
    (hns : ∀ n ∈ ns, e.graph.hasNode n.id = true) (s t : Session) (h : s.cache = t.cache)
    (hs : s.Idle) (ht : t.Idle) :
    (ns.foldl (evaluateFresh e) s).cache = (ns.foldl (evaluateFresh e) t).cache := by
  induction ns generalizing s t with
  | nil => exact h
  | cons n ns ih =>
    have hn := hns n (.head _)
    have hrest := ih (fun m hm => hns m (.tail _ hm))
    rw [List.foldl_cons, List.foldl_cons, evaluateFresh, evaluateFresh, h]
    by_cases hc : t.cache.has n.id = true
    · rw [if_pos hc, if_pos hc]
      exact hrest s t h hs ht
    · rw [if_neg hc, if_neg hc]
      exact hrest _ _ (evaluateFrom_cache hq h hs ht _ n.id) ((evaluates_plan hs hn).idle hs)
        ((evaluates_plan ht hn).idle ht)

theorem exec_cache (hq : e.registry.Quiet)
    (h : (s.sync e.graph).cache = (t.sync e.graph).cache) (hs : s.Idle) (ht : t.Idle) (c : Call) :
    (c.exec e s).cache = (c.exec e t).cache := by
  have hpass : (s.evaluateGraph e).cache = (t.evaluateGraph e).cache :=
    pass_cache hq (fun n hn => Graph.hasNode_of_mem hn) _ _ rfl (idle_clear hs) (idle_clear ht)
  have hask : ∀ id, (evaluateNode e id s).cache = (evaluateNode e id t).cache :=
    fun id => ask_cache hq h (idle_sync hs) (idle_sync ht) id
  cases c with
  | clear => rfl
  | evaluateGraph => exact hpass
  | evaluateNode id => exact hask id
  | output id port =>
    by_cases hc : (t.sync e.graph).cache.has id = true
    · simp [Call.exec, output, h, hc]
    · simpa [Call.exec, output, h, hc, evaluateNode] using hask id
  | meshOutputs => exact hpass

end Session

namespace Host

variable {r : Registry} {h k : Host}

/-- Two hosts of one graph whose next call goes by one cache. -/
structure Alike (h k : Host) : Prop where
  graph : h.graph = k.graph
  cache : (h.session.sync h.graph).cache = (k.session.sync h.graph).cache

theorem Alike.act (halike : h.Alike k) (hr : r.Quiet) (hs : h.Steady) (ks : k.Steady)
    (a : Action) : (h.act r a).Alike (k.act r a) := by
  obtain ⟨g, s⟩ := h
  obtain ⟨g', t⟩ := k
  obtain rfl : g = g' := halike.graph
  cases a with
  | edit edit =>
    cases hg : edit.apply g with
    | error fault => simpa [Host.act, hg] using halike
    | ok g' =>
      -- both sessions have fallen behind and will start with nothing
      have hnew : g'.revision = g.revision + 1 := Edit.apply_revision hg
      have hbehind : s.revision < g'.revision := hnew ▸ Nat.lt_succ_of_le hs.behind
      have kbehind : t.revision < g'.revision := hnew ▸ Nat.lt_succ_of_le ks.behind
      simp only [Host.act, hg]
      refine ⟨rfl, ?_⟩
      simp only [Session.sync_of_behind hbehind, Session.sync_of_behind kbehind, Session.clear]
  | call c =>
    refine ⟨rfl, ?_⟩
    rw [Host.act, Host.act, Session.sync_of_level (revision_exec hs.idle c),
      Session.sync_of_level (revision_exec ks.idle c)]
    exact Session.exec_cache hr halike.cache hs.idle ks.idle c
  | report d aloud =>
    refine ⟨rfl, ?_⟩
    rw [Host.act, Host.act, Session.told_sync_cache, Session.told_sync_cache]
    exact halike.cache

/-- **Nothing is remembered across an edit.** A session goes by what a session goes by that is new
at the last edit, or at any edit, and has had what followed. -/
theorem alike_after (hr : r.Quiet) (g : Graph) (earlier : List Action) {edit : Edit} {g' : Graph}
    (hedit : edit.apply (after r g earlier).graph = .ok g') (later : List Action) :
    (after r g (earlier ++ .edit edit :: later)).Alike (after r g' later) := by
  induction later using List.reverseRecOn with
  | nil =>
    have hs := steady_after r g earlier
    have hbehind : (after r g earlier).session.revision < g'.revision := by
      rw [Edit.apply_revision hedit]
      exact Nat.lt_succ_of_le hs.behind
    have hafter : after r g (earlier ++ [.edit edit]) = ⟨g', (after r g earlier).session⟩ := by
      rw [after_concat, act, hedit]
    rw [hafter]
    refine ⟨rfl, ?_⟩
    have hlevel : (after r g' []).session.revision = g'.revision := rfl
    rw [Session.sync_of_behind hbehind, Session.sync_of_level hlevel]
    rfl
  | append_singleton later a ih =>
    have hsplit : earlier ++ .edit edit :: (later ++ [a])
        = earlier ++ .edit edit :: later ++ [a] := by
      simp
    rw [hsplit, after_concat, after_concat]
    exact ih.act hr (steady_after _ _ _) (steady_after _ _ _) a

end Host

/-! ## Reading outputs -/

namespace Session

variable {e : Evaluation} {s t : Session}

theorem evaluateFrom_has (hq : e.registry.Quiet) (hs : s.Idle) {root : String}
    (hroot : e.graph.hasNode root = true) (evaluate : String → Session → Session) :
    (evaluateFrom e evaluate root s).cache.has root = true := by
  have hsound := (Graph.plans_plan hroot s.cache.has s.executing).sound hroot (by simp [hs.out])
  rw [evaluateFrom, (runs_quiet hq hsound.known evaluate _ _).1]
  exact .inl hsound.root_mem

/-- After an output was read, its node is cached if it is there. -/
theorem output_has (hq : e.registry.Quiet) (hs : s.Idle) {id : String}
    (hid : e.graph.hasNode id = true) (port : String) :
    (s.output e id port).1.cache.has id = true := by
  by_cases hc : (s.sync e.graph).cache.has id = true
  · simp [output, hc]
  · have hi : (s.sync e.graph).executing = [] := idle_sync hs
    have hhas := evaluateFrom_has hq hi hid (evaluateWithin e e.graph.nodes.length)
    simpa [output, hc, evaluateNode, nesting, evaluateWithin, hid, hi] using hhas

/-- Without cycles an output that is read from a cache that is up to date is the one. -/
theorem UpToDate.output_eq (hs : (s.sync e.graph).UpToDate e) (ht : (t.sync e.graph).UpToDate e)
    (hq : e.registry.Quiet) (hg : e.graph.Acyclic) (hsi : s.Idle) (hti : t.Idle)
    (id port : String) : (s.output e id port).2 = (t.output e id port).2 := by
  have hs' : (s.output e id port).1.UpToDate e := hs.exec hq hg hsi (.output id port)
  have ht' : (t.output e id port).1.UpToDate e := ht.exec hq hg hti (.output id port)
  have hentry : (s.output e id port).1.cache.value? id
      = (t.output e id port).1.cache.value? id := by
    by_cases hid : e.graph.hasNode id = true
    · exact hs'.value?_eq ht' hg id (output_has hq hsi hid port) (output_has hq hti hid port)
    · rw [Fields.value?_eq_none fun hx => hid (hs'.known id hx),
        Fields.value?_eq_none fun hx => hid (ht'.known id hx)]
  have hcached : (s.output e id port).1.cached id port = (t.output e id port).1.cached id port := by
    rw [cached, cached, hentry]
  exact hcached

end Session

/-- **Incremental evaluation agrees with evaluation from scratch.** After every history over quiet
nodes: if the graph is without cycles now, every output that is read is the one that a new session
reads, and the cache it is read from is up to date, whatever ran again in between. In any case that
cache is the one of a session that is new at any successful edit of the history and has had what
followed, so nothing in it is older than the last edit. -/
theorem incremental_output_eq_fresh (r : Registry) (hr : r.Quiet) (g : Graph)
    (actions : List Action) :
    let h := Host.after r g actions
    let e : Evaluation := ⟨h.graph, r⟩
    (h.graph.Acyclic →
      (∀ id port, (h.session.output e id port).2
        = ((Session.ofGraph h.graph).output e id port).2) ∧
      (h.session.sync h.graph).UpToDate e) ∧
    ∀ earlier edit later g', actions = earlier ++ .edit edit :: later →
      edit.apply (Host.after r g earlier).graph = .ok g' →
      (Host.after r g' later).graph = h.graph ∧
        (h.session.sync h.graph).cache
          = ((Host.after r g' later).session.sync h.graph).cache := by
  intro h e
  constructor
  · intro hg
    have hs : (h.session.sync h.graph).UpToDate e := Host.upToDate_after hr g actions hg
    have hnew : ((Session.ofGraph h.graph).sync h.graph).UpToDate e := by
      rw [Session.sync_of_level rfl]
      exact Session.upToDate_nil rfl
    refine ⟨fun id port => ?_, hs⟩
    exact hs.output_eq hnew hr hg (Host.idle_after r g actions) rfl id port
  · rintro earlier edit later g' rfl hedit
    have halike := Host.alike_after hr g earlier hedit later
    exact ⟨halike.graph.symm, halike.cache⟩

/-- Two nodes are connected in a circle and evaluated, the circle is opened, and a value is set on
the node that is now the first; in between the second runs again, and an edit is refused. -/
def reopening : List Action :=
  [.edit (.addNode ⟨"a", "relay", [], none⟩), .edit (.addNode ⟨"b", "relay", [], none⟩),
    .edit (.addConnection ⟨"k", "a", "out", "b", "in"⟩ true),
    .edit (.addConnection ⟨"l", "b", "out", "a", "in"⟩ true), .call .evaluateGraph,
    .edit (.removeConnection "l"), .call (.output "b" "out"),
    .edit (.setInput "a" "in" (.bool true)), .call (.evaluateNode "b"),
    .edit (.removeConnection "l"), .call (.evaluateNode "b")]

theorem reopening_output_eq_fresh :
    let h := Host.after relays .empty reopening
    let e : Evaluation := ⟨h.graph, relays⟩
    let edited := (Host.after relays .empty (reopening.take 8)).graph
    relays.Quiet ∧ h.graph.Acyclic ∧
      (h.session.output e "b" "out").2 = ((Session.ofGraph h.graph).output e "b" "out").2 ∧
      (h.session.output e "b" "out").2 = .bool true ∧
      (h.session.sync h.graph).cache
        = ((Host.after relays edited (reopening.drop 8)).session.sync h.graph).cache := by
  intro h e edited
  have hg : h.graph.Acyclic := by
    refine Graph.acyclic_of_rank (fun id => if id = "a" then 0 else 1) ?_
    have hc : h.graph.connections = [⟨"k", "a", "out", "b", "in"⟩] := rfl
    rw [hc]
    decide
  obtain ⟨hfresh, hsince⟩ := incremental_output_eq_fresh relays relays_quiet .empty reopening
  refine ⟨relays_quiet, hg, (hfresh hg).1 "b" "out", rfl, ?_⟩
  exact (hsince (reopening.take 7) (.setInput "a" "in" (.bool true)) (reopening.drop 8) edited
    rfl rfl).2

end LoftGraph
