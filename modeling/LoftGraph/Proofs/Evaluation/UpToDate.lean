import LoftGraph.Proofs.Evaluation.Findings

/-!
# Caches that are up to date

A cache is up to date when each of its entries is what its node puts out on the entries of its
sources, and these are all there (`Session.UpToDate`). Nothing is said about how the entries came
about.

* `UpToDate.run`: running a node whose sources are cached keeps the cache up to date, also when the
  node was cached already, because it then puts out what it did.
* Without cycles nothing is cut, so plans keep it too (`UpToDate.evaluateFrom`), and so does every
  call (`UpToDate.exec`).
* Without cycles there is only one entry that a node can have (`UpToDate.value?_eq`), by induction
  on producers.
-/

namespace LoftGraph

namespace Session

variable {e : Evaluation} {s t : Session}
variable {id : String} {n : GraphNode}

/-- Every entry of the cache is what its node puts out, given the other entries. -/
structure UpToDate (e : Evaluation) (s : Session) : Prop where
  /-- Only nodes that are there are cached. -/
  known : ∀ id, s.cache.has id = true → e.graph.hasNode id = true
  /-- The sources of a cached node are cached. -/
  sources : ∀ id, s.cache.has id = true → ∀ c ∈ e.graph.incoming id,
    e.graph.hasNode c.fromNode = true → s.cache.has c.fromNode = true
  /-- A cached node has the outputs that it would have now. -/
  entry : ∀ id n, s.cache.has id = true → e.graph.node? id = some n →
    s.cache.value? id = some (s.outcome e [] n)

theorem upToDate_nil (h : s.cache = []) : s.UpToDate e := by
  constructor <;> simp [h, Fields.has]

theorem UpToDate.congr (hs : s.UpToDate e) (h : s.cache = t.cache) : t.UpToDate e where
  known := h ▸ hs.known
  sources := h ▸ hs.sources
  entry := by
    intro id n hid hn
    rw [← h, ← (alikeOver_of_cache h _).outcome_eq]
    exact hs.entry id n (h ▸ hid) hn

/-! ## Entries -/

/-- A node puts out the same on caches that agree on its sources. -/
theorem outcome_eq_of_sources (hs : ∀ x, s.cache.has x = true → e.graph.hasNode x = true)
    (ht : ∀ x, t.cache.has x = true → e.graph.hasNode x = true)
    (h : ∀ c ∈ e.graph.incoming n.id, e.graph.hasNode c.fromNode = true →
      s.cache.value? c.fromNode = t.cache.value? c.fromNode) :
    s.outcome e [] n = t.outcome e [] n :=
  AlikeOver.outcome_eq (alikeOver_of_sources hs ht fun c hc => h c (List.mem_filter.mp hc).1)

/-- **One entry**: without cycles, two caches that are up to date agree where both have an entry. -/
theorem UpToDate.value?_eq (hs : s.UpToDate e) (ht : t.UpToDate e) (hg : e.graph.Acyclic)
    (id : String) :
    s.cache.has id = true → t.cache.has id = true → s.cache.value? id = t.cache.value? id := by
  induction id using hg.wellFounded.induction with
  | _ id ih =>
    intro hid hid'
    obtain ⟨n, hn⟩ := Graph.exists_node?_of_hasNode (hs.known id hid)
    obtain rfl := Graph.node?_id hn
    rw [hs.entry _ n hid hn, ht.entry _ n hid' hn]
    refine congrArg some (outcome_eq_of_sources hs.known ht.known ?_)
    intro c hc hk
    have hfeeds : e.graph.Feeds c.fromNode n.id :=
      Graph.feeds_of_incoming hc hk (hs.known _ hid)
    exact ih c.fromNode hfeeds (hs.sources _ hid c hc hk) (ht.sources _ hid' c hc hk)

/-! ## Running nodes -/

/-- Running a node whose sources are cached keeps the cache up to date. -/
theorem UpToDate.run (hs : s.UpToDate e) (hq : e.registry.Quiet) (hn : e.graph.node? id = some n)
    (hsources : ∀ c ∈ e.graph.incoming id, e.graph.hasNode c.fromNode = true →
      s.cache.has c.fromNode = true) (evaluate : String → Session → Session) :
    (Session.run e evaluate [] s id).UpToDate e := by
  obtain ⟨hcache, -, -⟩ := run_quiet hq hn evaluate [] s
  have hhas := has_run hq hn evaluate [] s
  have hknown : ∀ x, (Session.run e evaluate [] s id).cache.has x = true →
      e.graph.hasNode x = true := by
    intro x hx
    rcases (hhas x).mp hx with rfl | hx
    · exact Graph.hasNode_of_node? hn
    · exact hs.known x hx
  -- an entry that was there is still there, also that of the node itself
  have hkept : ∀ x, s.cache.has x = true →
      s.cache.value? x = (Session.run e evaluate [] s id).cache.value? x := by
    intro x hx
    rw [hcache]
    by_cases hid : id = x
    · subst hid
      rw [Fields.value?_set_self, hs.entry id n hx hn]
    · rw [Fields.value?_set_of_ne hid]
  -- what is cached now had its sources cached before
  have hbefore : ∀ x, (Session.run e evaluate [] s id).cache.has x = true →
      ∀ c ∈ e.graph.incoming x, e.graph.hasNode c.fromNode = true →
        s.cache.has c.fromNode = true := by
    intro x hx
    rcases (hhas x).mp hx with rfl | hx
    · exact hsources
    · exact hs.sources x hx
  constructor
  case known => exact hknown
  case sources => exact fun x hx c hc hk => (hhas _).mpr (.inr (hbefore x hx c hc hk))
  case entry =>
    intro x m hx hm
    have hout : s.outcome e [] m = (Session.run e evaluate [] s id).outcome e [] m := by
      refine outcome_eq_of_sources hs.known hknown fun c hc hk => hkept _ ?_
      rw [Graph.node?_id hm] at hc
      exact hbefore x hx c hc hk
    rw [← hout]
    rcases (hhas x).mp hx with rfl | hold
    · obtain rfl := Option.some.inj (hn.symm.trans hm)
      rw [hcache, Fields.value?_set_self]
    · rw [← hkept x hold, hs.entry x m hold hm]

/-! ## Plans and calls -/

theorem plan_cut_eq_nil (hg : e.graph.Acyclic) {cached : String → Bool} {root : String}
    (hroot : e.graph.hasNode root = true) : (e.graph.plan cached [] root).cut = [] := by
  have hsound := (Graph.plans_plan hroot cached []).sound hroot (by simp)
  refine List.eq_nil_iff_forall_not_mem.mpr fun c hc => ?_
  exact hg.not_onCycle c ((hsound.circular c hc).resolve_left (by simp))

theorem UpToDate.evaluateFrom (hs : s.UpToDate e) (hq : e.registry.Quiet) (hg : e.graph.Acyclic)
    (hi : s.Idle) {root : String} (hroot : e.graph.hasNode root = true)
    (evaluate : String → Session → Session) : (evaluateFrom e evaluate root s).UpToDate e := by
  have hcut : (e.graph.plan s.cache.has s.executing root).cut = [] :=
    hi.out ▸ plan_cut_eq_nil hg hroot
  refine evaluateFrom_induction hq hi hroot rfl (P := fun t _ => t.UpToDate e)
    (hs.congr (announce_fields _ _).1.symm) ?_
  rw [hcut]
  intro t _ id n _ _ hn hsources ht
  exact ht.run hq hn (fun c hc => hsources c (by simpa [supply] using hc)) evaluate

theorem UpToDate.ask (hs : s.UpToDate e) (hq : e.registry.Quiet) (hg : e.graph.Acyclic)
    (hi : s.Idle) (id : String) : (evaluateWithin e (nesting e) id s).UpToDate e := by
  rw [nesting, evaluateWithin]
  by_cases hk : e.graph.hasNode id = true
  · simpa [hk, hi.out] using hs.evaluateFrom hq hg hi hk (evaluateWithin e e.graph.nodes.length)
  · simp only [hk, Bool.not_false, if_true]
    exact hs.congr (reportAloud_fields s _).1.symm

theorem UpToDate.pass (hq : e.registry.Quiet) (hg : e.graph.Acyclic) {ns : List GraphNode}
    (hns : ∀ n ∈ ns, e.graph.hasNode n.id = true) (s : Session) (hs : s.UpToDate e)
    (hi : s.Idle) : (ns.foldl (evaluateFresh e) s).UpToDate e := by
  induction ns generalizing s with
  | nil => exact hs
  | cons n ns ih =>
    rw [List.foldl_cons]
    have hrest := ih (fun m hm => hns m (.tail _ hm))
    by_cases hc : s.cache.has n.id = true
    · rw [evaluateFresh, if_pos hc]
      exact hrest s hs hi
    · have hn := hns n (.head _)
      rw [evaluateFresh, if_neg hc]
      exact hrest _ (hs.evaluateFrom hq hg hi hn _) ((evaluates_plan hi hn).idle hi)

/-- Every call keeps a cache up to date that is so for the graph as it is. -/
theorem UpToDate.exec (hs : (s.sync e.graph).UpToDate e) (hq : e.registry.Quiet)
    (hg : e.graph.Acyclic) (hi : s.Idle) (c : Call) : (c.exec e s).UpToDate e := by
  have hclear : (s.clear e.graph).UpToDate e := upToDate_nil rfl
  have hpass := hclear.pass hq hg (fun n hn => Graph.hasNode_of_mem hn) _ (idle_clear hi)
  have hask : ∀ id, (evaluateNode e id s).UpToDate e := fun id => hs.ask hq hg (idle_sync hi) id
  cases c with
  | clear => exact hclear
  | evaluateGraph => exact hpass
  | evaluateNode id => exact hask id
  | output id port =>
    by_cases hc : (s.sync e.graph).cache.has id = true
    · simpa [Call.exec, output, hc] using hs
    · simpa [Call.exec, output, hc, evaluateNode] using hask id
  | meshOutputs => exact hpass

end Session

end LoftGraph
