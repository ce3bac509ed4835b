import LoftGraph.Proofs.Graph.Dependency

/-!
# Orders of dependencies

`Dependencies.order?` frees nodes generation by generation. What carries the proofs is one invariant
of the edges still pending and the nodes freed so far (`Release.Tracks`): a node is listed exactly
when nothing is pending in front of it. Taking one edge away keeps it (`Tracks.along`), and so do a
node, a generation and all generations, each by induction on the one before.

* `orderedNodes_sound`: what is listed are different nodes, producers first.
* `mem_orderedNodes`: a node is listed when its producers are, so only circles keep nodes back.
* `Graph.order?_eq_none_iff`: there is no order exactly when the graph has a cycle.
-/

namespace LoftGraph

namespace Dependencies

variable {d : Dependencies} {pending : List (String × String)} {listed : List String}

/-! ## Releasing -/

namespace Release

/-- What holds of the edges still pending and the nodes freed from them, when other nodes were
listed before. -/
structure Tracks (d : Dependencies) (listed : List String) (r : Release) : Prop where
  nodup_pending : r.pending.Nodup
  sub : r.pending ⊆ d.edges
  /-- No node is listed or freed twice. -/
  nodup : (listed ++ r.freed).Nodup
  /-- A node is listed or freed exactly when no edge into it is pending. -/
  free : ∀ id, id ∈ listed ++ r.freed ↔ id ∈ d.nodes ∧ ∀ e ∈ r.pending, e.2 ≠ id

variable {r : Release} {e : String × String}

theorem along_pending (r : Release) (e : String × String) :
    (r.along e).pending = r.pending.erase e := by
  simp only [along]
  split <;> rfl

/-- Taking a pending edge away frees its consumer if no other edge into it is pending. -/
theorem Tracks.along (h : r.Tracks d listed) (hd : d.WellFormed) (he : e ∈ r.pending) :
    (r.along e).Tracks d listed := by
  have hmem : ∀ x, x ∈ r.pending.erase e ↔ x ≠ e ∧ x ∈ r.pending :=
    fun x => h.nodup_pending.mem_erase_iff
  have hnodup : (r.pending.erase e).Nodup := h.nodup_pending.erase e
  have hsub : r.pending.erase e ⊆ d.edges := fun x hx => h.sub ((hmem x).mp hx).2
  have hnode : e.2 ∈ d.nodes := hd.ends e (h.sub he)
  -- the consumer was not free before, because the edge was in its way
  have hheld : e.2 ∉ listed ++ r.freed := fun hin => ((h.free e.2).mp hin).2 e he rfl
  by_cases hany : (r.pending.erase e).any (fun x => x.2 = e.2) = true
  · have hr : r.along e = ⟨r.pending.erase e, r.freed⟩ := by
      unfold Release.along
      rw [if_pos hany]
    rw [hr]
    obtain ⟨x, hx, hx2⟩ : ∃ x ∈ r.pending.erase e, x.2 = e.2 := by simpa using hany
    refine ⟨hnodup, hsub, h.nodup, fun id => (h.free id).trans (and_congr_right fun _ => ?_)⟩
    constructor
    · exact fun hall y hy => hall y ((hmem y).mp hy).2
    · intro hall y hy
      by_cases hye : y = e
      · rw [hye, ← hx2]
        exact hall x hx
      · exact hall y ((hmem y).mpr ⟨hye, hy⟩)
  · have hr : r.along e = ⟨r.pending.erase e, r.freed ++ [e.2]⟩ := by
      unfold Release.along
      rw [if_neg hany]
    rw [hr]
    have hlast : ∀ x ∈ r.pending.erase e, x.2 ≠ e.2 :=
      fun x hx hx2 => hany (List.any_eq_true.mpr ⟨x, hx, by simpa using hx2⟩)
    refine ⟨hnodup, hsub, ?_, fun id => ?_⟩
    · rw [← List.append_assoc]
      exact List.nodup_append.mpr ⟨h.nodup, by simp, by
        rintro a ha _ hb rfl
        exact hheld ((List.mem_singleton.mp hb) ▸ ha)⟩
    · rw [← List.append_assoc, List.mem_append, h.free id, List.mem_singleton]
      constructor
      · rintro (⟨hid, hall⟩ | rfl)
        · exact ⟨hid, fun y hy => hall y ((hmem y).mp hy).2⟩
        · exact ⟨hnode, hlast⟩
      · rintro ⟨hid, hall⟩
        by_cases hide : id = e.2
        · exact .inr hide
        · refine .inl ⟨hid, fun y hy => ?_⟩
          by_cases hye : y = e
          · rw [hye]; exact Ne.symm hide
          · exact hall y ((hmem y).mpr ⟨hye, hy⟩)

/-- Taking edges away one after the other. -/
theorem Tracks.foldl_along (hd : d.WellFormed) {es : List (String × String)} (hes : es.Nodup)
    (r : Release) (h : r.Tracks d listed) (hsub : es ⊆ r.pending) :
    (es.foldl Release.along r).Tracks d listed ∧
      ∀ x, x ∈ (es.foldl Release.along r).pending ↔ x ∈ r.pending ∧ x ∉ es := by
  induction es generalizing r with
  | nil => exact ⟨h, by simp⟩
  | cons e es ih =>
    obtain ⟨hnew, hrest⟩ := List.nodup_cons.mp hes
    have he : e ∈ r.pending := hsub (.head _)
    have hpending : ∀ x, x ∈ (r.along e).pending ↔ x ≠ e ∧ x ∈ r.pending := by
      intro x
      rw [along_pending, h.nodup_pending.mem_erase_iff]
    have hleft : es ⊆ (r.along e).pending := by
      intro x hx
      refine (hpending x).mpr ⟨?_, hsub (.tail _ hx)⟩
      rintro rfl
      exact hnew hx
    obtain ⟨htracks, hmem⟩ := ih hrest _ (h.along hd he) hleft
    refine ⟨htracks, fun x => ?_⟩
    rw [List.foldl_cons, hmem, hpending, List.mem_cons]
    tauto

/-- Taking the edges out of one node away. -/
theorem Tracks.node (h : r.Tracks d listed) (hd : d.WellFormed) (id : String) :
    (r.node id).Tracks d listed ∧
      ∀ x, x ∈ (r.node id).pending ↔ x ∈ r.pending ∧ x.1 ≠ id := by
  have hsub : r.pending.filter (fun e => e.1 = id) ⊆ r.pending := List.filter_subset_self _
  obtain ⟨htracks, hmem⟩ := Tracks.foldl_along hd (h.nodup_pending.filter _) r h hsub
  refine ⟨htracks, fun x => (hmem x).trans (and_congr_right fun hx => ?_)⟩
  simp [hx]

/-- Taking the edges out of some nodes away. -/
theorem Tracks.foldl_node (hd : d.WellFormed) (ids : List String) (r : Release)
    (h : r.Tracks d listed) :
    (ids.foldl Release.node r).Tracks d listed ∧
      ∀ x, x ∈ (ids.foldl Release.node r).pending ↔ x ∈ r.pending ∧ x.1 ∉ ids := by
  induction ids generalizing r with
  | nil => exact ⟨h, by simp⟩
  | cons id ids ih =>
    obtain ⟨hnode, hpending⟩ := h.node hd id
    obtain ⟨htracks, hmem⟩ := ih _ hnode
    refine ⟨htracks, fun x => ?_⟩
    rw [List.foldl_cons, hmem, hpending, List.mem_cons]
    tauto

end Release

/-! ## Generations -/

/-- Some nodes are done with, the next generation follows, and the edges out of the rest are
pending. -/
structure Reached (d : Dependencies) (done ids : List String) (pending : List (String × String)) :
    Prop where
  tracks : Release.Tracks d (done ++ ids) ⟨pending, []⟩
  /-- An edge is pending until its producer is done. -/
  pending_iff : ∀ e, e ∈ pending ↔ e ∈ d.edges ∧ e.1 ∉ done
  /-- Among the nodes that are done, producers come first. -/
  ordered : ∀ a b, d.Edge a b → b ∈ done → [a, b].Sublist done

variable {done ids : List String}

theorem reached_roots (hd : d.WellFormed) : d.Reached [] d.roots d.edges where
  tracks := {
    nodup_pending := hd.nodup_edges
    sub := List.Subset.refl _
    nodup := by simpa [roots] using hd.nodup_nodes.filter _
    free := by simp [roots] }
  pending_iff := by simp
  ordered := by simp

/-- What is done or next is in the graph and listed once. -/
theorem Reached.nodup (h : d.Reached done ids pending) : (done ++ ids).Nodup := by
  simpa using h.tracks.nodup

theorem Reached.mem_iff (h : d.Reached done ids pending) (id : String) :
    id ∈ done ++ ids ↔ id ∈ d.nodes ∧ ∀ e ∈ pending, e.2 ≠ id := by
  simpa using h.tracks.free id

/-- A node is done or next exactly when its producers are done. -/
theorem Reached.mem_iff_producers (h : d.Reached done ids pending) {id : String}
    (hid : id ∈ d.nodes) : id ∈ done ++ ids ↔ ∀ a, d.Edge a id → a ∈ done := by
  rw [h.mem_iff]
  constructor
  · rintro ⟨-, hall⟩ a hedge
    by_contra ha
    exact hall (a, id) ((h.pending_iff _).mpr ⟨hedge, ha⟩) rfl
  · intro hall
    refine ⟨hid, ?_⟩
    rintro ⟨a, b⟩ he rfl
    obtain ⟨hedge, ha⟩ := (h.pending_iff _).mp he
    exact ha (hall a hedge)

/-- After one more generation. -/
theorem Reached.generation (h : d.Reached done ids pending) (hd : d.WellFormed) :
    d.Reached (done ++ ids) (Release.generation pending ids).freed
      (Release.generation pending ids).pending := by
  obtain ⟨htracks, hmem⟩ : (Release.generation pending ids).Tracks d (done ++ ids) ∧
      ∀ e, e ∈ (Release.generation pending ids).pending ↔ e ∈ pending ∧ e.1 ∉ ids :=
    Release.Tracks.foldl_node hd ids _ h.tracks
  constructor
  case tracks =>
    exact ⟨htracks.nodup_pending, htracks.sub, by simpa using htracks.nodup,
      by simpa using htracks.free⟩
  case pending_iff =>
    intro e
    rw [hmem, h.pending_iff, List.mem_append]
    tauto
  case ordered =>
    intro a b hedge hb
    rcases List.mem_append.mp hb with hdone | hnext
    · exact (h.ordered a b hedge hdone).trans (List.sublist_append_left _ _)
    · -- nothing is pending in front of the next generation, so its producers are done
      have hnode : b ∈ d.nodes := ((h.mem_iff b).mp hb).1
      have ha : a ∈ done := (h.mem_iff_producers hnode).mp hb a hedge
      exact (List.singleton_sublist.mpr ha).append (List.singleton_sublist.mpr hnext)

/-- The generations from one on list different nodes of the graph, producers first, and go on until
no node is left whose producers are listed. -/
theorem Reached.generations (hd : d.WellFormed) (n : Nat) (done ids : List String)
    (pending : List (String × String)) (h : d.Reached done ids pending)
    (hroom : d.nodes.length ≤ n + done.length) :
    let order := done ++ (Dependencies.generations n pending ids).flatten
    order.Nodup ∧ order ⊆ d.nodes ∧ (∀ a b, d.Edge a b → b ∈ order → [a, b].Sublist order) ∧
      ∀ id ∈ d.nodes, (∀ a, d.Edge a id → a ∈ order) → id ∈ order := by
  have hsub : done ++ ids ⊆ d.nodes := fun id hid => ((h.mem_iff id).mp hid).1
  induction n generalizing done ids pending with
  | zero =>
    have hdone : done.Nodup := (List.nodup_append.mp h.nodup).1
    have hin : done ⊆ d.nodes := fun id hid => hsub (List.mem_append_left _ hid)
    have hall : d.nodes ⊆ done := subset_of_length_le hdone hin (by simpa using hroom)
    simpa [Dependencies.generations] using
      ⟨hdone, hin, h.ordered, fun id hid _ => hall hid⟩
  | succ n ih =>
    cases ids with
    | nil =>
      refine ⟨?_, ?_, ?_, ?_⟩ <;> simp only [Dependencies.generations, List.flatten_nil]
      · exact h.nodup
      · exact hsub
      · simpa using h.ordered
      · intro id hid hall
        exact (h.mem_iff_producers hid).mpr (by simpa using hall)
    | cons id ids =>
      have hnext := h.generation hd
      have hmore : d.nodes.length ≤ n + (done ++ id :: ids).length := by
        rw [List.length_append, List.length_cons]
        omega
      have hrest := ih _ _ _ hnext hmore (fun x hx => ((hnext.mem_iff x).mp hx).1)
      simpa [Dependencies.generations] using hrest

/-! ## The order -/

/-- What is listed are different nodes, producers first. -/
theorem orderedNodes_sound (hd : d.WellFormed) :
    d.orderedNodes.Nodup ∧ d.orderedNodes ⊆ d.nodes ∧
      ∀ a b, d.Edge a b → b ∈ d.orderedNodes → [a, b].Sublist d.orderedNodes := by
  obtain ⟨hnodup, hsub, hordered, -⟩ :=
    Reached.generations hd d.nodes.length [] d.roots d.edges (reached_roots hd) (by simp)
  exact ⟨hnodup, hsub, hordered⟩

/-- A node is listed when its producers are. -/
theorem mem_orderedNodes (hd : d.WellFormed) {id : String} (hid : id ∈ d.nodes)
    (h : ∀ a, d.Edge a id → a ∈ d.orderedNodes) : id ∈ d.orderedNodes :=
  (Reached.generations hd d.nodes.length [] d.roots d.edges (reached_roots hd) (by simp)).2.2.2
    id hid h

/-- An order lists every node once, producers first. -/
structure Sorted (d : Dependencies) (order : List String) : Prop where
  nodup : order.Nodup
  mem_iff : ∀ id, id ∈ order ↔ id ∈ d.nodes
  ordered : ∀ a b, d.Edge a b → [a, b].Sublist order

theorem sorted_of_order? (hd : d.WellFormed) {order : List String} (h : d.order? = some order) :
    d.Sorted order := by
  obtain ⟨hnodup, hsub, hordered⟩ := orderedNodes_sound hd
  simp only [order?] at h
  split at h
  case isFalse => cases h
  case isTrue hlength =>
    cases h
    have hall : d.nodes ⊆ d.orderedNodes := subset_of_length_le hnodup hsub hlength.symm.le
    refine ⟨hnodup, fun id => ⟨fun hid => hsub hid, fun hid => hall hid⟩, ?_⟩
    exact fun a b hedge => hordered a b hedge (hall (hd.ends _ hedge))

/-- There is an order when induction on producers is possible. -/
theorem order?_eq_some_of_wellFounded (hd : d.WellFormed) (h : WellFounded d.Edge) :
    d.order? = some d.orderedNodes := by
  obtain ⟨hnodup, hsub, -⟩ := orderedNodes_sound hd
  have hall : d.nodes ⊆ d.orderedNodes := by
    intro id
    induction id using h.induction with
    | _ id ih =>
      intro hid
      exact mem_orderedNodes hd hid fun a hedge => ih a hedge (hd.starts _ hedge)
  have hlength : d.orderedNodes.length = d.nodes.length :=
    Nat.le_antisymm (hnodup.subperm hsub).length_le (hd.nodup_nodes.subperm hall).length_le
  rw [order?, if_pos hlength]

end Dependencies

namespace Graph

variable {g : Graph}

/-- **No order exactly on cycles.** -/
theorem order?_eq_none_iff (g : Graph) : g.dependencies.order? = none ↔ ¬ g.Acyclic := by
  have hd := g.wellFormed_dependencies
  constructor
  · intro hnone hg
    have hwf : WellFounded g.dependencies.Edge := g.edge_dependencies ▸ hg.wellFounded
    simp [Dependencies.order?_eq_some_of_wellFounded hd hwf] at hnone
  · intro hg
    by_contra hsome
    obtain ⟨order, horder⟩ := Option.ne_none_iff_exists'.mp hsome
    have hsorted := Dependencies.sorted_of_order? hd horder
    exact hg (acyclic_of_order hsorted.nodup (g.edge_dependencies ▸ hsorted.ordered))

end Graph

end LoftGraph
