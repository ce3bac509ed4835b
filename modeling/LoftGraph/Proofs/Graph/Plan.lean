import LoftGraph.Proofs.Graph.Walk

/-!
# What a plan guarantees

`Walk.Sound` holds of every state of a walk from a node that is neither missing nor busy. Two of its
clauses carry the rest:

* the path is a chain of producers, the latest first, so a connection from a node on the path runs
  in a circle;
* what the walk has left is settled: each of its sources is cached, cut off or was left earlier.

`Graph.Plans.sound` states for a finished plan what is left of this when the path is empty.
-/

namespace LoftGraph

/-! ## The invariant -/

namespace Walk

/-- What holds all along a walk from `root`. -/
structure Sound (g : Graph) (cached : String → Bool) (busy : List String) (root : String)
    (w : Walk) : Prop where
  /-- Each node on the way feeds the one before it. -/
  chain : w.path.IsChain g.Feeds
  /-- No node is met twice. -/
  nodup : (w.order ++ w.path).Nodup
  /-- Only nodes that are there are met. -/
  known : ∀ id ∈ w.order ++ w.path, g.hasNode id = true
  /-- No busy node is met. -/
  idle : ∀ id ∈ w.order ++ w.path, id ∉ busy
  /-- Only the root may be cached. -/
  fresh : ∀ id ∈ w.order ++ w.path, id = root ∨ cached id = false
  /-- What a node needs is cached, cut off or comes earlier. -/
  settled : ∀ id ∈ w.order, ∀ c ∈ g.incoming id, g.hasNode c.fromNode = true →
    cached c.fromNode = true ∨ c ∈ w.cut ∨ [c.fromNode, id].Sublist w.order
  /-- Only what is busy or runs in a circle is cut off. -/
  circular : ∀ c ∈ w.cut, c.fromNode ∈ busy ∨ g.OnCycle c

variable {g : Graph} {cached : String → Bool} {busy : List String} {root : String}
variable {cs : List Connection} {w w' : Walk}

/-- Along a chain its first member leads to every other. -/
theorem reaches_of_isChain {path : List String} {id x : String} (h : (id :: path).IsChain g.Feeds)
    (hx : x ∈ id :: path) : Relation.ReflTransGen g.Feeds id x := by
  induction path generalizing id with
  | nil =>
    obtain rfl : x = id := by simpa using hx
    exact .refl
  | cons y rest ih =>
    obtain ⟨hy, hrest⟩ := List.isChain_cons_cons.mp h
    rcases List.mem_cons.mp hx with rfl | hx
    · exact .refl
    · exact .head hy (ih hrest hx)

theorem sound_start : Sound g cached busy root start where
  chain := by simp [start]
  nodup := by simp [start]
  known := by simp [start]
  idle := by simp [start]
  fresh := by simp [start]
  settled := by simp [start]
  circular := by simp [start]

/-- What holds of a node that is entered and of those met before holds of all met then. -/
theorem forall_met_enter {P : String → Prop} {id : String} (hid : P id)
    (hw : ∀ x ∈ w.order ++ w.path, P x) :
    ∀ x ∈ (w.enter id).order ++ (w.enter id).path, P x := by
  intro x hx
  rcases List.mem_cons.mp (List.perm_middle.mem_iff.mp hx) with rfl | hx
  · exact hid
  · exact hw x hx

/-- A node may be entered that was not met yet and feeds the one it is entered from. -/
theorem Sound.enter (hw : Sound g cached busy root w) {id : String}
    (hk : g.hasNode id = true) (hb : id ∉ busy) (hf : id = root ∨ cached id = false)
    (ho : id ∉ w.order) (hp : id ∉ w.path) (hfeed : ∀ y ∈ w.path.head?, g.Feeds id y) :
    Sound g cached busy root (w.enter id) where
  chain := List.isChain_cons.mpr ⟨hfeed, hw.chain⟩
  nodup := by
    refine (List.perm_middle.nodup_iff).mpr (List.nodup_cons.mpr ⟨?_, hw.nodup⟩)
    simp [ho, hp]
  known := forall_met_enter hk hw.known
  idle := forall_met_enter hb hw.idle
  fresh := forall_met_enter hf hw.fresh
  settled := hw.settled
  circular := hw.circular

/-- A connection may be cut whose source is busy or that runs in a circle. -/
theorem Sound.cutAt (hw : Sound g cached busy root w) {c : Connection}
    (hc : c.fromNode ∈ busy ∨ g.OnCycle c) : Sound g cached busy root (w.cutAt c) where
  chain := hw.chain
  nodup := hw.nodup
  known := hw.known
  idle := hw.idle
  fresh := hw.fresh
  settled := by
    intro id hid d hd hs
    rcases hw.settled id hid d hd hs with h | h | h
    · exact .inl h
    · exact .inr (.inl (List.mem_append_left _ h))
    · exact .inr (.inr h)
  circular := by
    intro d hd
    rcases List.mem_append.mp hd with hd | hd
    · exact hw.circular d hd
    · obtain rfl : d = c := by simpa using hd
      exact hc

/-- A node may be left when all its sources have been dealt with. -/
theorem Sound.leave (hw : Sound g cached busy root w) {id : String} {path : List String}
    (hp : w.path = id :: path)
    (hall : ∀ c ∈ g.incoming id, g.hasNode c.fromNode = true →
      cached c.fromNode = true ∨ c ∈ w.cut ∨ c.fromNode ∈ w.order) :
    Sound g cached busy root (w.leave id path) := by
  -- the nodes met are the same, in the same order
  have hmet : (w.leave id path).order ++ (w.leave id path).path = w.order ++ w.path := by
    simp [hp]
  constructor
  case chain => exact (hp ▸ hw.chain).tail
  case nodup => rw [hmet]; exact hw.nodup
  case known => rw [hmet]; exact hw.known
  case idle => rw [hmet]; exact hw.idle
  case fresh => rw [hmet]; exact hw.fresh
  case settled =>
    intro x hx c hc hs
    rcases List.mem_append.mp hx with hx | hx
    · rcases hw.settled x hx c hc hs with h | h | h
      · exact .inl h
      · exact .inr (.inl h)
      · exact .inr (.inr (h.trans (List.sublist_append_left _ _)))
    · obtain rfl : x = id := by simpa using hx
      rcases hall c hc hs with h | h | h
      · exact .inl h
      · exact .inr (.inl h)
      · exact .inr (.inr ((List.singleton_sublist.mpr h).append (List.Sublist.refl [x])))
  case circular => exact hw.circular

/-! ## Walks keep the invariant -/

theorem Follows.path_eq (h : Follows g cached busy cs w w') : w'.path = w.path := by
  induction h with
  | done => rfl
  | pass _ _ ih => exact ih
  | cut _ _ _ _ ih => exact ih
  | known _ _ _ _ _ ih => exact ih
  | visit _ _ _ _ _ _ _ ih => exact ih

theorem Follows.cut_prefix (h : Follows g cached busy cs w w') : w.cut <+: w'.cut := by
  induction h with
  | done => exact List.prefix_refl _
  | pass _ _ ih => exact ih
  | cut _ _ _ _ ih => exact (List.prefix_append _ _).trans ih
  | known _ _ _ _ _ ih => exact ih
  | visit _ _ _ _ _ _ ihin ih => exact ihin.trans ih

theorem Follows.order_prefix (h : Follows g cached busy cs w w') : w.order <+: w'.order := by
  induction h with
  | done => exact List.prefix_refl _
  | pass _ _ ih => exact ih
  | cut _ _ _ _ ih => exact ih
  | known _ _ _ _ _ ih => exact ih
  | visit _ _ _ _ _ _ ihin ih => exact ihin.trans ((List.prefix_append _ _).trans ih)

/-- Every connection that was followed has been dealt with. -/
theorem Follows.covered (h : Follows g cached busy cs w w') :
    ∀ c ∈ cs, g.hasNode c.fromNode = true →
      cached c.fromNode = true ∨ c ∈ w'.cut ∨ c.fromNode ∈ w'.order := by
  induction h with
  | done => simp
  | pass hpass _ ih =>
    intro d hd hs
    rcases List.mem_cons.mp hd with rfl | hd
    · exact .inl (hpass.resolve_left (by simp [hs]))
    · exact ih d hd hs
  | cut _ _ _ hrest ih =>
    intro d hd hs
    rcases List.mem_cons.mp hd with rfl | hd
    · exact .inr (.inl (hrest.cut_prefix.subset (by simp)))
    · exact ih d hd hs
  | known _ _ _ ho hrest ih =>
    intro d hd hs
    rcases List.mem_cons.mp hd with rfl | hd
    · exact .inr (.inr (hrest.order_prefix.subset ho))
    · exact ih d hd hs
  | visit _ _ _ _ _ hrest _ ih =>
    intro d hd hs
    rcases List.mem_cons.mp hd with rfl | hd
    · exact .inr (.inr (hrest.order_prefix.subset (by simp)))
    · exact ih d hd hs

/-- Following connections into the node a walk is at keeps the invariant. -/
theorem Follows.sound (h : Follows g cached busy cs w w') :
    ∀ {id : String} {path : List String}, w.path = id :: path →
      (∀ c ∈ cs, c ∈ g.incoming id) → Sound g cached busy root w →
      Sound g cached busy root w' := by
  induction h with
  | done => intro _ _ _ _ hw; exact hw
  | pass _ _ ih => intro _ _ hp hin hw; exact ih hp (fun d hd => hin d (.tail _ hd)) hw
  | known _ _ _ _ _ ih => intro _ _ hp hin hw; exact ih hp (fun d hd => hin d (.tail _ hd)) hw
  | @cut c cs w w' hs _ hb _ ih =>
    intro id path hp hin hw
    refine ih hp (fun d hd => hin d (.tail _ hd)) (hw.cutAt ?_)
    rcases hb with hb | hb
    · -- the node the walk is at leads along the path to the source of the connection
      obtain ⟨hm, hto⟩ := Graph.mem_incoming.mp (hin c (.head _))
      have hid : g.hasNode id = true := hw.known id (by simp [hp])
      refine .inr ⟨hm, ⟨hs, hto ▸ hid⟩, ?_⟩
      rw [hto]
      exact reaches_of_isChain (hp ▸ hw.chain) (hp ▸ hb)
    · exact .inl hb
  | @visit c cs w inside w' hs hc hb ho hinside _ ihin ih =>
    intro id path hp hin hw
    have hid : g.hasNode id = true := hw.known id (by simp [hp])
    have hfeed : ∀ y ∈ w.path.head?, g.Feeds c.fromNode y := by
      intro y hy
      obtain rfl : id = y := by simpa [hp] using hy
      exact Graph.feeds_of_incoming (hin c (.head _)) hs hid
    have hentered : Sound g cached busy root (w.enter c.fromNode) :=
      hw.enter hs (fun h => hb (.inr h)) (.inr hc) ho (fun h => hb (.inl h)) hfeed
    have hleft : Sound g cached busy root (inside.leave c.fromNode w.path) :=
      (ihin rfl (fun _ hd => hd) hentered).leave hinside.path_eq hinside.covered
    exact ih hp (fun d hd => hin d (.tail _ hd)) hleft

/-! ## What is cut -/

/-- The sources of the cuts are noted, and each cut leads into a node that was met. -/
structure Cuts (w : Walk) : Prop where
  circular_eq : w.circular = w.cut.map Connection.fromNode
  met : ∀ c ∈ w.cut, c.toNode ∈ w.order ++ w.path

theorem Cuts.enter (hw : w.Cuts) (id : String) : (w.enter id).Cuts where
  circular_eq := hw.circular_eq
  met := fun c hc => List.perm_middle.mem_iff.mpr (.tail _ (hw.met c hc))

theorem Cuts.cutAt (hw : w.Cuts) {c : Connection} (hc : c.toNode ∈ w.order ++ w.path) :
    (w.cutAt c).Cuts where
  circular_eq := by simp [Walk.cutAt, hw.circular_eq]
  met := by
    intro d hd
    rcases List.mem_append.mp hd with hd | hd
    · exact hw.met d hd
    · obtain rfl : d = c := by simpa using hd
      exact hc

theorem Cuts.leave (hw : w.Cuts) {id : String} {path : List String} (hp : w.path = id :: path) :
    (w.leave id path).Cuts where
  circular_eq := hw.circular_eq
  met := fun c hc => by simpa [hp] using hw.met c hc

/-- Following connections into the node a walk is at keeps account of the cuts. -/
theorem Follows.cuts (h : Follows g cached busy cs w w') :
    ∀ {id : String} {path : List String}, w.path = id :: path →
      (∀ c ∈ cs, c ∈ g.incoming id) → w.Cuts → w'.Cuts := by
  induction h with
  | done => intro _ _ _ _ hw; exact hw
  | pass _ _ ih => intro _ _ hp hin hw; exact ih hp (fun d hd => hin d (.tail _ hd)) hw
  | known _ _ _ _ _ ih => intro _ _ hp hin hw; exact ih hp (fun d hd => hin d (.tail _ hd)) hw
  | cut _ _ _ _ ih =>
    intro id path hp hin hw
    refine ih hp (fun d hd => hin d (.tail _ hd)) (hw.cutAt ?_)
    rw [(Graph.mem_incoming.mp (hin _ (.head _))).2, hp]
    exact List.mem_append_right _ (.head _)
  | visit _ _ _ _ hinside _ ihin ih =>
    intro id path hp hin hw
    have hinner := ihin rfl (fun _ hd => hd) (hw.enter _)
    exact ih hp (fun d hd => hin d (.tail _ hd)) (hinner.leave hinside.path_eq)

end Walk

/-! ## Finished plans -/

/-- What a plan for `root` guarantees. -/
structure Plan.Sound (g : Graph) (cached : String → Bool) (busy : List String) (root : String)
    (p : Plan) : Prop where
  /-- The root comes last. -/
  getLast? : p.order.getLast? = some root
  /-- No node is listed twice. -/
  nodup : p.order.Nodup
  /-- Only nodes that are there are listed. -/
  known : ∀ id ∈ p.order, g.hasNode id = true
  /-- No busy node is listed. -/
  idle : ∀ id ∈ p.order, id ∉ busy
  /-- Only the root may be cached. -/
  fresh : ∀ id ∈ p.order, id = root ∨ cached id = false
  /-- What a node needs is cached, cut off or listed earlier. -/
  settled : ∀ id ∈ p.order, ∀ c ∈ g.incoming id, g.hasNode c.fromNode = true →
    cached c.fromNode = true ∨ c ∈ p.cut ∨ [c.fromNode, id].Sublist p.order
  /-- Only what is busy or runs in a circle is cut off. -/
  circular : ∀ c ∈ p.cut, c.fromNode ∈ busy ∨ g.OnCycle c

theorem Plan.Sound.root_mem {g : Graph} {cached : String → Bool} {busy : List String}
    {root : String} {p : Plan} (h : p.Sound g cached busy root) : root ∈ p.order :=
  List.mem_of_getLast? h.getLast?

/-- Plans for a node that is there and not busy keep what `Plan.Sound` says. -/
theorem Graph.Plans.sound {g : Graph} {cached : String → Bool} {busy : List String} {root : String}
    {p : Plan} (hp : g.Plans cached busy root p) (hk : g.hasNode root = true) (hb : root ∉ busy) :
    p.Sound g cached busy root := by
  obtain ⟨inside, hin, rfl⟩ := hp
  have hentered : Walk.Sound g cached busy root (Walk.start.enter root) :=
    Walk.sound_start.enter hk hb (.inl rfl) (by simp [Walk.start]) (by simp [Walk.start])
      (by simp [Walk.start])
  have hleft : Walk.Sound g cached busy root (inside.leave root []) :=
    (hin.sound rfl (fun _ hd => hd) hentered).leave hin.path_eq hin.covered
  have hmet : (inside.leave root []).order ++ (inside.leave root []).path
      = (inside.leave root []).plan.order := by
    simp
  exact {
    getLast? := by simp
    nodup := hmet ▸ hleft.nodup
    known := hmet ▸ hleft.known
    idle := hmet ▸ hleft.idle
    fresh := hmet ▸ hleft.fresh
    settled := hleft.settled
    circular := hleft.circular }

/-- The sources of what a plan cuts are noted in its order, and what it cuts leads into nodes that
it lists. -/
theorem Graph.Plans.cuts {g : Graph} {cached : String → Bool} {busy : List String} {root : String}
    {p : Plan} (hp : g.Plans cached busy root p) :
    p.circular = p.cut.map Connection.fromNode ∧ ∀ c ∈ p.cut, c.toNode ∈ p.order := by
  obtain ⟨inside, hin, rfl⟩ := hp
  have hstart : Walk.start.Cuts := ⟨rfl, by simp [Walk.start]⟩
  have hleft : (inside.leave root []).Cuts :=
    (hin.cuts rfl (fun _ hd => hd) (hstart.enter root)).leave hin.path_eq
  exact ⟨hleft.circular_eq, fun c hc => by simpa using hleft.met c hc⟩

end LoftGraph
