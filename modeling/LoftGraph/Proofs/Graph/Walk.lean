import LoftGraph.Graph.Plan
import LoftGraph.Proofs.Graph.Cycle
import Mathlib.Data.List.Chain
import Mathlib.Data.List.Nodup

/-!
# Walks and plans

`Walk.Follows` is the depth-first walk as a relation, one rule for each thing that a connection can
lead to and no bound on the depth. Derivations are finite, so a walk that the relation relates to a
result is one that ends.

* `plans_plan`: the plan that `Graph.plan` computes is one the relation derives, so the bound on the
  depth never cuts a walk short.
* `Plans.functional`: it is the only one.
-/

namespace LoftGraph

/-! ## The relation -/

namespace Walk

/-- Goes on along connections, in order. -/
inductive Follows (g : Graph) (cached : String → Bool) (busy : List String) :
    List Connection → Walk → Walk → Prop
  /-- There are none left. -/
  | done {w : Walk} : Follows g cached busy [] w w
  /-- The source is not there or needs no running. -/
  | pass {c : Connection} {cs : List Connection} {w w' : Walk} :
      g.hasNode c.fromNode = false ∨ cached c.fromNode = true →
      Follows g cached busy cs w w' → Follows g cached busy (c :: cs) w w'
  /-- The source is on the way or busy: the connection is cut. -/
  | cut {c : Connection} {cs : List Connection} {w w' : Walk} :
      g.hasNode c.fromNode = true → cached c.fromNode = false →
      c.fromNode ∈ w.path ∨ c.fromNode ∈ busy →
      Follows g cached busy cs (w.cutAt c) w' → Follows g cached busy (c :: cs) w w'
  /-- The walk is done with the source. -/
  | known {c : Connection} {cs : List Connection} {w w' : Walk} :
      g.hasNode c.fromNode = true → cached c.fromNode = false →
      ¬ (c.fromNode ∈ w.path ∨ c.fromNode ∈ busy) → c.fromNode ∈ w.order →
      Follows g cached busy cs w w' → Follows g cached busy (c :: cs) w w'
  /-- The source is new: it is entered, and left when its own connections are done. -/
  | visit {c : Connection} {cs : List Connection} {w inside w' : Walk} :
      g.hasNode c.fromNode = true → cached c.fromNode = false →
      ¬ (c.fromNode ∈ w.path ∨ c.fromNode ∈ busy) → c.fromNode ∉ w.order →
      Follows g cached busy (g.incoming c.fromNode) (w.enter c.fromNode) inside →
      Follows g cached busy cs (inside.leave c.fromNode w.path) w' →
      Follows g cached busy (c :: cs) w w'

end Walk

/-- A plan for a node is what a walk from it finds. -/
def Graph.Plans (g : Graph) (cached : String → Bool) (busy : List String) (root : String)
    (p : Plan) : Prop :=
  ∃ inside, Walk.Follows g cached busy (g.incoming root) (Walk.start.enter root) inside ∧
    p = (inside.leave root []).plan

namespace Walk

variable {g : Graph} {cached : String → Bool} {busy : List String}
variable {cs : List Connection} {w w' : Walk}

/-! ## Walks end, in one way -/

section FollowCases

variable {enterNew : String → Walk → Walk} {c : Connection}

theorem follow_pass (h : g.hasNode c.fromNode = false ∨ cached c.fromNode = true) :
    follow g cached busy enterNew w c = w := by
  unfold follow
  rcases h with h | h <;> simp [h]

theorem follow_cut (hs : g.hasNode c.fromNode = true) (hc : cached c.fromNode = false)
    (hb : c.fromNode ∈ w.path ∨ c.fromNode ∈ busy) :
    follow g cached busy enterNew w c = w.cutAt c := by
  unfold follow
  simp [hs, hc, hb]

theorem follow_known (hs : g.hasNode c.fromNode = true) (hc : cached c.fromNode = false)
    (hb : ¬ (c.fromNode ∈ w.path ∨ c.fromNode ∈ busy)) (ho : c.fromNode ∈ w.order) :
    follow g cached busy enterNew w c = w := by
  unfold follow
  simp [hs, hc, hb, ho]

theorem follow_new (hs : g.hasNode c.fromNode = true) (hc : cached c.fromNode = false)
    (hb : ¬ (c.fromNode ∈ w.path ∨ c.fromNode ∈ busy)) (ho : c.fromNode ∉ w.order) :
    follow g cached busy enterNew w c = enterNew c.fromNode w := by
  unfold follow
  simp [hs, hc, hb, ho]

end FollowCases

/-- A fold of `follow` is a walk, if entering a new node is. -/
theorem follows_foldl {enterNew : String → Walk → Walk} {path : List String}
    (hnew : ∀ id w, w.path = path → g.hasNode id = true → id ∉ path →
      ∃ inside, Follows g cached busy (g.incoming id) (w.enter id) inside ∧
        enterNew id w = inside.leave id w.path) :
    ∀ (cs : List Connection) (w : Walk), w.path = path →
      Follows g cached busy cs w (cs.foldl (follow g cached busy enterNew) w) := by
  intro cs
  induction cs with
  | nil => intro w _; exact .done
  | cons c cs ih =>
    intro w hp
    rw [List.foldl_cons]
    by_cases hpass : g.hasNode c.fromNode = false ∨ cached c.fromNode = true
    · rw [follow_pass hpass]
      exact .pass hpass (ih w hp)
    · obtain ⟨hs, hc⟩ : g.hasNode c.fromNode = true ∧ cached c.fromNode = false := by
        simpa using hpass
      by_cases hb : c.fromNode ∈ w.path ∨ c.fromNode ∈ busy
      · rw [follow_cut hs hc hb]
        exact .cut hs hc hb (ih (w.cutAt c) hp)
      · by_cases ho : c.fromNode ∈ w.order
        · rw [follow_known hs hc hb ho]
          exact .known hs hc hb ho (ih w hp)
        · obtain ⟨inside, hin, he⟩ := hnew c.fromNode w hp hs (fun h => hb (.inl (hp ▸ h)))
          rw [follow_new hs hc hb ho, he]
          exact .visit hs hc hb ho hin (ih (inside.leave c.fromNode w.path) hp)

/-- A path through nodes of the graph that passes none twice is no longer than the node list. -/
theorem length_path_le {path : List String} (hd : path.Nodup)
    (hk : ∀ id ∈ path, g.hasNode id = true) : path.length ≤ g.nodes.length := by
  have hsub : path ⊆ g.ids := fun id h => (Graph.hasNode_iff g id).mp (hk id h)
  simpa [Graph.ids] using (hd.subperm hsub).length_le

/-- Entering a node is a walk as long as the depth left and the path together cover the graph. -/
theorem follows_visit (cached : String → Bool) (busy : List String) :
    ∀ (depth : Nat) (id : String) (w : Walk), w.path.Nodup →
    (∀ x ∈ w.path, g.hasNode x = true) → g.nodes.length ≤ depth + w.path.length →
    g.hasNode id = true → id ∉ w.path →
    ∃ inside, Follows g cached busy (g.incoming id) (w.enter id) inside ∧
      visit g cached busy depth id w = inside.leave id w.path := by
  intro depth
  induction depth with
  | zero =>
    intro id w hd hk hroom hid hnew
    -- the path would be longer than the graph has nodes
    have hd' : (id :: w.path).Nodup := List.nodup_cons.mpr ⟨hnew, hd⟩
    have hle := length_path_le (g := g) hd' (by simpa [hid] using hk)
    simp only [List.length_cons] at hle
    omega
  | succ depth ih =>
    intro id w hd hk hroom hid hnew
    refine ⟨_, follows_foldl ?_ (g.incoming id) (w.enter id) rfl, rfl⟩
    intro x v hv hx hxnew
    have hpath : v.path = id :: w.path := hv
    refine ih x v ?_ ?_ ?_ hx (hpath ▸ hxnew)
    · rw [hpath]; exact List.nodup_cons.mpr ⟨hnew, hd⟩
    · rw [hpath]; simpa [hid] using hk
    · rw [hpath, List.length_cons]; omega

/-- Connections lead a walk to one result only. -/
theorem Follows.functional (h : Follows g cached busy cs w w') :
    ∀ {v}, Follows g cached busy cs w v → v = w' := by
  induction h with
  | done => intro v hv; cases hv; rfl
  | pass hp _ ih =>
    intro v hv
    cases hv with
    | pass _ hrest => exact ih hrest
    | cut hs hc _ _ => simp [hs, hc] at hp
    | known hs hc _ _ _ => simp [hs, hc] at hp
    | visit hs hc _ _ _ _ => simp [hs, hc] at hp
  | cut hs hc hb _ ih =>
    intro v hv
    cases hv with
    | pass hp _ => simp [hs, hc] at hp
    | cut _ _ _ hrest => exact ih hrest
    | known _ _ hn _ _ => exact absurd hb hn
    | visit _ _ hn _ _ _ => exact absurd hb hn
  | known hs hc hn ho _ ih =>
    intro v hv
    cases hv with
    | pass hp _ => simp [hs, hc] at hp
    | cut _ _ hb _ => exact absurd hb hn
    | known _ _ _ _ hrest => exact ih hrest
    | visit _ _ _ ho' _ _ => exact absurd ho ho'
  | visit hs hc hn ho _ _ ihin ihrest =>
    intro v hv
    cases hv with
    | pass hp _ => simp [hs, hc] at hp
    | cut _ _ hb _ => exact absurd hb hn
    | known _ _ _ ho' _ => exact absurd ho' ho
    | visit _ _ _ _ hin hrest =>
      obtain rfl := ihin hin
      exact ihrest hrest

/-- Connections whose sources are not there or need no running lead nowhere. -/
theorem follows_of_pass (h : ∀ c ∈ cs, g.hasNode c.fromNode = false ∨ cached c.fromNode = true) :
    Follows g cached busy cs w w := by
  induction cs with
  | nil => exact .done
  | cons c cs ih => exact .pass (h c (.head _)) (ih fun d hd => h d (.tail _ hd))

end Walk

/-- The plan that is computed is one that a walk finds. -/
theorem Graph.plans_plan {g : Graph} {root : String} (h : g.hasNode root = true)
    (cached : String → Bool) (busy : List String) :
    g.Plans cached busy root (g.plan cached busy root) := by
  obtain ⟨inside, hin, he⟩ :=
    Walk.follows_visit cached busy g.nodes.length root Walk.start List.nodup_nil
      (by simp [Walk.start]) (by simp) h (by simp [Walk.start])
  exact ⟨inside, hin, by rw [Graph.plan, he]; rfl⟩

/-- Walks from a node find one plan only. -/
theorem Graph.Plans.functional {g : Graph} {cached : String → Bool} {busy : List String}
    {root : String} {p q : Plan} (hp : g.Plans cached busy root p)
    (hq : g.Plans cached busy root q) : q = p := by
  obtain ⟨v, hv, rfl⟩ := hp
  obtain ⟨u, hu, rfl⟩ := hq
  rw [hv.functional hu]

/-- The plan for a node whose sources are not there or cached lists the node alone. -/
theorem Graph.plan_eq_single {g : Graph} {cached : String → Bool} {busy : List String}
    {root : String} (hroot : g.hasNode root = true)
    (h : ∀ c ∈ g.incoming root, g.hasNode c.fromNode = false ∨ cached c.fromNode = true) :
    g.plan cached busy root = ⟨[root], [], []⟩ :=
  Graph.Plans.functional ⟨_, Walk.follows_of_pass h, rfl⟩ (Graph.plans_plan hroot cached busy)

end LoftGraph
