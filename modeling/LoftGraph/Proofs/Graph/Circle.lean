import LoftGraph.Proofs.Graph.Dependency
import Mathlib.Data.Finset.Max
import Mathlib.Data.List.Chain
import Mathlib.Data.List.Rotate
import Mathlib.Data.String.Basic

/-!
# Circles of dependencies

A circle (`Dependencies.Circle`) is a closed walk along edges that passes no node twice; where it
begins does not matter, so a list stands for its rotations too (`Circle.rotate`).
`Dependencies.cycles` looks for circles from their smallest nodes.

* `circle_of_mem_cycles`: what it lists are circles.
* `exists_mem_cycles`: it lists every circle, beginning somewhere.
* `exists_circle_iff`: a node lies on a circle exactly when it leads back to itself.
-/

namespace LoftGraph

namespace Dependencies

variable {d : Dependencies} {a b x start : String} {c front back : List String}

/-- A closed walk that passes no node twice. -/
structure Circle (d : Dependencies) (c : List String) : Prop where
  ne_nil : c ≠ []
  nodup : c.Nodup
  /-- The last node leads back to the first. -/
  closed : (c ++ c.take 1).IsChain d.Edge

/-! ## Circles and reachability -/

/-- A circle may begin anywhere. -/
theorem Circle.rotate (h : d.Circle (front ++ back)) : d.Circle (back ++ front) := by
  refine ⟨?_, ?_, ?_⟩
  · have hne := h.ne_nil
    simp only [ne_eq, List.append_eq_nil_iff] at hne ⊢
    tauto
  · exact List.perm_append_comm.nodup_iff.mp h.nodup
  · cases front with
    | nil => simpa using h.closed
    | cons p ps =>
      cases back with
      | nil => simpa using h.closed
      | cons q qs =>
        -- the walk is cut at both places and put together the other way round
        have hclosed : ((p :: ps) ++ q :: (qs ++ [p])).IsChain d.Edge := by simpa using h.closed
        obtain ⟨hfront, hback⟩ := List.isChain_split.mp hclosed
        have hturned : ((q :: qs) ++ p :: (ps ++ [q])).IsChain d.Edge :=
          List.isChain_split.mpr ⟨hback, hfront⟩
        simpa using hturned

/-- A circle through a node may begin there. -/
theorem Circle.from_mem (h : d.Circle c) (hx : x ∈ c) :
    ∃ rest, d.Circle (x :: rest) ∧ c ~r (x :: rest) := by
  obtain ⟨front, back, rfl⟩ := List.append_of_mem hx
  exact ⟨back ++ front, h.rotate, List.isRotated_append⟩

theorem Circle.edges (h : d.Circle (x :: c)) : (x :: (c ++ [x])).IsChain d.Edge := by
  simpa using h.closed

/-- What lies on a circle leads to where the circle begins. -/
theorem Circle.leads_to_start (h : d.Circle (start :: c)) (hx : x ∈ c) :
    Relation.ReflTransGen d.Edge x start := by
  obtain ⟨front, back, rfl⟩ := List.append_of_mem hx
  have hedges : ((start :: front) ++ x :: (back ++ [start])).IsChain d.Edge := by
    simpa using h.edges
  refine List.relationReflTransGen_of_exists_isChain_cons (back ++ [start])
    (List.isChain_split.mp hedges).2 ?_
  simp

/-- What lies on a circle leads back to itself. -/
theorem Circle.transGen (h : d.Circle c) (hx : x ∈ c) : Relation.TransGen d.Edge x x := by
  obtain ⟨rest, hrest, -⟩ := h.from_mem hx
  cases rest with
  | nil =>
    obtain ⟨hedge, -⟩ := List.isChain_cons_cons.mp hrest.edges
    exact .single hedge
  | cons y rest =>
    obtain ⟨hedge, -⟩ := List.isChain_cons_cons.mp hrest.edges
    exact .head' hedge (hrest.leads_to_start (.head _))

/-- Between two nodes one of which leads to the other there is a walk that passes no node twice. -/
theorem exists_path {r : String → String → Prop} (h : Relation.ReflTransGen r a b) :
    ∃ path : List String, path.Nodup ∧ path.IsChain r ∧ path.head? = some a ∧
      path.getLast? = some b := by
  induction h using Relation.ReflTransGen.head_induction_on with
  | refl => exact ⟨[b], by simp⟩
  | @head a y hay _ ih =>
    obtain ⟨path, hnodup, hchain, hhead, hlast⟩ := ih
    by_cases ha : a ∈ path
    · -- the walk comes by again: what lies before is left out
      obtain ⟨front, back, rfl⟩ := List.append_of_mem ha
      exact ⟨a :: back, (List.nodup_append.mp hnodup).2.1, hchain.right_of_append, rfl,
        by simpa using hlast⟩
    · refine ⟨a :: path, List.nodup_cons.mpr ⟨ha, hnodup⟩, List.isChain_cons.mpr ⟨?_, hchain⟩, rfl,
        ?_⟩
      · intro z hz
        obtain rfl : y = z := by simpa [hhead] using hz
        exact hay
      · rw [List.getLast?_cons, hlast]
        rfl

/-- **On a circle**: a node lies on a circle exactly when it leads back to itself. -/
theorem exists_circle_iff : (∃ c, d.Circle c ∧ x ∈ c) ↔ Relation.TransGen d.Edge x x := by
  constructor
  · rintro ⟨c, hc, hx⟩
    exact hc.transGen hx
  · intro h
    obtain ⟨y, hxy, hyx⟩ := Relation.TransGen.head'_iff.mp h
    obtain ⟨path, hnodup, hchain, hhead, hlast⟩ := exists_path hyx
    refine ⟨path, ⟨?_, hnodup, ?_⟩, List.mem_of_getLast? hlast⟩
    · rintro rfl
      simp at hhead
    · have hfirst : path.take 1 = [y] := by
        cases path with
        | nil => simp at hhead
        | cons z path => simpa using hhead
      rw [hfirst]
      refine hchain.append (by simp) ?_
      intro p hp q hq
      obtain rfl : x = p := by simpa [hlast] using hp
      obtain rfl : y = q := by simpa using hq
      exact hxy

/-! ## What is listed -/

/-- The circles that a path is continued to are circles. -/
theorem circle_of_mem_closures {allowed : List String} (n : Nat) (path : List String)
    (hchain : path.reverse.IsChain d.Edge) (hnodup : path.Nodup)
    (hstart : path.reverse.head? = some start) :
    ∀ c ∈ d.closures allowed start n path, d.Circle c := by
  induction n generalizing path with
  | zero => simp [closures]
  | succ n ih =>
    intro c hc
    cases path with
    | nil => simp at hstart
    | cons top past =>
      obtain ⟨next, hnext, hc⟩ := List.mem_flatMap.mp hc
      have hedge : d.Edge top next := by simpa using hnext
      have htop : (top :: past).reverse.getLast? = some top := by simp
      have hlonger : ((top :: past).reverse ++ [next]).IsChain d.Edge := by
        refine hchain.append (by simp) ?_
        intro p hp q hq
        obtain rfl : top = p := by simpa [htop] using hp
        obtain rfl : next = q := by simpa using hq
        exact hedge
      split at hc
      case isTrue hback =>
        obtain rfl : c = (top :: past).reverse := by simpa using hc
        refine ⟨by simp, List.nodup_reverse.mpr hnodup, ?_⟩
        have hfirst : (top :: past).reverse.take 1 = [next] := by
          rw [hback, List.take_one, hstart]
          rfl
        rw [hfirst]
        exact hlonger
      case isFalse =>
        split at hc
        case isTrue hnew =>
          refine ih (next :: top :: past) ?_ (List.nodup_cons.mpr ⟨hnew.2, hnodup⟩) ?_ c hc
          · rw [List.reverse_cons]
            exact hlonger
          · rw [List.reverse_cons, List.head?_append, hstart]
            rfl
        case isFalse => cases hc

theorem circle_of_mem_cycles (hc : c ∈ d.cycles) : d.Circle c := by
  obtain ⟨start, -, hc⟩ := List.mem_flatMap.mp hc
  exact circle_of_mem_closures d.nodes.length [start] (by simp) (by simp) (by simp) c hc

/-! ## Nothing is left out -/

/-- A path is continued to every circle that it begins, if the rest of the circle is allowed. -/
theorem mem_closures {allowed : List String} (rest : List String) (top : String)
    (past : List String) (n : Nat) (hroom : rest.length < n)
    (hallowed : ∀ x ∈ rest, x ∈ allowed ∧ x ≠ start)
    (hnodup : ((top :: past).reverse ++ rest).Nodup)
    (hchain : (top :: (rest ++ [start])).IsChain d.Edge) :
    (top :: past).reverse ++ rest ∈ d.closures allowed start n (top :: past) := by
  obtain ⟨n, rfl⟩ : ∃ m, n = m + 1 := ⟨n - 1, by omega⟩
  induction rest generalizing top past n with
  | nil =>
    obtain ⟨hedge, -⟩ := List.isChain_cons_cons.mp hchain
    refine List.mem_flatMap.mpr ⟨start, by simpa using hedge, ?_⟩
    simp
  | cons next rest ih =>
    obtain ⟨hedge, hrest⟩ := List.isChain_cons_cons.mp hchain
    obtain ⟨hin, hne⟩ := hallowed next (.head _)
    have hnew : next ∉ top :: past := by
      intro hmem
      exact (List.nodup_append.mp hnodup).2.2 next (List.mem_reverse.mpr hmem) next (.head _) rfl
    have hsplit : (top :: past).reverse ++ next :: rest
        = (next :: top :: past).reverse ++ rest := by
      simp
    rw [List.length_cons] at hroom
    obtain ⟨m, rfl⟩ : ∃ m, n = m + 1 := ⟨n - 1, by omega⟩
    refine List.mem_flatMap.mpr ⟨next, by simpa using hedge, ?_⟩
    rw [if_neg hne, if_pos ⟨hin, hnew⟩, hsplit]
    exact ih next (top :: past) (fun x hx => hallowed x (.tail _ hx)) (hsplit ▸ hnodup) hrest m
      (by omega)

/-- With enough steps, nothing leads into the ancestors that is not among them. -/
theorem ancestors_closed (hd : d.WellFormed) (n : Nat) (ids : List String) (hnodup : ids.Nodup)
    (hsub : ids ⊆ d.nodes) (hroom : d.nodes.length ≤ n + ids.length) :
    ids ⊆ d.ancestors n ids ∧
      ∀ a b, d.Edge a b → b ∈ d.ancestors n ids → a ∈ d.ancestors n ids := by
  induction n generalizing ids with
  | zero =>
    have hall : d.nodes ⊆ ids := subset_of_length_le hnodup hsub (by simpa using hroom)
    exact ⟨List.Subset.refl _, fun a b hedge _ => hall (hd.starts _ hedge)⟩
  | succ n ih =>
    simp only [ancestors]
    generalize hmore : (ids.flatMap d.predecessors).eraseDups.filter (fun id => id ∉ ids) = more
    have hmem : ∀ a, a ∈ more ↔ (∃ b ∈ ids, d.Edge a b) ∧ a ∉ ids := by
      intro a
      simp [← hmore, List.mem_eraseDups]
    split
    case isTrue hempty =>
      refine ⟨List.Subset.refl _, fun a b hedge hb => ?_⟩
      by_contra ha
      have hin : a ∈ more := (hmem a).mpr ⟨⟨b, hb, hedge⟩, ha⟩
      rw [List.isEmpty_iff.mp hempty] at hin
      cases hin
    case isFalse hsome =>
      have hpos : 0 < more.length :=
        List.length_pos_iff.mpr fun hnil => hsome (List.isEmpty_iff.mpr hnil)
      have hnodup' : (ids ++ more).Nodup := by
        refine List.nodup_append.mpr ⟨hnodup, hmore ▸ (nodup_eraseDups _).filter _, ?_⟩
        rintro a ha _ ha' rfl
        exact ((hmem a).mp ha').2 ha
      have hsub' : ids ++ more ⊆ d.nodes := by
        refine List.append_subset.mpr ⟨hsub, fun a ha => ?_⟩
        obtain ⟨⟨b, -, hedge⟩, -⟩ := (hmem a).mp ha
        exact hd.starts _ hedge
      obtain ⟨hin, hclosed⟩ :=
        ih (ids ++ more) hnodup' hsub' (by rw [List.length_append]; omega)
      exact ⟨fun a ha => hin (List.mem_append_left _ ha), hclosed⟩

/-- What leads to a node is among its ancestors. -/
theorem mem_ancestors (hd : d.WellFormed) (hstart : start ∈ d.nodes)
    (h : Relation.ReflTransGen d.Edge x start) : x ∈ d.ancestors d.nodes.length [start] := by
  obtain ⟨hin, hclosed⟩ := ancestors_closed hd d.nodes.length [start] (by simp)
    (by simpa using hstart) (by simp)
  induction h using Relation.ReflTransGen.head_induction_on with
  | refl => exact hin (.head _)
  | head hedge _ ih => exact hclosed _ _ hedge ih

theorem Circle.subset_nodes (h : d.Circle c) (hd : d.WellFormed) : c ⊆ d.nodes := by
  intro x hx
  obtain ⟨y, hedge, -⟩ := Relation.TransGen.head'_iff.mp (h.transGen hx)
  exact hd.starts _ hedge

/-- A circle that begins at its smallest node is listed. -/
theorem mem_cycles (hd : d.WellFormed) {rest : List String} (h : d.Circle (start :: rest))
    (hleast : ∀ x ∈ rest, start < x) : start :: rest ∈ d.cycles := by
  have hin := h.subset_nodes hd
  have hlength : (start :: rest).length ≤ d.nodes.length := (h.nodup.subperm hin).length_le
  refine List.mem_flatMap.mpr ⟨start, hin (.head _), ?_⟩
  refine mem_closures rest start [] d.nodes.length hlength ?_ h.nodup h.edges
  intro x hx
  have hlt := hleast x hx
  refine ⟨List.mem_filter.mpr ⟨?_, by simpa using hlt⟩, hlt.ne'⟩
  exact mem_ancestors hd (hin (.head _)) (h.leads_to_start hx)

/-- **All circles are listed**, each beginning somewhere. -/
theorem exists_mem_cycles (hd : d.WellFormed) (h : d.Circle c) : ∃ c' ∈ d.cycles, c ~r c' := by
  have hne : c.toFinset.Nonempty := List.toFinset_nonempty_iff c |>.mpr h.ne_nil
  obtain ⟨start, hstart, hleast⟩ := c.toFinset.exists_min_image id hne
  obtain ⟨rest, hrest, hrotated⟩ := h.from_mem (List.mem_toFinset.mp hstart)
  refine ⟨start :: rest, mem_cycles hd hrest fun x hx => ?_, hrotated⟩
  have hx' : x ∈ c := hrotated.perm.mem_iff.mpr (.tail _ hx)
  have hne : start ≠ x := fun heq => (List.nodup_cons.mp hrest.nodup).1 (heq ▸ hx)
  exact lt_of_le_of_ne (hleast x (List.mem_toFinset.mpr hx')) hne

end Dependencies

end LoftGraph
