import LoftGraph.Proofs.Geometry.Skeleton
import LoftGraph.Proofs.Mesh.Blocks
import LoftGraph.Proofs.Traversal

/-!
# How a loft is stitched

Stitching adds the block of a ring when the first wall needs it and passes on where it starts. So
the vertices are those of the rings of walls, one ring after the other, and the triangles are those
of the walls.

* `Stitching` is what stitching the rings of one tube comes to, from the block that its first ring
  already has. Another ring below adds a wall or leaves an opening (`Stitching.joined`,
  `Stitching.opened`), and `stitch_spec` goes down the rings with these two.
* The tubes are stitched one after the other, each behind the ones before it (`Assembly.concat`).
* The fan shares the block of the last ring, or gets a block of its own where no wall ends. With it,
  `exists_assembled` gives vertices and triangles of every stack.
* Where the rings have three vertices, the triangles are those of a skeleton, numbered by these
  blocks (`assemble_spec`).
* What is told about rings that do not fit depends on their counts alone (`warnings_stitch`,
  `warnings_assemble`).
-/

namespace LoftGraph

namespace Loft

variable {α : Type}

/-- How many vertices a ring has; none where there is no ring. -/
def ringCount (rings : List (Ring α)) (k : Nat) : Nat := (rings.getD k []).length

/-- The walls of a tube whose rings have their blocks at these places. -/
def walls (reverse : Bool) (count start : Nat → Nat) (height : Nat) : List Triangle :=
  (List.range height).flatMap (fun k =>
    if Stitched count k then MeshBuilder.wall (start k) (start (k + 1)) (count k) reverse else [])

/-- Is the ring one of a wall? -/
def Walled (count : Nat → Nat) (k : Nat) : Prop := Stitched count k ∨ StitchedBelow count k

instance (count : Nat → Nat) (k : Nat) : Decidable (Walled count k) :=
  inferInstanceAs (Decidable (_ ∨ _))

/-- The starts of the blocks when one more ring stands below. -/
def below (first : Nat) (start : Nat → Nat) : Nat → Nat
  | 0 => first
  | k + 1 => start k

theorem walls_cons (reverse : Bool) (lower : Ring α) (rings : List (Ring α)) (first : Nat)
    (start : Nat → Nat) :
    walls reverse (ringCount (lower :: rings)) (below first start) (lower :: rings).length =
      (if Stitched (ringCount (lower :: rings)) 0 then
        MeshBuilder.wall first (start 0) lower.length reverse else []) ++
        walls reverse (ringCount rings) start rings.length := by
  rw [walls, List.length_cons, List.range_succ_eq_map, List.flatMap_cons, List.flatMap_map]
  rfl

theorem walls_congr {reverse : Bool} {count start start' : Nat → Nat} {height : Nat}
    (h : ∀ k, Walled count k → start k = start' k) :
    walls reverse count start height = walls reverse count start' height := by
  refine List.flatMap_congr fun k _ => ?_
  split
  · next hstitched => rw [h k (.inl hstitched), h (k + 1) (.inr hstitched)]
  · rfl

theorem walled_succ {count : Nat → Nat} {k : Nat} : Walled count (k + 1) ↔
    Walled (fun k => count (k + 1)) k ∨ (k = 0 ∧ Stitched count 0) := by
  cases k with
  | zero => simp [Walled, StitchedBelow, Stitched]
  | succ k => simp [Walled, StitchedBelow, Stitched]

theorem lt_length_of_stitched {rings : List (Ring α)} {i : Nat} (h : Stitched (ringCount rings) i) :
    i + 1 < rings.length := by
  by_contra hlt
  have hnone : ringCount rings (i + 1) = 0 := by
    rw [ringCount, List.getD_eq_getElem?_getD, List.getElem?_eq_none (by omega)]
    rfl
  exact h.1 (h.2.symm.trans hnone)

theorem lt_length_of_walled {rings : List (Ring α)} {i : Nat} (h : Walled (ringCount rings) i) :
    i < rings.length := by
  rcases h with h | h
  · exact Nat.lt_of_succ_lt (lt_length_of_stitched h)
  · cases i with
    | zero => exact h.elim
    | succ i => exact lt_length_of_stitched h

/-! ## The rings that get a block -/

/-- The rings of walls in their order, less the first ring if that one has its block already. -/
def added (held : Bool) (rings : List (Ring α)) : List Nat :=
  (List.range rings.length).filter (fun k =>
    decide (Walled (ringCount rings) k ∧ ¬ (k = 0 ∧ held = true)))

theorem mem_added {held : Bool} {rings : List (Ring α)} {k : Nat} :
    k ∈ added held rings ↔ Walled (ringCount rings) k ∧ ¬ (k = 0 ∧ held = true) := by
  rw [added, List.mem_filter, List.mem_range, decide_eq_true_eq]
  exact and_iff_right_of_imp fun h => lt_length_of_walled h.1

theorem nodup_added (held : Bool) (rings : List (Ring α)) : (added held rings).Nodup :=
  List.nodup_range.filter _

theorem filter_range_succ (p : Nat → Bool) (n : Nat) :
    (List.range (n + 1)).filter p
      = (if p 0 then [0] else []) ++ ((List.range n).filter (fun k => p (k + 1))).map (· + 1) := by
  rw [List.range_succ_eq_map, List.filter_cons, List.filter_map]
  split <;> rfl

section Added

variable {lower upper : Ring α} {rest : List (Ring α)}

theorem added_of_open (held : Bool) (hopen : ¬ Stitched (ringCount (lower :: upper :: rest)) 0) :
    added held (lower :: upper :: rest) = (added false (upper :: rest)).map (· + 1) := by
  have hfirst : ¬ Walled (ringCount (lower :: upper :: rest)) 0 := not_or.mpr ⟨hopen, id⟩
  rw [added, List.length_cons, filter_range_succ, if_neg (by simp [hfirst]), List.nil_append, added]
  refine congrArg (List.map _) (List.filter_congr fun k _ => decide_eq_decide.mpr ?_)
  rw [walled_succ]
  simp only [hopen, and_false, or_false, Nat.succ_ne_zero, false_and, not_false_eq_true,
    and_true, Bool.false_eq_true]
  rfl

theorem added_of_stitched (held : Bool)
    (hstitched : Stitched (ringCount (lower :: upper :: rest)) 0) :
    added held (lower :: upper :: rest)
      = (if held then [] else [0]) ++ 1 :: (added true (upper :: rest)).map (· + 1) := by
  have hfirst : Walled (ringCount (lower :: upper :: rest)) 0 := .inl hstitched
  have hsecond : Walled (ringCount (lower :: upper :: rest)) 1 := .inr hstitched
  rw [added, List.length_cons, List.length_cons, filter_range_succ, filter_range_succ, added,
    List.length_cons, filter_range_succ]
  simp only [hfirst, hsecond, true_and, and_true, not_true_eq_false, and_false, decide_false,
    Bool.false_eq_true, if_false, List.nil_append, Nat.succ_ne_zero, false_and, not_false_eq_true,
    decide_true, if_true, List.map_append, List.map_cons, List.map_nil, Bool.not_eq_true,
    decide_eq_true_eq]
  refine congrArg₂ (· ++ ·) (by cases held <;> rfl) (congrArg (List.cons _) ?_)
  refine congrArg (fun l => List.map _ (List.map _ l)) (List.filter_congr fun k _ => ?_)
  refine decide_eq_decide.mpr (walled_succ.trans ?_)
  simp only [Nat.succ_ne_zero, false_and, or_false]
  rfl

end Added

/-- What stitching rings comes to: `start` tells where the blocks of rings are. -/
structure Stitching (reverse : Bool) (block : Option Nat) (rings : List (Ring α))
    (b : MeshBuilder α) (last : Option Nat) (b' : MeshBuilder α) (start : Nat → Nat) : Prop where
  triangles : b'.triangles.toList
    = b.triangles.toList ++ walls reverse (ringCount rings) start rings.length
  /-- The rings of walls get their blocks one after the other. -/
  vertices : b'.vertices.toList
    = b.vertices.toList ++ (added block.isSome rings).flatMap (fun k => rings.getD k [])
  laid : Laid (ringCount rings) start b.vertexCount (added block.isSome rings)
  /-- The first ring keeps the block it has. -/
  start_zero : ∀ s, block = some s → start 0 = s
  last_eq : ∀ m, rings.length = m + 1 →
    (StitchedBelow (ringCount rings) m → last = some (start m)) ∧
    (¬ StitchedBelow (ringCount rings) m → last = if m = 0 then block else none)

namespace Stitching

variable {reverse : Bool} {block last : Option Nat} {rings : List (Ring α)} {lower upper : Ring α}
  {rest : List (Ring α)} {b b' : MeshBuilder α} {start : Nat → Nat}

theorem single (reverse : Bool) (block : Option Nat) (rings : List (Ring α)) (b : MeshBuilder α)
    (hrings : rings.length ≤ 1) :
    Stitching reverse block rings b block b (fun _ => block.getD 0) := by
  have hopen : ∀ k, ¬ Stitched (ringCount rings) k := by
    intro k hk
    have hlt := lt_length_of_stitched hk
    omega
  have hbelow : ∀ k, ¬ StitchedBelow (ringCount rings) k
    | 0 => id
    | k + 1 => hopen k
  have hnone : added block.isSome rings = [] :=
    List.eq_nil_iff_forall_not_mem.mpr fun k hk =>
      (mem_added.mp hk).1.elim (hopen k) (hbelow k)
  refine ⟨?_, ?_, ?_, ?_, ?_⟩
  · simp [walls, hopen]
  · simp [hnone]
  · rw [hnone]
    trivial
  · rintro s rfl
    rfl
  · intro m hm
    have hzero : m = 0 := by omega
    exact ⟨fun h => absurd h (hbelow m), fun _ => by rw [if_pos hzero]⟩

/-- What is told about the last ring does not change with one more ring below, if the rings above
start with a block exactly when the segment to the new ring is stitched. -/
theorem last_eq_cons {inner : Option Nat}
    (h : Stitching reverse inner (upper :: rest) b last b' start)
    (hinner : (Stitched (ringCount (lower :: upper :: rest)) 0 → inner = some (start 0)) ∧
      (¬ Stitched (ringCount (lower :: upper :: rest)) 0 → inner = none))
    {first : Nat} (m : Nat) (hm : (lower :: upper :: rest).length = m + 1) :
    (StitchedBelow (ringCount (lower :: upper :: rest)) m → last = some (below first start m)) ∧
      (¬ StitchedBelow (ringCount (lower :: upper :: rest)) m →
        last = if m = 0 then block else none) := by
  obtain ⟨m, rfl⟩ : ∃ m', m = m' + 1 := ⟨m - 1, by simp at hm; omega⟩
  obtain ⟨hbelow, hnot⟩ := h.last_eq m (by simpa using hm)
  cases m with
  | zero =>
    have hlast : last = inner := hnot id
    rw [hlast]
    exact hinner
  | succ m => exact ⟨hbelow, fun h => by simpa using hnot h⟩

/-- An open segment adds nothing. -/
theorem opened (h : Stitching reverse none (upper :: rest) b last b' start)
    (hopen : ¬ Stitched (ringCount (lower :: upper :: rest)) 0) :
    Stitching reverse block (lower :: upper :: rest) b last b' (below (block.getD 0) start) := by
  refine ⟨?_, ?_, ?_, ?_, ?_⟩
  · rw [h.triangles, walls_cons, if_neg hopen, List.nil_append]
  · rw [h.vertices, added_of_open _ hopen, List.flatMap_map]
    rfl
  · rw [added_of_open _ hopen]
    exact laid_map.mpr h.laid
  · rintro s rfl
    rfl
  · exact h.last_eq_cons ⟨fun h => absurd h hopen, fun _ => rfl⟩

/-- A stitched segment adds its wall, and above it the rings share a block. -/
theorem joined {b₁ : MeshBuilder α} {first : Nat}
    (hstitched : Stitched (ringCount (lower :: upper :: rest)) 0)
    (hblock : blockOf block lower b = (first, b₁))
    (h : Stitching reverse (some b₁.vertexCount) (upper :: rest)
      ((b₁.addVertices upper).connectRings first b₁.vertexCount lower.length reverse) last b'
      start) :
    Stitching reverse block (lower :: upper :: rest) b last b' (below first start) := by
  have habove : start 0 = b₁.vertexCount := h.start_zero _ rfl
  have htriangles : b'.triangles.toList = b₁.triangles.toList ++
      walls reverse (ringCount (lower :: upper :: rest)) (below first start)
        (lower :: upper :: rest).length := by
    rw [h.triangles, walls_cons, if_pos hstitched, habove, MeshBuilder.connectRings,
      MeshBuilder.toList_addTriangles, List.append_assoc]
    rfl
  have hvertices : b'.vertices.toList = b₁.vertices.toList ++
      (upper ++ (added true (upper :: rest)).flatMap (fun k => (upper :: rest).getD k [])) := by
    rw [h.vertices, ← List.append_assoc]
    exact congrArg (· ++ _) (MeshBuilder.toList_addVertices b₁ upper)
  have hlaid : Laid (ringCount (lower :: upper :: rest)) (below first start) b₁.vertexCount
      (1 :: (added true (upper :: rest)).map (· + 1)) := by
    refine ⟨habove, laid_map.mpr ?_⟩
    have hlaid := h.laid
    rw [MeshBuilder.connectRings, MeshBuilder.vertexCount_addTriangles,
      MeshBuilder.vertexCount_addVertices] at hlaid
    exact hlaid
  -- only a lower ring without a block of its own is added
  cases block with
  | none =>
    cases hblock
    refine ⟨htriangles, ?_, ?_, nofun, ?_⟩
    · rw [hvertices, added_of_stitched _ hstitched, MeshBuilder.toList_addVertices,
        List.append_assoc]
      simp [List.flatMap_map]
    · rw [added_of_stitched _ hstitched]
      rw [MeshBuilder.vertexCount_addVertices] at hlaid
      exact ⟨rfl, hlaid⟩
    · exact h.last_eq_cons ⟨fun _ => congrArg some habove.symm, fun h => absurd hstitched h⟩
  | some s =>
    cases hblock
    refine ⟨htriangles, ?_, ?_, fun s hs => Option.some.inj hs, ?_⟩
    · rw [hvertices, added_of_stitched _ hstitched]
      simp [List.flatMap_map]
    · rw [added_of_stitched _ hstitched]
      exact hlaid
    · exact h.last_eq_cons ⟨fun _ => congrArg some habove.symm, fun h => absurd hstitched h⟩

end Stitching

theorem stitched_zero_iff {lower upper : Ring α} {rest : List (Ring α)} :
    Stitched (ringCount (lower :: upper :: rest)) 0 ↔
      ¬ (lower.isEmpty || upper.isEmpty) = true ∧ lower.length = upper.length := by
  have hcounts : ringCount (lower :: upper :: rest) 0 = lower.length ∧
      ringCount (lower :: upper :: rest) 1 = upper.length := ⟨rfl, rfl⟩
  rw [Stitched, hcounts.1, hcounts.2]
  cases lower <;> cases upper <;> simp [eq_comm]

/-- Stitching puts a wall between any two neighbouring rings of one count, and gives every ring of a
wall one block. -/
theorem stitch_spec (reverse : Bool) (mismatch : Nat → Nat → Nat → LoftWarning)
    (rings : List (Ring α)) (i : Nat) (block : Option Nat) (b : MeshBuilder α) :
    ∃ start, Stitching reverse block rings b (stitch reverse mismatch i block rings b).1
      (stitch reverse mismatch i block rings b).2.1 start := by
  induction rings generalizing i block b with
  | nil => exact ⟨_, .single reverse block [] b (by simp)⟩
  | cons lower tail ih =>
    cases tail with
    | nil => exact ⟨_, .single reverse block [lower] b (by simp)⟩
    | cons upper rest =>
      rw [stitch]
      split
      · next hempty =>
        obtain ⟨start, h⟩ := ih (i + 1) none b
        exact ⟨_, h.opened fun hstitched => (stitched_zero_iff.mp hstitched).1 hempty⟩
      · next hempty =>
        split
        · next hlength =>
          obtain ⟨start, h⟩ := ih (i + 1) none b
          exact ⟨_, h.opened fun hstitched => hlength (stitched_zero_iff.mp hstitched).2⟩
        · next hlength =>
          have hstitched : Stitched (ringCount (lower :: upper :: rest)) 0 :=
            stitched_zero_iff.mpr ⟨hempty, not_not.mp hlength⟩
          cases hb : blockOf block lower b with
          | mk first b₁ =>
            obtain ⟨start, h⟩ := ih (i + 1) (some b₁.vertexCount)
              ((b₁.addVertices upper).connectRings first b₁.vertexCount lower.length reverse)
            exact ⟨_, h.joined hstitched hb⟩

/-! ## All tubes of a stack -/

namespace Tube

/-- Do the walls of the tube face inward? -/
def isInner (t : Tube) : Bool := decide (t ≠ .outer)

/-- The ring of a tube in a section. -/
def ring (p : PlacedSection α) : Tube → Ring α
  | outer => p.outer
  | hole slot => (p.holes[slot]?).getD []

/-- The outline of a tube in a section that has not been placed. -/
def outline (s : CrossSection α) : Tube → Polygon α
  | outer => s.outer
  | hole slot => (s.holes[slot]?).getD []

def rings (t : Tube) (placed : List (PlacedSection α)) : List (Ring α) :=
  placed.map (fun p => t.ring p)

theorem length_rings (t : Tube) (placed : List (PlacedSection α)) :
    (t.rings placed).length = placed.length := List.length_map _

end Tube

theorem Tube.getD_rings (t : Tube) (placed : List (PlacedSection α)) (i : Nat) :
    (t.rings placed).getD i [] = (placed[i]?.map (fun p => t.ring p)).getD [] := by
  rw [List.getD_eq_getElem?_getD, Tube.rings, List.getElem?_map]

theorem slot_lt_slotCount {placed : List (PlacedSection α)} {slot i : Nat}
    (h : ringCount ((Tube.hole slot).rings placed) i ≠ 0) : slot < slotCount placed := by
  rw [ringCount, Tube.getD_rings] at h
  cases hp : placed[i]? with
  | none => simp [hp] at h
  | some p =>
    have hslot : slot < p.holes.length := by
      by_contra hlt
      simp [hp, Tube.ring, List.getElem?_eq_none (Nat.le_of_not_lt hlt)] at h
    refine Nat.lt_of_lt_of_le hslot ((foldl_max_le_iff.mp (Nat.le_refl _)).2 _ ?_)
    exact List.mem_map.mpr ⟨p, List.mem_of_getElem? hp, rfl⟩

theorem mem_all_of_walled {placed : List (PlacedSection α)} {t : Tube} {i : Nat}
    (h : Walled (ringCount (t.rings placed)) i) : t ∈ Tube.all (slotCount placed) := by
  cases t with
  | outer => exact .head _
  | hole slot =>
    refine Tube.hole_mem_all.mpr ?_
    rcases h with h | h
    · exact slot_lt_slotCount h.1
    · cases i with
      | zero => exact h.elim
      | succ i => exact slot_lt_slotCount h.1

/-- The ring of a tube in one of the sections. -/
def ringAt (placed : List (PlacedSection α)) (r : Tube × Nat) : Ring α :=
  (r.1.rings placed).getD r.2 []

/-- The rings of the walls of some tubes, tube by tube. -/
def walledRings (placed : List (PlacedSection α)) (tubes : List Tube) : List (Tube × Nat) :=
  tubes.flatMap (fun t => (added false (t.rings placed)).map (fun i => (t, i)))

theorem walledRings_concat (placed : List (PlacedSection α)) (tubes : List Tube) (t : Tube) :
    walledRings placed (tubes ++ [t])
      = walledRings placed tubes ++ (added false (t.rings placed)).map (fun i => (t, i)) := by
  simp [walledRings]

theorem mem_walledRings {placed : List (PlacedSection α)} {tubes : List Tube} {t : Tube} {i : Nat} :
    (t, i) ∈ walledRings placed tubes ↔ t ∈ tubes ∧ Walled (ringCount (t.rings placed)) i := by
  simp [walledRings, mem_added]

theorem nodup_walledRings {placed : List (PlacedSection α)} {tubes : List Tube}
    (h : tubes.Nodup) : (walledRings placed tubes).Nodup := by
  refine List.nodup_flatMap.mpr ⟨fun t _ => ?_, h.imp fun hne r hr hr' => ?_⟩
  · exact (nodup_added false _).map fun i j h => congrArg Prod.snd h
  · obtain ⟨i, -, rfl⟩ := List.mem_map.mp hr
    obtain ⟨j, -, h⟩ := List.mem_map.mp hr'
    exact hne (congrArg Prod.fst h).symm

/-- What stitching some tubes comes to, one after the other. -/
structure Assembly (placed : List (PlacedSection α)) (tubes : List Tube) (b b' : MeshBuilder α)
    (start : Tube → Nat → Nat) : Prop where
  triangles : b'.triangles.toList = b.triangles.toList ++ tubes.flatMap (fun t =>
    walls t.isInner (ringCount (t.rings placed)) (start t) placed.length)
  vertices : b'.vertices.toList
    = b.vertices.toList ++ (walledRings placed tubes).flatMap (ringAt placed)
  laid : Laid (fun r => (ringAt placed r).length) (fun r => start r.1 r.2) b.vertexCount
    (walledRings placed tubes)

namespace Assembly

variable {placed : List (PlacedSection α)} {tubes : List Tube} {b b' b'' : MeshBuilder α}
  {start start' : Tube → Nat → Nat}

theorem nil (placed : List (PlacedSection α)) (b : MeshBuilder α) (start : Tube → Nat → Nat) :
    Assembly placed [] b b start :=
  ⟨by simp, by simp [walledRings], trivial⟩

theorem vertexCount_eq (h : Assembly placed tubes b b' start) : b'.vertexCount
    = b.vertexCount + ((walledRings placed tubes).map (fun r => (ringAt placed r).length)).sum := by
  rw [← MeshBuilder.length_toList_vertices, h.vertices, List.length_append, List.length_flatMap,
    MeshBuilder.length_toList_vertices]

/-- Where the rings that are in no wall start does not matter. -/
theorem congr (h : Assembly placed tubes b b' start) (hstart : ∀ t ∈ tubes, ∀ k,
    Walled (ringCount (t.rings placed)) k → start' t k = start t k) :
    Assembly placed tubes b b' start' := by
  refine ⟨h.triangles.trans (congrArg _ (List.flatMap_congr fun t ht => ?_)), h.vertices,
    h.laid.congr fun ⟨t, k⟩ hr => ?_⟩
  · exact walls_congr fun k hk => (hstart t ht k hk).symm
  · obtain ⟨ht, hk⟩ := mem_walledRings.mp hr
    exact hstart t ht k hk

/-- One more tube is stitched. Its blocks come behind those of the tubes before. -/
theorem concat {t : Tube} {last : Option Nat} {ringStart : Nat → Nat}
    (h : Assembly placed tubes b b' start) (ht : t ∉ tubes)
    (h' : Stitching t.isInner none (t.rings placed) b' last b'' ringStart) :
    Assembly placed (tubes ++ [t]) b b'' (Function.update start t ringStart) := by
  have hnew : Function.update start t ringStart t = ringStart := Function.update_self _ _ _
  have hold : Assembly placed tubes b b' (Function.update start t ringStart) := by
    refine h.congr fun t' ht' k _ => congrFun (Function.update_of_ne ?_ _ _) k
    rintro rfl
    exact ht ht'
  refine ⟨?_, ?_, ?_⟩
  · rw [h'.triangles, hold.triangles, List.append_assoc, List.flatMap_append, t.length_rings,
      List.flatMap_cons, List.flatMap_nil, List.append_nil, hnew]
  · rw [h'.vertices, hold.vertices, List.append_assoc, walledRings_concat, List.flatMap_append,
      List.flatMap_map]
    rfl
  · rw [walledRings_concat, laid_append, ← hold.vertexCount_eq]
    refine ⟨hold.laid, laid_map.mpr (h'.laid.congr fun k _ => ?_)⟩
    exact congrFun hnew k

/-- The holes are stitched slot by slot, behind the tubes before them. -/
theorem holes (h : Assembly placed tubes b b' start) (m : Nat) (hm : ∀ slot < m, .hole slot ∉ tubes)
    (warnings : List LoftWarning) :
    ∃ start', Assembly placed (tubes ++ (List.range m).map .hole) b
        ((List.range m).foldl (stitchSlot placed) (b', warnings)).1 start' ∧
      ∀ t ∈ tubes, start' t = start t := by
  induction m with
  | zero => exact ⟨start, by simpa using h, fun _ _ => rfl⟩
  | succ m ih =>
    obtain ⟨start', hbefore, hsame⟩ := ih fun slot hslot => hm slot (by omega)
    obtain ⟨start'', hslot⟩ := stitch_spec true (LoftWarning.holeMismatch m)
      (slotRings m placed) 0 none
      ((List.range m).foldl (stitchSlot placed) (b', warnings)).1
    have hnew : Tube.hole m ∉ tubes ++ (List.range m).map .hole := by
      simpa using hm m (by omega)
    refine ⟨Function.update start' (.hole m) start'', ?_, fun t ht => ?_⟩
    · rw [List.range_succ, List.foldl_concat, List.map_append, ← List.append_assoc]
      exact hbefore.concat hnew hslot
    · rw [← hsame t ht]
      refine Function.update_of_ne ?_ _ _
      rintro rfl
      exact hm m (by omega) ht

end Assembly

theorem Numbering.triangles_eq {s : Skeleton} (ν : Numbering s) :
    ν.triangles = s.tubes.flatMap (fun t => walls t.isInner (s.count t) (ν.start t) s.height) ++
      s.tip?.toList.flatMap (fun i =>
        MeshBuilder.fan ν.apex (ν.start .outer i) (s.count .outer i) true) := by
  rw [triangles, Skeleton.quads, List.flatMap_assoc]
  refine congrArg (· ++ _) (List.flatMap_congr fun t _ => ?_)
  rw [List.flatMap_assoc]
  refine List.flatMap_congr fun i _ => ?_
  split
  · rw [List.flatMap_map]
    rfl
  · rfl

/-- The starts of the blocks when the tip gets a block at the end. -/
def withTip (start : Tube → Nat → Nat) (i first : Nat) : Tube → Nat → Nat :=
  Function.update start .outer (Function.update (start .outer) i first)

theorem withTip_self (start : Tube → Nat → Nat) (i first : Nat) :
    withTip start i first .outer i = first := by
  rw [withTip, Function.update_self, Function.update_self]

theorem withTip_of_ne {start : Tube → Nat → Nat} {i first : Nat} {t : Tube} {k : Nat}
    (h : (t, k) ≠ (.outer, i)) : withTip start i first t k = start t k := by
  by_cases ht : t = .outer
  · subst ht
    rw [withTip, Function.update_self]
    exact Function.update_of_ne (fun hk => h (congrArg _ hk)) _ _
  · rw [withTip, Function.update_of_ne ht]

/-! ## What is told -/

/-- Are neighbouring rings there that differ in their counts? -/
def Mismatched (count : Nat → Nat) (i : Nat) : Prop :=
  count i ≠ 0 ∧ count (i + 1) ≠ 0 ∧ count i ≠ count (i + 1)

instance (count : Nat → Nat) (i : Nat) : Decidable (Mismatched count i) :=
  inferInstanceAs (Decidable (_ ∧ _ ∧ _))

/-- The warnings about the rings of a tube. -/
def mismatches (mismatch : Nat → Nat → Nat → LoftWarning) (count : Nat → Nat) (height : Nat) :
    List LoftWarning :=
  (List.range height).flatMap (fun i =>
    if Mismatched count i then [mismatch i (count i) (count (i + 1))] else [])

/-- The warning about rings of a tube. -/
def Tube.mismatch : Tube → Nat → Nat → Nat → LoftWarning
  | outer => .outerMismatch
  | hole slot => .holeMismatch slot

theorem warnings_stitch (reverse : Bool) (mismatch : Nat → Nat → Nat → LoftWarning)
    (rings : List (Ring α)) (i : Nat) (block : Option Nat) (b : MeshBuilder α) :
    (stitch reverse mismatch i block rings b).2.2
      = mismatches (fun k => mismatch (i + k)) (ringCount rings) rings.length := by
  induction rings generalizing i block b with
  | nil => rfl
  | cons lower tail ih =>
    cases tail with
    | nil => simp [stitch, mismatches, Mismatched, ringCount]
    | cons upper rest =>
      have hrest : mismatches (fun k => mismatch (i + k)) (ringCount (lower :: upper :: rest))
          (lower :: upper :: rest).length
        = (if Mismatched (ringCount (lower :: upper :: rest)) 0
            then [mismatch i lower.length upper.length] else []) ++
          mismatches (fun k => mismatch (i + 1 + k)) (ringCount (upper :: rest))
            (upper :: rest).length := by
        rw [mismatches, List.length_cons, List.range_succ_eq_map, List.flatMap_cons,
          List.flatMap_map]
        simp only [Nat.succ_eq_add_one, ← Nat.add_assoc, Nat.add_right_comm i _ 1]
        rfl
      have hmismatched : Mismatched (ringCount (lower :: upper :: rest)) 0 ↔
          ¬ (lower.isEmpty || upper.isEmpty) = true ∧ lower.length ≠ upper.length := by
        have hcounts : ringCount (lower :: upper :: rest) 0 = lower.length ∧
            ringCount (lower :: upper :: rest) 1 = upper.length := ⟨rfl, rfl⟩
        rw [Mismatched, hcounts.1, hcounts.2]
        cases lower <;> cases upper <;> simp
      rw [hrest, stitch]
      split
      · next hempty =>
        rw [if_neg fun h => (hmismatched.mp h).1 hempty, List.nil_append]
        exact ih (i + 1) none b
      · next hempty =>
        split
        · next hlength =>
          rw [if_pos (hmismatched.mpr ⟨hempty, hlength⟩)]
          exact congrArg (List.cons _) (ih (i + 1) none b)
        · next hlength =>
          rw [if_neg fun h => hlength (hmismatched.mp h).2, List.nil_append]
          exact ih (i + 1) _ _

theorem warnings_stitchHoles (placed : List (PlacedSection α)) (b : MeshBuilder α) :
    (stitchHoles placed b).2 = (List.range (slotCount placed)).flatMap (fun slot =>
      mismatches (LoftWarning.holeMismatch slot)
        (ringCount ((Tube.hole slot).rings placed)) placed.length) := by
  rw [stitchHoles]
  generalize slotCount placed = m
  induction m with
  | zero => rfl
  | succ m ih =>
    rw [List.range_succ, List.foldl_concat, List.flatMap_append, ← ih, stitchSlot]
    refine congrArg (_ ++ ·) ?_
    rw [warnings_stitch]
    simp only [Nat.zero_add, List.flatMap_cons, List.flatMap_nil, List.append_nil]
    exact congrArg _ (Tube.length_rings (.hole m) placed)

/-- A stack tells about outlines that have collapsed, and then about rings that do not fit, tube by
tube. -/
theorem warnings_assemble [Scalar α] (placed : List (PlacedSection α)) (closeTip : Bool) :
    (assemble placed closeTip).2 = collapseWarnings placed closeTip ++
      (Tube.all (slotCount placed)).flatMap (fun t =>
        mismatches t.mismatch (ringCount (t.rings placed)) placed.length) := by
  let outer := stitch false LoftWarning.outerMismatch 0 none (placed.map PlacedSection.outer)
    MeshBuilder.empty
  have hassemble : (assemble placed closeTip).2
      = collapseWarnings placed closeTip ++ outer.2.2 ++ (stitchHoles placed outer.2.1).2 := rfl
  have houter : outer.2.2 = mismatches LoftWarning.outerMismatch
      (ringCount (placed.map PlacedSection.outer)) placed.length := by
    rw [warnings_stitch, List.length_map]
    simp only [Nat.zero_add]
  rw [hassemble, houter, warnings_stitchHoles, Tube.all, List.flatMap_cons, List.flatMap_map,
    ← List.append_assoc]
  rfl

/-! ## The whole stack -/

variable [Scalar α]

/-- The ring that gets closed by a fan, if one does. -/
def tip? (placed : List (PlacedSection α)) (closeTip : Bool) : Option Nat :=
  if closeTip && placed.getLast?.any hasCollapsed then some (placed.length - 1) else none

/-- The skeleton of a stack in which all rings that are needed have three vertices. -/
def skeleton (placed : List (PlacedSection α)) (closeTip : Bool)
    (hthree : ∀ {t i}, Stitched (ringCount (Tube.rings t placed)) i →
      3 ≤ ringCount (Tube.rings t placed) i)
    (htip : ∀ {i}, tip? placed closeTip = some i → 3 ≤ ringCount (Tube.outer.rings placed) i) :
    Skeleton where
  count t := ringCount (t.rings placed)
  height := placed.length
  slots := slotCount placed
  tip? := tip? placed closeTip
  stitched_lt h := by
    have hlt := lt_length_of_stitched h
    rw [Tube.length_rings] at hlt
    omega
  slot_lt h := slot_lt_slotCount h.1
  three_le := hthree
  three_le_tip := htip
  not_stitched_tip h hstitched := by
    have hlt := lt_length_of_stitched hstitched
    rw [Tube.length_rings] at hlt
    unfold Loft.tip? at h
    split at h
    · cases h
      omega
    · cases h

theorem tip?_eq_some_iff {placed : List (PlacedSection α)} {closeTip : Bool} {i : Nat} :
    tip? placed closeTip = some i ↔ closeTip = true ∧ placed.length = i + 1 ∧
      ∃ p, placed[i]? = some p ∧ hasCollapsed p = true := by
  rw [tip?, List.getLast?_eq_getElem?]
  constructor
  · intro h
    split at h
    · next hclosed =>
      obtain ⟨hclose, hlast⟩ := Bool.and_eq_true_iff.mp hclosed
      cases h
      cases hp : placed[placed.length - 1]? with
      | none =>
        rw [hp] at hlast
        cases hlast
      | some p =>
        rw [hp] at hlast
        obtain ⟨hlt, -⟩ := List.getElem?_eq_some_iff.mp hp
        exact ⟨hclose, by omega, p, rfl, hlast⟩
    · cases h
  · rintro ⟨hclose, hlength, p, hp, hcollapsed⟩
    rw [hlength, Nat.add_sub_cancel, hp, hclose, Option.any_some, hcollapsed]
    rfl

theorem closeLast_of_collapsed {placed : List (PlacedSection α)} {p : PlacedSection α} {i : Nat}
    (hlength : placed.length = i + 1) (hp : placed[i]? = some p)
    (hcollapsed : hasCollapsed p = true) (block : Option Nat) (b : MeshBuilder α) :
    closeLast placed block b = (blockOf block p.outer b).2.addFan (blockOf block p.outer b).1
      p.outer.length [ringCenter p.outer] true := by
  have hlast : placed.getLast? = some p := by
    rw [List.getLast?_eq_getElem?, hlength]
    exact hp
  simp only [closeLast, hlast, if_pos hcollapsed]

theorem closeLast_of_open {placed : List (PlacedSection α)} {closeTip : Bool}
    (h : tip? placed closeTip = none) (block : Option Nat) (b : MeshBuilder α) :
    (if closeTip then closeLast placed block b else b) = b := by
  unfold tip? at h
  cases closeTip with
  | false => rfl
  | true =>
    rw [if_pos rfl, closeLast]
    cases hlast : placed.getLast? with
    | none => rfl
    | some p =>
      have hopen : ¬ hasCollapsed p = true := by
        intro hcollapsed
        simp [hlast, hcollapsed] at h
      simp only [if_neg hopen]

/-- The rings with a block of vertices: those of walls, and the closed tip if it is none of them. -/
def blocks (placed : List (PlacedSection α)) (closeTip : Bool) : List (Tube × Nat) :=
  walledRings placed (Tube.all (slotCount placed)) ++
    ((tip? placed closeTip).toList.filter (fun i =>
      decide (¬ Walled (ringCount (Tube.outer.rings placed)) i))).map (fun i => (.outer, i))

/-- The number of the apex, which comes behind all blocks. -/
def apexOf (placed : List (PlacedSection α)) (closeTip : Bool) : Nat :=
  ((blocks placed closeTip).map (fun r => (ringAt placed r).length)).sum

theorem mem_blocks {placed : List (PlacedSection α)} {closeTip : Bool} {t : Tube} {i : Nat} :
    (t, i) ∈ blocks placed closeTip ↔
      Walled (ringCount (t.rings placed)) i ∨ (t = .outer ∧ tip? placed closeTip = some i) := by
  rw [blocks, List.mem_append, mem_walledRings, and_iff_right_of_imp mem_all_of_walled]
  simp only [List.mem_map, List.mem_filter, Option.mem_toList, decide_eq_true_eq,
    Prod.mk.injEq]
  constructor
  · rintro (h | ⟨j, ⟨htip, -⟩, rfl, rfl⟩)
    · exact .inl h
    · exact .inr ⟨rfl, htip⟩
  · rintro (h | ⟨rfl, htip⟩)
    · exact .inl h
    · by_cases h : Walled (ringCount (Tube.outer.rings placed)) i
      · exact .inl h
      · exact .inr ⟨i, ⟨htip, h⟩, rfl, rfl⟩

theorem nodup_blocks (placed : List (PlacedSection α)) (closeTip : Bool) :
    (blocks placed closeTip).Nodup := by
  refine List.nodup_append.mpr ⟨nodup_walledRings (Tube.nodup_all _), ?_, ?_⟩
  · cases tip? placed closeTip with
    | none => exact List.nodup_nil
    | some i => exact ((List.nodup_singleton i).filter _).map fun i j h => congrArg Prod.snd h
  · rintro ⟨t, i⟩ hr r' hr' rfl
    obtain ⟨j, hj, h⟩ := List.mem_map.mp hr'
    cases h
    exact of_decide_eq_true (List.mem_filter.mp hj).2 (mem_walledRings.mp hr).2

/-- Vertices and triangles of a stack: the rings one after the other and then the apex, the walls
tube by tube and then the fan. -/
structure Assembled (placed : List (PlacedSection α)) (closeTip : Bool) (b : MeshBuilder α)
    (start : Tube → Nat → Nat) : Prop where
  triangles : b.triangles.toList
    = (Tube.all (slotCount placed)).flatMap (fun t =>
        walls t.isInner (ringCount (t.rings placed)) (start t) placed.length) ++
      (tip? placed closeTip).toList.flatMap (fun i => MeshBuilder.fan (apexOf placed closeTip)
        (start .outer i) (ringCount (Tube.outer.rings placed) i) true)
  vertices : b.vertices.toList = (blocks placed closeTip).flatMap (ringAt placed) ++
    (tip? placed closeTip).toList.map (fun i => ringCenter (ringAt placed (.outer, i)))
  laid : Laid (fun r => (ringAt placed r).length) (fun r => start r.1 r.2) 0
    (blocks placed closeTip)

section Assembled

variable (placed : List (PlacedSection α)) (closeTip : Bool)

/-- Every stack is assembled to its rings and walls, and the tip to its fan. -/
theorem exists_assembled :
    ∃ start, Assembled placed closeTip (assemble placed closeTip).1 start := by
  let outer := stitch false LoftWarning.outerMismatch 0 none (placed.map PlacedSection.outer)
    MeshBuilder.empty
  let b := (stitchHoles placed outer.2.1).1
  have hassemble : (assemble placed closeTip).1
      = if closeTip then closeLast placed outer.1 b else b := rfl
  obtain ⟨outerStart, houter⟩ := stitch_spec false LoftWarning.outerMismatch
    (placed.map PlacedSection.outer) 0 none (MeshBuilder.empty : MeshBuilder α)
  have hone := (Assembly.nil placed MeshBuilder.empty fun _ _ => 0).concat (t := Tube.outer) nofun
    houter
  obtain ⟨start, hall, hsame⟩ := hone.holes (slotCount placed) (by simp) []
  replace hall : Assembly placed (Tube.all (slotCount placed)) .empty b start := hall
  cases hclosed : tip? placed closeTip with
  | none =>
    have hblocks : blocks placed closeTip = walledRings placed (Tube.all (slotCount placed)) := by
      simp [blocks, hclosed]
    refine ⟨start, ?_, ?_, ?_⟩
    · rw [hassemble, closeLast_of_open hclosed, hclosed]
      exact hall.triangles.trans (List.append_nil _).symm
    · rw [hassemble, closeLast_of_open hclosed, hclosed, hblocks]
      exact hall.vertices.trans (List.append_nil _).symm
    · rw [hblocks]
      exact hall.laid
  | some i =>
    obtain ⟨hclose, hlength, p, hp, hcollapsed⟩ := tip?_eq_some_iff.mp hclosed
    have hring : ringAt placed (.outer, i) = p.outer := by
      rw [ringAt, Tube.getD_rings, hp]
      rfl
    have hlast := houter.last_eq i (by simpa using hlength)
    have habove : ¬ Stitched (ringCount (Tube.outer.rings placed)) i := by
      intro h
      have hlt := lt_length_of_stitched h
      rw [Tube.length_rings] at hlt
      omega
    -- the fan comes behind the blocks, and its ring is where `block` says
    have hfan : ∀ {start' : Tube → Nat → Nat} {b' : MeshBuilder α},
        Assembly placed (Tube.all (slotCount placed)) .empty b start' →
        blockOf outer.1 p.outer b = (start' .outer i, b') → b'.triangles = b.triangles →
        b'.vertices.toList = (blocks placed closeTip).flatMap (ringAt placed) →
        Laid (fun r => (ringAt placed r).length) (fun r => start' r.1 r.2) 0
          (blocks placed closeTip) →
        Assembled placed closeTip (assemble placed closeTip).1 start' := by
      intro start' b' hall' hblock htriangles hvertices hlaid
      have hcount : b'.vertexCount = apexOf placed closeTip := by
        rw [← MeshBuilder.length_toList_vertices, hvertices, List.length_flatMap, apexOf]
      rw [hassemble, if_pos hclose, closeLast_of_collapsed hlength hp hcollapsed, hblock]
      refine ⟨?_, ?_, hlaid⟩
      · rw [MeshBuilder.addFan, MeshBuilder.toList_addTriangles, hclosed, ← hcount, ← hring]
        simp only [Option.toList_some, List.flatMap_cons, List.flatMap_nil, List.append_nil]
        refine congrArg (· ++ _) ?_
        exact (congrArg Array.toList htriangles).trans hall'.triangles
      · rw [hclosed, ← hvertices, Option.toList_some, List.map_singleton, hring]
        exact MeshBuilder.toList_addVertices b' _
    -- the ring of the tip has a block already if a wall ends there
    by_cases hbelow : StitchedBelow (ringCount (Tube.outer.rings placed)) i
    · have hblocks : blocks placed closeTip = walledRings placed (Tube.all (slotCount placed)) := by
        simp [blocks, hclosed, Walled, hbelow]
      have hblock : outer.1 = some (start .outer i) := by
        rw [hsame .outer (.head _)]
        exact hlast.1 hbelow
      have hplaced : blockOf outer.1 p.outer b = (start .outer i, b) := by
        rw [hblock]
        rfl
      refine ⟨start, hfan hall hplaced rfl ?_ ?_⟩
      · rw [hblocks]
        exact hall.vertices
      · rw [hblocks]
        exact hall.laid
    · have hblocks : blocks placed closeTip
          = walledRings placed (Tube.all (slotCount placed)) ++ [(.outer, i)] := by
        simp [blocks, hclosed, Walled, habove, hbelow]
      have hblock : outer.1 = none := by
        rw [hlast.2 hbelow, ite_self]
      have hplaced : blockOf outer.1 p.outer b
          = (withTip start i b.vertexCount .outer i, b.addVertices p.outer) := by
        rw [hblock, withTip_self]
        rfl
      have hall' : Assembly placed (Tube.all (slotCount placed)) .empty b
          (withTip start i b.vertexCount) := hall.congr fun t _ k hk => withTip_of_ne fun h => by
        cases h
        exact hk.elim habove hbelow
      refine ⟨withTip start i b.vertexCount, hfan hall' hplaced rfl ?_ ?_⟩
      · rw [hblocks, List.flatMap_append, MeshBuilder.toList_addVertices, hall.vertices]
        simp only [List.flatMap_cons, List.flatMap_nil, List.append_nil, hring]
        rfl
      · rw [hblocks, laid_append]
        refine ⟨hall'.laid, ?_, trivial⟩
        exact (withTip_self _ _ _).trans hall.vertexCount_eq

/-- A stack is assembled to the triangles of its skeleton, with a block for every ring it needs. -/
theorem assemble_spec
    (hthree : ∀ {t i}, Stitched (ringCount (Tube.rings t placed)) i →
      3 ≤ ringCount (Tube.rings t placed) i)
    (htip : ∀ {i}, tip? placed closeTip = some i → 3 ≤ ringCount (Tube.outer.rings placed) i) :
    ∃ ν : Numbering (skeleton placed closeTip hthree htip),
      (assemble placed closeTip).1.triangles.toList = ν.triangles ∧
      ∀ {t i}, (skeleton placed closeTip hthree htip).Used t i →
        (assemble placed closeTip).1.Block (ν.start t i) ((t.rings placed).getD i []) := by
  obtain ⟨start, h⟩ := exists_assembled placed closeTip
  have hmem : ∀ {t i}, (skeleton placed closeTip hthree htip).Used t i →
      (t, i) ∈ blocks placed closeTip := fun hused => mem_blocks.mpr (or_assoc.mpr hused)
  let ν : Numbering (skeleton placed closeTip hthree htip) := {
    start := start
    apex := apexOf placed closeTip
    disjoint := fun hused hused' hne => h.laid.disjoint (hmem hused) (hmem hused') hne
    le_apex := fun hused => Nat.zero_add (apexOf placed closeTip) ▸ h.laid.le_sum (hmem hused) }
  refine ⟨ν, ?_, fun hused => ?_⟩
  · rw [h.triangles, ν.triangles_eq]
    rfl
  · exact Laid.block [] h.laid h.vertices (hmem hused)

end Assembled

end Loft

end LoftGraph
