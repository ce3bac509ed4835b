import LoftGraph.Proofs.Mesh.Beginning
import LoftGraph.Proofs.Traversal

/-!
# The surface of a mesh

What a mesh shows is a sequence of triangles with three corners each. By which numbers a triangle
names its corners makes no difference to what is found there: `Mesh.atCorners?` reads entries, such
as vertices or normals, at the corners of the triangles.

* Triangles over the first entries find what they found when more entries come behind
  (`entryAt?_append`), and triangles whose corner numbers are raised by the entries in front find
  what they found without these (`entryAt?_append_add`).
* Triangles that name three entries each, one behind the other, find the entries by threes
  (`atCorners?_consecutive`).
-/

namespace LoftGraph

/-- In rows of one width an entry is found by its row and its column. -/
theorem getElem?_flatten_of_length {β : Type} (width : Nat) (hwidth : 0 < width)
    {rows : List (List β)} (h : ∀ row ∈ rows, row.length = width) (i : Nat) :
    rows.flatten[i]? = rows[i / width]?.bind (·[i % width]?) := by
  induction rows generalizing i with
  | nil => rfl
  | cons row rest ih =>
    obtain ⟨hrow, hrest⟩ := List.forall_mem_cons.mp h
    rw [List.flatten_cons]
    rcases Nat.lt_or_ge i width with hin | hbehind
    · rw [List.getElem?_append_left (hrow ▸ hin), Nat.div_eq_of_lt hin, Nat.mod_eq_of_lt hin]
      rfl
    · rw [List.getElem?_append_right (hrow ▸ hbehind), hrow, ih hrest,
        Nat.div_eq_sub_div hwidth hbehind, Nat.mod_eq_sub_mod hbehind]
      rfl

namespace Mesh

instance (size : Nat) (t : Triangle) : Decidable (Within size t) :=
  inferInstanceAs (Decidable (∀ corner ∈ t.corners, 0 ≤ corner ∧ corner < size))

variable {β : Type}

/-- The entry a corner number names, if it names one. -/
def entryAt? (entries : Array β) (corner : Int) : Option β :=
  (cornerIndex? entries.size corner).bind (entries[·]?)

/-- The entries at the corners of the triangles, triangle by triangle; nothing if a corner number
names none. -/
def atCorners? (entries : Array β) (triangles : Array Triangle) : Option (List (List β)) :=
  triangles.toList.mapM (fun t => t.corners.mapM (entryAt? entries))

theorem entryAt?_natCast (entries : Array β) (i : Nat) : entryAt? entries i = entries[i]? := by
  rw [entryAt?, cornerIndex?, if_pos (Int.natCast_nonneg i)]
  split
  · rfl
  · next h =>
    rw [Array.getElem?_eq_none (by omega)]
    rfl

theorem entryAt?_append {entries : Array β} {corner : Int} (hpos : 0 ≤ corner)
    (hlt : corner < entries.size) (more : Array β) :
    entryAt? (entries ++ more) corner = entryAt? entries corner := by
  lift corner to Nat using hpos
  rw [entryAt?_natCast, entryAt?_natCast, Array.getElem?_append_left (by omega)]

theorem entryAt?_append_add {corner : Int} (hpos : 0 ≤ corner) (entries more : Array β) :
    entryAt? (entries ++ more) (corner + entries.size) = entryAt? more corner := by
  lift corner to Nat using hpos
  rw [← Int.natCast_add, entryAt?_natCast, entryAt?_natCast,
    Array.getElem?_append_right (Nat.le_add_left _ _), Nat.add_sub_cancel]

theorem exists_entryAt? {entries : Array β} {corner : Int} (hpos : 0 ≤ corner)
    (hlt : corner < entries.size) : ∃ x, entryAt? entries corner = some x := by
  lift corner to Nat using hpos
  exact ⟨_, (entryAt?_natCast entries corner).trans (Array.getElem?_eq_getElem (by omega))⟩

section

variable {entries : Array β} {triangles more : Array Triangle} {rows rows' : List (List β)}

theorem atCorners?_eq_some_iff : atCorners? entries triangles = some rows ↔
    triangles.toList.map (fun t => t.corners.map (entryAt? entries)) = rows.map (·.map some) := by
  rw [atCorners?, mapM_eq_some_iff]
  generalize triangles.toList = ts
  induction ts generalizing rows with
  | nil => cases rows <;> simp
  | cons t rest ih =>
    cases rows with
    | nil => simp
    | cons row rows =>
      simp only [List.map_cons, List.cons.injEq, mapM_eq_some_iff, ih]

theorem atCorners?_append (h : atCorners? entries triangles = some rows)
    (h' : atCorners? entries more = some rows') :
    atCorners? entries (triangles ++ more) = some (rows ++ rows') := by
  rw [atCorners?_eq_some_iff] at h h' ⊢
  rw [Array.toList_append, List.map_append, List.map_append, h, h']

/-- Entries behind those that the triangles name make no difference. -/
theorem atCorners?_append_entries (h : ∀ t ∈ triangles, Within entries.size t) (others : Array β) :
    atCorners? (entries ++ others) triangles = atCorners? entries triangles := by
  rw [atCorners?, atCorners?]
  refine mapM_congr fun t ht => mapM_congr fun corner hc => ?_
  obtain ⟨hpos, hlt⟩ := h t (Array.mem_toList_iff.mp ht) corner hc
  exact entryAt?_append hpos hlt others

/-- Neither do entries in front of them once the corner numbers are raised. -/
theorem atCorners?_shift (h : ∀ t ∈ triangles, Within entries.size t) (others : Array β) :
    atCorners? (others ++ entries) (triangles.map (fun t => t.shift others.size))
      = atCorners? entries triangles := by
  rw [atCorners?, atCorners?, Array.toList_map, List.mapM_map]
  refine mapM_congr fun t ht => ?_
  rw [Function.comp_apply, Triangle.corners_shift, List.mapM_map]
  refine mapM_congr fun corner hc => ?_
  exact entryAt?_append_add (h t (Array.mem_toList_iff.mp ht) corner hc).1 others entries

/-- Triangles over the entries find something at each corner. -/
theorem exists_atCorners? (h : ∀ t ∈ triangles, Within entries.size t) :
    ∃ rows, atCorners? entries triangles = some rows := by
  refine exists_mapM_eq_some fun t ht => exists_mapM_eq_some fun corner hc => ?_
  obtain ⟨hpos, hlt⟩ := h t (Array.mem_toList_iff.mp ht) corner hc
  exact exists_entryAt? hpos hlt

/-- Triangles one behind the other, each by itself, find the entries by threes. -/
theorem atCorners?_consecutive (hrows : ∀ row ∈ rows, row.length = 3) :
    atCorners? rows.flatten.toArray ((Array.range rows.length).map consecutive) = some rows := by
  rw [atCorners?_eq_some_iff, Array.toList_map, Array.toList_range, List.map_map]
  refine List.ext_getElem? fun i => ?_
  rw [List.getElem?_map, List.getElem?_map]
  rcases Nat.lt_or_ge i rows.length with hlt | hge
  · have hentry (k : Nat) (hk : k < 3) :
        entryAt? rows.flatten.toArray ((3 * i + k : Nat) : Int) = rows[i][k]? := by
      rw [entryAt?_natCast, List.getElem?_toArray,
        getElem?_flatten_of_length 3 (by decide) hrows,
        show (3 * i + k) / 3 = i by omega, show (3 * i + k) % 3 = k by omega,
        List.getElem?_eq_getElem hlt]
      rfl
    obtain ⟨x, y, z, hrow⟩ := List.length_eq_three.mp (hrows rows[i] (List.getElem_mem hlt))
    rw [List.getElem?_range hlt, List.getElem?_eq_getElem hlt]
    have h0 := hentry 0 (by decide)
    have h1 := hentry 1 (by decide)
    have h2 := hentry 2 (by decide)
    rw [hrow] at h0 h1 h2 ⊢
    exact congrArg some
      (congrArg₂ List.cons h0 (congrArg₂ List.cons h1 (congrArg₂ List.cons h2 rfl)))
  · rw [List.getElem?_eq_none (by simpa using hge), List.getElem?_eq_none hge]
    rfl

end

/-- Triangles over the vertices find the positions of their corners. -/
theorem atCorners?_vertices {α : Type} [Scalar α] {vertices : Array (Point3 α)}
    {triangles : Array Triangle} (h : ∀ t ∈ triangles, Within vertices.size t) :
    atCorners? vertices triangles
      = some (triangles.toList.map (fun t => t.corners.map (cornerPosition vertices))) := by
  rw [atCorners?_eq_some_iff, List.map_map]
  refine List.map_congr_left fun t ht => ?_
  rw [Function.comp_apply, List.map_map]
  refine List.map_congr_left fun corner hc => ?_
  obtain ⟨hpos, hlt⟩ := h t (Array.mem_toList_iff.mp ht) corner hc
  lift corner to Nat using hpos
  have hplace : corner < vertices.size := by omega
  rw [entryAt?_natCast, Function.comp_apply, cornerPosition,
    cornerIndex?_of_lt (Int.natCast_nonneg corner) hlt, Array.getElem?_eq_getElem hplace]
  exact congrArg some (Array.getElem_eq_getD Point3.zero)

end Mesh

end LoftGraph
