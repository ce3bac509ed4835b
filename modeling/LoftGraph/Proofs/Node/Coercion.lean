import LoftGraph.Node.Inputs
import LoftGraph.Proofs.Number.Exact

/-!
# Values that pass a port unchanged

What nodes put out is of the kind that their consumers declare, and coercion leaves it as it is:
placements (`coerce_placements`), outlines with the removed ones among them (`coerce_outlines`) and
sections (`coerce_sections`). A whole number becomes a floating point number; where that loses
nothing, it is read back as a count (`Inputs.count_ofInt`).
-/

namespace LoftGraph

/-- What is written item by item is read back item by item. -/
theorem mapM_map_of_leftInverse {m : Type → Type} [Monad m] [LawfulMonad m] {α β : Type}
    (read : β → m α) (write : α → β) (h : ∀ x, read (write x) = pure x) (xs : List α) :
    (xs.map write).mapM read = pure xs := by
  induction xs with
  | nil => rfl
  | cons x rest ih => rw [List.map_cons, List.mapM_cons, h, pure_bind, ih, pure_bind]

theorem listed?_placements (ps : List (Placement Quantity)) :
    Coercion.listed? Coercion.placement? (.list (ps.map .placement)) = some ps :=
  mapM_map_of_leftInverse Coercion.placement? Value.placement (fun _ => rfl) ps

theorem listed?_sections (ss : List (CrossSection Quantity)) :
    Coercion.listed? Coercion.crossSection? (.list (ss.map .crossSection)) = some ss :=
  mapM_map_of_leftInverse Coercion.crossSection? Value.crossSection (fun _ => rfl) ss

namespace DataKind

theorem coerce_float (x : Float) : number.coerce (.float x) = .ok (.float x) := rfl

theorem coerce_int {i : Int} (h : HeldExactly i) :
    number.coerce (.int i) = .ok (.float (Float.ofInt i)) := by
  have hwhole : Value.wholeNumber i = .ok (Float.ofInt i) := by
    rw [Value.wholeNumber, floatOfInt?, h.2]
    rfl
  have hread : Coercion.toNumber (.int i) = .ok (Float.ofInt i) := by
    rw [Coercion.toNumber, Value.number, hwhole]
    rfl
  rw [coerce, coerceValue, hread]
  rfl

theorem coerce_bool (b : Bool) : boolean.coerce (.bool b) = .ok (.bool b) := rfl

theorem coerce_text (s : String) : string.coerce (.text s) = .ok (.text s) := rfl

theorem coerce_shape (k : ShapeKind) : shapeKind.coerce (.shape k) = .ok (.shape k) := rfl

theorem coerce_placements (ps : List (Placement Quantity)) :
    pattern.coerce (.list (ps.map .placement)) = .ok (.list (ps.map .placement)) := by
  have hread : Coercion.toPattern (.list (ps.map .placement)) = .ok ps := by
    rw [Coercion.toPattern, listed?_placements]
  rw [coerce, coerceValue, hread]
  rfl

theorem coerce_sections (ss : List (CrossSection Quantity)) :
    crossSectionSet.coerce (.list (ss.map .crossSection)) = .ok (.list (ss.map .crossSection)) := by
  have hread : Coercion.toSections (.list (ss.map .crossSection)) = .ok ss := by
    rw [Coercion.toSections, listed?_sections]
  rw [coerce, coerceValue, hread]
  rfl

theorem toOutlines_ofOutline (os : Outlines Float) :
    Coercion.toOutlines (.list (os.map .ofOutline)) = .ok os := by
  refine mapM_map_of_leftInverse Coercion.toOutline Value.ofOutline (fun o => ?_) os
  cases o with
  | none => rfl
  | some p =>
    show (Coercion.reading (Value.ofPolygon p).polygon "a polygon" _ >>= _) = _
    rw [Value.polygon_ofPolygon]
    rfl

theorem coerce_outlines (os : Outlines Float) :
    point2DList.coerce (.list (os.map .ofOutline)) = .ok (.list (os.map .ofOutline)) := by
  rw [coerce, coerceValue, toOutlines_ofOutline]
  rfl

end DataKind

/-! ## Reading -/

namespace Inputs

variable {inputs : Inputs} {id : String}

theorem number?_float {x : Float} (h : inputs.value id = .float x) :
    inputs.number? id = some x := by
  rw [number?, h]

theorem need_float {x : Float} (h : inputs.value id = .float x) (use : OpenUse) :
    inputs.need use id = .ok x := by
  rw [need, number?_float h]
  rfl

/-- A count that floating point holds exactly is read as it was given. -/
theorem count_ofInt {i : Int} (hi : HeldExactly i) (h : inputs.value id = .float (Float.ofInt i)) :
    inputs.count id = .ok i := by
  rw [count, need_float h]
  show NodeFault.lift (countOfFloat (Float.ofInt i)) = .ok i
  rw [hi.1]
  rfl

theorem flag_bool {b : Bool} (h : inputs.value id = .bool b) : inputs.flag id = b := by
  rw [flag, h]

theorem text_text {s : String} (h : inputs.value id = .text s) : inputs.text id = s := by
  rw [text, h]

theorem shape_shape {k : ShapeKind} (h : inputs.value id = .shape k) : inputs.shape id = k := by
  rw [shape, h]

theorem pattern?_placements {ps : List (Placement Quantity)}
    (h : inputs.value id = .list (ps.map .placement)) :
    inputs.pattern? id = some (ps.map (Placement.map Measure.ofQuantity)) := by
  rw [pattern?, h, listed?_placements]
  rfl

theorem sections?_sections {ss : List (CrossSection Quantity)}
    (h : inputs.value id = .list (ss.map .crossSection)) : inputs.sections? id = some ss := by
  rw [sections?, h, listed?_sections]

theorem outlines?_outlines {os : Outlines Float} (h : inputs.value id = .list (os.map .ofOutline)) :
    inputs.outlines? id = some os := by
  rw [outlines?, h, DataKind.toOutlines_ofOutline]
  rfl

end Inputs

end LoftGraph
