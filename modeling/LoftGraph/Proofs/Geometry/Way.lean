import Mathlib.Algebra.BigOperators.Group.List.Basic
import LoftGraph.Geometry.Polygon

/-!
# Ways through points

The edges of a polygon are the steps of a way that ends where it begins (`edges_eq_steps`).  What
the steps of a way contribute to a sum is collected by `along`, and by `around` for the way round a
polygon.  A way back contributes what the way does with every step turned round
(`around_reverse`), and where a way round begins makes no difference (`around_shifted`).
-/

namespace LoftGraph.Polygon

variable {α : Type}

/-- The steps of a way through points. -/
def steps : List (Point α) → List (Point α × Point α)
  | p :: q :: rest => (p, q) :: steps (q :: rest)
  | _ => []

theorem zip_eq_steps (p : Point α) (rest : List (Point α)) (last : Point α) :
    (p :: rest).zip (rest ++ [last]) = steps (p :: (rest ++ [last])) := by
  induction rest generalizing p with
  | nil => rfl
  | cons q rest ih => exact congrArg ((p, q) :: ·) (ih q)

/-- The edges of a polygon are the steps of the way round it. -/
theorem edges_eq_steps (p : Point α) (rest : List (Point α)) :
    edges (p :: rest) = steps (p :: (rest ++ [p])) := zip_eq_steps p rest p

theorem steps_append (ps : List (Point α)) (q : Point α) (rest : List (Point α)) :
    steps (ps ++ q :: rest) = steps (ps ++ [q]) ++ steps (q :: rest) := by
  induction ps with
  | nil => rfl
  | cons p ps ih =>
    cases ps with
    | nil => rfl
    | cons p' ps => exact congrArg ((p, p') :: ·) ih

/-- Every step begins where the one before it ends. -/
theorem steps_linked (ps : List (Point α)) : (steps ps).IsChain fun e e' => e.2 = e'.1 := by
  match ps with
  | [] | [_] | [_, _] => simp [steps]
  | _ :: q :: r :: rest => exact .cons_cons rfl (steps_linked (q :: r :: rest))

/-- A step joins two points of the way. -/
theorem mem_of_mem_steps {ps : List (Point α)} {e : Point α × Point α} (he : e ∈ steps ps) :
    e.1 ∈ ps ∧ e.2 ∈ ps := by
  match ps, he with
  | p :: q :: rest, he =>
    rcases List.mem_cons.mp he with rfl | he
    · exact ⟨.head _, .tail _ (.head _)⟩
    · exact (mem_of_mem_steps he).imp (.tail p) (.tail p)

variable {M : Type} [AddCommMonoid M] (f : Point α → Point α → M)

/-- What the steps of a way contribute together. -/
def along (ps : List (Point α)) : M := ((steps ps).map fun e => f e.1 e.2).sum

/-- What the edges of a polygon contribute together. -/
def around (p : Polygon α) : M := (p.edges.map fun e => f e.1 e.2).sum

@[simp] theorem along_cons_cons (p q : Point α) (rest : List (Point α)) :
    along f (p :: q :: rest) = f p q + along f (q :: rest) := rfl

@[simp] theorem along_singleton (p : Point α) : along f [p] = 0 := rfl

theorem along_append (ps : List (Point α)) (q : Point α) (rest : List (Point α)) :
    along f (ps ++ q :: rest) = along f (ps ++ [q]) + along f (q :: rest) := by
  rw [along, steps_append, List.map_append, List.sum_append, along, along]

theorem along_replicate {p : Point α} (h : f p p = 0) (n : Nat) :
    along f (List.replicate n p) = 0 := by
  match n with
  | 0 | 1 => rfl
  | n + 2 =>
    rw [List.replicate_succ, List.replicate_succ, along_cons_cons, h, zero_add,
      ← List.replicate_succ]
    exact along_replicate h (n + 1)

theorem around_cons (p : Point α) (rest : List (Point α)) :
    around f (p :: rest) = along f (p :: (rest ++ [p])) := by
  rw [around, edges_eq_steps, along]

/-- A way back contributes what the way contributes with its steps turned round. -/
theorem along_reverse (ps : List (Point α)) : along f ps.reverse = along (fun q p => f p q) ps := by
  match ps with
  | [] => rfl
  | [p] => rfl
  | p :: q :: rest =>
    have ih := along_reverse (q :: rest)
    rw [List.reverse_cons] at ih
    rw [List.reverse_cons, List.reverse_cons, List.append_assoc, List.singleton_append,
      along_append, ih, along_cons_cons, along_cons_cons, along_singleton, add_zero, add_comm]

/-- It makes no difference where the way round a polygon begins. -/
theorem around_shifted (p : Polygon α) : around f (shifted p) = around f p := by
  match p with
  | [] => rfl
  | [p] => rfl
  | p :: q :: rest =>
    have hway : q :: (rest ++ [p] ++ [q]) = (q :: rest) ++ p :: [q] := by simp
    calc around f (q :: (rest ++ [p]))
        = along f (q :: (rest ++ [p])) + f p q := by
          rw [around_cons, hway, along_append, along_cons_cons, along_singleton, add_zero,
            List.cons_append]
      _ = along f (p :: q :: (rest ++ [p])) := by rw [along_cons_cons, add_comm]
      _ = around f (p :: q :: rest) := (around_cons f p (q :: rest)).symm

/-- A polygon turned round contributes what it contributes with its edges turned round. -/
theorem around_reverse (p : Polygon α) : around f p.reverse = around (fun v u => f u v) p := by
  cases p with
  | nil => rfl
  | cons p rest =>
    have hshifted : (p :: rest).reverse = shifted (p :: rest.reverse) := List.reverse_cons
    have hway : p :: (rest.reverse ++ [p]) = (p :: (rest ++ [p])).reverse := by simp
    rw [hshifted, around_shifted, around_cons, hway, along_reverse, around_cons]

end LoftGraph.Polygon
