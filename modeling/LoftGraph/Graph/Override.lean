import LoftGraph.Decimal.Layout
import LoftGraph.Value.Basic

/-!
# Values set on the inputs of a node

An override sets a value on an input.  It goes by the name of the input; a document may also name
one by a number, a truth value or the absent value, and then it reaches no input but stays where
it is.  Names that are equal as values are one name, so that a truth value is the same name as
zero or one.

* `Overrides.toPorts` are the overrides that reach an input, `Overrides.strays` the others.
* `Overrides.spelled` are all of them by the spelling of their names, which is their form in a
  document.
* Setting an input is seen by it and by no other (`value?_toPorts_set`).
-/

namespace LoftGraph

/-- What a name of an override is, apart from its spelling. -/
inductive NameIdentity where
  | text (s : String)
  | absent
  /-- A number without a fraction, or a truth value. -/
  | whole (i : Int)
  | real (bits : UInt64)
  deriving Repr, DecidableEq

/-- What a number is as a name. -/
def NameIdentity.ofFloat (x : Float) : NameIdentity :=
  match Binary.ofFloat? x with
  | some b => if b.scaled.1 % b.scaled.2 = 0 then .whole b.truncate else .real x.toBits
  | none => .real x.toBits

/-- A name of an override: what it is, and how it is spelled. -/
structure OverrideName where
  identity : NameIdentity
  spelling : String
  deriving Repr

namespace OverrideName

def ofPort (id : String) : OverrideName := ⟨.text id, id⟩

/-- The name a value is, if it can be one. -/
def ofValue? : Value → Option OverrideName
  | .text s => some (ofPort s)
  | .null => some ⟨.absent, "null"⟩
  | .bool b => some ⟨.whole (if b then 1 else 0), if b then "true" else "false"⟩
  | .int i => some ⟨.whole i, toString i⟩
  | .float x => some ⟨.ofFloat x, NumberLayout.json.write x⟩
  | _ => none

/-- The input of this name, if it is one of an input. -/
def port? (name : OverrideName) : Option String :=
  match name.identity with
  | .text id => some id
  | _ => none

@[simp] theorem port?_ofPort (id : String) : (ofPort id).port? = some id := rfl

end OverrideName

/-- The overrides of a node, in the order in which their names first came. -/
abbrev Overrides := List (OverrideName × Value)

namespace Overrides

/-- Sets an override: where its name already stands, with the spelling it has there, else at the
end. -/
def set : Overrides → OverrideName → Value → Overrides
  | [], name, value => [(name, value)]
  | (first, old) :: rest, name, value =>
    if first.identity = name.identity then (first, value) :: rest
    else (first, old) :: set rest name value

def ofPorts (entries : List (String × Value)) : Overrides :=
  entries.map (fun entry => (.ofPort entry.1, entry.2))

/-- The overrides that reach an input, by its name. -/
def toPorts (os : Overrides) : Fields Value :=
  os.filterMap (fun entry => entry.1.port?.map (fun id => (id, entry.2)))

/-- The overrides that reach no input, by their spelling. -/
def strays (os : Overrides) : Fields Value :=
  (os.filter (fun entry => entry.1.port?.isNone)).map (fun entry => (entry.1.spelling, entry.2))

/-- All overrides by the spelling of their names. -/
def spelled (os : Overrides) : Fields Value :=
  os.map (fun entry => (entry.1.spelling, entry.2))

/-- Takes the override of an input away. -/
def without (os : Overrides) (port : String) : Overrides :=
  os.filter (fun entry => entry.1.port? ≠ some port)

@[simp] theorem toPorts_nil : toPorts [] = [] := rfl

@[simp] theorem toPorts_ofPorts (entries : List (String × Value)) :
    toPorts (ofPorts entries) = entries := by
  induction entries with
  | nil => rfl
  | cons entry rest ih => simpa [toPorts, ofPorts] using ih

@[simp] theorem strays_ofPorts (entries : List (String × Value)) :
    strays (ofPorts entries) = [] := by
  induction entries with
  | nil => rfl
  | cons entry rest ih => simpa [strays, ofPorts] using ih

theorem toPorts_cons (entry : OverrideName × Value) (rest : Overrides) :
    toPorts (entry :: rest)
      = (entry.1.port?.map (fun id => (id, entry.2))).toList ++ toPorts rest := by
  cases h : entry.1.port? <;> simp [toPorts, h]

theorem strays_cons (entry : OverrideName × Value) (rest : Overrides) :
    strays (entry :: rest)
      = (if entry.1.port?.isNone then [(entry.1.spelling, entry.2)] else []) ++ strays rest := by
  by_cases h : entry.1.port?.isNone <;> simp [strays, h]

/-- Setting the override of an input writes it among those of the inputs. -/
theorem toPorts_set (os : Overrides) (port : String) (value : Value) :
    toPorts (set os (.ofPort port) value) = (toPorts os).set port value := by
  induction os with
  | nil => rfl
  | cons entry rest ih =>
      obtain ⟨⟨identity, spelling⟩, old⟩ := entry
      cases identity with
      | text id =>
          by_cases h : id = port
          · subst h
            simp [set, OverrideName.ofPort, toPorts_cons, OverrideName.port?, Fields.set]
          · simp [set, OverrideName.ofPort, toPorts_cons, OverrideName.port?, Fields.set, h] at ih ⊢
            exact ih
      | absent => simpa [set, OverrideName.ofPort, toPorts_cons, OverrideName.port?] using ih
      | whole i => simpa [set, OverrideName.ofPort, toPorts_cons, OverrideName.port?] using ih
      | real bits => simpa [set, OverrideName.ofPort, toPorts_cons, OverrideName.port?] using ih

/-- Setting an input leaves alone what reaches none. -/
theorem strays_set (os : Overrides) (port : String) (value : Value) :
    strays (set os (.ofPort port) value) = strays os := by
  induction os with
  | nil => rfl
  | cons entry rest ih =>
    obtain ⟨⟨identity, spelling⟩, old⟩ := entry
    by_cases h : identity = .text port
    · subst h
      simp [set, OverrideName.ofPort, strays_cons, OverrideName.port?]
    · simp only [set, OverrideName.ofPort, h, if_false, strays_cons] at ih ⊢
      rw [ih]

/-- Taking the override of an input away takes it from those of the inputs. -/
theorem toPorts_without (os : Overrides) (port : String) :
    toPorts (os.without port) = (toPorts os).without port := by
  rw [toPorts, without, List.filterMap_filter, toPorts, Fields.without, List.filter_filterMap]
  refine congrArg (List.filterMap · os) (funext fun entry => ?_)
  cases entry.1.port? with
  | none => rfl
  | some id => by_cases h : id = port <;> simp [h, Option.filter]

theorem strays_without (os : Overrides) (port : String) : strays (os.without port) = strays os := by
  rw [strays, without, List.filter_filter, strays]
  congr 1
  refine List.filter_congr fun entry _ => ?_
  cases entry.1.port? <;> simp

/-- Setting an input is seen by it and by no other. -/
theorem value?_toPorts_set (os : Overrides) (port other : String) (value : Value) :
    (toPorts (set os (.ofPort port) value)).value? other
      = if port = other then some value else (toPorts os).value? other := by
  rw [toPorts_set]
  split
  · next h => subst h; simp
  · next h => exact Fields.value?_set_of_ne h

end Overrides

end LoftGraph
