import LoftGraph.Node.Registry
import LoftGraph.Proofs.Graph.Dependency

/-!
# Histories of registrations

A registry that has seen a history of registrations holds the types it has accepted, in the order in
which they came, and all its views agree on them (`registry_shows_accepted`).

* A type is accepted exactly when it is fit to be registered and no fit one of its name came before
  (`Registry.accepted`). One registration decides this by looking at the registry alone
  (`Registry.register_eq_ok_iff`), because a name is taken exactly if a fit type of that name came
  before (`Registry.exists_accepted_iff`).
* The view by categories is a grouping (`Grouped`): the first entry begins its group, and the rest
  of the groups is the grouping of the entries of other keys (`groups_cons`).
* The ports of an accepted type are told apart by their names, so each of them is found under its
  own.
-/

namespace LoftGraph

/-! ## Entries by key -/

section Keys

variable {α : Type} {key : α → String}

/-- Among entries of distinct keys the one of a key is found. -/
theorem find?_eq_some_iff_of_nodup {xs : List α} (h : (xs.map key).Nodup) {k : String} {x : α} :
    xs.find? (fun y => key y = k) = some x ↔ x ∈ xs ∧ key x = k := by
  constructor
  · intro hfind
    exact ⟨List.mem_of_find?_eq_some hfind, by simpa using List.find?_some hfind⟩
  · intro ⟨hmem, hkey⟩
    have hsome : (xs.find? fun y => key y = k).isSome := by
      simpa using ⟨x, hmem, hkey⟩
    obtain ⟨y, hfind⟩ := Option.isSome_iff_exists.mp hsome
    have hsame : key y = key x := by
      simpa [hkey] using List.find?_some hfind
    rw [hfind, List.inj_on_of_nodup_map h (List.mem_of_find?_eq_some hfind) hmem hsame]

/-- Entries in groups of one key, the groups in the order of their first entry. -/
def groups (key : α → String) (xs : List α) : List (String × List α) :=
  (xs.map key).eraseDups.map fun k => (k, xs.filter fun x => key x = k)

/-- Do groups split a list by a key? The entries of a group keep their order, and the groups have
the order of their first entries. -/
structure Grouped (key : α → String) (xs : List α) (gs : List (String × List α)) : Prop where
  nodup : (gs.map Prod.fst).Nodup
  perm : (gs.flatMap Prod.snd).Perm xs
  group : ∀ g ∈ gs, g.2 ≠ [] ∧ g.2 = xs.filter fun x => key x = g.1
  order : (gs.filterMap fun g => g.2.head?).Sublist xs

/-- The entries of the first key are a group, and those of other keys have their own groups. -/
theorem groups_cons (x : α) (rest : List α) :
    groups key (x :: rest) = (key x, x :: rest.filter fun y => key y = key x)
      :: groups key (rest.filter fun y => key y ≠ key x) := by
  have hkeys : (rest.map key).filter (fun k => !k == key x)
      = (rest.filter fun y => key y ≠ key x).map key := by
    rw [List.filter_map]
    refine congrArg _ (List.filter_congr fun y _ => ?_)
    by_cases h : key y = key x <;> simp [h]
  rw [groups, List.map_cons, List.eraseDups_cons, List.map_cons, hkeys, groups]
  refine congrArg₂ List.cons (by simp) (List.map_congr_left fun k hk => ?_)
  obtain ⟨y, hy, rfl⟩ := List.mem_map.mp (List.mem_eraseDups.mp hk)
  have hne : key y ≠ key x := by simpa using (List.mem_filter.mp hy).2
  rw [List.filter_cons_of_neg (by simpa using Ne.symm hne), List.filter_filter]
  refine congrArg _ (List.filter_congr fun z _ => ?_)
  by_cases h : key z = key y <;> simp [h, hne]

/-- A list is split up group by group. -/
theorem groups_induction (key : α → String) {motive : List α → Prop} (nil : motive [])
    (cons : ∀ x rest, motive (rest.filter fun y => key y ≠ key x) → motive (x :: rest))
    (xs : List α) : motive xs := by
  match xs with
  | [] => exact nil
  | x :: rest => exact cons x rest (groups_induction key nil cons _)
termination_by xs.length
decreasing_by exact Nat.lt_succ_of_le (List.length_filter_le _ _)

theorem perm_flatMap_groups (xs : List α) : ((groups key xs).flatMap Prod.snd).Perm xs := by
  induction xs using groups_induction key with
  | nil => exact .nil
  | cons x rest ih =>
    have hsplit := List.filter_append_perm (fun y => decide (key y = key x)) rest
    rw [groups_cons, List.flatMap_cons, List.cons_append]
    refine .cons x ((ih.append_left _).trans ?_)
    simpa using hsplit

theorem heads_groups_sublist (xs : List α) :
    ((groups key xs).filterMap fun g => g.2.head?).Sublist xs := by
  induction xs using groups_induction key with
  | nil => exact .slnil
  | cons x rest ih =>
    rw [groups_cons]
    exact (ih.trans List.filter_sublist).cons_cons x

theorem grouped_groups (key : α → String) (xs : List α) : Grouped key xs (groups key xs) where
  nodup := by
    have hkeys : (groups key xs).map Prod.fst = (xs.map key).eraseDups := by
      simp [groups, Function.comp_def]
    exact hkeys ▸ nodup_eraseDups _
  perm := perm_flatMap_groups xs
  group := by
    intro g hg
    obtain ⟨k, hk, rfl⟩ := List.mem_map.mp hg
    obtain ⟨x, hx, rfl⟩ := List.mem_map.mp (List.mem_eraseDups.mp hk)
    exact ⟨List.ne_nil_of_mem (List.mem_filter.mpr ⟨hx, by simp⟩), rfl⟩
  order := heads_groups_sublist xs

end Keys

/-! ## Ports -/

namespace NodeDefinition

/-- Are the ports found under their names, each once, and the defaults those of the inputs? -/
structure Indexed (d : NodeDefinition) : Prop where
  input : ∀ id port, d.input? id = some port ↔ port ∈ d.inputs ∧ port.id = id
  output : ∀ id port, d.output? id = some port ↔ port ∈ d.outputs ∧ port.id = id
  defaults : d.defaults = d.inputs.map fun port => (port.id, port.default)

theorem portIn?_eq_some_iff {ports : List Port} (h : (ports.map Port.id).Nodup) {id : String}
    {port : Port} : portIn? ports id = some port ↔ port ∈ ports ∧ port.id = id := by
  have hreverse : (ports.reverse.map Port.id).Nodup := by
    rw [List.map_reverse]
    exact List.nodup_reverse.mpr h
  rw [portIn?, find?_eq_some_iff_of_nodup hreverse, List.mem_reverse]

theorem WellFormed.indexed {d : NodeDefinition} (h : d.WellFormed) : d.Indexed where
  input _ _ := portIn?_eq_some_iff h.nodup_inputs
  output _ _ := portIn?_eq_some_iff h.nodup_outputs
  defaults := Fields.ofEntries_of_nodup (by
    simpa [Fields.names, Function.comp_def] using h.nodup_inputs)

theorem wellFormed_iff (d : NodeDefinition) : d.WellFormed ↔ d.type ≠ "" ∧
    (d.inputs ≠ [] ∧ (d.inputs.map Port.id).Nodup) ∧
    d.outputs ≠ [] ∧ (d.outputs.map Port.id).Nodup :=
  ⟨fun h => ⟨h.named, ⟨h.inputs_ne_nil, h.nodup_inputs⟩, h.outputs_ne_nil, h.nodup_outputs⟩,
    fun ⟨hnamed, ⟨hin, hind⟩, hout, houtd⟩ => ⟨hnamed, hin, hind, hout, houtd⟩⟩

instance (d : NodeDefinition) : Decidable d.WellFormed := decidable_of_iff' _ d.wellFormed_iff

end NodeDefinition

/-! ## One registration -/

namespace Registry

variable {r : Registry} {d : NodeDefinition} {history : List NodeDefinition}

theorem checkPorts_eq_ok_iff {nodeType : String} {side : PortSide} {ports : List Port} :
    checkPorts nodeType side ports = .ok () ↔ ports ≠ [] ∧ (ports.map Port.id).Nodup := by
  refine ⟨checkPorts_eq_ok, fun ⟨hne, hnodup⟩ => ?_⟩
  rw [checkPorts, if_neg (by simpa using hne), if_pos hnodup]

/-- A type is registered if it is fit for it and its name is not taken. -/
theorem register_eq_ok_iff {r' : Registry} : r.register d = .ok r' ↔
    (d.WellFormed ∧ d.type ∉ r.types) ∧ r' = ⟨r.definitions ++ [d]⟩ := by
  constructor
  · intro h
    have hfree : d.type ∉ r.types := by
      rw [← contains_iff, not_contains_of_register h]
      exact Bool.false_ne_true
    refine ⟨⟨wellFormed_of_register h, hfree⟩, ?_⟩
    rw [← definitions_register h]
  · intro ⟨⟨hfit, hfree⟩, hr'⟩
    have hcheck : r.check d = .ok () := by
      rw [check, if_neg hfit.named, if_neg (mt (contains_iff r d.type).mp hfree),
        checkPorts_eq_ok_iff.mpr ⟨hfit.inputs_ne_nil, hfit.nodup_inputs⟩]
      exact checkPorts_eq_ok_iff.mpr ⟨hfit.outputs_ne_nil, hfit.nodup_outputs⟩
    rw [register, hcheck, hr']
    rfl

/-- A registration that is refused leaves the registry as it was. -/
theorem ofDefinitions_concat (history : List NodeDefinition) (d : NodeDefinition) :
    ofDefinitions (history ++ [d]) = match (ofDefinitions history).register d with
      | .ok r => r
      | .error _ => ofDefinitions history := by
  rw [ofDefinitions, List.foldl_append]
  rfl

/-! ## Histories -/

/-- Is a type that comes after a history accepted? -/
def Admits (history : List NodeDefinition) (d : NodeDefinition) : Prop :=
  d.WellFormed ∧ ∀ earlier ∈ history, earlier.WellFormed → earlier.type ≠ d.type

instance (history : List NodeDefinition) (d : NodeDefinition) : Decidable (Admits history d) :=
  inferInstanceAs (Decidable (_ ∧ _))

/-- The types of a history that are accepted, each after what came before it. -/
def accepted (history : List NodeDefinition) : List NodeDefinition :=
  (history.zipIdx.filter fun entry => Admits (history.take entry.2) entry.1).map Prod.fst

theorem accepted_concat (history : List NodeDefinition) (d : NodeDefinition) :
    accepted (history ++ [d]) = accepted history ++ if Admits history d then [d] else [] := by
  have hbefore : history.zipIdx.filter
        (fun entry => Admits ((history ++ [d]).take entry.2) entry.1)
      = history.zipIdx.filter fun entry => Admits (history.take entry.2) entry.1 := by
    refine List.filter_congr fun entry hentry => ?_
    have hlt : entry.2 < history.length := List.snd_lt_of_mem_zipIdx hentry
    rw [List.take_append_of_le_length (Nat.le_of_lt hlt)]
  rw [accepted, List.zipIdx_append, List.filter_append, hbefore, List.map_append, accepted]
  by_cases h : Admits history d <;> simp [h]

/-- A fit type is accepted, or one of its name was. -/
theorem exists_accepted_iff {name : String} :
    (∃ d ∈ accepted history, d.type = name) ↔ ∃ d ∈ history, d.WellFormed ∧ d.type = name := by
  induction history using List.reverseRecOn with
  | nil => simp [accepted]
  | append_singleton history d ih =>
    rw [accepted_concat]
    by_cases h : Admits history d
    · simp only [if_pos h, List.mem_append, or_and_right, exists_or, ih, List.mem_singleton,
        exists_eq_left, h.1, true_and]
    · simp only [if_neg h, List.append_nil, ih, List.mem_append, or_and_right, exists_or,
        List.mem_singleton, exists_eq_left]
      refine ⟨.inl, fun hname => hname.elim id fun ⟨hfit, htype⟩ => ?_⟩
      -- a fit type that is not accepted comes after one of its name
      by_contra hnone
      refine h ⟨hfit, fun earlier hmem hearlier hsame => hnone ?_⟩
      exact ⟨earlier, hmem, hearlier, hsame.trans htype⟩

theorem wellFormed_of_mem_accepted (h : d ∈ accepted history) : d.WellFormed := by
  obtain ⟨entry, hentry, rfl⟩ := List.mem_map.mp h
  exact (of_decide_eq_true (List.mem_filter.mp hentry).2).1

/-- What a registry looks at decides what the history decides. -/
theorem admits_iff (h : r.definitions = accepted history) :
    d.WellFormed ∧ d.type ∉ r.types ↔ Admits history d := by
  have htaken : d.type ∈ r.types ↔ ∃ e ∈ history, e.WellFormed ∧ e.type = d.type := by
    rw [← exists_accepted_iff, types, h, List.mem_map]
  rw [htaken, Admits]
  simp only [not_exists, not_and]

theorem register_of_admits (h : r.definitions = accepted history) (hd : Admits history d) :
    r.register d = .ok ⟨accepted (history ++ [d])⟩ := by
  refine register_eq_ok_iff.mpr ⟨(admits_iff h).mpr hd, ?_⟩
  rw [accepted_concat, if_pos hd, h]

theorem register_of_not_admits (h : r.definitions = accepted history) (hd : ¬ Admits history d) :
    ∃ fault, r.register d = .error fault := by
  cases hregister : r.register d with
  | ok r' => exact absurd ((admits_iff h).mp (register_eq_ok_iff.mp hregister).1) hd
  | error fault => exact ⟨fault, rfl⟩

/-- The registry of a history holds the types that are accepted. -/
theorem definitions_ofDefinitions (history : List NodeDefinition) :
    (ofDefinitions history).definitions = accepted history := by
  induction history using List.reverseRecOn with
  | nil => rfl
  | append_singleton history d ih =>
    rw [ofDefinitions_concat]
    by_cases h : Admits history d
    · rw [register_of_admits ih h]
    · obtain ⟨fault, hrefused⟩ := register_of_not_admits ih h
      rw [hrefused, accepted_concat, if_neg h, List.append_nil]
      exact ih

/-- No two accepted types have one name. -/
theorem nodup_types_accepted (history : List NodeDefinition) :
    ((accepted history).map NodeDefinition.type).Nodup := by
  induction history using List.reverseRecOn with
  | nil => exact .nil
  | append_singleton history d ih =>
    rw [accepted_concat]
    split
    · next h =>
      have hfree := ((admits_iff (definitions_ofDefinitions history)).mpr h).2
      rw [types, definitions_ofDefinitions] at hfree
      rw [List.map_append]
      exact List.Nodup.append ih (by simp) (by simpa using hfree)
    · simpa using ih

/-- Do all views of the registry show these types, in this order? -/
structure Shows (r : Registry) (ds : List NodeDefinition) : Prop where
  definitions_eq : r.definitions = ds
  size_eq : r.size = ds.length
  types_eq : r.types = ds.map NodeDefinition.type
  get?_eq_some_iff : ∀ name d, r.get? name = some d ↔ d ∈ ds ∧ d.type = name
  contains_iff : ∀ name, r.contains name = true ↔ ∃ d ∈ ds, d.type = name
  byCategory : Grouped NodeDefinition.category ds r.byCategory

theorem shows_definitions (h : r.types.Nodup) : r.Shows r.definitions where
  definitions_eq := rfl
  size_eq := rfl
  types_eq := rfl
  get?_eq_some_iff _ _ := find?_eq_some_iff_of_nodup h
  contains_iff name := by rw [contains_iff, types, List.mem_map]
  byCategory := grouped_groups NodeDefinition.category r.definitions

end Registry

/-- **A registry shows what it has accepted**. After any history of registrations, some of them
refused, all views of the registry agree on the accepted types in the order of their acceptance.
These have names, all different, and ports on either side that are found under their names. One more
registration is accepted and adds its type at the end, or it is refused and changes nothing. -/
theorem registry_shows_accepted (history : List NodeDefinition) :
    (Registry.ofDefinitions history).Shows (Registry.accepted history) ∧
    ((Registry.accepted history).map NodeDefinition.type).Nodup ∧
    (∀ d ∈ Registry.accepted history, d.WellFormed ∧ d.Indexed) ∧
    ∀ d, if Registry.Admits history d
      then (Registry.ofDefinitions history).register d
          = .ok (Registry.ofDefinitions (history ++ [d])) ∧
        Registry.accepted (history ++ [d]) = Registry.accepted history ++ [d]
      else (∃ fault, (Registry.ofDefinitions history).register d = .error fault) ∧
        Registry.ofDefinitions (history ++ [d]) = Registry.ofDefinitions history := by
  have hdefinitions := Registry.definitions_ofDefinitions history
  have hnodup := Registry.nodup_types_accepted history
  refine ⟨?_, hnodup, fun d hd => ?_, fun d => ?_⟩
  · rw [← hdefinitions]
    exact Registry.shows_definitions (by rwa [Registry.types, hdefinitions])
  · have hfit := Registry.wellFormed_of_mem_accepted hd
    exact ⟨hfit, hfit.indexed⟩
  · rw [Registry.ofDefinitions_concat]
    by_cases h : Registry.Admits history d
    · rw [if_pos h, Registry.register_of_admits hdefinitions h, Registry.accepted_concat, if_pos h]
      exact ⟨rfl, rfl⟩
    · obtain ⟨fault, hrefused⟩ := Registry.register_of_not_admits hdefinitions h
      rw [if_neg h, hrefused]
      exact ⟨⟨fault, rfl⟩, rfl⟩

/-- A refused type does not take its name: the next fit one of the name is accepted. -/
example :
    let port (id : String) : Port := ⟨id, id, .geometry, .null⟩
    let node (type category : String) (ports : List Port) : NodeDefinition :=
      ⟨type, type, category, ports, ports, fun _ _ => .yields [], "", none⟩
    let r := Registry.ofDefinitions [node "sphere" "solid" [port "mesh", port "mesh"],
      node "cube" "solid" [port "mesh"], node "merge" "tool" [port "a", port "b"],
      node "sphere" "solid" [port "mesh"], node "cube" "tool" [port "mesh"]]
    r.types = ["cube", "merge", "sphere"] ∧
      (r.byCategory.map fun g => (g.1, g.2.map NodeDefinition.type))
        = [("solid", ["cube", "sphere"]), ("tool", ["merge"])] := by
  decide

end LoftGraph
