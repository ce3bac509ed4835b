import LoftGraph.CommandLine.Outcome
import LoftGraph.Proofs.Traversal

/-!
# Loading documents

Loading words the faults it accounts for and lets every other one through, and so does the command
that loads a graph.

* `Json.Derails` describes the documents with a fault that is let through, by what they hold: a node
  that is no object, or a coordinate that is a whole number beyond floating point, before anything
  else is wrong.
* `unforeseen_bind_iff` and `unforeseen_mapM_iff` say which step of a reading lets a fault through,
  and there is one equivalence for each layer of a document: coordinate, place, node, graph.
-/

namespace LoftGraph

namespace Value

theorem value?_ofEntries (entries : List (String × Json)) (name : String) :
    Fields.value? (ofEntries entries) name = (Fields.value? entries name).map ofJson := by
  induction entries with
  | nil => rfl
  | cons entry rest ih =>
    obtain ⟨first, value⟩ := entry
    rw [ofEntries, Fields.value?_cons, Fields.value?_cons, ih]
    split <;> rfl

theorem ofEntries_eq_map (entries : List (String × Json)) :
    ofEntries entries = entries.map (fun entry => (entry.1, ofJson entry.2)) := by
  induction entries with
  | nil => rfl
  | cons entry rest ih => rw [ofEntries, ih, List.map_cons]

theorem ofItems_eq_map (items : List Json) : ofItems items = items.map ofJson := by
  induction items with
  | nil => rfl
  | cons item rest ih => rw [ofItems, ih, List.map_cons]

end Value

/-! ## Documents that loading does not account for -/

namespace Json

/-- A place whose coordinates are read up to a whole number beyond floating point. -/
inductive FarPlace : Json → Prop where
  | x {fields : List (String × Json)} {i : Int} (hx : Fields.value? fields "x" = some (.int i))
      (hi : floatOfInt? i = none) : FarPlace (.object fields)
  | y {fields : List (String × Json)} {x : Float} {i : Int}
      (hx : Document.namedCoordinate (Value.ofEntries fields) "x" = .ok x)
      (hy : Fields.value? fields "y" = some (.int i)) (hi : floatOfInt? i = none) :
      FarPlace (.object fields)
  | first {i : Int} {second : Json} (hi : floatOfInt? i = none) : FarPlace (.array [.int i, second])
  | second {first : Json} {x : Float} {i : Int}
      (hx : Document.coordinate (Value.ofJson first) = .ok x) (hi : floatOfInt? i = none) :
      FarPlace (.array [first, .int i])

/-- What stands in the place of a node but is no object, or a node whose place is far. -/
inductive StrayNode : Json → Prop where
  | notObject {j : Json} (h : ∀ fields, j ≠ .object fields) : StrayNode j
  | far {fields : List (String × Json)} {place : Json}
      (hplace : Fields.value? fields "position" = some place) (hfar : FarPlace place) :
      StrayNode (.object fields)

/-- What is given as the nodes, where they are read up to a stray one. The names of an object and
the characters of a text also stand in the places of nodes. -/
inductive StrayNodes : Json → Prop where
  | listed {before after : List Json} {node : Json}
      (hbefore : ∀ j ∈ before, ∃ n, Document.node (Value.ofJson j) = .ok n)
      (hnode : StrayNode node) : StrayNodes (.array (before ++ node :: after))
  | named {first : String × Json} {rest : List (String × Json)} :
      StrayNodes (.object (first :: rest))
  | spelled {text : String} (h : text ≠ "") : StrayNodes (.string text)

/-- A document that ends reading in a way that loading does not account for. -/
def Derails (document : Json) : Prop :=
  ∃ entries nodes, document = .object entries ∧ Fields.value? entries "nodes" = some nodes ∧
    nodes.StrayNodes

end Json

/-! ## Which step lets a fault through -/

/-- Does the reading end with a fault that loading does not account for? -/
def Unforeseen {α : Type} (reading : Except DocumentFault α) : Prop :=
  ∃ fault : DocumentFault, reading = .error fault ∧ fault.isForeseen = false

section Steps

variable {α β : Type}

@[simp] theorem not_unforeseen_ok (a : α) : ¬ Unforeseen (Except.ok a) := by
  rintro ⟨fault, h, -⟩
  cases h

@[simp] theorem unforeseen_error_iff {fault : DocumentFault} :
    Unforeseen (Except.error fault : Except DocumentFault α) ↔ fault.isForeseen = false := by
  constructor
  · rintro ⟨fault', h, hfault⟩
    cases h
    exact hfault
  · intro h
    exact ⟨fault, rfl, h⟩

theorem unforeseen_bind_iff {reading : Except DocumentFault α} {rest : α → Except DocumentFault β} :
    Unforeseen (reading >>= rest) ↔
      Unforeseen reading ∨ ∃ a, reading = .ok a ∧ Unforeseen (rest a) := by
  simp only [Unforeseen, bind_eq_error_iff]
  constructor
  · rintro ⟨fault, h | ⟨a, ha, h⟩, hfault⟩
    · exact .inl ⟨fault, h, hfault⟩
    · exact .inr ⟨a, ha, fault, h, hfault⟩
  · rintro (⟨fault, h, hfault⟩ | ⟨a, ha, fault, h, hfault⟩)
    · exact ⟨fault, .inl h, hfault⟩
    · exact ⟨fault, .inr ⟨a, ha, h⟩, hfault⟩

/-- Going through a list ends at the first item whose reading fails. -/
theorem unforeseen_mapM_iff {read : α → Except DocumentFault β} {items : List α} :
    Unforeseen (items.mapM read) ↔ ∃ before item after, items = before ++ item :: after ∧
      (∀ x ∈ before, ∃ y, read x = .ok y) ∧ Unforeseen (read item) := by
  simp only [Unforeseen, mapM_eq_error_iff]
  constructor
  · rintro ⟨fault, ⟨before, item, after, hitems, hbefore, hitem⟩, hfault⟩
    exact ⟨before, item, after, hitems, hbefore, fault, hitem, hfault⟩
  · rintro ⟨before, item, after, hitems, hbefore, fault, hitem, hfault⟩
    exact ⟨fault, ⟨before, item, after, hitems, hbefore, hitem⟩, hfault⟩

end Steps

namespace Document

theorem foreseen_shownEntry (fields : Fields Value) (name : String) :
    ¬ Unforeseen (shownEntry fields name) := by
  unfold shownEntry
  split
  · exact not_unforeseen_ok _
  · simp [DocumentFault.isForeseen]

theorem foreseen_overridePairs (items : List Value) (done : Overrides) (index : Nat) :
    ¬ Unforeseen (overridePairs done index items) := by
  induction items generalizing done index with
  | nil => exact not_unforeseen_ok _
  | cons item rest ih =>
    unfold overridePairs
    split
    · simp [DocumentFault.isForeseen]
    · split
      · exact ih _ _
      · simp [DocumentFault.isForeseen]
    · simp [DocumentFault.isForeseen]

theorem foreseen_overrides (value : Value) : ¬ Unforeseen (overrides value) := by
  unfold overrides
  split
  · exact not_unforeseen_ok _
  · split
    · exact not_unforeseen_ok _
    · split
      · exact foreseen_overridePairs _ _ _
      · simp [DocumentFault.isForeseen]

theorem foreseen_connection (value : Value) : ¬ Unforeseen (connection value) := by
  unfold connection
  split
  · simp [unforeseen_bind_iff, foreseen_shownEntry, pure, Except.pure]
  · simp [DocumentFault.isForeseen]

theorem foreseen_sized (value : Value) : ¬ Unforeseen (sized value) := by
  unfold sized
  split
  all_goals
    first
      | simp [DocumentFault.isForeseen]
      | split <;> simp [DocumentFault.isForeseen]

theorem unforeseen_coordinate_iff {value : Value} :
    Unforeseen (coordinate value) ↔ value.number = .error .tooLarge := by
  unfold coordinate
  split
  · next x hx => simp [hx]
  · next fault hfault =>
    rw [unforeseen_error_iff, hfault]
    cases fault <;> simp [DocumentFault.isForeseen, ReadFault.isRange]

/-- A text spells some number or none, but never one that is too large. -/
theorem foreseen_text (text : String) : ¬ Unforeseen (coordinate (.text text)) := by
  rw [unforeseen_coordinate_iff, Value.number, Value.spelledNumber]
  split <;> simp

theorem unforeseen_coordinate_ofJson_iff {j : Json} :
    Unforeseen (coordinate (Value.ofJson j)) ↔ ∃ i, j = .int i ∧ floatOfInt? i = none := by
  cases j with
  | int i =>
    rw [unforeseen_coordinate_iff, Value.ofJson, Value.number, Value.wholeNumber]
    split <;> simp_all
  | string s => simpa [Value.ofJson] using foreseen_text s
  | _ => simp [unforeseen_coordinate_iff, Value.ofJson, Value.number]

theorem unforeseen_namedCoordinate_iff {fields : List (String × Json)} {name : String} :
    Unforeseen (namedCoordinate (Value.ofEntries fields) name) ↔
      ∃ i, Fields.value? fields name = some (.int i) ∧ floatOfInt? i = none := by
  rw [namedCoordinate, Value.value?_ofEntries]
  cases hvalue : Fields.value? fields name with
  | none => simp [unforeseen_coordinate_iff, Value.number]
  | some j => simp [unforeseen_coordinate_ofJson_iff]

/-- A pair of coordinates is let through at the first of them, or at the second after a number. -/
theorem unforeseen_pair_iff {first second : Except DocumentFault Float} :
    Unforeseen (do let x ← first; let y ← second; return some (Position.point x y)) ↔
      Unforeseen first ∨ ∃ x, first = .ok x ∧ Unforeseen second := by
  simp only [unforeseen_bind_iff, pure, Except.pure, not_unforeseen_ok, and_false, exists_false,
    or_false]

/-- A place that is neither absent nor an object is read as a pair. -/
theorem unforeseen_position_iff_sized (value : Value) (hnull : value ≠ .null)
    (hobject : ∀ fields, value ≠ .object fields) :
    Unforeseen (position value) ↔ ∃ first second, sized value = .ok [first, second] ∧
      (Unforeseen (coordinate first) ∨
        ∃ x, coordinate first = .ok x ∧ Unforeseen (coordinate second)) := by
  unfold position
  split
  · exact absurd rfl hnull
  · exact absurd rfl (hobject _)
  · rw [unforeseen_bind_iff, or_iff_right (foreseen_sized value)]
    constructor
    · rintro ⟨items, hitems, h⟩
      split at h
      · next first second => exact ⟨first, second, hitems, unforeseen_pair_iff.mp h⟩
      · simp [DocumentFault.isForeseen] at h
    · rintro ⟨first, second, hitems, h⟩
      exact ⟨_, hitems, unforeseen_pair_iff.mpr h⟩

theorem unforeseen_position_iff {j : Json} :
    Unforeseen (position (Value.ofJson j)) ↔ j.FarPlace := by
  cases j with
  | object fields =>
    rw [Value.ofJson, position, unforeseen_pair_iff]
    simp only [unforeseen_namedCoordinate_iff]
    constructor
    · rintro (⟨i, hx, hi⟩ | ⟨x, hx, i, hy, hi⟩)
      · exact .x hx hi
      · exact .y hx hy hi
    · intro h
      cases h with
      | x hx hi => exact .inl ⟨_, hx, hi⟩
      | y hx hy hi => exact .inr ⟨_, hx, _, hy, hi⟩
  | array items =>
    rw [unforeseen_position_iff_sized (Value.ofJson (.array items)) nofun nofun]
    have hsized : sized (Value.ofJson (.array items)) = .ok (items.map Value.ofJson) := by
      rw [← Value.ofItems_eq_map]
      rfl
    rw [hsized]
    constructor
    · rintro ⟨v, w, hitems, h⟩
      obtain ⟨first, rest, rfl, rfl, hrest⟩ := List.map_eq_cons_iff.mp (Except.ok.inj hitems)
      obtain ⟨second, none, rfl, rfl, hnone⟩ := List.map_eq_cons_iff.mp hrest
      obtain rfl := List.map_eq_nil_iff.mp hnone
      simp only [unforeseen_coordinate_ofJson_iff] at h
      obtain ⟨i, rfl, hi⟩ | ⟨x, hx, i, rfl, hi⟩ := h
      · exact .first hi
      · exact .second hx hi
    · intro h
      cases h with
      | first hi => exact ⟨_, _, rfl, .inl (unforeseen_coordinate_ofJson_iff.mpr ⟨_, rfl, hi⟩)⟩
      | second hx hi =>
        exact ⟨_, _, rfl, .inr ⟨_, hx, unforeseen_coordinate_ofJson_iff.mpr ⟨_, rfl, hi⟩⟩⟩
  | string text =>
    -- the characters of a text are texts again
    refine iff_of_false ?_ nofun
    rw [unforeseen_position_iff_sized (Value.ofJson (.string text)) nofun nofun]
    rintro ⟨v, w, hitems, h⟩
    have hcharacter : ∀ u ∈ [v, w], ¬ Unforeseen (coordinate u) := by
      rw [← Except.ok.inj hitems]
      intro u hu
      obtain ⟨c, -, rfl⟩ := List.mem_map.mp hu
      exact foreseen_text _
    obtain h | ⟨x, -, h⟩ := h
    · exact hcharacter v (by simp) h
    · exact hcharacter w (by simp) h
  | null => exact iff_of_false (not_unforeseen_ok _) nofun
  | _ =>
    -- nothing else has a size
    refine iff_of_false ?_ nofun
    rw [Value.ofJson, unforeseen_position_iff_sized]
    · rintro ⟨v, w, hitems, -⟩
      cases hitems
    · exact nofun
    · exact nofun

theorem unforeseen_node_iff {j : Json} : Unforeseen (node (Value.ofJson j)) ↔ j.StrayNode := by
  unfold node
  rw [unforeseen_bind_iff]
  cases j with
  | object fields =>
    have hentries : entries (Value.ofJson (.object fields)) = .ok (Value.ofEntries fields) := rfl
    simp only [hentries, nodeOf, unforeseen_bind_iff, foreseen_shownEntry, foreseen_overrides, pure,
      Except.pure, not_unforeseen_ok, and_false, exists_false, or_false, false_or, Except.ok.injEq,
      exists_eq_left', Value.value?_ofEntries]
    constructor
    · intro h
      cases hplace : Fields.value? fields "position" with
      | none =>
        rw [hplace] at h
        exact absurd h (not_unforeseen_ok _)
      | some place =>
        rw [hplace] at h
        exact .far hplace (unforeseen_position_iff.mp h)
    · intro h
      cases h with
      | notObject hno => exact absurd rfl (hno fields)
      | far hplace hfar =>
        rw [hplace]
        exact unforeseen_position_iff.mpr hfar
  | _ =>
    refine iff_of_true (.inl ?_) (.notObject nofun)
    simp [entries, Value.ofJson, DocumentFault.isForeseen]

end Document

namespace Graph

/-- Reading a graph lets a fault through exactly where it goes through the nodes. -/
theorem unforeseen_ofValue_iff {fields : Fields Value} :
    Unforeseen (ofValue (.object fields)) ↔
      Unforeseen (Document.listed Document.node fields "nodes") := by
  have hconnections : ¬ Unforeseen (Document.listed Document.connection fields "connections") := by
    unfold Document.listed
    split
    · exact not_unforeseen_ok _
    · split
      · rw [unforeseen_mapM_iff]
        rintro ⟨before, item, after, -, -, h⟩
        exact Document.foreseen_connection _ h
      · simp [DocumentFault.isForeseen]
  have hentries : Document.entries (.object fields) = .ok fields := rfl
  rw [ofValue, hentries]
  simp [unforeseen_bind_iff, hconnections, pure, Except.pure]

/-- No text is a node, so texts in the places of nodes are let through at the first of them. -/
theorem unforeseen_texts_iff {texts : List String} :
    Unforeseen ((texts.map Value.text).mapM Document.node) ↔ texts ≠ [] := by
  cases texts with
  | nil => exact iff_of_false (not_unforeseen_ok _) (by simp)
  | cons first rest =>
    have hfirst : Unforeseen (Document.node (.text first)) :=
      Document.unforeseen_node_iff.mpr (.notObject nofun : (Json.string first).StrayNode)
    refine iff_of_true (unforeseen_mapM_iff.mpr ?_) (by simp)
    exact ⟨[], .text first, rest.map Value.text, rfl, by simp, hfirst⟩

theorem unforeseen_array_iff {items : List Json} :
    Unforeseen ((items.map Value.ofJson).mapM Document.node) ↔
      ∃ before node after, items = before ++ node :: after ∧
        (∀ j ∈ before, ∃ n, Document.node (Value.ofJson j) = .ok n) ∧ Json.StrayNode node := by
  rw [unforeseen_mapM_iff]
  constructor
  · rintro ⟨before, item, after, hitems, hbefore, hitem⟩
    obtain ⟨before, rest, rfl, rfl, hrest⟩ := List.map_eq_append_iff.mp hitems
    obtain ⟨node, after, rfl, rfl, rfl⟩ := List.map_eq_cons_iff.mp hrest
    refine ⟨before, node, after, rfl, fun j hj => ?_, Document.unforeseen_node_iff.mp hitem⟩
    exact hbefore _ (List.mem_map_of_mem hj)
  · rintro ⟨before, node, after, rfl, hbefore, hnode⟩
    refine ⟨before.map Value.ofJson, Value.ofJson node, after.map Value.ofJson, by simp, ?_,
      Document.unforeseen_node_iff.mpr hnode⟩
    intro v hv
    obtain ⟨j, hj, rfl⟩ := List.mem_map.mp hv
    exact hbefore j hj

theorem derails_iff {entries : List (String × Json)} :
    (Json.object entries).Derails ↔
      ∃ nodes, Fields.value? entries "nodes" = some nodes ∧ nodes.StrayNodes := by
  constructor
  · rintro ⟨entries', nodes, hentries, hnodes, hstray⟩
    cases hentries
    exact ⟨nodes, hnodes, hstray⟩
  · rintro ⟨nodes, hnodes, hstray⟩
    exact ⟨entries, nodes, rfl, hnodes, hstray⟩

theorem unforeseen_nodes_iff {entries : List (String × Json)} :
    Unforeseen (Document.listed Document.node (Value.ofEntries entries) "nodes") ↔
      (Json.object entries).Derails := by
  rw [Document.listed, Value.value?_ofEntries, derails_iff]
  cases Fields.value? entries "nodes" with
  | none => exact iff_of_false (not_unforeseen_ok _) (by simp)
  | some nodes =>
    simp only [Option.map_some, Option.some.injEq, exists_eq_left']
    cases nodes with
    | array items =>
      have hitems : (Value.ofJson (.array items)).items? = some (items.map Value.ofJson) := by
        rw [← Value.ofItems_eq_map]
        rfl
      simp only [hitems]
      rw [unforeseen_array_iff]
      constructor
      · rintro ⟨before, node, after, rfl, hbefore, hnode⟩
        exact .listed hbefore hnode
      · rintro (⟨hbefore, hnode⟩ | _ | _)
        exact ⟨_, _, _, rfl, hbefore, hnode⟩
    | object inner =>
      have hitems : (Value.ofJson (.object inner)).items?
          = some ((inner.map Prod.fst).map Value.text) := by
        rw [Value.ofJson, Value.items?, Value.ofEntries_eq_map, List.map_map, List.map_map]
        rfl
      simp only [hitems]
      rw [unforeseen_texts_iff]
      cases inner with
      | nil => exact iff_of_false (by simp) nofun
      | cons first rest => exact iff_of_true (by simp) .named
    | string text =>
      have hitems : (Value.ofJson (.string text)).items?
          = some ((text.toList.map Char.toString).map Value.text) := by
        rw [List.map_map]
        rfl
      simp only [hitems]
      rw [unforeseen_texts_iff]
      constructor
      · intro h
        exact .spelled (by rintro rfl; simp at h)
      · rintro (_ | _ | htext)
        simpa using htext
    | _ =>
      refine iff_of_false ?_ nofun
      simp [Value.ofJson, Value.items?, DocumentFault.isForeseen]

theorem not_derails {document : Json} (h : ∀ entries nodes, document = .object entries →
    Fields.value? entries "nodes" ≠ some nodes) : ¬ document.Derails := by
  rintro ⟨entries, nodes, hentries, hnodes, -⟩
  exact h entries nodes hentries hnodes

/-- What loading a document comes to: a derailed one lets its fault through, another one gives a
graph or a fault that is worded. -/
theorem loadDocument_spec (name : String) (document : Json) :
    (document.Derails ∧
        ∃ fault, (loadDocument name document).result = .error (.unforeseen fault)) ∨
      (¬ document.Derails ∧
        ((∃ g, (loadDocument name document).result = .ok g) ∨
          (loadDocument name document).result = .error (.notGraph name) ∨
          ∃ cause : DocumentFault, cause.isForeseen = true ∧
            (loadDocument name document).result = .error (.malformed name cause))) := by
  unfold loadDocument
  split
  · next entries =>
    have hderails : (Json.object entries).Derails ↔
        Unforeseen (ofValue (.object (Value.ofEntries entries))) :=
      (unforeseen_ofValue_iff.trans unforeseen_nodes_iff).symm
    simp only
    split
    · next hnodes =>
      refine .inr ⟨not_derails fun entries' nodes hentries hvalue => ?_, .inr (.inl rfl)⟩
      cases hentries
      simp [Fields.has, Value.value?_ofEntries, hvalue] at hnodes
    · rw [hderails]
      split
      · next g hread => exact .inr ⟨by simp [hread], .inl ⟨g, rfl⟩⟩
      · next fault hread =>
        rw [hread, unforeseen_error_iff]
        by_cases hfault : fault.isForeseen = true
        · exact .inr ⟨by simp [hfault], .inr (.inr ⟨fault, hfault, by rw [if_pos hfault]⟩)⟩
        · exact .inl ⟨by simpa using hfault, fault, by rw [if_neg hfault]⟩
  · next hno =>
    refine .inr ⟨not_derails fun entries nodes hentries _ => ?_, .inr (.inl rfl)⟩
    exact hno entries hentries

end Graph

/-- **A file is loaded, or refused with a worded fault, unless its document derails.** Whatever an
existing file holds, if its values do not lie too deep inside each other, loading gives a graph or a
fault it words, and a run that evaluates the file then ends with exit code 2 and that fault in its
log; except for a document that derails, whose fault is let through by loading and ends the run
without an outcome. -/
theorem loading_accounts_for_faults_unless_derailed {files : CommandLine.Files}
    {name content : String} (hfile : files.content? name = some content)
    (hshallow : ∀ e, Json.read (String.ofList (Text.plainLineEnds content.toList)) = .error e →
      e.cause ≠ .tooDeep) (validate : Bool) (target : Option String) :
    let text := String.ofList (Text.plainLineEnds content.toList)
    let derails := ∃ document, Json.read text = .ok document ∧ document.Derails
    let loaded := Graph.load name (some content)
    let run := (CommandLine.Command.evaluate name validate target).run files
    (derails ∧ ∃ fault, loaded.result = .error (.unforeseen fault) ∧
        run = .error (.document fault)) ∨
      (¬ derails ∧ ((∃ g, loaded.result = .ok g) ∨
        ∃ fault : LoadFault, loaded.result = .error fault ∧
          ((∃ e, fault = .text e text) ∨ fault = .notGraph name ∨
            ∃ cause : DocumentFault, fault = .malformed name cause ∧ cause.isForeseen = true) ∧
          run = .ok (.failure 2 loaded.log s!"Could not load graph: {fault.message}"))) := by
  intro text derails loaded run
  have hrun : run = CommandLine.Command.runEvaluate files name validate target := rfl
  rw [CommandLine.Command.runEvaluate, hfile] at hrun
  cases hread : Json.read text with
  | error e =>
    have hfault : loaded.result = .error (.text e text) := by
      simp only [loaded, Graph.load, hread, text, if_neg (hshallow e hread)]
    refine .inr ⟨by simp [derails, hread], .inr ⟨_, hfault, .inl ⟨e, rfl⟩, ?_⟩⟩
    rw [hrun, hfault]
  | ok document =>
    have hderails : derails ↔ document.Derails := by simp [derails, hread]
    have hloaded : loaded = Graph.loadDocument name document := by
      simp only [loaded, Graph.load, hread, text]
    have hspec := Graph.loadDocument_spec name document
    rw [← hloaded, ← hderails] at hspec
    obtain ⟨hderails, fault, hfault⟩ |
      ⟨hderails, ⟨g, hg⟩ | hfault | ⟨cause, hcause, hfault⟩⟩ := hspec
    · refine .inl ⟨hderails, fault, hfault, ?_⟩
      rw [hrun, hfault]
    · exact .inr ⟨hderails, .inl ⟨g, hg⟩⟩
    · refine .inr ⟨hderails, .inr ⟨_, hfault, .inr (.inl rfl), ?_⟩⟩
      rw [hrun, hfault]
    · refine .inr ⟨hderails, .inr ⟨_, hfault, .inr (.inr ⟨cause, rfl, hcause⟩), ?_⟩⟩
      rw [hrun, hfault]

/-- Files of which only one is there. -/
def onlyFile (name content : String) : CommandLine.Files where
  content? other := if other = name then some content else none
  refusal? _ := none

/-- A graph whose node has half a place. -/
def halfPlaced : Json :=
  .object [("version", .string "1.0"), ("nodes", .array [.object [("position", .array [.int 1])]])]

theorem half_place_is_refused :
    Json.read (String.ofList (Text.plainLineEnds halfPlaced.write.toList)) = .ok halfPlaced ∧
      (CommandLine.Command.evaluate "g.json" true none).run (onlyFile "g.json" halfPlaced.write)
        = .ok (.failure 2 [] ("Could not load graph: Malformed graph document g.json: " ++
            "Node position must be [x, y], got [1]")) := by
  have hfile : (onlyFile "g.json" halfPlaced.write).content? "g.json" = some halfPlaced.write := rfl
  have hread : Json.read (String.ofList (Text.plainLineEnds halfPlaced.write.toList))
      = .ok halfPlaced := by
    set_option maxRecDepth 8000 in
    rfl
  have hloaded : Graph.load "g.json" (some halfPlaced.write)
      = ⟨[], .error (.malformed "g.json" (.place "[1]"))⟩ := by
    simp only [Graph.load, hread]
    rfl
  have hspec := loading_accounts_for_faults_unless_derailed hfile (by simp [hread]) true none
  simp only [hloaded] at hspec
  obtain ⟨-, fault, hfault, -⟩ | ⟨-, ⟨g, hg⟩ | ⟨fault, hfault, -, hrun⟩⟩ := hspec
  · cases hfault
  · cases hg
  · cases hfault
    exact ⟨hread, hrun⟩

/-- A graph with a number in the place of a node. -/
def numberedNode : Json := .object [("nodes", .array [.int 1])]

/-- A whole number beyond floating point. -/
def vast : Int := Int.ofNat (Nat.pow 10 400)

/-- A graph with a node far out. -/
def farNode : Json :=
  .object [("nodes", .array [.object [("position", .array [.int vast, .int 0])]])]

/-- Loading words neither fault, and the run has no outcome. -/
theorem derailed_documents_are_not_refused :
    Json.read (String.ofList (Text.plainLineEnds numberedNode.write.toList)) = .ok numberedNode ∧
      (Graph.load "g.json" (some numberedNode.write)).result
        = .error (.unforeseen (.notObject "int")) ∧
      (CommandLine.Command.evaluate "g.json" false none).run (onlyFile "g.json" numberedNode.write)
        = .error (.document (.notObject "int")) ∧
      ∃ fault, (Graph.loadDocument "g.json" farNode).result = .error (.unforeseen fault) := by
  have hread : Json.read (String.ofList (Text.plainLineEnds numberedNode.write.toList))
      = .ok numberedNode := by
    set_option maxRecDepth 8000 in
    rfl
  have hloaded : (Graph.load "g.json" (some numberedNode.write)).result
      = .error (.unforeseen (.notObject "int")) := by
    simp only [Graph.load, hread]
    rfl
  have hrun : (CommandLine.Command.evaluate "g.json" false none).run
      (onlyFile "g.json" numberedNode.write) = .error (.document (.notObject "int")) := by
    have hcontent : (onlyFile "g.json" numberedNode.write).content? "g.json"
        = some numberedNode.write := rfl
    rw [CommandLine.Command.run, CommandLine.Command.runEvaluate, hcontent, hloaded]
  have hvast : floatOfInt? vast = none := Option.isNone_iff_eq_none.mp (by decide +kernel)
  have hfar : farNode.Derails := by
    have hnode : (Json.object [("position", .array [.int vast, .int 0])]).StrayNode :=
      .far rfl (.first hvast)
    exact ⟨_, _, rfl, rfl, @Json.StrayNodes.listed [] [] _ nofun hnode⟩
  obtain ⟨-, hfault⟩ | ⟨hno, -⟩ := Graph.loadDocument_spec "g.json" farNode
  · exact ⟨hread, hloaded, hrun, hfault⟩
  · exact absurd hfar hno

end LoftGraph
