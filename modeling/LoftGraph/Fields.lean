/-!
# Named fields in order

A list of named entries is the shape of a document object, of the inputs and outputs of a node
and of a cache.  Names are meant to be distinct; entries keep the order in which their names
first came.

* `Fields.value?` reads an entry, `Fields.set` writes one in place or at the end,
  `Fields.without` drops a name.
* Writing a name is seen by reading it and by no other name (`value?_set_self`,
  `value?_set_of_ne`), and keeps names distinct (`nodup_names_set`).
* After several writes a name has what was written last (`value?_setAll`), and the names stand in
  the order in which they first came (`names_setAll`).
* Entries of distinct names are read alike in every order (`value?_perm`).
-/

namespace LoftGraph

abbrev Fields (α : Type) := List (String × α)

namespace Fields

variable {α : Type}

def names (fs : Fields α) : List String := fs.map Prod.fst

def value? : Fields α → String → Option α
  | [], _ => none
  | (name, value) :: rest, key => if name = key then some value else value? rest key

/-- Is there an entry of this name? -/
def has (fs : Fields α) (key : String) : Bool := (value? fs key).isSome

/-- Writes an entry: where the name already stands, else at the end. -/
def set : Fields α → String → α → Fields α
  | [], key, value => [(key, value)]
  | (name, old) :: rest, key, value =>
    if name = key then (name, value) :: rest else (name, old) :: set rest key value

/-- Writes all entries of another list, in its order. -/
def setAll (fs : Fields α) (entries : List (String × α)) : Fields α :=
  entries.foldl (fun acc entry => set acc entry.1 entry.2) fs

/-- Entries with distinct names: a later entry of a name replaces an earlier one in its place. -/
def ofEntries (entries : List (String × α)) : Fields α := setAll [] entries

/-- Drops the entries of a name. -/
def without (fs : Fields α) (key : String) : Fields α := fs.filter (fun entry => entry.1 ≠ key)

@[simp] theorem names_nil : names ([] : Fields α) = [] := rfl

@[simp] theorem names_cons (name : String) (value : α) (rest : Fields α) :
    names ((name, value) :: rest) = name :: names rest := rfl

@[simp] theorem value?_nil (key : String) : value? ([] : Fields α) key = none := rfl

theorem value?_cons (name : String) (value : α) (rest : Fields α) (key : String) :
    value? ((name, value) :: rest) key = if name = key then some value else value? rest key := rfl

/-- A name has an entry exactly when it is listed. -/
theorem value?_isSome_iff (fs : Fields α) (key : String) :
    (value? fs key).isSome ↔ key ∈ names fs := by
  induction fs with
  | nil => simp
  | cons entry rest ih =>
      obtain ⟨name, value⟩ := entry
      by_cases h : name = key
      · simp [value?_cons, h]
      · simp [value?_cons, h, ih, Ne.symm h]

theorem value?_eq_none {fs : Fields α} {key : String} (h : ¬ has fs key = true) :
    value? fs key = none := by
  simpa [has] using h

theorem has_iff (fs : Fields α) (key : String) : has fs key = true ↔ key ∈ names fs :=
  value?_isSome_iff fs key

@[simp] theorem value?_set_self (fs : Fields α) (key : String) (value : α) :
    value? (set fs key value) key = some value := by
  induction fs with
  | nil => simp [set, value?]
  | cons entry rest ih =>
      obtain ⟨name, old⟩ := entry
      by_cases h : name = key
      · simp [set, value?, h]
      · simp [set, value?, h, ih]

theorem value?_set_of_ne {fs : Fields α} {key other : String} {value : α} (h : key ≠ other) :
    value? (set fs key value) other = value? fs other := by
  induction fs with
  | nil => simp [set, value?, h]
  | cons entry rest ih =>
      obtain ⟨name, old⟩ := entry
      by_cases hn : name = key
      · subst hn
        simp [set, value?, h]
      · simp only [set, hn, if_false, value?_cons, ih]

/-- Writing what is there already changes nothing. -/
theorem set_eq_self {fs : Fields α} {key : String} {value : α} (h : value? fs key = some value) :
    set fs key value = fs := by
  induction fs with
  | nil => cases h
  | cons entry rest ih =>
    obtain ⟨name, old⟩ := entry
    by_cases hn : name = key
    · obtain rfl : old = value := by simpa [value?_cons, hn] using h
      simp [set, hn]
    · have hrest : value? rest key = some value := by simpa [value?_cons, hn] using h
      simp only [set, if_neg hn, ih hrest]

/-- A name is there after writing exactly when it was written or was there before. -/
theorem has_set (fs : Fields α) (key other : String) (value : α) :
    has (set fs key value) other = true ↔ key = other ∨ has fs other = true := by
  by_cases h : key = other
  · subst h
    simp [has]
  · simp [has, value?_set_of_ne h, h]

/-- Writing a name that is there keeps the names; a new name goes to the end. -/
theorem names_set (fs : Fields α) (key : String) (value : α) :
    names (set fs key value) = if key ∈ names fs then names fs else names fs ++ [key] := by
  induction fs with
  | nil => simp [set]
  | cons entry rest ih =>
      obtain ⟨name, old⟩ := entry
      by_cases h : name = key
      · simp [set, h]
      · simp only [set, h, if_false, names_cons, ih, List.mem_cons, Ne.symm h, false_or]
        split <;> simp

theorem nodup_names_set {fs : Fields α} (h : (names fs).Nodup) (key : String) (value : α) :
    (names (set fs key value)).Nodup := by
  rw [names_set]
  split
  · exact h
  · next hk =>
      refine List.nodup_append.mpr ⟨h, by simp, ?_⟩
      intro a ha b hb
      simp only [List.mem_singleton] at hb
      subst hb
      exact fun he => hk (he ▸ ha)

/-- The last entry of a name. -/
def last? (entries : Fields α) (key : String) : Option α := value? entries.reverse key

theorem value?_append (fs gs : Fields α) (key : String) :
    value? (fs ++ gs) key = (value? fs key).or (value? gs key) := by
  induction fs with
  | nil => rfl
  | cons entry rest ih =>
    obtain ⟨name, value⟩ := entry
    by_cases h : name = key
    · simp [value?_cons, h]
    · simp [value?_cons, h, ih]

theorem last?_append (xs ys : Fields α) (key : String) :
    last? (xs ++ ys) key = (last? ys key).or (last? xs key) := by
  rw [last?, List.reverse_append, value?_append, last?, last?]

theorem last?_cons (name : String) (value : α) (rest : Fields α) (key : String) :
    last? ((name, value) :: rest) key
      = (last? rest key).or (if name = key then some value else none) :=
  last?_append [(name, value)] rest key

/-- After writes a name has what was written last, or what it had. -/
theorem value?_setAll (fs entries : Fields α) (key : String) :
    value? (setAll fs entries) key = (last? entries key).or (value? fs key) := by
  induction entries generalizing fs with
  | nil => rfl
  | cons entry rest ih =>
    obtain ⟨name, value⟩ := entry
    have hrest : value? (setAll fs ((name, value) :: rest)) key
        = (last? rest key).or (value? (set fs name value) key) := ih (set fs name value)
    rw [hrest, last?_cons, Option.or_assoc]
    by_cases h : name = key
    · simp [h]
    · simp [h, value?_set_of_ne h]

/-- Names that come new with some writes stand at the end, in the order in which they first came. -/
theorem names_setAll (fs entries : Fields α) :
    names (setAll fs entries)
      = names fs ++ ((names entries).filter (fun name => name ∉ names fs)).eraseDups := by
  induction entries generalizing fs with
  | nil => simp [setAll]
  | cons entry rest ih =>
    obtain ⟨name, value⟩ := entry
    have hrest : setAll fs ((name, value) :: rest) = setAll (set fs name value) rest := rfl
    rw [hrest, ih, names_set]
    by_cases h : name ∈ names fs
    · simp [h]
    · -- what comes later under the new name no longer counts as new
      have hfilter : (names rest).filter (fun other => other ∉ names fs ++ [name])
          = ((names rest).filter (fun other => other ∉ names fs)).filter (fun b => !b == name) := by
        rw [List.filter_filter]
        refine List.filter_congr fun other _ => ?_
        by_cases hother : other = name <;> simp [hother]
      simp only [h, if_false, names_cons, List.filter_cons, not_false_eq_true, decide_true, if_true,
        List.eraseDups_cons, hfilter, List.append_assoc, List.singleton_append]

theorem set_of_new {fs : Fields α} {key : String} (h : key ∉ names fs) (value : α) :
    set fs key value = fs ++ [(key, value)] := by
  induction fs with
  | nil => rfl
  | cons entry rest ih =>
    obtain ⟨name, old⟩ := entry
    obtain ⟨hne, hrest⟩ : key ≠ name ∧ key ∉ names rest := by simpa using h
    rw [set, if_neg (Ne.symm hne), ih hrest, List.cons_append]

/-- Entries of distinct names that are all new are added as they are. -/
theorem setAll_of_new {fs entries : Fields α} (h : (names fs ++ names entries).Nodup) :
    setAll fs entries = fs ++ entries := by
  induction entries generalizing fs with
  | nil => simp [setAll]
  | cons entry rest ih =>
    obtain ⟨name, value⟩ := entry
    have hnew : name ∉ names fs :=
      fun hname => (List.nodup_append.mp h).2.2 name hname name (.head _) rfl
    have hrest : setAll fs ((name, value) :: rest) = setAll (fs ++ [(name, value)]) rest :=
      congrArg (setAll · rest) (set_of_new hnew value)
    rw [hrest, ih (by simpa [names] using h), List.append_assoc, List.singleton_append]

theorem ofEntries_of_nodup {entries : Fields α} (h : (names entries).Nodup) :
    ofEntries entries = entries :=
  setAll_of_new h

/-- An entry of distinct names is read back. -/
theorem value?_of_mem {fs : Fields α} (h : (names fs).Nodup) {key : String} {value : α}
    (hmem : (key, value) ∈ fs) : value? fs key = some value := by
  induction fs with
  | nil => cases hmem
  | cons entry rest ih =>
    obtain ⟨name, old⟩ := entry
    obtain ⟨hnew, hrest⟩ := List.nodup_cons.mp h
    rcases List.mem_cons.mp hmem with heq | hmem
    · cases heq
      simp [value?_cons]
    · have hne : name ≠ key := fun heq => hnew (heq ▸ List.mem_map.mpr ⟨_, hmem, rfl⟩)
      rw [value?_cons, if_neg hne, ih hrest hmem]

/-- What is read is an entry. -/
theorem mem_of_value? {fs : Fields α} {key : String} {value : α} (h : value? fs key = some value) :
    (key, value) ∈ fs := by
  induction fs with
  | nil => cases h
  | cons entry rest ih =>
    obtain ⟨name, first⟩ := entry
    rw [value?_cons] at h
    split at h
    · next hname =>
      cases hname
      cases h
      exact .head _
    · exact .tail _ (ih h)

theorem value?_map {β : Type} (f : α → β) (fs : Fields α) (key : String) :
    value? (fs.map fun entry => (entry.1, f entry.2)) key = (value? fs key).map f := by
  induction fs with
  | nil => rfl
  | cons entry rest ih =>
    obtain ⟨name, value⟩ := entry
    rw [List.map_cons, value?_cons, value?_cons, ih]
    split <;> rfl

/-- Entries of distinct names are read alike in every order. -/
theorem value?_perm {fs gs : Fields α} (hperm : fs.Perm gs) (h : (names fs).Nodup) (key : String) :
    value? fs key = value? gs key := by
  induction hperm with
  | nil => rfl
  | cons entry _ ih =>
    obtain ⟨name, value⟩ := entry
    rw [value?_cons, value?_cons, ih (List.nodup_cons.mp h).2]
  | swap first second rest =>
    obtain ⟨name, value⟩ := first
    obtain ⟨name', value'⟩ := second
    have hne : name' ≠ name := by
      rintro rfl
      exact (List.nodup_cons.mp h).1 (.head _)
    by_cases hname : name = key
    · simp [value?_cons, hname, hname ▸ hne]
    · simp [value?_cons, hname]
  | trans hfirst _ ih ih' => rw [ih h, ih' ((hfirst.map Prod.fst).nodup_iff.mp h)]

theorem last?_perm {fs gs : Fields α} (hperm : fs.Perm gs) (h : (names fs).Nodup) (key : String) :
    last? fs key = last? gs key := by
  have hreverse : fs.reverse.Perm gs.reverse :=
    (List.reverse_perm fs).trans (hperm.trans (List.reverse_perm gs).symm)
  refine value?_perm hreverse ?_ key
  rw [names, List.map_reverse]
  exact (List.reverse_perm _).nodup_iff.mpr h

/-- Among entries of distinct names the last one of a name is the only one. -/
theorem last?_of_nodup {fs : Fields α} (h : (names fs).Nodup) (key : String) :
    last? fs key = value? fs key := by
  refine value?_perm (List.reverse_perm fs) ?_ key
  rw [names, List.map_reverse]
  exact (List.reverse_perm _).nodup_iff.mpr h

/-- Fields of distinct names are the same if they have the same names in order and agree on each. -/
theorem ext_of_nodup {fs gs : Fields α} (hnames : names fs = names gs) (hnodup : (names fs).Nodup)
    (h : ∀ key ∈ names fs, value? fs key = value? gs key) : fs = gs := by
  induction fs generalizing gs with
  | nil =>
    cases gs with
    | nil => rfl
    | cons entry rest => cases hnames
  | cons entry rest ih =>
    obtain ⟨name, value⟩ := entry
    cases gs with
    | nil => cases hnames
    | cons other more =>
      obtain ⟨name', value'⟩ := other
      obtain ⟨rfl, hrest⟩ := List.cons.inj hnames
      obtain ⟨hnew, hnodup⟩ := List.nodup_cons.mp hnodup
      obtain rfl : value = value' := by simpa [value?_cons] using h name (.head _)
      refine congrArg _ (ih hrest hnodup fun key hkey => ?_)
      have hne : name ≠ key := fun heq => hnew (heq ▸ hkey)
      simpa [value?_cons, hne] using h key (.tail _ hkey)

@[simp] theorem value?_without_self (fs : Fields α) (key : String) :
    value? (without fs key) key = none := by
  induction fs with
  | nil => rfl
  | cons entry rest ih =>
      obtain ⟨name, old⟩ := entry
      by_cases h : name = key
      · simpa [without, h] using ih
      · simpa [without, h, value?_cons] using ih

end Fields

end LoftGraph
