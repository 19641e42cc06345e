/-!
# Ordered maps

A map from names to values that keeps its entries in the order in which the names were first added.
Writing to a name that is present changes the value and not the position: `keys_insert` says where
the name stands, and `get?_insert` what is found there.
-/

namespace HtmlComponents

/-- A finite map with `String` keys, each present once, in the order of first insertion. -/
structure OrderedMap (α : Type) where
  entries : List (String × α)
  nodup : (entries.map Prod.fst).Nodup

namespace OrderedMap

variable {α β : Type}

def empty : OrderedMap α := ⟨[], .nil⟩

instance : EmptyCollection (OrderedMap α) := ⟨empty⟩

instance : Inhabited (OrderedMap α) := ⟨empty⟩

def toList (m : OrderedMap α) : List (String × α) := m.entries

def keys (m : OrderedMap α) : List String := m.entries.map Prod.fst

def values (m : OrderedMap α) : List α := m.entries.map Prod.snd

def size (m : OrderedMap α) : Nat := m.entries.length

def isEmpty (m : OrderedMap α) : Bool := m.entries.isEmpty

/-- The value of a name, if it has one. -/
def get? (m : OrderedMap α) (name : String) : Option α := m.entries.lookup name

def contains (m : OrderedMap α) (name : String) : Bool := decide (name ∈ m.keys)

theorem nodup_keys (m : OrderedMap α) : m.keys.Nodup := m.nodup

/-- The entries with the value of one name replaced. -/
def replaced (name : String) (value : α) (entries : List (String × α)) : List (String × α) :=
  entries.map fun entry => if entry.1 = name then (name, value) else entry

theorem map_fst_replaced (name : String) (value : α) (entries : List (String × α)) :
    (replaced name value entries).map Prod.fst = entries.map Prod.fst := by
  induction entries with
  | nil => rfl
  | cons entry rest ih =>
    simp only [replaced, List.map_cons] at ih ⊢
    rw [ih]
    by_cases h : entry.1 = name <;> simp [h]

theorem nodup_snoc {m : OrderedMap α} {name : String} (value : α) (h : name ∉ m.keys) :
    ((m.entries ++ [(name, value)]).map Prod.fst).Nodup := by
  rw [List.map_append, List.map_cons, List.map_nil, List.nodup_append]
  refine ⟨m.nodup, by simp, ?_⟩
  intro a ha b hb e
  rw [e, List.mem_singleton.mp hb] at ha
  exact h ha

/-- Adds a name at the end, or replaces the value of a present name in its place. -/
def insert (m : OrderedMap α) (name : String) (value : α) : OrderedMap α :=
  if h : name ∈ m.keys then
    ⟨replaced name value m.entries, by rw [map_fst_replaced]; exact m.nodup⟩
  else
    ⟨m.entries ++ [(name, value)], nodup_snoc value h⟩

/-- Adds a name at the end, or leaves the map as it is if the name is present. -/
def insertNew (m : OrderedMap α) (name : String) (value : α) : OrderedMap α :=
  if h : name ∈ m.keys then m else ⟨m.entries ++ [(name, value)], nodup_snoc value h⟩

/-- The map of a list of pairs: of several values for a name, the last counts. -/
def ofList (pairs : List (String × α)) : OrderedMap α :=
  pairs.foldl (fun m pair => m.insert pair.1 pair.2) empty

/-- The map of a list of pairs: of several values for a name, the first counts. -/
def ofListFirst (pairs : List (String × α)) : OrderedMap α :=
  pairs.foldl (fun m pair => m.insertNew pair.1 pair.2) empty

/-- The names of `m` and then the new ones of `other`; a value of `m` wins. -/
def union (m other : OrderedMap α) : OrderedMap α :=
  other.entries.foldl (fun m pair => m.insertNew pair.1 pair.2) m

/-- Changes every value and no name. -/
def mapValues (f : String → α → β) (m : OrderedMap α) : OrderedMap β :=
  ⟨m.entries.map fun entry => (entry.1, f entry.1 entry.2), by
    have h : (m.entries.map fun entry => (entry.1, f entry.1 entry.2)).map Prod.fst =
        m.entries.map Prod.fst := by simp [Function.comp_def]
    rw [h]
    exact m.nodup⟩

@[simp] theorem toList_empty : (empty : OrderedMap α).toList = [] := rfl

@[simp] theorem keys_empty : (empty : OrderedMap α).keys = [] := rfl

theorem keys_insert (m : OrderedMap α) (name : String) (value : α) :
    (m.insert name value).keys = if name ∈ m.keys then m.keys else m.keys ++ [name] := by
  unfold insert
  split <;> rename_i h
  · exact map_fst_replaced name value m.entries
  · simp [keys]

theorem contains_iff_mem_keys {m : OrderedMap α} {name : String} :
    m.contains name = true ↔ name ∈ m.keys := by simp [contains]

theorem lookup_replaced (name other : String) (value : α) (entries : List (String × α)) :
    (replaced name value entries).lookup other =
      if other = name then (entries.lookup name).map fun _ => value else entries.lookup other := by
  induction entries with
  | nil => simp [replaced]
  | cons entry rest ih =>
    obtain ⟨key, old⟩ := entry
    simp only [replaced, List.map_cons] at ih ⊢
    by_cases hkey : key = name
    · subst hkey
      by_cases ho : other = key
      · subst ho; simp
      · simp [ho, List.lookup_cons, beq_false_of_ne ho, ih]
    · by_cases ho : other = key
      · subst ho; simp [hkey]
      · rw [if_neg hkey, List.lookup_cons, beq_false_of_ne ho, ih]
        simp [List.lookup_cons, beq_false_of_ne ho, beq_false_of_ne (Ne.symm hkey)]

theorem lookup_eq_none_iff {name : String} {entries : List (String × α)} :
    entries.lookup name = none ↔ name ∉ entries.map Prod.fst := by
  induction entries with
  | nil => simp
  | cons entry rest ih =>
    obtain ⟨key, value⟩ := entry
    by_cases h : name = key
    · subst h; simp
    · rw [List.lookup_cons, beq_false_of_ne h]
      simp [h, ih]

theorem get?_eq_none_iff {m : OrderedMap α} {name : String} :
    m.get? name = none ↔ name ∉ m.keys := lookup_eq_none_iff

theorem mem_keys_of_get? {m : OrderedMap α} {name : String} {value : α}
    (h : m.get? name = some value) : name ∈ m.keys := by
  rw [← Classical.not_not (a := name ∈ m.keys), ← get?_eq_none_iff, h]
  simp

theorem get?_insert (m : OrderedMap α) (name other : String) (value : α) :
    (m.insert name value).get? other = if other = name then some value else m.get? other := by
  unfold insert
  split <;> rename_i h
  · simp only [get?, lookup_replaced]
    split
    · cases hl : m.entries.lookup name with
      | none => exact absurd h (lookup_eq_none_iff.mp hl)
      | some => rfl
    · rfl
  · simp only [get?, List.lookup_append]
    by_cases ho : other = name
    · subst ho
      rw [show m.entries.lookup other = none from get?_eq_none_iff.mpr h]
      simp
    · rw [List.lookup_cons, beq_false_of_ne ho]
      simp [ho]

@[simp] theorem get?_empty (name : String) : (empty : OrderedMap α).get? name = none := rfl

theorem keys_insertNew (m : OrderedMap α) (name : String) (value : α) :
    (m.insertNew name value).keys = if name ∈ m.keys then m.keys else m.keys ++ [name] := by
  unfold insertNew
  split <;> simp [keys]

end OrderedMap

end HtmlComponents
