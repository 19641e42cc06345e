import HtmlComponents.Proofs.Except
import HtmlComponents.Proofs.OrderedMap
import HtmlComponents.Property.Schema

/-!
# Typed values of a schema

What typing the attributes of a tag gives: a value for every property of the schema, read from the last
text that the attributes write for it (`get?_parse`).
-/

namespace HtmlComponents.Property

/-- The texts that attributes write for a property, in their order; several attributes may stand for
one property. -/
def writtenTexts (attributes : RawAttributes) (property : String) : List String :=
  (attributes.entries.filter fun entry => propertyName entry.1 == property).map Prod.snd

theorem filter_renamed (attributes : RawAttributes) (property : String) :
    ((attributes.entries.map fun entry => (propertyName entry.1, entry.2)).filter
        fun entry => entry.1 == property).map Prod.snd = writtenTexts attributes property := by
  rw [List.filter_map, List.map_map]
  rfl

theorem kind_parse {name : String} {default value : Value} {raw : Option String}
    (h : parse name default raw = .ok value) : value.kind = default.kind := by
  unfold parse at h
  split at h
  · cases h
    rfl
  · cases h
    rfl
  · cases h
    rfl
  · split at h
    · cases h
      rfl
    · cases h
  · split at h <;> cases h <;> rfl
  · split at h <;> cases h <;> rfl

theorem parse_none (name : String) (default : Value) : parse name default none = .ok default := by
  cases default <;> rfl

namespace Schema

theorem get?_normalized (attributes : RawAttributes) (name : String) :
    (normalized attributes).get? name = (writtenTexts attributes name).getLast? := by
  rw [normalized, OrderedMap.get?_ofList, OrderedMap.lookup_reverse_eq_getLast?, filter_renamed]

theorem parseEntries_spec {raw : OrderedMap String} {entries values : List (String × Value)}
    (h : parseEntries raw entries = .ok values) :
    values.map Prod.fst = entries.map Prod.fst ∧
      ∀ name default, entries.lookup name = some default →
        ∃ value, values.lookup name = some value ∧
          Property.parse name default (raw.get? name) = .ok value := by
  induction entries generalizing values with
  | nil =>
    cases h
    exact ⟨rfl, fun _ _ hfound => by cases hfound⟩
  | cons entry rest ih =>
    obtain ⟨key, first⟩ := entry
    rw [parseEntries] at h
    obtain ⟨value, hvalue, h⟩ := exists_of_bind_eq_ok h
    obtain ⟨others, hothers, h⟩ := exists_of_bind_eq_ok h
    cases h
    obtain ⟨hnames, hvalues⟩ := ih hothers
    refine ⟨congrArg (key :: ·) hnames, fun name default hfound => ?_⟩
    rw [List.lookup_cons] at hfound ⊢
    by_cases hname : name = key
    · subst hname
      rw [beq_self_eq_true] at hfound ⊢
      cases hfound
      exact ⟨value, rfl, hvalue⟩
    · rw [beq_false_of_ne hname] at hfound ⊢
      exact hvalues name default hfound

/-- What is found for a property after typing comes from the last text written for it. -/
theorem get?_parse {schema : Schema} {attributes : RawAttributes} {values : Values} {name : String}
    {default : Value} (hname : schema.defaults.get? name = some default)
    (hparse : schema.parse attributes = .ok values) :
    ∃ value, values.get? name = some value ∧
      Property.parse name default (writtenTexts attributes name).getLast? = .ok value := by
  rw [parse] at hparse
  obtain ⟨entries, hentries, hmap⟩ := exists_of_map_eq_ok hparse
  cases hmap
  obtain ⟨hnames, hvalues⟩ := parseEntries_spec hentries
  obtain ⟨value, hlookup, hvalue⟩ := hvalues name default hname
  have hnodup : (entries.map Prod.fst).Nodup := hnames ▸ schema.defaults.nodup
  refine ⟨value, ?_, get?_normalized attributes name ▸ hvalue⟩
  rw [OrderedMap.get?_ofList, OrderedMap.lookup_reverse hnodup]
  exact hlookup

theorem parseEntries_empty (entries : List (String × Value)) :
    parseEntries OrderedMap.empty entries = .ok entries := by
  induction entries with
  | nil => rfl
  | cons entry rest ih =>
    rw [parseEntries, OrderedMap.get?_empty, parse_none, ih]
    rfl

theorem parse_empty (schema : Schema) : schema.parse OrderedMap.empty = .ok schema.defaults := by
  have hraw : normalized OrderedMap.empty = OrderedMap.empty := rfl
  rw [parse, hraw, parseEntries_empty]
  exact congrArg Except.ok (OrderedMap.ofList_entries schema.defaults)

end Schema

end HtmlComponents.Property
