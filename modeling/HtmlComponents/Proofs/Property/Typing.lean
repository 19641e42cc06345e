import HtmlComponents.Proofs.Decimal.Numeral
import HtmlComponents.Proofs.Property.Schema
import Mathlib.Data.List.Nodup

/-!
# Exactness of typing

Attributes that stand for different properties are typed one by one: each property has the value that its
attribute writes, or the first one whose attribute writes none is the error (`parse_exact`). Neither the order
of the attributes nor those that stand for no property matter (`parse_of_relevant`).
-/

namespace HtmlComponents.Property

/-- The value that a property takes from the text of its attribute. Arrays and objects fall back to the default,
numbers do not. -/
inductive Typed : Value → Option String → Value → Prop
  | absent (default : Value) : Typed default none default
  | boolean (b : Bool) (text : String) : Typed (.boolean b) (some text) (.boolean true)
  | string (s text : String) : Typed (.string s) (some text) (.string text)
  | number {x y : Float} {text : String} (h : Decimal.Writes text.toList y) :
      Typed (.number x) (some text) (.number y)
  | array {items found : List Json} {text : String} (h : Json.parse? text = some (.array found)) :
      Typed (.array items) (some text) (.array found)
  | noArray {items : List Json} {text : String} (h : ∀ found, Json.parse? text ≠ some (.array found)) :
      Typed (.array items) (some text) (.array items)
  | object {members found : List (String × Json)} {text : String} (h : Json.parse? text = some (.object found)) :
      Typed (.object members) (some text) (.object found)
  | noObject {members : List (String × Json)} {text : String}
      (h : ∀ found, Json.parse? text ≠ some (.object found)) :
      Typed (.object members) (some text) (.object members)

/-- A text that the property does not take: the property is a number and the text writes no finite one. -/
structure Unfit (default : Value) (text : String) : Prop where
  kind : default.kind = .number
  not_number : ∀ x, ¬Decimal.Writes text.toList x

/-! ### One property -/

section
variable {name text : String} {default value : Value} {raw : Option String} {error : TypeError}

/-- What the typing of a property comes to: its value, or the text that it does not take. -/
def Step (name : String) (default : Value) (raw : Option String) : Except TypeError Value → Prop
  | .ok value => Typed default raw value
  | .error error => error.property = name ∧ error.expected = .number ∧ raw = some error.found ∧
      Unfit default error.found

theorem step_parse (name : String) (default : Value) (raw : Option String) :
    Step name default raw (parse name default raw) := by
  unfold parse
  split
  · exact .absent _
  · exact .boolean _ _
  · exact .string _ _
  · split
    · rename_i hx
      exact .number (Decimal.parse?_eq_some_iff.mp hx)
    · rename_i hnone
      refine ⟨rfl, rfl, rfl, rfl, fun x hx => ?_⟩
      cases hnone.symm.trans (Decimal.parse?_eq_some_iff.mpr hx)
  · split
    · rename_i hfound
      exact .array hfound
    · rename_i hfound
      exact .noArray hfound
  · split
    · rename_i hfound
      exact .object hfound
    · rename_i hfound
      exact .noObject hfound

theorem typed_of_parse (h : parse name default raw = .ok value) : Typed default raw value := by
  have hstep := step_parse name default raw
  rwa [h] at hstep

theorem Typed.not_unfit (h : Typed default (some text) value) : ¬Unfit default text := by
  rintro ⟨hkind, hnumber⟩
  cases h with
  | number hx => exact hnumber _ hx
  | boolean | string | array | noArray | object | noObject => cases hkind

end

/-! ### The texts of the properties -/

/-- The text that attributes give to a property, or that they give it none. -/
def Gives (attributes : RawAttributes) (name : String) : Option String → Prop
  | some text => ∃ entry ∈ attributes.entries, propertyName entry.1 = name ∧ entry.2 = text
  | none => ∀ entry ∈ attributes.entries, propertyName entry.1 ≠ name

/-- A property of a schema whose attribute has a text that it does not take. -/
def Offends (attributes : RawAttributes) (property : String × Value) (text : String) : Prop :=
  Gives attributes property.1 (some text) ∧ Unfit property.2 text

namespace Schema

variable {schema : Schema} {attributes other : RawAttributes} {values : Values} {name : String} {raw : Option String}
  {error : TypeError}

/-- Attributes that stand for different properties give each property the text that is read for it. -/
theorem gives_iff (hdistinct : (attributes.keys.map propertyName).Nodup) :
    Gives attributes name raw ↔ (normalized attributes).get? name = raw := by
  have hnames : ((attributes.entries.map fun entry => (propertyName entry.1, entry.2)).map Prod.fst).Nodup := by
    rw [OrderedMap.keys, List.map_map] at hdistinct
    rwa [List.map_map]
  rw [normalized, OrderedMap.get?_ofList, OrderedMap.lookup_reverse hnames]
  cases raw with
  | none =>
    rw [OrderedMap.lookup_eq_none_iff, List.map_map, List.mem_map, not_exists]
    exact forall_congr' fun entry => not_and.symm
  | some text =>
    rw [OrderedMap.lookup_eq_some_iff hnames, List.mem_map]
    simp [Gives]

theorem length_writtenTexts (hdistinct : (attributes.keys.map propertyName).Nodup) (name : String) :
    (writtenTexts attributes name).length ≤ 1 := by
  have hcount := List.nodup_iff_count_le_one.mp hdistinct name
  rw [OrderedMap.keys, List.map_map, List.count_eq_countP, List.countP_map] at hcount
  rwa [writtenTexts, List.length_map, ← List.countP_eq_length_filter]

/-- The attributes that stand for a property of the schema. -/
def relevant (schema : Schema) (attributes : RawAttributes) : List (String × String) :=
  attributes.entries.filter fun entry => schema.contains (propertyName entry.1)

theorem writtenTexts_eq (hname : schema.contains name = true) (attributes : RawAttributes) :
    writtenTexts attributes name =
      ((schema.relevant attributes).filter fun entry => propertyName entry.1 == name).map Prod.snd := by
  rw [writtenTexts, relevant, List.filter_filter]
  congr 1
  refine List.filter_congr fun entry _ => ?_
  by_cases h : propertyName entry.1 = name
  · simp [h, hname]
  · simp [h]

/-! ### All properties -/

theorem parseEntries_error {raw : OrderedMap String} {entries : List (String × Value)}
    (h : parseEntries raw entries = .error error) :
    ∃ front default back, entries = front ++ (error.property, default) :: back ∧ error.expected = .number ∧
      raw.get? error.property = some error.found ∧ Unfit default error.found ∧
      ∀ earlier ∈ front, ∀ text, raw.get? earlier.1 = some text → ¬Unfit earlier.2 text := by
  induction entries with
  | nil => cases h
  | cons entry rest ih =>
    obtain ⟨key, default⟩ := entry
    rw [parseEntries] at h
    rcases error_of_bind_eq_error h with hfirst | ⟨value, hvalue, h⟩
    · have hstep := step_parse key default (raw.get? key)
      rw [hfirst] at hstep
      obtain ⟨rfl, hexpected, hraw, hunfit⟩ := hstep
      exact ⟨[], default, rest, rfl, hexpected, hraw, hunfit, fun _ hmem => absurd hmem List.not_mem_nil⟩
    · rcases error_of_bind_eq_error h with hrest | ⟨others, _, h⟩
      · obtain ⟨front, found, back, rfl, hexpected, hraw, hunfit, hfront⟩ := ih hrest
        refine ⟨(key, default) :: front, found, back, rfl, hexpected, hraw, hunfit, ?_⟩
        refine List.forall_mem_cons.mpr ⟨fun text htext => ?_, hfront⟩
        exact (htext ▸ typed_of_parse hvalue).not_unfit
      · cases h

theorem parseEntries_congr {raw raw' : OrderedMap String} {entries : List (String × Value)}
    (h : ∀ entry ∈ entries, raw.get? entry.1 = raw'.get? entry.1) :
    parseEntries raw entries = parseEntries raw' entries := by
  induction entries with
  | nil => rfl
  | cons entry rest ih =>
    obtain ⟨hentry, hrest⟩ := List.forall_mem_cons.mp h
    rw [parseEntries, parseEntries, hentry, ih hrest]

theorem keys_parse (h : schema.parse attributes = .ok values) : values.keys = schema.names := by
  rw [parse] at h
  obtain ⟨entries, hentries, hmap⟩ := exists_of_map_eq_ok h
  cases hmap
  obtain ⟨hnames, -⟩ := parseEntries_spec hentries
  rw [OrderedMap.keys, OrderedMap.entries_ofList (hnames ▸ schema.defaults.nodup), hnames]
  rfl

theorem offends_of_parse (hdistinct : (attributes.keys.map propertyName).Nodup)
    (h : schema.parse attributes = .error error) :
    ∃ front default back, schema.defaults.entries = front ++ (error.property, default) :: back ∧
      error.expected = .number ∧ Offends attributes (error.property, default) error.found ∧
      ∀ earlier ∈ front, ∀ text, ¬Offends attributes earlier text := by
  rw [parse] at h
  obtain ⟨front, default, back, hentries, hexpected, hraw, hunfit, hfront⟩ :=
    parseEntries_error (error_of_map_eq_error h)
  refine ⟨front, default, back, hentries, hexpected, ⟨(gives_iff hdistinct).mpr hraw, hunfit⟩, ?_⟩
  exact fun earlier hearlier text hoffends =>
    hfront earlier hearlier text ((gives_iff hdistinct).mp hoffends.1) hoffends.2

theorem typed_values (hdistinct : (attributes.keys.map propertyName).Nodup) (h : schema.parse attributes = .ok values)
    (property : String × Value) (hproperty : property ∈ schema.defaults.entries) :
    ∃ raw value, Gives attributes property.1 raw ∧ values.get? property.1 = some value ∧
      Typed property.2 raw value ∧ value.kind = property.2.kind := by
  obtain ⟨value, hvalue, hparse⟩ := get?_parse (OrderedMap.get?_eq_some_iff.mpr hproperty) h
  exact ⟨_, value, (gives_iff hdistinct).mpr (get?_normalized attributes _), hvalue, typed_of_parse hparse,
    kind_parse hparse⟩

/-- Only the relevant attributes count, in whatever order they stand. -/
theorem parse_of_relevant (hdistinct : (attributes.keys.map propertyName).Nodup)
    (h : (schema.relevant other).Perm (schema.relevant attributes)) :
    schema.parse other = schema.parse attributes := by
  rw [parse, parse]
  congr 1
  refine parseEntries_congr fun entry hentry => ?_
  have hname : schema.contains entry.1 = true := OrderedMap.contains_iff_mem_keys.mpr (List.mem_map_of_mem hentry)
  have htexts : (writtenTexts other entry.1).Perm (writtenTexts attributes entry.1) := by
    rw [writtenTexts_eq hname, writtenTexts_eq hname]
    exact (h.filter _).map _
  rw [get?_normalized, get?_normalized]
  -- at most one text is written for a property, so there is no order among its texts
  rcases Nat.le_one_iff_eq_zero_or_eq_one.mp (length_writtenTexts hdistinct entry.1) with hnone | hone
  · rw [List.length_eq_zero_iff.mp hnone] at htexts ⊢
    rw [htexts.eq_nil]
  · obtain ⟨text, htext⟩ := List.length_eq_one_iff.mp hone
    rw [htext] at htexts ⊢
    rw [htexts.eq_singleton]

/-- Typing is exact: it fails at the first property that does not take the text of its attribute, and otherwise
gives each property of the schema, in its order, a value of its kind. It hangs on the relevant attributes alone,
and not on their order. -/
theorem parse_exact (schema : Schema) (attributes : RawAttributes)
    (hdistinct : (attributes.keys.map propertyName).Nodup) :
    (match schema.parse attributes with
      | .error error => ∃ front default back,
          schema.defaults.entries = front ++ (error.property, default) :: back ∧ error.expected = .number ∧
          Offends attributes (error.property, default) error.found ∧
          ∀ earlier ∈ front, ∀ text, ¬Offends attributes earlier text
      | .ok values => values.keys = schema.names ∧
          ∀ property ∈ schema.defaults.entries, (∀ text, ¬Offends attributes property text) ∧
            ∃ raw value, Gives attributes property.1 raw ∧ values.get? property.1 = some value ∧
              Typed property.2 raw value ∧ value.kind = property.2.kind) ∧
    ∀ other : RawAttributes, (schema.relevant other).Perm (schema.relevant attributes) →
      schema.parse other = schema.parse attributes := by
  refine ⟨?_, fun other => parse_of_relevant hdistinct⟩
  cases h : schema.parse attributes with
  | error error => exact offends_of_parse hdistinct h
  | ok values =>
    refine ⟨keys_parse h, fun property hproperty => ?_⟩
    obtain ⟨raw, value, hgives, hvalue, htyped, hkind⟩ := typed_values hdistinct h property hproperty
    refine ⟨fun text hoffends => ?_, raw, value, hgives, hvalue, htyped, hkind⟩
    have hraw : raw = some text := ((gives_iff hdistinct).mp hgives).symm.trans ((gives_iff hdistinct).mp hoffends.1)
    exact (hraw ▸ htyped).not_unfit hoffends.2

/-- A number behind a boolean. -/
def stepper : Schema := (Schema.empty.insert "open" (.boolean false)).insert "maxStep" (.number 1)

def stepperAttributes : RawAttributes := OrderedMap.ofList [("open", "false"), ("max-step", " 5px ")]

/-- The error has the text as it is written; a boolean before the number does not matter, nor does another order of
the attributes with one more. A number may have blank space around it, but must not be too large. -/
theorem parse_exact_stepper :
    (stepperAttributes.keys.map propertyName).Nodup ∧
      (∃ default, Offends stepperAttributes ("maxStep", default) " 5px ") ∧
      stepper.parse stepperAttributes = .error ⟨"maxStep", .number, " 5px "⟩ ∧
      stepper.parse (OrderedMap.ofList [("max-step", " 5px "), ("id", "x"), ("open", "false")]) =
        .error ⟨"maxStep", .number, " 5px "⟩ ∧
      stepper.parse (OrderedMap.ofList [("max-step", " -2.5e1 ")]) =
        .ok (OrderedMap.ofList [("open", .boolean false), ("maxStep", .number (-25))]) ∧
      stepper.parse (OrderedMap.ofList [("max-step", "1e999")]) = .error ⟨"maxStep", .number, "1e999"⟩ := by
  have hdistinct : (stepperAttributes.keys.map propertyName).Nodup := by decide +kernel
  have hparse : stepper.parse stepperAttributes = .error ⟨"maxStep", .number, " 5px "⟩ := rfl
  have hexact := parse_exact stepper stepperAttributes hdistinct
  rw [hparse] at hexact
  obtain ⟨⟨front, default, back, -, -, hoffends, -⟩, hrelevant⟩ := hexact
  refine ⟨hdistinct, ⟨default, hoffends⟩, hparse, hrelevant _ (by decide +kernel), rfl, ?_⟩
  have hlarge : Decimal.parse? "1e999" = none := Option.isNone_iff_eq_none.mp (by decide +kernel)
  have hopen : (normalized (OrderedMap.ofList [("max-step", "1e999")])).get? "open" = none := rfl
  have hstep : (normalized (OrderedMap.ofList [("max-step", "1e999")])).get? "maxStep" = some "1e999" := rfl
  have hentries : stepper.defaults.entries = [("open", .boolean false), ("maxStep", .number 1)] := rfl
  simp only [Schema.parse, hentries, parseEntries, hopen, hstep, Property.parse, hlarge]
  rfl

end Schema

end HtmlComponents.Property
