import HtmlComponents.Proofs.Component.Reading
import HtmlComponents.Proofs.Style.Entries
import HtmlComponents.Proofs.Text.Camel

/-!
# One name for one key

Keys in camel case and their names in kebab case correspond one to one (`className_spelled`): the key is found
again from its class, so no two such keys have one class, and a property is reached by its attribute.
-/

namespace HtmlComponents

open Text (IsCamel)
open Text.Words (smallWords)

variable {key other : String} {head head' : List Char} {humps humps' : List (List Char)}

theorem propertyName_className (h : IsCamel key.toList head humps) : propertyName (className key) = key := by
  rw [className, Text.Words.kebab_camel h, propertyName, String.toList_ofList]
  split
  · exact Text.Words.camel_kebab h
  · rename_i hhyphen
    -- the key is one word
    obtain rfl : humps = [] := Classical.not_not.mp fun hne => hhyphen ((Text.Words.hyphen_mem_iff h).mpr hne)
    have hkey := h.text_eq
    rw [List.flatten_nil, List.append_nil] at hkey
    rw [smallWords, List.map_nil, List.intercalate_singleton, ← hkey, String.ofList_toList]

theorem eq_of_className_eq (h : IsCamel key.toList head humps) (h' : IsCamel other.toList head' humps')
    (hclass : className key = className other) : key = other := by
  rw [← propertyName_className h, hclass, propertyName_className h']

/-! ### Style tables -/

namespace Style

theorem fault_of_compile {table : Table} {e : Error} (h : compile table = .error e) :
    ∃ front entry back, table.entries = front ++ entry :: back ∧ Fault front entry e := by
  have hstops := stops_rules .nil table.entries
  unfold compile at h
  cases hrules : rules [] table.entries with
  | error e' =>
    rw [hrules] at h hstops
    cases h
    obtain ⟨front, entry, back, hsplit, -, hfault⟩ := hstops
    exact ⟨front, entry, back, hsplit, hfault⟩
  | ok rs =>
    rw [hrules] at h
    cases h

theorem ne_of_collision {table : Table} {name first second : String}
    (h : compile table = .error (.classCollision name first second)) :
    first ≠ second ∧ className first = className second := by
  obtain ⟨front, entry, back, hsplit, hfault⟩ := fault_of_compile h
  cases hfault with
  | collision before _ _ hmem _ hclass =>
    have hnodup := table.nodup
    rw [hsplit, List.map_append, List.map_cons, List.nodup_append] at hnodup
    exact ⟨hnodup.2.2 before.1 (List.mem_map_of_mem hmem) entry.1 List.mem_cons_self, hclass⟩

end Style

/-! ### Attributes -/

namespace Property

theorem writtenTexts_of_only {attributes : RawAttributes} {name property : String}
    (hname : propertyName name = property)
    (honly : ∀ other ∈ attributes.keys, propertyName other = property → other = name) :
    writtenTexts attributes property =
      (attributes.entries.filter fun entry => entry.1 == name).map Prod.snd := by
  rw [writtenTexts]
  refine congrArg (List.map Prod.snd) (List.filter_congr fun entry hentry => ?_)
  rw [Bool.eq_iff_iff, beq_iff_eq, beq_iff_eq]
  exact ⟨honly entry.1 (List.mem_map_of_mem hentry), fun heq => heq ▸ hname⟩

end Property

/-- Keys of a small word and words with a capital each correspond to their names in kebab case: the class and the
attribute of a key are its words in small letters with hyphens between them, and the property of that name is the
key. So keys with one class are one key, none of them collide in a style table, and the attribute sets the
property, for reads of the schema and for others, if the tag does not spell the property in another way too. -/
theorem className_spelled (h : IsCamel key.toList head humps) :
    let spelled := String.ofList (['-'].intercalate (head :: humps.map (List.map Char.toLower)))
    className key = spelled ∧ attributeName key = spelled ∧ propertyName spelled = key ∧
      (∀ other head' humps', IsCamel other.toList head' humps' → className key = className other → key = other) ∧
      (∀ other head' humps', IsCamel other.toList head' humps' → ∀ (table : Style.Table) (name : String),
        Style.compile table ≠ .error (.classCollision name key other)) ∧
      ∀ (attributes : RawAttributes) (text : String), attributes.get? spelled = some text →
        (∀ name ∈ attributes.keys, propertyName name = key → name = spelled) →
          (Property.Schema.normalized attributes).get? key = some text ∧
            ∀ values, (Component.Props.withAttributes values attributes).raw.get? key = some text := by
  intro spelled
  have hclass : className key = spelled := Text.Words.kebab_camel h
  have hback : propertyName spelled = key := hclass ▸ propertyName_className h
  refine ⟨hclass, hclass, hback, fun other _ _ hother => eq_of_className_eq h hother, ?_, ?_⟩
  · intro other _ _ hother table name hcompile
    obtain ⟨hne, heq⟩ := Style.ne_of_collision hcompile
    exact hne (eq_of_className_eq h hother heq)
  · intro attributes text htext honly
    have hwritten := Property.writtenTexts_of_only hback honly
    refine ⟨?_, fun values => ?_⟩
    · rw [Property.Schema.get?_normalized, hwritten, ← OrderedMap.lookup_reverse_eq_getLast?,
        OrderedMap.lookup_reverse attributes.nodup]
      exact htext
    · rw [Component.Props.get?_raw, hwritten, ← OrderedMap.lookup_eq_head?]
      exact htext

theorem className_spelled_cardHeaderTitle :
    let attributes := OrderedMap.ofList [("card-header", "1"), ("card-header-title", "2")]
    IsCamel "cardHeaderTitle".toList "card".toList ["Header".toList, "Title".toList] ∧
      className "cardHeaderTitle" = "card-header-title" ∧ propertyName "card-header-title" = "cardHeaderTitle" ∧
      attributes.get? "card-header-title" = some "2" ∧
      (Property.Schema.normalized attributes).get? "cardHeaderTitle" = some "2" := by
  intro attributes
  have h : IsCamel "cardHeaderTitle".toList "card".toList ["Header".toList, "Title".toList] := by
    refine ⟨rfl, by decide +kernel, ?_⟩
    refine List.forall_mem_cons.mpr ⟨⟨'H', "eader".toList, rfl, rfl, by decide +kernel⟩, ?_⟩
    exact List.forall_mem_singleton.mpr ⟨'T', "itle".toList, rfl, rfl, by decide +kernel⟩
  obtain ⟨hclass, -, hback, -, -, hread⟩ := className_spelled h
  have htext : attributes.get? "card-header-title" = some "2" := rfl
  exact ⟨h, hclass, hback, htext, (hread attributes "2" htext (by decide +kernel)).1⟩

end HtmlComponents
