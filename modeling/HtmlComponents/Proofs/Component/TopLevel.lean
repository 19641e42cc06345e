import HtmlComponents.Proofs.Component.Compositional
import HtmlComponents.Proofs.Component.Structural
import HtmlComponents.Proofs.Text.Letters
import HtmlComponents.Proofs.Text.Pieces

/-!
# Components rendered directly and by their tags

Rendering a component with attributes comes to the same as expanding HTML that is one tag of the component
with these attributes (`run_expandHtml_tag`). A component that fails is an error here and a dropped tag
there.
-/

namespace HtmlComponents

/-! ### Component names as names of tags -/

section
variable {name : String}

theorem chars_of_isComponentName (h : isComponentName name = true) :
    ∀ c ∈ name.toList, c = '-' ∨ c.isLower = true ∨ c.isDigit = true := by
  rw [isComponentName, Bool.and_eq_true, List.all_eq_true] at h
  intro c hc
  by_cases hyphen : c = '-'
  · exact .inl hyphen
  · obtain ⟨piece, hpiece, hmem⟩ := Text.mem_piece_of_mem hc hyphen
    have hall := (Bool.and_eq_true_iff.mp (h.2 piece hpiece)).2
    exact .inr (Bool.or_eq_true_iff.mp (List.all_eq_true.mp hall c hmem))

theorem isTagName_of_isComponentName (h : isComponentName name = true) : isTagName name = true := by
  have hchars := chars_of_isComponentName h
  rw [isComponentName, Bool.and_eq_true] at h
  rw [Document.isTagName_iff]
  cases hname : name.toList with
  | nil =>
    rw [hname] at h
    cases h.1
  | cons c rest =>
    rw [hname] at h hchars
    have hc : c.isLower = true := h.1
    refine ⟨c, rest, rfl, Text.isAlpha_of_isLower hc, fun d hd => ?_⟩
    rcases hchars d hd with rfl | hlower | hdigit
    · decide
    · simp [Document.isTagNameChar, Char.isAlphanum, Text.isAlpha_of_isLower hlower]
    · simp [Document.isTagNameChar, Char.isAlphanum, hdigit]

theorem toLower_of_isComponentName (h : isComponentName name = true) : name.toLower = name := by
  have hlist : name.toLower.toList = name.toList.map Char.toLower := String.toList_map
  have hsame : name.toList.map Char.toLower = name.toList := by
    refine (List.map_congr_left fun c hc => ?_).trans (List.map_id _)
    rcases chars_of_isComponentName h c hc with rfl | hlower | hdigit
    · rfl
    · exact Text.toLower_of_isLower hlower
    · exact Text.toLower_of_isDigit hdigit
  exact String.toList_inj.mp (hlist.trans hsame)

end

/-! ### Elements with given attributes -/

namespace Element

theorem opening_attrs (e : Element) (pairs : List (String × String)) :
    (e.attrs pairs).opening = { e.opening with
      attributes := pairs.foldl (fun m pair => m.insert pair.1 (some pair.2)) e.opening.attributes } := by
  induction pairs generalizing e with
  | nil => rfl
  | cons pair rest ih => exact ih (e.attr pair.1 pair.2)

theorem children_attrs (e : Element) (pairs : List (String × String)) :
    (e.attrs pairs).children = e.children := by
  induction pairs generalizing e with
  | nil => rfl
  | cons pair rest ih => exact ih (e.attr pair.1 pair.2)

theorem toMarkup_tag (name : String) (attributes : OrderedMap String) :
    ((Element.ofTag name).attrs attributes.entries).close.toMarkup =
      .element ⟨name, attributes.mapValues fun _ value => some value, true⟩ [] := by
  have hattributes : attributes.entries.foldl
      (fun m pair => m.insert pair.1 (some pair.2)) OrderedMap.empty =
      attributes.mapValues fun _ value => some value := by
    refine OrderedMap.eq_of_entries ?_
    rw [OrderedMap.entries_foldl_insert some .empty attributes.entries attributes.nodup (by simp)]
    rfl
  rw [toMarkup, close, opening_attrs, children_attrs, ofTag]
  simp only [hattributes]

end Element

theorem Opening.rawAttributes_mapValues (tag : String) (attributes : OrderedMap String)
    (selfClosing : Bool) :
    Opening.rawAttributes ⟨tag, attributes.mapValues fun _ value => some value, selfClosing⟩ =
      attributes := by
  refine OrderedMap.eq_of_entries ?_
  show (attributes.entries.map fun entry => (entry.1, some entry.2)).map
    (fun entry => (entry.1, entry.2.getD "")) = attributes.entries
  rw [List.map_map]
  exact List.map_id _

namespace Component

theorem Registry.isComponentName_of_contains {registry : Registry} {name : String}
    (h : registry.contains name = true) : isComponentName name = true := by
  cases hentry : registry.entries.get? name with
  | none => exact absurd (OrderedMap.contains_iff_mem_keys.mp h) (OrderedMap.get?_eq_none_iff.mp hentry)
  | some entry => exact (registry.named name entry hentry).2

namespace Session

variable {options : Options} {registry : Registry} {name : String} {attributes : RawAttributes}

/-- The tag of a component as an element. -/
def tagOpening (name : String) (attributes : RawAttributes) : Opening :=
  ⟨name, attributes.mapValues fun _ value => some value, true⟩

theorem isReadable_tagOpening (hname : isComponentName name = true)
    (hattributes : ∀ key ∈ attributes.keys, isAttributeName key = true) :
    (Markup.element (tagOpening name attributes) []).isReadable = true := by
  have hkeys : (tagOpening name attributes).attributes.keys = attributes.keys := by
    show (attributes.entries.map fun entry => (entry.1, some entry.2)).map Prod.fst = _
    rw [List.map_map]
    rfl
  have hopening : (tagOpening name attributes).isReadable = true := by
    rw [Opening.isReadable, hkeys, Bool.and_eq_true, List.all_eq_true]
    exact ⟨isTagName_of_isComponentName hname, hattributes⟩
  rw [Markup.isReadable, hopening]
  simp [Markup.isOnlyTextList, Markup.isReadableList]

/-- The written tag of a component is read as that component with the attributes that were written. -/
theorem run_expand_tag (scope : Scope) (hname : registry.contains name = true)
    (hattributes : ∀ key ∈ attributes.keys, isAttributeName key = true) :
    (expand options scope (tagOpening name attributes).chars).run registry =
      (expandUse options scope name attributes (tagOpening name attributes).chars fun name _ html =>
        expand options (scope.enter name) html).run registry := by
  have hvalid := Registry.isComponentName_of_contains hname
  have hlocal : (tagOpening name attributes).tag.toLower = name := toLower_of_isComponentName hvalid
  have hraw : (tagOpening name attributes).rawAttributes = attributes :=
    Opening.rawAttributes_mapValues name attributes true
  have hroots : (Document.ofChars (tagOpening name attributes).chars).roots =
      [.lone (tagOpening name attributes).startTag (tagOpening name attributes).chars] :=
    Document.roots_ofChars (isReadable_tagOpening hvalid hattributes)
  have haccepts : registry.contains (tagOpening name attributes).startTag.localName = true := by
    rw [show (tagOpening name attributes).startTag.localName = name from hlocal]
    exact hname
  rw [expand_eq_expandPieces, run_bind, run_get, hroots, Document.pieces_singleton rfl haccepts,
    expandPieces_element, expandEntering_startTag, hlocal, hraw]
  rfl

/-- Rendering a component comes to the same as expanding its tag; the error of a component that fails is
collected there. -/
theorem run_expandHtml_tag (options : Options) (hname : registry.contains name = true)
    (hattributes : ∀ key ∈ attributes.keys, isAttributeName key = true) :
    (expandHtml options ((Element.ofTag name).attrs attributes.entries).close.toMarkup.toHtml).run
        registry =
      match (render options name attributes).run registry with
      | (.ok output, later) => (output, later)
      | (.error e, later) => (⟨"", "", [e], []⟩, later) := by
  have hidle : name ∈ (Scope.outside registry).idle := Registry.contains_iff_mem_names.mp hname
  have hdepth : ¬(Scope.outside registry).active.length > options.maxDepth := Nat.not_lt_zero _
  rw [Element.toMarkup_tag, Markup.toHtml, expandHtml, run_bind, run_get, String.toList_ofList, run_bind]
  rw [show (Markup.element _ []).chars = (tagOpening name attributes).chars from rfl]
  rw [run_expand_tag _ hname hattributes, expandUse, dif_pos hidle, if_neg hdepth, run_bind, render,
    run_bind, run_get, run_bind]
  -- both go on with what the component renders
  rcases (renderTag name attributes).run registry with ⟨result, later⟩
  cases result with
  | error e => rfl
  | ok rendered => rfl

def titled : Definition where
  name := "x-titled"
  styles := OrderedMap.empty
  routes := OrderedMap.empty
  render := some fun _ _ => .read "mainTitle" (.string "none") fun
    | .string title => .done (.ok ((Element.ofTag "b").addChild (.text title)).toMarkup)
    | _ => .done (.ok Markup.empty)
  properties := .inferred

def titles : Registry := (Registry.empty .standard).setEntry (.ofDefinition titled) (by decide +kernel)

def quotation : RawAttributes := OrderedMap.ofList [("main-title", "\"<i>\" &amp;")]

theorem run_expandHtml_tag_titles :
    titles.contains "x-titled" = true ∧ (∀ key ∈ quotation.keys, isAttributeName key = true) ∧
      ((expandHtml .standard ((Element.ofTag "x-titled").attrs quotation.entries).close.toMarkup.toHtml
        ).run titles).1 = ⟨"<b>\"&lt;i&gt;\" &amp;amp;</b>", "", [], []⟩ := by
  have hname : titles.contains "x-titled" = true := by decide +kernel
  have hkeys : ∀ key ∈ quotation.keys, isAttributeName key = true := by decide +kernel
  have hrender : ((render .standard "x-titled" quotation).run titles).1 =
      .ok ⟨"<b>\"&lt;i&gt;\" &amp;amp;</b>", "", [], []⟩ := by decide +kernel
  refine ⟨hname, hkeys, ?_⟩
  rw [run_expandHtml_tag .standard hname hkeys]
  rcases hrun : (render .standard "x-titled" quotation).run titles with ⟨result, later⟩
  rw [hrun] at hrender
  cases hrender
  rfl

end Session

end Component

end HtmlComponents
