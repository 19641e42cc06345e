import HtmlComponents.Proofs.Component.Piecewise
import HtmlComponents.Proofs.Component.Registry
import HtmlComponents.Proofs.Document.RawText

/-!
# Tags in raw text

Where a raw text element holds nothing but text, no search finds a tag in it and expansion replaces nothing
in it. It holds nothing but text unless something in it looks like the beginning of its end tag and markup
follows there (`opaque_rawText_iff`, `scripty_not_opaque`).
-/

namespace HtmlComponents.Component.Session

open Document (Placed Node Token)

section
variable {use : StartTag → List Char → Session Outcome}

theorem map_fst_expandFound (found : List (StartTag × Placed)) (registry : Registry) :
    ((expandFound use found).run registry).1.map Prod.fst = found.map Prod.snd := by
  induction found generalizing registry with
  | nil => rfl
  | cons first found ih =>
    obtain ⟨tag, placed⟩ := first
    rw [expandFound_cons, run_bind]
    exact congrArg (placed :: ·) (ih _)

end

/-- Expansion replaces whole nodes, and only those that the search for tags finds. -/
theorem exists_replacements (options : Options) (scope : Scope) (registry : Registry)
    (html : List Char) :
    ∃ replacements : List (Nat × List Char),
      ((expand options scope html).run registry).1.html =
        (Document.ofChars html).splice replacements ∧
      ∀ r ∈ replacements, ∃ found ∈ (Document.ofChars html).outermost fun tag =>
        registry.contains tag.localName, r.1 = found.2.id := by
  rw [expand_eq_expandFound, run_bind, run_get, run_bind]
  refine ⟨_, rfl, fun r hr => ?_⟩
  obtain ⟨outcome, houtcome, rfl⟩ := List.mem_map.mp hr
  have hplaced := List.mem_map_of_mem (f := Prod.fst) houtcome
  rw [map_fst_expandFound] at hplaced
  obtain ⟨found, hfound, heq⟩ := List.mem_map.mp hplaced
  exact ⟨found, hfound, by rw [heq]⟩

/-- A raw text element that its own end tag closes holds nothing but text exactly when what follows its raw
text reads as text and end tags, so always when nothing in it looks like its end tag. Then nothing is found
in it, and nothing in it is replaced. -/
theorem opaque_rawText_iff (source : String) {p : Placed} {tag : StartTag} {opening ending : List Char}
    {children : List Node} (hp : p ∈ (Document.parse source).placed)
    (hnode : p.node = .paired tag opening children ending) (hraw : isRawText tag.name = true) :
    ((∀ node ∈ children, node.isText = true) ↔
      ∀ token ∈ Document.tokens
        (Document.splitRaw tag.name (Node.charsList children ++ ending)).2, token.isTextual = true) ∧
    ((∀ rest, rest <:+ Node.charsList children → Document.startsEndOf tag.name rest = false) →
      ∀ node ∈ children, node.isText = true) ∧
    ((∀ node ∈ children, node.isText = true) →
      (∀ q ∈ p.inside, q.node.isText = true) ∧
      (∀ accepts, ∀ found ∈ (Document.parse source).outermost accepts, ∀ q ∈ p.inside,
        found.2.id ≠ q.id) ∧
      ∀ options registry, ∃ replacements : List (Nat × List Char),
        ((expandHtml options source).run registry).1.html =
          String.ofList ((Document.parse source).splice replacements) ∧
        ∀ r ∈ replacements, ∀ q ∈ p.inside, r.1 ≠ q.id) := by
  refine ⟨Document.isText_rawText_iff hp hnode hraw, Document.isText_of_free hp hnode hraw, fun h => ?_⟩
  have htext : ∀ node ∈ p.node.children, node.isText = true := by rwa [hnode]
  have hfound := Document.id_ne_of_mem_outermost hp htext
  refine ⟨Document.isText_of_mem_inside htext, hfound, fun options registry => ?_⟩
  obtain ⟨replacements, hhtml, hreplaced⟩ :=
    exists_replacements options (Scope.outside registry) registry source.toList
  refine ⟨replacements, congrArg String.ofList hhtml, fun r hr q hq => ?_⟩
  obtain ⟨found, hmem, hid⟩ := hreplaced r hr
  rw [hid]
  exact hfound _ found hmem q hq

/-- A stray end tag that begins like that of the element is text as well. -/
theorem opaque_rawText_script :
    ∃ p ∈ (Document.parse "<script><b></scripty>a</script >").placed,
      ∃ tag opening children ending, p.node = .paired tag opening children ending ∧
        isRawText tag.name = true ∧ ∀ node ∈ children, node.isText = true := by
  have hread : ((Document.parse "<script><b></scripty>a</script >").placed.any fun p =>
      p.node.chars == "<script>".toList ++ "<b></scripty>a</script >".toList &&
        p.node.openingChars == "<script>".toList &&
        (p.node.tag?.any fun tag => tag.name == "script") && !p.node.children.isEmpty) = true := by
    decide +kernel
  have htokens : ∀ token ∈ Document.tokens
      (Document.splitRaw "script" "<b></scripty>a</script >".toList).2, token.isTextual = true := by
    decide +kernel
  obtain ⟨p, hp, hread⟩ := List.any_eq_true.mp hread
  cases hnode : p.node with
  | paired tag opening children ending =>
    simp only [hnode, Bool.and_eq_true, beq_iff_eq, Node.chars, Node.openingChars, Node.tag?,
      Option.any_some, List.append_assoc] at hread
    obtain ⟨⟨⟨hchars, rfl⟩, hname⟩, -⟩ := hread
    have hrest := List.append_cancel_left hchars
    have hraw : isRawText tag.name = true := by
      rw [hname]
      decide +kernel
    refine ⟨p, hp, tag, _, children, ending, hnode, hraw, ?_⟩
    rw [(opaque_rawText_iff _ hp hnode hraw).1, hname, hrest]
    exact htokens
  | _ => simp [hnode, Node.children] at hread

/-- A component that renders a number. -/
def counter : Definition where
  name := "counter"
  styles := OrderedMap.empty
  routes := OrderedMap.empty
  render := some fun _ _ => .done (.ok (.text "1"))
  properties := .inferred

def counters : Registry :=
  (Registry.empty .standard).setEntry (.ofDefinition counter) (by decide +kernel)

/-- A tag behind a stray end tag that begins like that of the element is found, and it is replaced. -/
theorem scripty_not_opaque :
    (∃ p ∈ (Document.parse "<script></scripty><counter></counter></script>").placed,
      ∃ tag opening children ending, p.node = .paired tag opening children ending ∧
        isRawText tag.name = true ∧ ∃ node ∈ children, node.isText = false) ∧
      ((expandHtml .standard "<script></scripty><counter></counter></script>").run counters).1.html =
        "<script></scripty>1</script>" := by
  have hread : ((Document.parse "<script></scripty><counter></counter></script>").placed.any fun p =>
      (p.node.tag?.any fun tag => isRawText tag.name) && p.node.children.any (!Node.isText ·)) =
        true := by decide +kernel
  refine ⟨?_, by decide +kernel⟩
  obtain ⟨p, hp, hread⟩ := List.any_eq_true.mp hread
  cases hnode : p.node with
  | paired tag opening children ending =>
    simp only [hnode, Bool.and_eq_true, Node.tag?, Option.any_some, Node.children,
      List.any_eq_true] at hread
    obtain ⟨hraw, node, hmem, htext⟩ := hread
    exact ⟨p, hp, tag, opening, children, ending, hnode, hraw, node, hmem, by simpa using htext⟩
  | _ => simp [hnode, Node.children] at hread

end HtmlComponents.Component.Session
