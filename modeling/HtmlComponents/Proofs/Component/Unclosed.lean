import HtmlComponents.Proofs.Component.Paired
import HtmlComponents.Proofs.Document.Unclosed

/-!
# The tag of a component without an end tag

A start tag that no end tag closes is the self-closing tag: a slash before its end changes nothing in the
document but that tag, and nothing in the output if the tag is that of a component (`expandHtml_slashed`).
-/

namespace HtmlComponents

open Document (Placed Replaces Corresponds ofChars piecesIn slashed)

namespace Component.Session

variable {tag : StartTag} {s front : List Char} {count : Nat} {p : Placed}

theorem outcome_of_replaces (options : Options) (registry : Registry) {html html' : List Char}
    (hname : registry.contains tag.localName = true)
    (h : Replaces (.lone tag s) (.lone tag.closed (slashed s)) front count (ofChars html).roots
      (ofChars html').roots) :
    Library.outcome registry.definition? options (Scope.outside registry) html =
      Library.outcome registry.definition? options (Scope.outside registry) html' := by
  have haccepts : ∀ tag : StartTag, (registry.definition? tag.localName).isSome = true →
      tag.localName ∈ (Scope.outside registry).idle := fun tag htag =>
    Registry.contains_iff_mem_names.mp ((registry.contains_eq_isSome _).trans htag)
  have hdepth : ¬(Scope.outside registry).active.length > options.maxDepth := Nat.not_lt_zero _
  have htag : (registry.definition? tag.localName).isSome = true := by
    rwa [← registry.contains_eq_isSome]
  have htag' : (registry.definition? tag.closed.localName).isSome = true := htag
  rw [Library.outcome, Library.outcome]
  refine congrArg Outcome.concat (h.map_pieces ?_ fun tag htag source source' => ?_)
  · rw [piecesIn, piecesIn, if_pos htag, if_pos htag']
    exact congrArg (fun outcome => [outcome])
      (Library.tagOutcome_congr (haccepts tag htag) hdepth rfl rfl s (slashed s))
  · exact Library.tagOutcome_congr (haccepts tag htag) hdepth rfl rfl source source'

/-- A start tag that no end tag closes and its self-closing form are the same element in the same document, and
the same tag of a component. -/
theorem expandHtml_slashed {html : String} (hplaced : p ∈ (Document.parse html).placed)
    (hnode : p.node = .lone tag s) (hclosing : tag.selfClosing = false) (hvoid : isVoid tag.name = false)
    (hraw : isRawText tag.name = false) :
    let html' := String.ofList (Text.insertBytes (p.stop - 1) [' ', '/'] html.toList)
    s.getLast? = some '>' ∧
      List.Forall₂ (Corresponds p.id p.start (.lone tag.closed (slashed s))) (Document.parse html).placed
        (Document.parse html').placed ∧
      ∀ (options : Options) (registry : Registry), registry.contains tag.localName = true →
        ((expandHtml options html').run registry).1 = ((expandHtml options html).run registry).1 := by
  intro html'
  obtain ⟨front, b, hstart, hsource, hreplaces⟩ :=
    Document.replaces_of_mem_placed hplaced hnode hclosing hvoid hraw
  have hparse : Document.parse html' = ofChars html'.toList := rfl
  rw [← String.toList_ofList (l := Text.insertBytes _ _ _)] at hreplaces
  refine ⟨?_, ?_, fun options registry hname => ?_⟩
  · rw [hsource, List.getLast?_concat]
  · have hbytes : Text.byteLength (slashed s) = Text.byteLength s + 2 := by
      rw [hsource, Document.slashed_append, Text.byteLength_append, Text.byteLength_append]
      rfl
    have hforall := hreplaces.forall₂_placeNodes (by rw [hsource]; simp) hbytes none 0 0
    rw [Nat.zero_add, Nat.zero_add, ← hstart] at hforall
    exact hforall
  · rw [fst_expandHtml, fst_expandHtml, outcome_of_replaces options registry hname hreplaces]

/-- A tag with a sign in it that has a meaning outside of quotes. -/
def titledTag : StartTag := ⟨"X-titled", [("main-title", some "a>")], false⟩

/-- The source and the end of an element that consists of its start tag. -/
def alone? (p : Placed) : Option (StartTag × List Char × Nat) :=
  match p.node with
  | .lone tag s => some (tag, s, p.stop)
  | _ => none

/-- The end tag of the element around closes the tag of a component. -/
theorem expandHtml_slashed_titled :
    let html := "<p>ä<X-titled main-title='a>'>b</p>"
    let slashedHtml := "<p>ä<X-titled main-title='a>' />b</p>"
    let output := fun html => ((expandHtml .standard html).run titles).1
    ∃ p ∈ (Document.parse html).placed, ∃ s, p.node = .lone titledTag s ∧
      titledTag.selfClosing = false ∧ isVoid titledTag.name = false ∧ isRawText titledTag.name = false ∧
      titles.contains titledTag.localName = true ∧
      List.Forall₂ (Corresponds p.id p.start (.lone titledTag.closed (slashed s)))
        (Document.parse html).placed (Document.parse slashedHtml).placed ∧
      output slashedHtml = output html ∧ output html = ⟨"<p>ä<b>a&gt;</b>b</p>", "", [], []⟩ := by
  intro html slashedHtml output
  have hfind : (Document.parse html).placed.findSome? alone? =
      some (titledTag, "<X-titled main-title='a>'>".toList, 31) := by decide +kernel
  obtain ⟨p, hplaced, halone⟩ := List.exists_of_findSome?_eq_some hfind
  obtain ⟨hnode, hstop⟩ : p.node = .lone titledTag "<X-titled main-title='a>'>".toList ∧ p.stop = 31 := by
    unfold alone? at halone
    split at halone
    · rename_i tag s hnode
      simp only [Option.some.injEq, Prod.mk.injEq] at halone
      obtain ⟨rfl, rfl, hstop⟩ := halone
      exact ⟨hnode, hstop⟩
    · cases halone
  have hvoid : isVoid titledTag.name = false := by decide +kernel
  have hraw : isRawText titledTag.name = false := by decide +kernel
  have hname : titles.contains titledTag.localName = true := by decide +kernel
  have hhtml : String.ofList (Text.insertBytes (p.stop - 1) [' ', '/'] html.toList) = slashedHtml := by
    rw [hstop]
    decide +kernel
  obtain ⟨-, hforall, houtput⟩ := expandHtml_slashed hplaced hnode rfl hvoid hraw
  rw [hhtml] at hforall houtput
  refine ⟨p, hplaced, _, hnode, rfl, hvoid, hraw, hname, hforall, houtput .standard titles hname, ?_⟩
  simp only [output, fst_expandHtml]
  decide +kernel

end Component.Session

end HtmlComponents
