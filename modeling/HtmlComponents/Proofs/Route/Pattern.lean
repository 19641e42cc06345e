import HtmlComponents.Proofs.Except
import HtmlComponents.Proofs.Text.Percent
import HtmlComponents.Proofs.Text.Pieces
import HtmlComponents.Route.Pattern

/-!
# Paths written from a pattern

The literals of a pattern that was read are plain (`plain_of_parse`), so a path written from arguments
falls into the same parts again: the pattern matches it and binds the arguments (`match?_resolve`).
-/

namespace HtmlComponents.Route.Pattern

/-- Literals that hold no sign that divides a path or ends it. -/
def Plain (segments : List Segment) : Prop :=
  ∀ text, Segment.literal text ∈ segments →
    text.toList ≠ [] ∧ '/' ∉ text.toList ∧ '?' ∉ text.toList ∧ '#' ∉ text.toList

theorem Plain.tail {segment : Segment} {segments : List Segment} (h : Plain (segment :: segments)) :
    Plain segments :=
  fun text hmem => h text (List.mem_cons_of_mem _ hmem)

section
variable {source : String} {earlier segments : List Segment} {piece : List Char}

theorem readSegment_literal {text : String}
    (h : readSegment source earlier piece = .ok (.literal text)) :
    piece = text.toList ∧ piece ≠ [] ∧ '?' ∉ piece ∧ '#' ∉ piece := by
  unfold readSegment at h
  split at h
  · cases h
  · rename_i hempty
    split at h
    · cases h
    · rename_i hsigns
      rw [not_or] at hsigns
      have hne : piece ≠ [] := fun hnil => hempty (List.isEmpty_iff.mpr hnil)
      split at h
      · split at h
        · cases h
        · split at h <;> cases h
      · cases h
        exact ⟨String.toList_ofList.symm, hne, hsigns⟩

theorem plain_of_readSegments {texts : List (List Char)}
    (h : readSegments source earlier texts = .ok segments) (hslash : ∀ piece ∈ texts, '/' ∉ piece) :
    Plain segments := by
  induction texts generalizing earlier segments with
  | nil =>
    cases h
    exact fun _ hmem => absurd hmem List.not_mem_nil
  | cons piece rest ih =>
    rw [readSegments] at h
    obtain ⟨segment, hsegment, h⟩ := exists_of_bind_eq_ok h
    obtain ⟨others, hothers, h⟩ := exists_of_bind_eq_ok h
    cases h
    obtain ⟨hpiece, hrest⟩ := List.forall_mem_cons.mp hslash
    intro text hmem
    rcases List.mem_cons.mp hmem with rfl | hmem
    · obtain ⟨rfl, hne, hquery, hfragment⟩ := readSegment_literal hsegment
      exact ⟨hne, hpiece, hquery, hfragment⟩
    · exact ih hothers hrest text hmem

theorem plain_of_parse {pattern : Pattern} (h : parse source = .ok pattern) :
    Plain pattern.segments := by
  unfold parse at h
  split at h
  · cases h
    exact fun _ hmem => absurd hmem List.not_mem_nil
  · obtain ⟨segments, hsegments, hmap⟩ := exists_of_map_eq_ok h
    cases hmap
    exact plain_of_readSegments hsegments fun piece hpiece => Text.not_mem_of_mem_pieces hpiece
  · cases h

end

/-- The names of the parameters among segments. -/
def names (segments : List Segment) : List String := segments.filterMap Segment.parameter?

/-- What stands between the slashes of a path that segments write. -/
def parts : List Segment → List String → List (List Char)
  | [], _ => []
  | .literal text :: segments, arguments => text.toList :: parts segments arguments
  | .parameter _ :: segments, [] => [] :: parts segments []
  | .parameter _ :: segments, argument :: arguments =>
    (Text.Percent.encode argument).toList :: parts segments arguments

theorem fill_eq (segments : List Segment) (arguments : List String) :
    fill segments arguments = (parts segments arguments).flatMap ('/' :: ·) := by
  fun_induction parts segments arguments with
  | case1 => rfl
  | case2 text segments arguments ih => rw [fill, ih]; rfl
  | case3 name segments ih => rw [fill, ih]; rfl
  | case4 name segments argument arguments ih => rw [fill, ih]; rfl

theorem encode_plain {argument : String} (h : argument ≠ "") :
    (Text.Percent.encode argument).toList ≠ [] ∧
      ∀ sign ∈ ['/', '?', '#'], sign ∉ (Text.Percent.encode argument).toList := by
  refine ⟨Text.Percent.toList_encode_ne_nil h, fun sign hsign hmem => ?_⟩
  have hwritten := Text.Percent.of_mem_encode hmem
  simp only [List.mem_cons, List.not_mem_nil, or_false] at hsign
  rcases hsign with rfl | rfl | rfl <;> exact absurd hwritten (by decide)

section
variable {segments : List Segment} {arguments : List String}

theorem plain_parts (hplain : Plain segments) (hlength : (names segments).length ≤ arguments.length)
    (hnonempty : ∀ argument ∈ arguments.take (names segments).length, argument ≠ "") :
    ∀ part ∈ parts segments arguments, part ≠ [] ∧ ∀ sign ∈ ['/', '?', '#'], sign ∉ part := by
  fun_induction parts segments arguments with
  | case1 => exact fun _ hmem => absurd hmem List.not_mem_nil
  | case2 text segments arguments ih =>
    intro part hpart
    rcases List.mem_cons.mp hpart with rfl | hpart
    · obtain ⟨hne, hslash, hquery, hfragment⟩ := hplain text List.mem_cons_self
      exact ⟨hne, by simp [hslash, hquery, hfragment]⟩
    · exact ih hplain.tail hlength hnonempty part hpart
  | case3 name segments ih => cases hlength
  | case4 name segments argument arguments ih =>
    have hnames : names (.parameter name :: segments) = name :: names segments := rfl
    rw [hnames, List.length_cons] at hlength hnonempty
    rw [List.take_succ_cons, List.forall_mem_cons] at hnonempty
    intro part hpart
    rcases List.mem_cons.mp hpart with rfl | hpart
    · exact encode_plain hnonempty.1
    · exact ih hplain.tail (Nat.le_of_succ_le_succ hlength) hnonempty.2 part hpart

/-- Segments match the parts that they write, and bind the arguments as they were given. -/
theorem bind?_parts (hlength : (names segments).length ≤ arguments.length)
    (hnonempty : ∀ argument ∈ arguments.take (names segments).length, argument ≠ "") :
    bind? segments (parts segments arguments) =
      some ((names segments).zip (arguments.take (names segments).length)) := by
  fun_induction parts segments arguments with
  | case1 => rfl
  | case2 text segments arguments ih =>
    rw [bind?, if_pos rfl]
    exact ih hlength hnonempty
  | case3 name segments ih => cases hlength
  | case4 name segments argument arguments ih =>
    have hnames : names (.parameter name :: segments) = name :: names segments := rfl
    rw [hnames, List.length_cons] at hlength hnonempty
    rw [List.take_succ_cons, List.forall_mem_cons] at hnonempty
    have hpart : ¬(Text.Percent.encode argument).toList.isEmpty = true := by
      rw [List.isEmpty_iff]
      exact (encode_plain hnonempty.1).1
    rw [bind?, if_neg hpart, ih (Nat.le_of_succ_le_succ hlength) hnonempty.2, String.ofList_toList,
      Text.Percent.decode_encode, hnames, List.length_cons, List.take_succ_cons, List.zip_cons_cons]
    rfl

end

/-- A written path falls into the parts that it was written from, unless it is a slash alone. -/
theorem splitPath_flatMap {parts : List (List Char)} (hparts : parts ≠ []) (hroot : parts ≠ [[]])
    (hslash : ∀ part ∈ parts, '/' ∉ part) : splitPath (parts.flatMap ('/' :: ·)) = parts := by
  obtain ⟨part, rest, rfl⟩ := List.exists_cons_of_ne_nil hparts
  have hbody : ¬(part ++ rest.flatMap ('/' :: ·)).isEmpty = true := by
    rw [List.isEmpty_iff, List.append_eq_nil_iff]
    rintro ⟨rfl, hrest⟩
    cases rest with
    | nil => exact hroot rfl
    | cons next rest => exact absurd hrest (List.cons_ne_nil _ _)
  rw [List.flatMap_cons, List.cons_append, splitPath]
  simp only [if_neg hbody]
  exact Text.pieces_flatMap hslash

section
variable {pattern : Pattern} {arguments : List String}

theorem toList_resolve (pattern : Pattern) (arguments : List String) :
    (pattern.resolve arguments).toList =
      if pattern.segments = [] then ['/']
      else (parts pattern.segments arguments).flatMap ('/' :: ·) := by
  unfold resolve
  split
  · rename_i hnil
    rw [if_pos hnil]
    rfl
  · rename_i hsome
    rw [if_neg hsome, String.toList_ofList, fill_eq]

theorem parts_ne_nil {segments : List Segment} (h : segments ≠ []) (arguments : List String) :
    parts segments arguments ≠ [] := by
  fun_cases parts segments arguments with
  | case1 => exact absurd rfl h
  | case2 => exact List.cons_ne_nil _ _
  | case3 => exact List.cons_ne_nil _ _
  | case4 => exact List.cons_ne_nil _ _

theorem notMem_resolve (hplain : Plain pattern.segments)
    (hlength : pattern.parameterCount ≤ arguments.length)
    (hnonempty : ∀ argument ∈ arguments.take pattern.parameterCount, argument ≠ "") :
    '?' ∉ (pattern.resolve arguments).toList ∧ '#' ∉ (pattern.resolve arguments).toList := by
  have hparts := plain_parts hplain hlength hnonempty
  rw [toList_resolve]
  split
  · decide
  · constructor <;>
      · intro hmem
        obtain ⟨part, hpart, hsign⟩ := List.mem_flatMap.mp hmem
        have hsign : _ ∈ part := (List.mem_cons.mp hsign).resolve_left (by decide)
        exact (hparts part hpart).2 _ (by decide) hsign

/-- A pattern matches a path that it writes and binds the arguments as they were given, whatever
characters they hold. -/
theorem match?_resolve (hplain : Plain pattern.segments)
    (hlength : pattern.parameterCount ≤ arguments.length)
    (hnonempty : ∀ argument ∈ arguments.take pattern.parameterCount, argument ≠ "") :
    pattern.match? (pattern.resolve arguments) =
      some (pattern.parameters.zip (arguments.take pattern.parameterCount)) := by
  have hparts := plain_parts hplain hlength hnonempty
  have hbind := bind?_parts hlength hnonempty
  rw [match?, toList_resolve]
  split
  · rename_i hnil
    rw [parameters, hnil]
    rfl
  · rename_i hsome
    have hroot : parts pattern.segments arguments ≠ [[]] := by
      intro hroot
      exact (hparts [] (hroot ▸ List.mem_singleton_self [])).1 rfl
    rw [splitPath_flatMap (parts_ne_nil hsome arguments) hroot fun part hpart => (hparts part hpart).2 '/' (by decide)]
    exact hbind

end

end HtmlComponents.Route.Pattern
