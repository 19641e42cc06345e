import HtmlComponents.Proofs.Route.Pattern
import Mathlib.Data.List.Nodup

/-!
# The grammar of path patterns

A pattern is a slash alone, or pieces with a slash before each, all of them literals or parameters and no
parameter twice (`Spelled`). Reading accepts these texts and no others, and otherwise names what is wrong with
the first piece that does not fit behind those before it (`parse_spelled`).
-/

namespace HtmlComponents.Route

/-- An ASCII letter or underscore, then ASCII letters, digits and underscores. -/
def IsIdentifier (name : List Char) : Prop :=
  ∃ c rest, name = c :: rest ∧ (c.isAlpha = true ∨ c = '_') ∧ ∀ d ∈ rest, d.isAlphanum = true ∨ d = '_'

theorem isParameterName_iff {name : List Char} : isParameterName name = true ↔ IsIdentifier name := by
  cases name with
  | nil => simp [isParameterName, IsIdentifier]
  | cons c rest =>
    have hcons : IsIdentifier (c :: rest) ↔
        (c.isAlpha = true ∨ c = '_') ∧ ∀ d ∈ rest, d.isAlphanum = true ∨ d = '_' := by
      constructor
      · rintro ⟨_, _, ⟨⟩, h⟩
        exact h
      · exact fun h => ⟨c, rest, rfl, h⟩
    simp [hcons, isParameterName]

namespace Pattern

/-- The name behind the colon of a parameter. -/
def parameterName? : List Char → Option (List Char)
  | ':' :: name => some name
  | _ => none

/-- What may stand between the slashes of a pattern. -/
structure IsPiece (piece : List Char) : Prop where
  nonempty : piece ≠ []
  query : '?' ∉ piece
  fragment : '#' ∉ piece
  identifier : ∀ name, parameterName? piece = some name → IsIdentifier name

/-- Pieces that make a pattern: each of them may stand in it, and no two parameters have one name. -/
structure Admissible (pieces : List (List Char)) : Prop where
  isPiece : ∀ piece ∈ pieces, IsPiece piece
  distinct : (pieces.filterMap parameterName?).Nodup

/-- The segment that a piece stands for. -/
def segmentOf (piece : List Char) : Segment :=
  match parameterName? piece with
  | some name => .parameter (String.ofList name)
  | none => .literal (String.ofList piece)

/-- The text of a pattern with its segments. -/
def Spelled (text : List Char) (segments : List Segment) : Prop :=
  (text = ['/'] ∧ segments = []) ∨
    ∃ pieces, pieces ≠ [] ∧ text = pieces.flatMap ('/' :: ·) ∧ (∀ piece ∈ pieces, '/' ∉ piece) ∧
      Admissible pieces ∧ segments = pieces.map segmentOf

/-- What is wrong with a piece behind others, of the pattern `source`. -/
inductive Offence (source : String) (before : List (List Char)) (piece : List Char) : Error → Prop
  | empty (h : piece = []) : Offence source before piece (.invalidPattern source "empty path segment")
  | sign (h : '?' ∈ piece ∨ '#' ∈ piece) :
      Offence source before piece (.invalidPattern source "query or fragment in pattern")
  | identifier {name : List Char} (hquery : '?' ∉ piece) (hfragment : '#' ∉ piece)
      (h : parameterName? piece = some name) (hname : ¬IsIdentifier name) :
      Offence source before piece (.invalidPattern source "parameter names must be identifiers")
  | repeated {name : List Char} (h : parameterName? piece = some name) (hname : IsIdentifier name)
      (hmem : name ∈ before.filterMap parameterName?) :
      Offence source before piece (.duplicateParameter source (String.ofList name))

/-- Why a text is no pattern: it does not begin with a slash, or a piece offends that the pieces before it do
not. -/
inductive Refused (source : String) : Error → Prop
  | unrooted (h : source.toList.head? ≠ some '/') :
      Refused source (.invalidPattern source "must start with '/'")
  | piece {front back : List (List Char)} {piece : List Char} {e : Error}
      (h : source.toList = (front ++ piece :: back).flatMap ('/' :: ·))
      (hslash : ∀ p ∈ front ++ piece :: back, '/' ∉ p) (hfront : Admissible front)
      (hpiece : Offence source front piece e) : Refused source e

variable {source : String} {before pieces front back : List (List Char)} {piece name : List Char}

/-! ### Segments and pieces -/

theorem parameterName?_eq_some_iff : parameterName? piece = some name ↔ piece = ':' :: name := by
  unfold parameterName?
  split
  · simp
  · rename_i hne
    exact ⟨(nomatch ·), fun h => absurd h (hne name)⟩

theorem toList_source_segmentOf (piece : List Char) : (segmentOf piece).source.toList = piece := by
  unfold segmentOf
  cases h : parameterName? piece with
  | none => exact String.toList_ofList
  | some name =>
    obtain rfl := parameterName?_eq_some_iff.mp h
    simp [Segment.source]

theorem parameter?_segmentOf (piece : List Char) :
    (segmentOf piece).parameter? = (parameterName? piece).map String.ofList := by
  unfold segmentOf
  cases parameterName? piece <;> rfl

theorem filterMap_parameter? (pieces : List (List Char)) :
    (pieces.map segmentOf).filterMap Segment.parameter? =
      (pieces.filterMap parameterName?).map String.ofList := by
  rw [List.filterMap_map, List.map_filterMap]
  exact List.filterMap_congr fun piece _ => parameter?_segmentOf piece

theorem mem_segmentOf_iff :
    Segment.parameter (String.ofList name) ∈ before.map segmentOf ↔
      name ∈ before.filterMap parameterName? := by
  have hname : String.ofList name ∈ (before.map segmentOf).filterMap Segment.parameter? ↔
      Segment.parameter (String.ofList name) ∈ before.map segmentOf := by
    rw [List.mem_filterMap]
    constructor
    · rintro ⟨segment, hsegment, hparameter⟩
      cases segment with
      | literal text => cases hparameter
      | parameter other =>
        cases hparameter
        exact hsegment
    · exact fun h => ⟨_, h, rfl⟩
  rw [← hname, filterMap_parameter?, List.mem_map_of_injective fun _ _ h => String.ofList_injective h]

/-! ### One piece further -/

theorem Admissible.nil : Admissible [] := ⟨by simp, by simp⟩

theorem Admissible.snoc (h : Admissible before) (hpiece : IsPiece piece)
    (hnew : ∀ name, parameterName? piece = some name → name ∉ before.filterMap parameterName?) :
    Admissible (before ++ [piece]) := by
  refine ⟨fun p hp => ?_, ?_⟩
  · rcases List.mem_append.mp hp with hp | hp
    · exact h.isPiece p hp
    · exact List.mem_singleton.mp hp ▸ hpiece
  · rw [List.filterMap_append, List.nodup_append]
    refine ⟨h.distinct, ?_, ?_⟩
    · cases hname : parameterName? piece <;> simp [hname]
    · rintro name hmem other hother rfl
      obtain ⟨p, hp, hname⟩ := List.mem_filterMap.mp hother
      rw [List.mem_singleton.mp hp] at hname
      exact hnew name hname hmem

theorem Offence.not_admissible {e : Error} (h : Offence source front piece e) :
    ¬Admissible (front ++ piece :: back) := by
  intro hpieces
  have hpiece := hpieces.isPiece piece (by simp)
  cases h with
  | empty hempty => exact hpiece.nonempty hempty
  | sign hsign => exact hsign.elim hpiece.query hpiece.fragment
  | identifier _ _ hname hno => exact hno (hpiece.identifier _ hname)
  | repeated hname _ hmem =>
    have hdistinct := hpieces.distinct
    rw [List.filterMap_append, List.filterMap_cons_some hname] at hdistinct
    exact (List.nodup_append.mp hdistinct).2.2 _ hmem _ List.mem_cons_self rfl

/-- What the reading of a piece behind others comes to: its segment, or what is wrong with it. -/
def Step (source : String) (before : List (List Char)) (piece : List Char) : Except Error Segment → Prop
  | .ok segment => segment = segmentOf piece ∧ Admissible (before ++ [piece])
  | .error e => Offence source before piece e

theorem step_readSegment (h : Admissible before) (piece : List Char) :
    Step source before piece (readSegment source (before.map segmentOf) piece) := by
  unfold readSegment
  by_cases hempty : piece.isEmpty = true
  · rw [if_pos hempty]
    exact .empty (List.isEmpty_iff.mp hempty)
  by_cases hsign : '?' ∈ piece ∨ '#' ∈ piece
  · rw [if_neg hempty, if_pos hsign]
    exact .sign hsign
  rw [if_neg hempty, if_neg hsign]
  obtain ⟨hquery, hfragment⟩ := not_or.mp hsign
  have hne : piece ≠ [] := fun hnil => hempty (List.isEmpty_iff.mpr hnil)
  cases hname : parameterName? piece with
  | none =>
    have hpiece : IsPiece piece := ⟨hne, hquery, hfragment, fun name hsome => nomatch hname.symm.trans hsome⟩
    split
    · cases hname
    · exact ⟨by simp [segmentOf, hname], h.snoc hpiece fun name hsome => nomatch hname.symm.trans hsome⟩
  | some name =>
    obtain rfl := parameterName?_eq_some_iff.mp hname
    simp only
    by_cases hidentifier : IsIdentifier name
    · have hpiece : IsPiece (':' :: name) := ⟨hne, hquery, hfragment, by rintro _ ⟨⟩; exact hidentifier⟩
      rw [if_neg (by simp [isParameterName_iff.mpr hidentifier])]
      simp only [mem_segmentOf_iff]
      by_cases hmem : name ∈ before.filterMap parameterName?
      · rw [if_pos hmem]
        exact .repeated hname hidentifier hmem
      · rw [if_neg hmem]
        exact ⟨rfl, h.snoc hpiece (by rintro _ ⟨⟩; exact hmem)⟩
    · rw [if_pos (by simp [Bool.eq_false_iff.mpr (mt isParameterName_iff.mp hidentifier)])]
      exact .identifier hquery hfragment hname hidentifier

/-- What the reading of the pieces behind others comes to: their segments, or what is wrong with the first one
that does not fit behind those before it. -/
def Run (source : String) (before pieces : List (List Char)) : Except Error (List Segment) → Prop
  | .ok segments => segments = pieces.map segmentOf ∧ Admissible (before ++ pieces)
  | .error e => ∃ front piece back, pieces = front ++ piece :: back ∧ Admissible (before ++ front) ∧
      Offence source (before ++ front) piece e

theorem Run.cons {rest : List (List Char)} {result : Except Error (List Segment)}
    (h : Run source (before ++ [piece]) rest result) :
    Run source before (piece :: rest) (result.map (segmentOf piece :: ·)) := by
  cases result with
  | ok segments =>
    obtain ⟨rfl, hadmissible⟩ := h
    exact ⟨rfl, by simpa using hadmissible⟩
  | error e =>
    obtain ⟨front, offender, back, rfl, hfront, hoffence⟩ := h
    exact ⟨piece :: front, offender, back, rfl, by simpa using hfront, by simpa using hoffence⟩

/-- The pieces of a pattern are read up to the first one that does not fit behind those before it. -/
theorem run_readSegments (h : Admissible before) (pieces : List (List Char)) :
    Run source before pieces (readSegments source (before.map segmentOf) pieces) := by
  induction pieces generalizing before with
  | nil => exact ⟨rfl, by rwa [List.append_nil]⟩
  | cons piece rest ih =>
    have hstep : Step source before piece (readSegment source (before.map segmentOf) piece) :=
      step_readSegment h piece
    cases hpiece : readSegment source (before.map segmentOf) piece with
    | error e =>
      rw [hpiece] at hstep
      rw [readSegments, hpiece]
      exact ⟨[], piece, rest, rfl, by rwa [List.append_nil], by rwa [List.append_nil]⟩
    | ok segment =>
      rw [hpiece] at hstep
      obtain ⟨rfl, hadmissible⟩ := hstep
      have hrest := ih hadmissible
      rw [List.map_append, List.map_singleton] at hrest
      rw [readSegments, hpiece]
      exact hrest.cons

/-! ### Patterns -/

/-- The text that segments stand for. -/
def written (segments : List Segment) : List Char :=
  if segments = [] then ['/'] else segments.flatMap fun segment => '/' :: segment.source.toList

theorem written_of_spelled {text : List Char} {segments : List Segment} (h : Spelled text segments) :
    written segments = text := by
  rcases h with ⟨rfl, rfl⟩ | ⟨pieces, hne, rfl, -, -, rfl⟩
  · rfl
  · rw [written, if_neg (by simpa using hne), List.flatMap_map]
    simp only [toList_source_segmentOf]

theorem nodup_parameters_of_spelled {text : List Char} {segments : List Segment} (h : Spelled text segments) :
    (segments.filterMap Segment.parameter?).Nodup := by
  rcases h with ⟨-, rfl⟩ | ⟨pieces, -, -, -, hpieces, rfl⟩
  · exact List.nodup_nil
  · rw [filterMap_parameter?]
    exact List.Nodup.map (fun _ _ h => String.ofList_injective h) hpieces.distinct

theorem flatMap_pieces (body : List Char) : (Text.pieces '/' body).flatMap ('/' :: ·) = '/' :: body := by
  induction body with
  | nil => rfl
  | cons c rest ih =>
    rw [Text.pieces]
    split
    · rename_i hslash
      rw [List.flatMap_cons, ih, hslash]
      rfl
    · cases hpieces : Text.pieces '/' rest with
      | nil => exact absurd hpieces (Text.pieces_ne_nil '/' rest)
      | cons piece others =>
        rw [hpieces, List.flatMap_cons, List.cons_append] at ih
        simp only [List.flatMap_cons, List.cons_append]
        rw [(List.cons.inj ih).2]

theorem pieces_of_flatMap {body : List Char} (hne : pieces ≠ []) (hslash : ∀ piece ∈ pieces, '/' ∉ piece)
    (h : '/' :: body = pieces.flatMap ('/' :: ·)) : Text.pieces '/' body = pieces := by
  obtain ⟨piece, rest, rfl⟩ := List.exists_cons_of_ne_nil hne
  rw [List.flatMap_cons, List.cons_append] at h
  rw [(List.cons.inj h).2, Text.pieces_flatMap hslash]

/-- What the reading of a text comes to: a pattern with its segments, or why it is none. -/
def Reads (source : String) : Except Error Pattern → Prop
  | .ok pattern => pattern.source = source ∧ Spelled source.toList pattern.segments
  | .error e => (∀ segments, ¬Spelled source.toList segments) ∧ Refused source e

theorem reads_body {body : List Char} (h : source.toList = '/' :: body) (hbody : body ≠ []) :
    Reads source ((readSegments source [] (Text.pieces '/' body)).map (Pattern.mk source)) := by
  have hslash : ∀ piece ∈ Text.pieces '/' body, '/' ∉ piece :=
    fun piece hpiece => Text.not_mem_of_mem_pieces hpiece
  have htext : source.toList = (Text.pieces '/' body).flatMap ('/' :: ·) := by rw [flatMap_pieces, h]
  have hrun : Run source [] (Text.pieces '/' body) (readSegments source [] (Text.pieces '/' body)) :=
    run_readSegments .nil _
  cases hread : readSegments source [] (Text.pieces '/' body) with
  | ok segments =>
    rw [hread] at hrun
    obtain ⟨rfl, hpieces⟩ := hrun
    exact ⟨rfl, .inr ⟨_, Text.pieces_ne_nil '/' body, htext, hslash, hpieces, rfl⟩⟩
  | error e =>
    rw [hread] at hrun
    obtain ⟨front, piece, back, hpieces, hfront, hoffence⟩ := hrun
    rw [List.nil_append] at hfront hoffence
    refine ⟨fun segments hspelled => ?_, .piece (hpieces ▸ htext) (hpieces ▸ hslash) hfront hoffence⟩
    rcases hspelled with ⟨hroot, -⟩ | ⟨others, hne, hothers, hslash', hadmissible, -⟩
    · exact hbody (List.cons.inj (h.symm.trans hroot)).2
    · rw [← pieces_of_flatMap hne hslash' (h.symm.trans hothers), hpieces] at hadmissible
      exact hoffence.not_admissible hadmissible

theorem reads_parse (source : String) : Reads source (parse source) := by
  unfold parse
  split
  · rename_i hroot
    exact ⟨rfl, .inl ⟨hroot, rfl⟩⟩
  · rename_i body hbody hsource
    exact reads_body hsource hbody
  · rename_i hroot hslash
    refine ⟨fun segments hspelled => ?_, .unrooted fun hhead => ?_⟩
    · rcases hspelled with ⟨htext, -⟩ | ⟨pieces, hne, htext, -⟩
      · exact hroot htext
      · obtain ⟨piece, rest, rfl⟩ := List.exists_cons_of_ne_nil hne
        exact hslash _ htext
    · obtain ⟨body, hbody⟩ := List.head?_eq_some_iff.mp hhead
      exact hslash body hbody

/-- Reading a pattern gives its segments, from which the text can be written again, or it says what is wrong with
the first piece that does not fit. -/
theorem parse_spelled (source : String) :
    match parse source with
    | .ok pattern => Spelled source.toList pattern.segments ∧ pattern.source = source ∧
        written pattern.segments = source.toList ∧ pattern.parameters.Nodup ∧
        pattern.parameterCount = pattern.parameters.length
    | .error e => (∀ segments, ¬Spelled source.toList segments) ∧ Refused source e := by
  have hreads := reads_parse source
  cases hparse : parse source with
  | ok pattern =>
    rw [hparse] at hreads
    obtain ⟨hsource, hspelled⟩ := hreads
    exact ⟨hspelled, hsource, written_of_spelled hspelled, nodup_parameters_of_spelled hspelled, rfl⟩
  | error e =>
    rw [hparse] at hreads
    exact hreads

/-- The third piece offends before the last one. -/
example : parse "/a/:id/:id/:1x" = .error (.duplicateParameter "/a/:id/:id/:1x" "id") := by rfl

end Pattern

end HtmlComponents.Route
