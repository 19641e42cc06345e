import HtmlComponents.Proofs.Route.Client

/-!
# Bound values sent back

However a request spells a path, what it binds can be sent back: the path that the pattern writes for the bound
values is matched by the pattern with the same values (`match?_resolve_bound`), and the endpoints of the router
write it for the action (`dispatch_resolve`).
-/

namespace HtmlComponents.Route

namespace Pattern

/-- What a part of a path stands for: its decoded text, or the part as written where that is no text. -/
def StandsFor (part : List Char) (value : String) : Prop :=
  Text.Percent.decode? (String.ofList part) = some value ∨
    Text.Percent.decode? (String.ofList part) = none ∧ value = String.ofList part

/-- What the parts of a path bind: a literal is the part itself, and a parameter has the value of a part that is
not empty. -/
inductive Binds : List Segment → List (List Char) → Bindings → Prop
  | nil : Binds [] [] []
  | literal {text : String} {segments : List Segment} {parts : List (List Char)} {bindings : Bindings}
      (h : Binds segments parts bindings) : Binds (.literal text :: segments) (text.toList :: parts) bindings
  | parameter {name value : String} {segments : List Segment} {part : List Char} {parts : List (List Char)}
      {bindings : Bindings} (hpart : part ≠ []) (hvalue : StandsFor part value)
      (h : Binds segments parts bindings) :
      Binds (.parameter name :: segments) (part :: parts) ((name, value) :: bindings)

variable {segments : List Segment} {part : List Char} {texts : List (List Char)} {bindings : Bindings}
  {value path : String} {pattern : Pattern}

theorem standsFor_iff : StandsFor part value ↔ Text.Percent.decode (String.ofList part) = value := by
  unfold StandsFor Text.Percent.decode
  cases Text.Percent.decode? (String.ofList part) with
  | none => simp [eq_comm]
  | some text => simp

theorem StandsFor.ne_empty (h : StandsFor part value) (hpart : part ≠ []) : value ≠ "" := by
  rw [← standsFor_iff.mp h]
  exact Text.Percent.decode_ne_empty fun hempty => hpart (String.ofList_eq_empty_iff.mp hempty)

theorem bind?_eq_some_iff : bind? segments texts = some bindings ↔ Binds segments texts bindings := by
  constructor
  · intro h
    fun_induction bind? segments texts generalizing bindings with
    | case1 =>
      cases h
      exact .nil
    | case2 text segments texts ih => exact .literal (ih h)
    | case3 => cases h
    | case4 => cases h
    | case5 name segments part texts hpart ih =>
      obtain ⟨others, hothers, rfl⟩ := Option.map_eq_some_iff.mp h
      exact .parameter (fun hnil => hpart (List.isEmpty_iff.mpr hnil)) (standsFor_iff.mpr rfl) (ih hothers)
    | case6 => cases h
  · intro h
    induction h with
    | nil => rfl
    | literal _ ih => rw [bind?, if_pos rfl, ih]
    | parameter hpart hvalue _ ih =>
      rw [bind?, if_neg (mt List.isEmpty_iff.mp hpart), ih, standsFor_iff.mp hvalue]
      rfl

namespace Binds

theorem names (h : Binds segments texts bindings) : Pattern.names segments = bindings.map Prod.fst := by
  induction h with
  | nil => rfl
  | literal _ ih => exact ih
  | parameter _ _ _ ih => exact congrArg (_ :: ·) ih

theorem ne_empty (h : Binds segments texts bindings) : ∀ binding ∈ bindings, binding.2 ≠ "" := by
  induction h with
  | nil => exact fun _ hmem => absurd hmem List.not_mem_nil
  | literal _ ih => exact ih
  | parameter hpart hvalue _ ih => exact List.forall_mem_cons.mpr ⟨hvalue.ne_empty hpart, ih⟩

/-- Written for what they bind, the segments bind it again. -/
theorem parts (h : Binds segments texts bindings) :
    Binds segments (Pattern.parts segments (bindings.map Prod.snd)) bindings := by
  induction h with
  | nil => exact .nil
  | literal _ ih => exact .literal ih
  | parameter hpart hvalue _ ih =>
    have hne := hvalue.ne_empty hpart
    refine .parameter (encode_plain hne).1 (standsFor_iff.mpr ?_) ih
    rw [String.ofList_toList, Text.Percent.decode_encode]

theorem slash_notMem_parts (h : Binds segments texts bindings) (hslash : ∀ part ∈ texts, '/' ∉ part) :
    ∀ part ∈ Pattern.parts segments (bindings.map Prod.snd), '/' ∉ part := by
  induction h with
  | nil => exact hslash
  | literal _ ih =>
    obtain ⟨hpart, hslash⟩ := List.forall_mem_cons.mp hslash
    exact List.forall_mem_cons.mpr ⟨hpart, ih hslash⟩
  | parameter hpart hvalue _ ih =>
    have hne := hvalue.ne_empty hpart
    exact List.forall_mem_cons.mpr
      ⟨(encode_plain hne).2 '/' (by decide), ih (List.forall_mem_cons.mp hslash).2⟩

theorem parts_ne_root (h : Binds segments texts bindings) (hroot : texts ≠ [[]]) :
    Pattern.parts segments (bindings.map Prod.snd) ≠ [[]] := by
  intro hparts
  -- an encoded value is not empty, so the empty part is a literal, which stands in the path itself
  cases h with
  | nil => exact absurd hparts (List.cons_ne_nil _ _).symm
  | @literal text segments texts _ h =>
    obtain ⟨htext, hrest⟩ := List.cons.inj hparts
    have hsegments : segments = [] := Classical.byContradiction fun hne => parts_ne_nil hne _ hrest
    subst hsegments
    cases h
    exact hroot (congrArg ([·]) htext)
  | parameter hpart hvalue _ =>
    have hne := hvalue.ne_empty hpart
    exact (encode_plain hne).1 (List.cons.inj hparts).1

end Binds

theorem splitPath_spec (path : List Char) :
    splitPath path ≠ [[]] ∧ ∀ part ∈ splitPath path, '/' ∉ part := by
  have hbody : ∃ body, splitPath path = if body.isEmpty then [] else Text.pieces '/' body := ⟨_, rfl⟩
  obtain ⟨body, hbody⟩ := hbody
  rw [hbody]
  split
  · exact ⟨(List.cons_ne_nil _ _).symm, fun _ hmem => absurd hmem List.not_mem_nil⟩
  · rename_i hempty
    refine ⟨fun hroot => hempty ?_, fun part hpart => Text.not_mem_of_mem_pieces hpart⟩
    have hpieces := Text.intercalate_pieces '/' body
    rw [hroot] at hpieces
    exact List.isEmpty_iff.mpr hpieces.symm

/-- A pattern matches the path that it writes for what another path binds, and binds the same. -/
theorem match?_resolve_bound (h : pattern.match? path = some bindings) :
    pattern.match? (pattern.resolve (bindings.map Prod.snd)) = some bindings := by
  have hbinds := bind?_eq_some_iff.mp h
  obtain ⟨hroot, hslash⟩ := splitPath_spec path.toList
  rw [match?, toList_resolve, bind?_eq_some_iff]
  split
  · -- only the path of a slash alone has no parts
    rename_i hnil
    rw [hnil] at hbinds ⊢
    generalize splitPath path.toList = texts at hbinds
    cases hbinds
    exact .nil
  · rename_i hsome
    rw [splitPath_flatMap (parts_ne_nil hsome _) (hbinds.parts_ne_root hroot) (hbinds.slash_notMem_parts hslash)]
    exact hbinds.parts

theorem filled_of_match? (h : pattern.match? path = some bindings) : pattern.Filled (bindings.map Prod.snd) := by
  have hbinds := bind?_eq_some_iff.mp h
  refine ⟨?_, fun hempty => ?_⟩
  · have hnames : pattern.parameters = bindings.map Prod.fst := hbinds.names
    exact Nat.le_of_eq (by rw [parameterCount, hnames, List.length_map, List.length_map])
  · obtain ⟨binding, hbinding, hvalue⟩ := List.mem_map.mp (List.mem_of_mem_take hempty)
    exact hbinds.ne_empty binding hbinding hvalue

end Pattern

namespace Router

variable {α : Type} {router : Router α} {method : Method} {target : String} {found : Match α}

theorem match?_of_dispatch (h : router.dispatch method target = some found) :
    found.route.pattern.match? (String.ofList (pathOf target.toList)) = some found.parameters := by
  obtain ⟨⟨route, bindings⟩, hfind, hfound⟩ := Option.map_eq_some_iff.mp h
  subst hfound
  exact (first_of_find? hfind).2

/-- What a request binds can be sent back: the values are those of the parts of its path and none is empty, the
pattern of the route matches the path that it writes for them with the same bindings, and if the route is the first
of its action then the endpoints of the router write this path. -/
theorem dispatch_resolve (router : Router α) (method : Method) (target : String) (found : Match α)
    (h : router.dispatch method target = some found) :
    Pattern.Binds found.route.pattern.segments (Pattern.splitPath (pathOf target.toList)) found.parameters ∧
      (∀ binding ∈ found.parameters, binding.2 ≠ "") ∧
      found.route.pattern.match? (found.route.pattern.resolve (found.parameters.map Prod.snd)) =
        some found.parameters ∧
      ∀ i, router.FirstOf found.route.action i found.route →
        router.api.path found.route.action (found.parameters.map Prod.snd) =
          .ok (found.route.pattern.resolve (found.parameters.map Prod.snd)) := by
  have hmatch := match?_of_dispatch h
  have hbinds := Pattern.bind?_eq_some_iff.mp hmatch
  rw [String.toList_ofList] at hbinds
  refine ⟨hbinds, hbinds.ne_empty, Pattern.match?_resolve_bound hmatch, fun i hfirst => ?_⟩
  exact hfirst.path_eq_ok_iff.mpr ⟨Pattern.filled_of_match? hmatch, rfl⟩

/-- The second route of `items`. -/
def showItem : Entry Unit := ⟨"show", .get, ⟨"/items/:id", [.literal "items", .parameter "id"]⟩, (), none, none⟩

/-- A path without its first slash, with an escape that is no text, a query and a fragment. -/
theorem dispatch_resolve_items :
    ∃ found, items.dispatch .get "items/%FF?x=1#y" = some found ∧ found.parameters = [("id", "%FF")] ∧
      items.api.path "show" ["%FF"] = .ok "/items/%25FF" ∧
      showItem.pattern.match? "/items/%25FF" = some [("id", "%FF")] := by
  have hpath : String.ofList (pathOf "items/%FF?x=1#y".toList) = "items/%FF" := by decide +kernel
  have hlist : (⟨"/items", [.literal "items"]⟩ : Pattern).match? "items/%FF" = none := by decide +kernel
  have hshow : showItem.pattern.match? "items/%FF" = some [("id", "%FF")] := by decide +kernel
  have hresolve : showItem.pattern.resolve ["%FF"] = "/items/%25FF" := by decide +kernel
  have hroutes : items.routes =
      [⟨"list", .get, ⟨"/items", [.literal "items"]⟩, (), none, none⟩, showItem] := rfl
  have hfind : find? .get "items/%FF" items.routes = some (showItem, [("id", "%FF")]) := by
    have hmethod : showItem.method = .get := rfl
    simp only [hroutes, find?, hlist, hmethod, hshow, if_true]
  have hdispatch : items.dispatch .get "items/%FF?x=1#y" =
      some ⟨showItem, [("id", "%FF")], parseQuery (String.ofList (queryOf "items/%FF?x=1#y".toList))⟩ := by
    rw [dispatch, hpath, hfind]
    rfl
  have hfirst : items.FirstOf "show" 1 showItem := ⟨rfl, rfl, by simp [items, append]⟩
  obtain ⟨-, -, hmatch, hapi⟩ := dispatch_resolve items .get _ _ hdispatch
  exact ⟨_, hdispatch, rfl, hresolve ▸ hapi 1 hfirst, hresolve ▸ hmatch⟩

end Router

end HtmlComponents.Route
