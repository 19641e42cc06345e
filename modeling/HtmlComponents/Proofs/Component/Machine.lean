import HtmlComponents.Proofs.Component.Piecewise
import HtmlComponents.Proofs.Component.Registry
import Mathlib.Logic.Relation

/-!
# Expansion step by step

The calls of expansion as a machine: the components being rendered, the calls that wait, and what has
been recorded so far. The machine is stopped by its two guards alone, and nothing in it says how deep
calls may go. `Sound` is what holds at every moment of a run, and `Sound.step` that a step keeps it.
-/

namespace HtmlComponents.Component

open Document (Placed)
open Relation (ReflTransGen)

theorem Registry.mem_names_of_mem_outermost (registry : Registry) (document : Document) :
    ∀ tag ∈ document.outermost fun tag => registry.contains tag.localName,
      tag.1.localName ∈ registry.names := by
  rintro ⟨tag, placed⟩ htag
  have haccepts := (Document.tag_of_mem_outermostAmong document.roots htag).1
  exact Registry.contains_iff_mem_names.mp haccepts

namespace Machine

/-- A call to be made, or the result of the call made last. -/
inductive Control where
  | expand (html : List Char)
  | expandTag (tag : StartTag) (source : List Char)
  | render (name : String) (attributes : RawAttributes)
  | returned (html : List Char)
  | failed (e : Error)

def Control.isCall : Control → Bool
  | expand _ | expandTag _ _ | render _ _ => true
  | returned _ | failed _ => false

/-- A call that waits for the result of another. -/
inductive Frame where
  /-- The expansion of a document waits for the one of `placed`; `rest` comes after that. -/
  | replacing (document : Document) (done : List (Nat × List Char)) (placed : Placed)
      (rest : List (StartTag × Placed))
  /-- The expansion of a tag waits for its component. -/
  | collecting
  /-- A component waits for the expansion of its HTML. -/
  | leaving (name : String)

/-- A moment of a run. -/
structure State where
  registry : Registry
  /-- The components that are being rendered, outermost first. -/
  active : List String
  styles : OrderedMap String
  errors : List Error
  warnings : List Warning
  control : Control
  /-- The calls that wait, innermost first. -/
  frames : List Frame

namespace State

/-- Goes on to the next tag found in a document, or puts in what has replaced them all. -/
def visit (s : State) (document : Document) (done : List (Nat × List Char)) :
    List (StartTag × Placed) → State
  | [] => { s with control := .returned (document.splice done) }
  | (tag, placed) :: rest =>
    { s with
      control := .expandTag tag placed.node.chars
      frames := .replacing document done placed rest :: s.frames }

/-- Leaves a tag unexpanded. -/
def refuse (s : State) (options : Options) (warning : Warning) (source : List Char) : State :=
  { s with
    warnings := s.warnings ++ [warning]
    control := .returned (if options.markers then warning.marker.toList else source) }

/-- The next moment. There is none after the result of the outermost call. -/
def step (options : Options) (s : State) : Option State :=
  match s.control with
  | .expand html =>
    let document := Document.ofChars html
    some (s.visit document [] (document.outermost fun tag => s.registry.contains tag.localName))
  | .expandTag tag source =>
    if tag.localName ∈ s.active then
      some (s.refuse options (.cycle tag.localName (s.active ++ [tag.localName])) source)
    else if s.active.length > options.maxDepth then
      some (s.refuse options (.depthLimit tag.localName options.maxDepth) source)
    else
      some { s with
        control := .render tag.localName tag.rawAttributes
        frames := .collecting :: s.frames }
  | .render name attributes =>
    match (Session.renderTag name attributes).run s.registry with
    | (.error e, registry) => some { s with registry, control := .failed e }
    | (.ok (markup, css), registry) =>
      some { s with
        registry
        active := s.active ++ [name]
        styles := s.styles.insertNew name css
        control := .expand markup.chars
        frames := .leaving name :: s.frames }
  | .returned html =>
    match s.frames with
    | .replacing document done placed rest :: outer =>
      some ({ s with frames := outer }.visit document (done ++ [(placed.id, html)]) rest)
    | .collecting :: outer => some { s with frames := outer }
    | .leaving _ :: outer => some { s with active := s.active.dropLast, frames := outer }
    | [] => none
  | .failed e =>
    match s.frames with
    | .collecting :: outer =>
      some { s with errors := s.errors ++ [e], control := .returned [], frames := outer }
    | _ => none

theorem visit_control (s : State) (control : Control) (document : Document)
    (done : List (Nat × List Char)) (found : List (StartTag × Placed)) :
    { s with control }.visit document done found = s.visit document done found := by
  cases found <;> rfl

theorem registry_visit (s : State) (document : Document) (done : List (Nat × List Char))
    (found : List (StartTag × Placed)) : (s.visit document done found).registry = s.registry := by
  cases found <;> rfl

theorem suffix_frames_visit (s : State) (document : Document) (done : List (Nat × List Char))
    (found : List (StartTag × Placed)) : s.frames <:+ (s.visit document done found).frames := by
  cases found with
  | nil => exact List.suffix_refl _
  | cons first rest => exact List.suffix_cons _ _

/-- A step changes what is remembered of components and not which components there are. -/
theorem same_step {options : Options} {s t : State} (h : s.step options = some t) :
    s.registry.Same t.registry := by
  rw [step] at h
  split at h
  · cases h
    rw [registry_visit]
    exact .refl _
  · split at h
    · cases h
      exact .refl _
    · split at h
      · cases h
        exact .refl _
      · cases h
        exact .refl _
  · rename_i name attributes _
    have hsame := (Session.run_renderTag name attributes s.registry).2
    split at h
    · rename_i hrun
      cases h
      rwa [hrun] at hsame
    · rename_i hrun
      cases h
      rwa [hrun] at hsame
  · split at h
    · cases h
      rw [registry_visit]
      exact .refl _
    · cases h
      exact .refl _
    · cases h
      exact .refl _
    · cases h
  · split at h
    · cases h
      exact .refl _
    · cases h

theorem names_step {options : Options} {s t : State} (h : s.step options = some t) :
    t.registry.names = s.registry.names := (same_step h).names.symm

end State

/-- Steps that leave the calls in `base` waiting. -/
def Steps (options : Options) (base : List Frame) : State → State → Prop :=
  ReflTransGen fun s t => s.step options = some t ∧ base <:+ t.frames

namespace Steps

variable {options : Options} {base : List Frame} {s t u : State}

theorem trans (h : Steps options base s t) (h' : Steps options base t u) :
    Steps options base s u := ReflTransGen.trans h h'

theorem single (h : s.step options = some t) (hbase : base <:+ t.frames) : Steps options base s t :=
  ReflTransGen.single ⟨h, hbase⟩

theorem head (h : s.step options = some t) (hbase : base <:+ t.frames)
    (h' : Steps options base t u) : Steps options base s u := ReflTransGen.head ⟨h, hbase⟩ h'

theorem mono {base' : List Frame} (h : Steps options base s t) (hbase : base' <:+ base) :
    Steps options base' s t := by
  induction h with
  | refl => exact .refl
  | tail _ hst ih => exact .tail ih ⟨hst.1, hbase.trans hst.2⟩

theorem same (h : Steps options base s t) : s.registry.Same t.registry := by
  induction h with
  | refl => exact .refl _
  | tail _ hst ih => exact ih.trans (State.same_step hst.1)

theorem names (h : Steps options base s t) : t.registry.names = s.registry.names := h.same.names.symm

end Steps

/-- The components that waiting calls have entered and not left, outermost first. -/
def entered : List Frame → List String
  | [] => []
  | .leaving name :: outer => entered outer ++ [name]
  | .replacing .. :: outer => entered outer
  | .collecting :: outer => entered outer

/-- The tags that a waiting call has found and not expanded. -/
def Frame.found : Frame → List (StartTag × Placed)
  | .replacing _ _ _ rest => rest
  | .collecting => []
  | .leaving _ => []

/-- What a call may rely on: a tag is that of a component, and rendering has passed the guards. -/
def Control.Sound (options : Options) (names active : List String) : Control → Prop
  | .expand _ => True
  | .expandTag tag _ => tag.localName ∈ names
  | .render name _ => name ∉ active ∧ active.length ≤ options.maxDepth
  | .returned _ => True
  | .failed _ => True

/-- What holds at every moment of a run over components of the names `names`. -/
structure Sound (options : Options) (names : List String) (s : State) : Prop where
  names_eq : s.registry.names = names
  active_eq : s.active = entered s.frames
  nodup : s.active.Nodup
  subset : s.active ⊆ names
  length_le : s.active.length ≤ options.maxDepth + 1
  control : s.control.Sound options names s.active
  found : ∀ frame ∈ s.frames, ∀ tag ∈ frame.found, tag.1.localName ∈ names

namespace Sound

variable {options : Options} {names : List String} {s t : State}

theorem visit (h : Sound options names s) (document : Document) (done : List (Nat × List Char))
    {rest : List (StartTag × Placed)} (hrest : ∀ tag ∈ rest, tag.1.localName ∈ names) :
    Sound options names (s.visit document done rest) := by
  cases rest with
  | nil => exact { h with control := trivial }
  | cons first rest =>
    obtain ⟨tag, placed⟩ := first
    have hfirst := hrest (tag, placed) List.mem_cons_self
    refine { h with control := hfirst, found := ?_ }
    intro frame hframe found hfound
    rcases List.mem_cons.mp hframe with rfl | hframe
    · exact hrest found (List.mem_cons_of_mem _ hfound)
    · exact h.found frame hframe found hfound

/-- Entering a component that is not being rendered keeps the stack free of repetitions. -/
theorem enter (h : Sound options names s) {name : String} {attributes : RawAttributes}
    (hcontrol : s.control = .render name attributes) (hname : name ∈ names) (registry : Registry)
    (hregistry : registry.names = names) (styles : OrderedMap String) (html : List Char) :
    Sound options names { s with
      registry
      active := s.active ++ [name]
      styles
      control := .expand html
      frames := .leaving name :: s.frames } := by
  have hguards := h.control
  rw [hcontrol] at hguards
  obtain ⟨hfresh, hdepth⟩ := hguards
  refine ⟨hregistry, ?_, ?_, ?_, ?_, trivial, ?_⟩
  · show s.active ++ [name] = entered s.frames ++ [name]
    rw [h.active_eq]
  · refine List.nodup_append.mpr ⟨h.nodup, List.pairwise_singleton _ name, ?_⟩
    intro other hother last hlast
    rw [List.mem_singleton] at hlast
    rintro rfl
    exact hfresh (hlast ▸ hother)
  · intro other hother
    rcases List.mem_append.mp hother with hother | hother
    · exact h.subset hother
    · exact List.mem_singleton.mp hother ▸ hname
  · show (s.active ++ [name]).length ≤ options.maxDepth + 1
    rw [List.length_append, List.length_singleton]
    omega
  · intro frame hframe
    rcases List.mem_cons.mp hframe with rfl | hframe
    · exact fun _ hfound => absurd hfound List.not_mem_nil
    · exact h.found frame hframe

theorem leave (h : Sound options names s) {name : String} {outer : List Frame}
    (hframes : s.frames = .leaving name :: outer) {html : List Char}
    (hcontrol : s.control = .returned html) :
    Sound options names { s with active := s.active.dropLast, frames := outer } := by
  have hactive : s.active = entered outer ++ [name] := by rw [h.active_eq, hframes, entered]
  have hdrop : s.active.dropLast = entered outer := by rw [hactive, List.dropLast_concat]
  refine ⟨h.names_eq, hdrop, ?_, ?_, ?_, ?_, ?_⟩
  · exact h.nodup.sublist (List.dropLast_sublist _)
  · exact fun other hother => h.subset (List.dropLast_subset _ hother)
  · have := h.length_le
    show s.active.dropLast.length ≤ options.maxDepth + 1
    rw [List.length_dropLast]
    omega
  · show s.control.Sound options names s.active.dropLast
    rw [hcontrol]
    trivial
  · exact fun frame hframe => h.found frame (hframes ▸ List.mem_cons_of_mem _ hframe)

theorem resume (h : Sound options names s) {frame : Frame} {outer : List Frame}
    (hframes : s.frames = frame :: outer) (hentered : entered (frame :: outer) = entered outer)
    (errors : List Error) (html : List Char) :
    Sound options names { s with errors, control := .returned html, frames := outer } := by
  refine { h with active_eq := ?_, control := trivial, found := ?_ }
  · show s.active = entered outer
    rw [h.active_eq, hframes, hentered]
  · exact fun frame hframe => h.found frame (hframes ▸ List.mem_cons_of_mem _ hframe)

theorem step (h : Sound options names s) (hstep : s.step options = some t) :
    Sound options names t := by
  have hnames := (State.names_step hstep).trans h.names_eq
  rw [State.step] at hstep
  cases hcontrol : s.control with
  | expand html =>
    rw [hcontrol] at hstep
    cases hstep
    exact h.visit _ [] (h.names_eq ▸ s.registry.mem_names_of_mem_outermost _)
  | expandTag tag source =>
    rw [hcontrol] at hstep
    have htag := h.control
    rw [hcontrol] at htag
    dsimp only at hstep
    split at hstep
    · cases hstep
      exact { h with control := trivial }
    · rename_i hfresh
      split at hstep
      · cases hstep
        exact { h with control := trivial }
      · -- both guards are passed, which is what entering the component needs
        rename_i hdepth
        cases hstep
        refine { h with control := ⟨hfresh, Nat.le_of_not_lt hdepth⟩, found := ?_ }
        intro frame hframe
        rcases List.mem_cons.mp hframe with rfl | hframe
        · exact fun _ hfound => absurd hfound List.not_mem_nil
        · exact h.found frame hframe
  | render name attributes =>
    rw [hcontrol] at hstep
    dsimp only at hstep
    split at hstep
    · cases hstep
      exact { h with names_eq := hnames, control := trivial }
    · -- what renders is registered, also at the outermost call, which no search has found
      rename_i markup css registry hrun
      cases hstep
      have hname := Session.mem_names_of_renderTag (congrArg Prod.fst hrun)
      rw [h.names_eq] at hname
      exact h.enter hcontrol hname registry hnames _ _
  | returned html =>
    rw [hcontrol] at hstep
    dsimp only at hstep
    split at hstep
    · rename_i document done placed rest outer hframes
      cases hstep
      have hrest := h.found (.replacing document done placed rest) (hframes ▸ List.mem_cons_self)
      exact (h.resume hframes rfl s.errors html).visit document _ hrest
    · rename_i outer hframes
      cases hstep
      exact hcontrol ▸ h.resume hframes rfl s.errors html
    · rename_i name outer hframes
      cases hstep
      exact hcontrol ▸ h.leave hframes hcontrol
    · cases hstep
  | failed e =>
    rw [hcontrol] at hstep
    dsimp only at hstep
    split at hstep
    · rename_i outer hframes
      cases hstep
      exact h.resume hframes rfl _ []
    · cases hstep

theorem steps (h : Sound options names s) {base : List Frame} (hsteps : Steps options base s t) :
    Sound options names t := by
  induction hsteps with
  | refl => exact h
  | tail _ hstep ih => exact ih.step hstep.1

end Sound

end Machine

end HtmlComponents.Component
