import HtmlComponents.Route.Error
import HtmlComponents.Text.Percent
import HtmlComponents.Text.Pieces

/-!
# Path patterns

A pattern is a path whose segments are literal texts or named parameters. It matches request paths,
binding the parameters, and builds paths from arguments.
-/

namespace HtmlComponents.Route

/-- A piece of a pattern between slashes. -/
inductive Segment where
  | literal (text : String)
  /-- A parameter matches one segment that is not empty. -/
  | parameter (name : String)
deriving DecidableEq

namespace Segment

/-- The segment as it stands in a pattern. -/
def source : Segment → String
  | literal text => text
  | parameter name => ":" ++ name

def parameter? : Segment → Option String
  | literal _ => none
  | parameter name => some name

end Segment

/-- A path pattern: its text and its segments. -/
structure Pattern where
  source : String
  segments : List Segment
deriving DecidableEq

/-- Parameters bound by a match, in the order of the pattern. -/
abbrev Bindings := List (String × String)

/-- Parameter names are identifiers: a letter or underscore, then letters, digits and
underscores. -/
def isParameterName (name : List Char) : Bool :=
  match name with
  | c :: rest => (c.isAlpha || c == '_') && rest.all fun d => d.isAlphanum || d == '_'
  | [] => false

namespace Pattern

/-- One piece of the pattern `source`, after the segments in `earlier`. -/
def readSegment (source : String) (earlier : List Segment) (piece : List Char) :
    Except Error Segment :=
  if piece.isEmpty then .error (.invalidPattern source "empty path segment")
  else if '?' ∈ piece ∨ '#' ∈ piece then
    .error (.invalidPattern source "query or fragment in pattern")
  else
    match piece with
    | ':' :: name =>
      if !isParameterName name then
        .error (.invalidPattern source "parameter names must be identifiers")
      else if Segment.parameter (String.ofList name) ∈ earlier then
        .error (.duplicateParameter source (String.ofList name))
      else .ok (.parameter (String.ofList name))
    | text => .ok (.literal (String.ofList text))

/-- The pieces of a pattern from left to right, up to the first error. -/
def readSegments (source : String) (earlier : List Segment) :
    List (List Char) → Except Error (List Segment)
  | [] => .ok []
  | piece :: rest => do
    let segment ← readSegment source earlier piece
    let segments ← readSegments source (earlier ++ [segment]) rest
    return segment :: segments

/-- Reads a pattern: a slash alone, or segments with a slash before each. -/
def parse (source : String) : Except Error Pattern :=
  match source.toList with
  | ['/'] => .ok ⟨source, []⟩
  | '/' :: body => (readSegments source [] (Text.pieces '/' body)).map fun segments =>
      ⟨source, segments⟩
  | _ => .error (.invalidPattern source "must start with '/'")

/-- The names of the parameters, from left to right. -/
def parameters (pattern : Pattern) : List String := pattern.segments.filterMap Segment.parameter?

def parameterCount (pattern : Pattern) : Nat := pattern.parameters.length

/-- The segments of a request path. The slash at its start may be missing; the path of a slash alone
has no segments. -/
def splitPath (path : List Char) : List (List Char) :=
  let body :=
    match path with
    | '/' :: rest => rest
    | path => path
  if body.isEmpty then [] else Text.pieces '/' body

/-- Matches segments with parts of a path one by one. Bound values are decoded. -/
def bind? : List Segment → List (List Char) → Option Bindings
  | [], [] => some []
  | .literal text :: segments, part :: parts =>
    if text.toList = part then bind? segments parts else none
  | .parameter name :: segments, part :: parts =>
    if part.isEmpty then none
    else (bind? segments parts).map ((name, Text.Percent.decode (String.ofList part)) :: ·)
  | _, _ => none

/-- The parameters that a request path without query and fragment binds, if it matches. -/
def match? (pattern : Pattern) (path : String) : Option Bindings :=
  bind? pattern.segments (splitPath path.toList)

/-- Segments with arguments in place of parameters, each with a slash before it. Arguments are
encoded; a parameter without one is left empty. -/
def fill : List Segment → List String → List Char
  | [], _ => []
  | .literal text :: segments, arguments => '/' :: text.toList ++ fill segments arguments
  | .parameter _ :: segments, [] => '/' :: fill segments []
  | .parameter _ :: segments, argument :: arguments =>
    '/' :: (Text.Percent.encode argument).toList ++ fill segments arguments

/-- The path with arguments in place of the parameters. -/
def resolve (pattern : Pattern) (arguments : List String) : String :=
  match pattern.segments with
  | [] => "/"
  | segments => String.ofList (fill segments arguments)

end Pattern

end HtmlComponents.Route
