import HtmlComponents.Route.Error
import HtmlComponents.TagName

/-!
# Request methods
-/

namespace HtmlComponents.Route

inductive Method where
  | get
  | post
  | put
  | patch
  | delete
deriving DecidableEq

namespace Method

def all : List Method := [get, post, put, patch, delete]

def name : Method → String
  | get => "GET"
  | post => "POST"
  | put => "PUT"
  | patch => "PATCH"
  | delete => "DELETE"

/-- The client attribute that sends a request with the method. -/
def clientAttribute : Method → String
  | get => "hx-get"
  | post => "hx-post"
  | put => "hx-put"
  | patch => "hx-patch"
  | delete => "hx-delete"

/-- The method of a name in any case of letters. -/
def parse (text : String) : Except Error Method :=
  match all.find? fun method => sameName method.name text with
  | some method => .ok method
  | none => .error (.unsupportedMethod text)

end Method

end HtmlComponents.Route
