/-!
# JSON values

Numbers keep apart whole numbers of 64 bits and binary fractions. The members of an object are
sorted by name, each name once.
-/

namespace HtmlComponents

/-- A JSON number. -/
inductive Json.Number where
  /-- A whole number between `-2 ^ 63` and `2 ^ 64 - 1`. -/
  | whole (n : Int)
  | real (x : Float)

/-- A JSON value. -/
inductive Json where
  | null
  | bool (b : Bool)
  | number (n : Json.Number)
  | string (s : String)
  | array (items : List Json)
  | object (members : List (String × Json))

namespace Json

/-- Puts a member into its place in the order of names; it replaces one of the same name. -/
def insertMember (name : String) (value : Json) : List (String × Json) → List (String × Json)
  | [] => [(name, value)]
  | member :: rest =>
    if name = member.1 then (name, value) :: rest
    else if name < member.1 then (name, value) :: member :: rest
    else member :: insertMember name value rest

/-- The object with given members; of several with one name the last counts. -/
def ofMembers (members : List (String × Json)) : Json :=
  .object (members.foldl (fun sorted member => insertMember member.1 member.2 sorted) [])

/-- The value of a member of an object. -/
def member? (name : String) : Json → Option Json
  | object members => members.lookup name
  | _ => none

def string? : Json → Option String
  | string s => some s
  | _ => none

def array? : Json → Option (List Json)
  | array items => some items
  | _ => none

def bool? : Json → Option Bool
  | bool b => some b
  | _ => none

/-- A number as a binary fraction. -/
def Number.toFloat : Number → Float
  | whole n => Float.ofInt n
  | real x => x

end Json

end HtmlComponents
