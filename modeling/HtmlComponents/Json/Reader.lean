import HtmlComponents.Json.Numeral

/-!
# Reading of JSON

A text is cut into tokens, and the tokens are put together by a machine with a stack of open arrays
and objects. At most 127 of them may be open at once.
-/

namespace HtmlComponents.Json

/-- A mark of the grammar, or a value that is not built from others. -/
inductive Token where
  | mark (c : Char)
  | scalar (value : Json)

/-- Where the reading of a string stands. -/
inductive StringState where
  | plain
  /-- After a backslash, and after a high surrogate before it. -/
  | escape (high : Option Nat)
  /-- Inside a numbered escape: the digits to come, and the number so far. -/
  | unit (high : Option Nat) (left : Nat) (value : Nat)
  /-- After a high surrogate: a low one has to follow. -/
  | surrogate (high : Nat)

/-- The character that a backslash and a letter stand for. -/
def escaped? (c : Char) : Option Char :=
  match c with
  | '"' => some '"'
  | '\\' => some '\\'
  | '/' => some '/'
  | 'b' => some '\x08'
  | 'f' => some '\x0c'
  | 'n' => some '\n'
  | 'r' => some '\r'
  | 't' => some '\t'
  | _ => none

def hexDigit? (c : Char) : Option Nat :=
  if c.isDigit then some (c.toNat - 48)
  else if 'a' ≤ c && c ≤ 'f' then some (c.toNat - 87)
  else if 'A' ≤ c && c ≤ 'F' then some (c.toNat - 55)
  else none

/-- What a complete numbered escape adds: a character, or the need for a low surrogate. -/
def closeUnit? (high : Option Nat) (value : Nat) : Option (List Char × StringState) :=
  match high with
  | some h =>
    if 0xDC00 ≤ value ∧ value ≤ 0xDFFF then
      some ([Char.ofNat (0x10000 + (h - 0xD800) * 0x400 + (value - 0xDC00))], .plain)
    else none
  | none =>
    if 0xD800 ≤ value ∧ value ≤ 0xDBFF then some ([], .surrogate value)
    else if 0xDC00 ≤ value ∧ value ≤ 0xDFFF then none
    else some ([Char.ofNat value], .plain)

/-- Reads the rest of a string up to its closing quote. The characters so far are in reverse. -/
def readString? (done : List Char) : StringState → List Char → Option (String × List Char)
  | _, [] => none
  | .plain, c :: rest =>
    if c = '"' then some (String.ofList done.reverse, rest)
    else if c = '\\' then readString? done (.escape none) rest
    else if c.toNat < 0x20 then none
    else readString? (c :: done) .plain rest
  | .escape high, c :: rest =>
    if c = 'u' then readString? done (.unit high 4 0) rest
    else if high.isSome then none
    else
      match escaped? c with
      | some e => readString? (e :: done) .plain rest
      | none => none
  | .unit high left value, c :: rest =>
    match hexDigit? c with
    | none => none
    | some d =>
      if left ≤ 1 then
        match closeUnit? high (16 * value + d) with
        | some (added, state) => readString? (added ++ done) state rest
        | none => none
      else readString? done (.unit high (left - 1) (16 * value + d)) rest
  | .surrogate high, c :: rest =>
    if c = '\\' then readString? done (.escape (some high)) rest else none

def isSpace (c : Char) : Bool := c == ' ' || c == '\n' || c == '\t' || c == '\r'

def isMark (c : Char) : Bool :=
  c == '[' || c == ']' || c == '\x7b' || c == '\x7d' || c == ',' || c == ':'

/-- Reads one of the three named values. -/
def readName? (text : List Char) : Option (Json × List Char) :=
  if ['n', 'u', 'l', 'l'].isPrefixOf text then some (.null, text.drop 4)
  else if ['t', 'r', 'u', 'e'].isPrefixOf text then some (.bool true, text.drop 4)
  else if ['f', 'a', 'l', 's', 'e'].isPrefixOf text then some (.bool false, text.drop 5)
  else none

/-- Reads a token that starts with `c`. -/
def readToken? (c : Char) (rest : List Char) : Option (Token × List Char) :=
  if isMark c then some (.mark c, rest)
  else if c = '"' then
    (readString? [] .plain rest).map fun (s, left) => (.scalar (.string s), left)
  else if c.isDigit || c == '-' then
    (Numeral.read? (c :: rest)).bind fun (numeral, left) =>
      numeral.value?.map fun n => (.scalar (.number n), left)
  else (readName? (c :: rest)).map fun (value, left) => (.scalar value, left)

/-- The tokens of a text. Reading a token takes at least one character; a token that did not would
be refused. -/
def tokens? (text : List Char) : Option (List Token) :=
  match text with
  | [] => some []
  | c :: rest =>
    if isSpace c then tokens? rest
    else
      match readToken? c rest with
      | none => none
      | some (token, left) =>
        if _h : left.length ≤ rest.length then (tokens? left).map (token :: ·) else none
termination_by text.length

/-- An open array or object with what it holds so far, in reverse. -/
inductive Frame where
  | items (done : List Json)
  | members (done : List (String × Json)) (name : String)

/-- What may come next. -/
inductive Expected where
  | value
  /-- An item or the end of an empty array. -/
  | valueOrEnd
  /-- A member name or the end of an empty object. -/
  | nameOrEnd (done : List (String × Json))
  | name (done : List (String × Json))
  | colon (done : List (String × Json)) (name : String)
  /-- A comma or the end of the innermost array or object. -/
  | separator
  /-- The text is complete. -/
  | done (value : Json)

structure Machine where
  frames : List Frame
  expected : Expected

/-- Puts a complete value into the innermost open array or object. -/
def Machine.supply (frames : List Frame) (value : Json) : Machine :=
  match frames with
  | [] => ⟨[], .done value⟩
  | .items done :: outer => ⟨.items (value :: done) :: outer, .separator⟩
  | .members done name :: outer => ⟨.members ((name, value) :: done) "" :: outer, .separator⟩

def maxOpen : Nat := 127

/-- Opens an array or an object where a value is expected. An object is open from its first member
name on, and counts as open before. -/
def Machine.start? (frames : List Frame) (token : Token) : Option Machine :=
  match token with
  | .scalar value => some (supply frames value)
  | .mark c =>
    if c = '[' then
      if frames.length < maxOpen then some ⟨.items [] :: frames, .valueOrEnd⟩ else none
    else if c = '\x7b' then
      if frames.length < maxOpen then some ⟨frames, .nameOrEnd []⟩ else none
    else none

def Machine.step? (machine : Machine) (token : Token) : Option Machine :=
  match machine.expected, machine.frames, token with
  | .value, frames, token => start? frames token
  | .valueOrEnd, .items _ :: outer, .mark ']' => some (supply outer (.array []))
  | .valueOrEnd, frames, token => start? frames token
  | .nameOrEnd done, frames, .scalar (.string name) => some ⟨frames, .colon done name⟩
  | .nameOrEnd _, frames, .mark '\x7d' => some (supply frames (.object []))
  | .name done, frames, .scalar (.string name) => some ⟨frames, .colon done name⟩
  | .colon done name, frames, .mark ':' => some ⟨.members done name :: frames, .value⟩
  | .separator, .items done :: outer, .mark ',' => some ⟨.items done :: outer, .value⟩
  | .separator, .items done :: outer, .mark ']' => some (supply outer (.array done.reverse))
  | .separator, .members done _ :: outer, .mark ',' => some ⟨outer, .name done⟩
  | .separator, .members done _ :: outer, .mark '\x7d' => some (supply outer (ofMembers done.reverse))
  | _, _, _ => none

/-- The value that a text writes. -/
def parse? (text : String) : Option Json := do
  let tokens ← tokens? text.toList
  let machine ← tokens.foldlM Machine.step? ⟨[], .value⟩
  match machine.expected with
  | .done value => some value
  | _ => none

end HtmlComponents.Json
