import HtmlComponents.Text.Cluster.Table

/-!
# Grapheme clusters

What a reader takes for one character: a character with the marks, joiners and signs that belong to
it. The rules are those of extended grapheme clusters, Indic conjuncts and linked pictographs
included.
-/

namespace HtmlComponents.Text

/-- A user-perceived character. -/
abbrev Cluster := List Char

namespace Cluster

/-- How a character takes part in the rules. -/
inductive Role where
  | carriageReturn
  | lineFeed
  | control
  | extend
  | joiner
  | spacing
  | prepend
  | regional
  | leading
  | vowel
  | trailing
  | leadingVowel
  | syllable
  | other
deriving DecidableEq

def within (ranges : List (Nat × Nat)) (n : Nat) : Bool :=
  ranges.any fun range => range.1 ≤ n && n ≤ range.2

/-- The role of a character above ASCII. -/
def wideRole (n : Nat) : Role :=
  if n == 0x200D then .joiner
  else if within controlRanges n then .control
  else if within extendRanges n then .extend
  else if within spacingRanges n then .spacing
  else if within prependRanges n then .prepend
  else if 0x1F1E6 ≤ n && n ≤ 0x1F1FF then .regional
  else if (0x1100 ≤ n && n ≤ 0x115F) || (0xA960 ≤ n && n ≤ 0xA97C) then .leading
  else if (0x1160 ≤ n && n ≤ 0x11A7) || (0xD7B0 ≤ n && n ≤ 0xD7C6) || n == 0x16D63 ||
      (0x16D67 ≤ n && n ≤ 0x16D6A) then .vowel
  else if (0x11A8 ≤ n && n ≤ 0x11FF) || (0xD7CB ≤ n && n ≤ 0xD7FB) then .trailing
  else if 0xAC00 ≤ n && n ≤ 0xD7A3 then
    (if (n - 0xAC00) % 28 == 0 then .leadingVowel else .syllable)
  else .other

def role (c : Char) : Role :=
  if c = '\r' then .carriageReturn
  else if c = '\n' then .lineFeed
  else if c.toNat < 0x20 then .control
  else if c.toNat < 0x7F then .other
  else wideRole c.toNat

def isPictograph (c : Char) : Bool := c.toNat ≥ 0x7F && within pictographRanges c.toNat

/-- A cluster, given in reverse, that is a pictograph with its marks and a joiner at the end. -/
def awaitsPictograph : Cluster → Bool
  | [] => false
  | c :: before =>
    role c == .joiner &&
      match before.dropWhile fun d => role d == .extend with
      | d :: _ => isPictograph d
      | [] => false

def isConsonant (c : Char) : Bool := c.toNat ≥ 0x7F && within consonantRanges c.toNat

def isLinker (c : Char) : Bool := within linkerRanges c.toNat

/-- A mark that may stand inside a conjunct: any that extends a cluster, the one that asks for no
joining apart. -/
def isConjunctMark (c : Char) : Bool :=
  (role c == .extend && c.toNat != 0x200C) || role c == .joiner

/-- A cluster, given in reverse, that ends with a consonant and its marks, a linker among them. -/
def awaitsConsonant (before : Cluster) : Bool :=
  (before.takeWhile isConjunctMark).any isLinker &&
    match before.dropWhile isConjunctMark with
    | c :: _ => isConsonant c
    | [] => false

/-- Whether a character stays in the cluster before it, which is given in reverse. -/
def joins (before : Cluster) (next : Char) : Bool :=
  match before with
  | [] => true
  | last :: _ =>
    match role last, role next with
    | .carriageReturn, .lineFeed => true
    | .carriageReturn, _ | .lineFeed, _ | .control, _ => false
    | _, .carriageReturn | _, .lineFeed | _, .control => false
    | _, .extend | _, .joiner | _, .spacing => true
    | .prepend, _ => true
    | .leading, .leading | .leading, .vowel | .leading, .leadingVowel | .leading, .syllable => true
    | .leadingVowel, .vowel | .leadingVowel, .trailing => true
    | .vowel, .vowel | .vowel, .trailing => true
    | .syllable, .trailing | .trailing, .trailing => true
    | .regional, .regional => (before.takeWhile fun c => role c == .regional).length % 2 == 1
    | _, _ =>
      (isPictograph next && awaitsPictograph before) ||
        (isConsonant next && awaitsConsonant before)

/-- The clusters of a text, given the open cluster in reverse. -/
def splitFrom (before : Cluster) : List Char → List Cluster
  | [] => if before.isEmpty then [] else [before.reverse]
  | c :: rest =>
    if joins before c then splitFrom (c :: before) rest
    else before.reverse :: splitFrom [c] rest

/-- The clusters of a text, in order. -/
def split (text : List Char) : List Cluster := splitFrom [] text

end Cluster

end HtmlComponents.Text
