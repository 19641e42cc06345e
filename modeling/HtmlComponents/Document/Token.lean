import HtmlComponents.Document.Tag

/-!
# Tokens

A document is cut into tags, comments, declarations and text. Every text can be cut: what starts no
tag, comment or declaration is text. `sources_tokens`: the sources of the tokens are the text.
-/

namespace HtmlComponents.Document

/-- A part of a document with its source text. -/
inductive Token where
  | text (source : List Char)
  | comment (source : List Char)
  | declaration (source : List Char)
  | startTag (tag : StartTag) (source : List Char)
  | endTag (name : String) (source : List Char)

def Token.source : Token → List Char
  | text s => s
  | comment s => s
  | declaration s => s
  | startTag _ s => s
  | endTag _ s => s

/-- The part of a text before one of its suffixes. -/
def upTo (text left : List Char) : List Char := text.take (text.length - left.length)

theorem upTo_append {text left : List Char} (h : left <:+ text) : upTo text left ++ left = text := by
  obtain ⟨front, rfl⟩ := h
  simp [upTo]

/-- The text from the first occurrence of `sought` on, if there is one. -/
def findFrom? (sought : List Char) : List Char → Option (List Char)
  | [] => if sought.isEmpty then some [] else none
  | c :: rest => if sought.isPrefixOf (c :: rest) then some (c :: rest) else findFrom? sought rest

theorem findFrom?_suffix {sought text found : List Char} (h : findFrom? sought text = some found) :
    found <:+ text := by
  induction text with
  | nil =>
    simp only [findFrom?] at h
    split at h <;> simp_all
  | cons c rest ih =>
    simp only [findFrom?] at h
    split at h
    · simp only [Option.some.injEq] at h
      exact h ▸ List.suffix_refl _
    · exact (ih h).trans (List.suffix_cons c rest)

def commentStart : List Char := ['<', '!', '-', '-']

def commentEnd : List Char := ['-', '-', '>']

/-- What is left after a comment; it runs to the end of the text if nothing closes it. -/
def afterComment (text : List Char) : List Char :=
  match findFrom? commentEnd (text.drop commentStart.length) with
  | some found => found.drop commentEnd.length
  | none => []

/-- What is left after a declaration, which starts with `<!` or `<?` and runs to a `>`. -/
def afterDeclaration? (text : List Char) : Option (List Char) :=
  match text with
  | '<' :: mark :: rest =>
    if mark = '!' ∨ mark = '?' then
      match rest.dropWhile (· != '>') with
      | _ :: left => some left
      | [] => none
    else none
  | _ => none

/-- The token at the start of a text that is not empty, and what is left. Text runs to the next
`<`, which it may start with. -/
def readToken (c : Char) (rest : List Char) : Token × List Char :=
  let text := c :: rest
  if commentStart.isPrefixOf text then
    (.comment (upTo text (afterComment text)), afterComment text)
  else
    match readEndTag? text with
    | some (name, left) => (.endTag name (upTo text left), left)
    | none =>
      match readStartTag? text with
      | some (tag, left) => (.startTag tag (upTo text left), left)
      | none =>
        match afterDeclaration? text with
        | some left => (.declaration (upTo text left), left)
        | none => (.text (c :: rest.takeWhile (· != '<')), rest.dropWhile (· != '<'))

/-- Whether an end tag of a raw text element may start here, up to the case of letters. -/
def startsEndOf (name : String) (text : List Char) : Bool :=
  let sought := '<' :: '/' :: name.toLower.toList
  sought.isPrefixOf ((text.take sought.length).map Char.toLower)

/-- The content of a raw text element and what is left. -/
def splitRaw (name : String) : List Char → List Char × List Char
  | [] => ([], [])
  | c :: rest =>
    if startsEndOf name (c :: rest) then ([], c :: rest)
    else
      let (content, left) := splitRaw name rest
      (c :: content, left)

/-- The raw text that follows a token, and what is left: none unless the token opens a raw text
element. -/
def splitAfter (token : Token) (left : List Char) : List Char × List Char :=
  match token with
  | .startTag tag _ =>
    if isRawText tag.name && !tag.selfClosing then splitRaw tag.name left else ([], left)
  | _ => ([], left)

/-- Text as a token, if there is any. -/
def textToken (source : List Char) : List Token :=
  if source.isEmpty then [] else [.text source]

theorem afterComment_suffix (c : Char) (rest : List Char) :
    afterComment (c :: rest) <:+ rest := by
  unfold afterComment
  split
  · rename_i found hf
    have hsuffix := (List.drop_suffix commentEnd.length found).trans (findFrom?_suffix hf)
    rw [commentStart, List.length_cons, List.drop_succ_cons] at hsuffix
    exact hsuffix.trans (List.drop_suffix _ rest)
  · exact List.nil_suffix

theorem afterDeclaration?_suffix {c : Char} {rest left : List Char}
    (h : afterDeclaration? (c :: rest) = some left) : left <:+ rest := by
  unfold afterDeclaration? at h
  split at h
  · rename_i mark rest' heq
    cases heq
    split at h
    · split at h
      · rename_i d left' hd
        simp only [Option.some.injEq] at h
        subst h
        exact ((List.suffix_cons d left').trans (hd ▸ List.dropWhile_suffix _)).trans
          (List.suffix_cons ..)
      · simp at h
    · simp at h
  · simp at h

theorem readToken_suffix (c : Char) (rest : List Char) : (readToken c rest).2 <:+ rest := by
  unfold readToken
  simp only
  split
  · exact afterComment_suffix c rest
  · split
    · exact readEndTag?_suffix (by assumption)
    · split
      · exact readStartTag?_suffix (by assumption)
      · split
        · exact afterDeclaration?_suffix (by assumption)
        · exact List.dropWhile_suffix _

theorem splitRaw_append (name : String) (text : List Char) :
    (splitRaw name text).1 ++ (splitRaw name text).2 = text := by
  induction text with
  | nil => rfl
  | cons c rest ih =>
    simp only [splitRaw]
    split
    · rfl
    · simp [ih]

theorem splitAfter_append (token : Token) (left : List Char) :
    (splitAfter token left).1 ++ (splitAfter token left).2 = left := by
  unfold splitAfter
  split
  · split
    · exact splitRaw_append ..
    · rfl
  · rfl

theorem splitAfter_length_le (token : Token) (left : List Char) :
    (splitAfter token left).2.length ≤ left.length := by
  have h := congrArg List.length (splitAfter_append token left)
  rw [List.length_append] at h
  omega

/-- The tokens of a text, in order. -/
def tokens : List Char → List Token
  | [] => []
  | c :: rest =>
    let token := readToken c rest
    let raw := splitAfter token.1 token.2
    token.1 :: (textToken raw.1 ++ tokens raw.2)
termination_by text => text.length
decreasing_by
  have h₁ := splitAfter_length_le (readToken c rest).1 (readToken c rest).2
  have h₂ := (readToken_suffix c rest).length_le
  simp only [List.length_cons]
  omega

theorem source_readToken (c : Char) (rest : List Char) :
    (readToken c rest).1.source ++ (readToken c rest).2 = c :: rest := by
  unfold readToken
  simp only
  split
  · exact upTo_append ((afterComment_suffix c rest).trans (List.suffix_cons ..))
  · split
    · exact upTo_append ((readEndTag?_suffix (by assumption)).trans (List.suffix_cons ..))
    · split
      · exact upTo_append ((readStartTag?_suffix (by assumption)).trans (List.suffix_cons ..))
      · split
        · exact upTo_append ((afterDeclaration?_suffix (by assumption)).trans (List.suffix_cons ..))
        · simp [Token.source, List.takeWhile_append_dropWhile]

theorem sources_textToken (source : List Char) :
    (textToken source).flatMap Token.source = source := by
  cases source <;> simp [textToken, Token.source]

/-- Nothing of a text is lost or moved by cutting it into tokens. -/
theorem sources_tokens (text : List Char) : (tokens text).flatMap Token.source = text := by
  fun_induction tokens text with
  | case1 => rfl
  | case2 c rest token raw ih =>
    rw [List.flatMap_cons, List.flatMap_append, sources_textToken, ih]
    rw [show raw.1 ++ raw.2 = token.2 from splitAfter_append ..]
    exact source_readToken c rest

end HtmlComponents.Document
