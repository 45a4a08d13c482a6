/-
**Tokens of HTML.**

The characters of a page fall into tags, comments, document types and text.  What counts as a tag
depends on where one is: in a `title` only its own end tag does, in a `script` comments shield even
that, after `plaintext` nothing does.

Main definitions:

* `Html.Token` — a token;
* `Html.Content` — which tokens may come;
* `Html.Token.next` — the token at the start of a text, and what follows it.

No token is cut by the end of the page: a tag that the page ends in is dropped, a comment ends
there.
-/

import ChapterAssembly.Html.Reference

set_option relaxedAutoImplicit false
set_option autoImplicit false

namespace ChapterAssembly

namespace Html

/-- The names and the values of the attributes of a tag, in the order they were first given. -/
abbrev Attributes := List (String × Text)

/-- A document type: its name and its two identifiers. -/
structure Doctype where
  name : Option Text
  publicId : Option Text
  systemId : Option Text
  /-- Something is wrong with it. -/
  broken : Bool
deriving Repr, Inhabited

/-- A token. -/
inductive Token where
  | doctype (d : Doctype)
  | startTag (name : String) (attrs : Attributes) (selfClosing : Bool)
  | endTag (name : String)
  | comment (t : Text)
  | text (t : Text)
deriving Repr

/-- Which tokens may come. -/
inductive Content where
  /-- All kinds. -/
  | markup
  /-- Text with references, up to the end tag of the given name. -/
  | escapable (tag : String)
  /-- Text without references, up to the end tag of the given name. -/
  | raw (tag : String)
  /-- A script, up to its end tag. -/
  | script
  /-- Text up to the end of the page. -/
  | plain
deriving Repr

namespace Token

/-- The blank characters of HTML. -/
def isSpace (c : Char) : Bool := c == '\t' || c == '\n' || c == '\x0c' || c == '\r' || c == ' '

/-- A text with U+FFFD in place of the characters U+0000. -/
def replaceNul (t : Text) : Text := t.map fun c => if c == '\x00' then '\uFFFD' else c

/-- A name as it is compared: ASCII letters in lower case. -/
def nameOf (t : Text) : String := String.ofList (replaceNul (Text.asciiLower t))

theorem length_dropWhile_le (p : Char → Bool) (t : Text) : (t.dropWhile p).length ≤ t.length := by
  induction t with
  | nil => simp
  | cons c t ih =>
    simp only [List.dropWhile_cons]
    split
    · exact Nat.le_succ_of_le ih
    · simp

/-! ### Attributes -/

/-- A text up to the quote `q`, and what follows the quote if there is one. -/
def untilQuote (q : Char) : Text → Text × Option Text
  | [] => ([], none)
  | c :: t => if c = q then ([], some t) else ((untilQuote q t).1.cons c, (untilQuote q t).2)

theorem length_untilQuote {q : Char} {t v r : Text} (h : untilQuote q t = (v, some r)) :
    r.length < t.length := by
  induction t generalizing v with
  | nil => simp [untilQuote] at h
  | cons c t ih =>
    simp only [untilQuote] at h
    split at h
    · simp_all
    · simp only [Prod.mk.injEq] at h
      have := ih (v := (untilQuote q t).1) (by rw [← h.2])
      simp only [List.length_cons]
      omega

/-- The value of an attribute behind its equals sign, and what follows; `none` if the page ends in
it. -/
def attributeValue (t : Text) : Option (Text × Text) :=
  let t := t.dropWhile isSpace
  match t with
  | [] => none
  | '>' :: _ => some ([], t)
  | '"' :: r =>
    match untilQuote '"' r with
    | (v, some r) => some (v, r)
    | (_, none) => none
  | '\'' :: r =>
    match untilQuote '\'' r with
    | (v, some r) => some (v, r)
    | (_, none) => none
  | _ =>
    let ends := fun c => !(isSpace c || c == '>')
    some (t.takeWhile ends, t.dropWhile ends)

theorem length_attributeValue {t v r : Text} (h : attributeValue t = some (v, r)) :
    r.length ≤ t.length := by
  have hd := length_dropWhile_le isSpace t
  simp only [attributeValue] at h
  split at h
  · simp at h
  · simp only [Option.some.injEq, Prod.mk.injEq] at h
    rw [← h.2]
    exact hd
  · next heq =>
    split at h
    · next hq =>
      have := length_untilQuote hq
      simp_all
      omega
    · simp at h
  · next heq =>
    split at h
    · next hq =>
      have := length_untilQuote hq
      simp_all
      omega
    · simp at h
  · simp only [Option.some.injEq, Prod.mk.injEq] at h
    have := length_dropWhile_le (fun c => !(isSpace c || c == '>')) (t.dropWhile isSpace)
    rw [← h.2]
    omega

/-- Adds an attribute; the first value of a name counts. -/
def addAttribute (attrs : Attributes) (name : String) (value : Text) : Attributes :=
  if attrs.any (·.1 == name) then attrs else attrs ++ [(name, value)]

/-- Reads attributes up to the end of the tag: the attributes, whether the tag closes itself, and
what follows; `none` if the page ends in the tag. -/
def attributes (attrs : Attributes) (t : Text) : Option (Attributes × Bool × Text) :=
  match _h : t.dropWhile isSpace with
  | [] => none
  | '>' :: r => some (attrs, false, r)
  | '/' :: '>' :: r => some (attrs, true, r)
  | '/' :: r => attributes attrs r
  | c :: r =>
    let inName := fun c => !(isSpace c || c == '/' || c == '>' || c == '=')
    let name := nameOf (c :: r.takeWhile inName)
    match _h' : (r.dropWhile inName).dropWhile isSpace with
    | '=' :: r' =>
      match _h'' : attributeValue r' with
      | none => none
      | some (v, rest) =>
        attributes (addAttribute attrs name (Reference.decode true (replaceNul v))) rest
    | rest => attributes (addAttribute attrs name []) rest
termination_by t.length
decreasing_by
  all_goals
    have h₁ := length_dropWhile_le isSpace t
    rw [_h] at h₁
    simp only [List.length_cons] at h₁
  · omega
  · have h₂ := length_dropWhile_le inName r
    have h₃ := length_dropWhile_le isSpace (r.dropWhile inName)
    have h₄ := length_attributeValue _h''
    rw [_h'] at h₃
    simp only [List.length_cons] at h₃
    omega
  · have h₂ := length_dropWhile_le inName r
    have h₃ := length_dropWhile_le isSpace (r.dropWhile inName)
    rw [_h'] at h₃
    omega

/-- A tag whose name starts at `t`, and what follows it. -/
def tag (make : String → Attributes → Bool → Token) (t : Text) : Option Token × Text :=
  let inName := fun c => !(isSpace c || c == '/' || c == '>')
  match attributes [] (t.dropWhile inName) with
  | none => (none, [])
  | some (attrs, selfClosing, r) => (some (make (nameOf (t.takeWhile inName)) attrs selfClosing), r)

def startTagAt (t : Text) : Option Token × Text := tag startTag t

def endTagAt (t : Text) : Option Token × Text := tag (fun name _ _ => endTag name) t

/-! ### Comments and document types -/

/-- A comment up to the next greater-than sign. -/
def bogusComment (t : Text) : Option Token × Text :=
  (some (comment (replaceNul (t.takeWhile (· != '>')))), (t.dropWhile (· != '>')).drop 1)

/-- A text without what may be the start of a comment's end. -/
def dropOpenEnd (t : Text) : Text :=
  match t.reverse with
  | '!' :: '-' :: '-' :: r => r.reverse
  | '-' :: '-' :: r => r.reverse
  | '-' :: r => r.reverse
  | _ => t

/-- The text of a comment and what follows its end. -/
def commentBody : Text → Text × Text
  | [] => ([], [])
  | '-' :: '-' :: '>' :: r => ([], r)
  | '-' :: '-' :: '!' :: '>' :: r => ([], r)
  | c :: t => ((commentBody t).1.cons c, (commentBody t).2)

/-- The end of a comment stands in a text. -/
def closesComment : Text → Bool
  | [] => false
  | '-' :: '-' :: '>' :: _ => true
  | '-' :: '-' :: '!' :: '>' :: _ => true
  | _ :: t => closesComment t

/-- A comment behind `<!--`. -/
def commentAt (t : Text) : Option Token × Text :=
  match t with
  | '>' :: r => (some (comment []), r)
  | '-' :: '>' :: r => (some (comment []), r)
  | _ =>
    if closesComment t then
      let (body, r) := commentBody t
      (some (comment (replaceNul body)), r)
    else (some (comment (replaceNul (dropOpenEnd t))), [])

/-- A text starts with the given lower-case word in any case; what follows it. -/
def afterWord? (w : String) (t : Text) : Option Text :=
  let n := w.length
  if Text.asciiLower (t.take n) = w.toList then some (t.drop n) else none

/-- A quoted identifier: its text and what follows; `none` if the text does not start with a
quote.  The last part tells that its quote is missing. -/
def identifier? (t : Text) : Option (Text × Text × Bool) :=
  match t with
  | '"' :: r => some (go '"' r)
  | '\'' :: r => some (go '\'' r)
  | _ => none
where
  /-- The identifier up to its quote; a greater-than sign ends it too early. -/
  go (q : Char) (r : Text) : Text × Text × Bool :=
    let body := r.takeWhile fun c => c != q && c != '>'
    match r.drop body.length with
    | c :: r' => if c = q then (replaceNul body, r', false) else (replaceNul body, c :: r', true)
    | [] => (replaceNul body, [], true)

/-- The identifiers of a document type, with whether something is wrong with them. -/
def identifiers (t : Text) : Option Text × Option Text × Bool :=
  let t := t.dropWhile isSpace
  match t with
  | [] => (none, none, false)
  | _ =>
    match afterWord? "public" t with
    | some r =>
      match identifier? (r.dropWhile isSpace) with
      | none => (none, none, true)
      | some (p, _, true) => (some p, none, true)
      | some (p, r, false) =>
        let r := r.dropWhile isSpace
        match r, identifier? r with
        | [], _ => (some p, none, false)
        | _, none => (some p, none, true)
        | _, some (s, _, broken) => (some p, some s, broken)
    | none =>
      match afterWord? "system" t with
      | some r =>
        match identifier? (r.dropWhile isSpace) with
        | none => (none, none, true)
        | some (s, _, broken) => (none, some s, broken)
      | none => (none, none, true)

/-- A document type behind `<!doctype`. -/
def doctypeAt (t : Text) : Option Token × Text :=
  let body := t.takeWhile (· != '>')
  let rest := (t.drop body.length).drop 1
  let unended := (t.drop body.length).isEmpty
  let body := body.dropWhile isSpace
  let name := body.takeWhile fun c => !isSpace c
  let (publicId, systemId, broken) := identifiers (body.drop name.length)
  let name := if name.isEmpty then none else some (replaceNul (Text.asciiLower name))
  (some (doctype ⟨name, publicId, systemId, broken || unended || name.isNone⟩), rest)

/-! ### The kinds of content -/

/-- The token behind a less-than sign where all kinds may come; `none` if the sign is text. -/
def behindLess (foreign : Bool) (t : Text) : Option (Option Token × Text) :=
  match t with
  | '!' :: r =>
    match Text.afterPrefix? "--".toList r with
    | some r => some (commentAt r)
    | none =>
      match afterWord? "doctype" r with
      | some r => some (doctypeAt r)
      | none =>
        match if foreign then Text.afterPrefix? "[CDATA[".toList r else none with
        | some r =>
          match Text.cutAt? "]]>".toList r with
          | some (a, b) => some (some (text a), b)
          | none => some (some (text r), [])
        | none => some (bogusComment r)
  | '/' :: r =>
    match r with
    | [] => none
    | '>' :: r => some (none, r)
    | c :: _ => some (if c.isAlpha then endTagAt r else bogusComment r)
  | '?' :: _ => some (bogusComment t)
  | c :: _ => if c.isAlpha then some (startTagAt t) else none
  | [] => none

/-- A text starts with the end tag of the given name; the text from its name on. -/
def endTagOf? (name : String) (t : Text) : Option Text :=
  match t with
  | '<' :: '/' :: r =>
    match afterWord? name r with
    | some (c :: _) => if isSpace c || c == '/' || c == '>' then some r else none
    | _ => none
  | _ => none

/-- The text up to the end tag of the given name, and the text from that tag on. -/
def untilEndTag (name : String) : Text → Text × Text
  | [] => ([], [])
  | c :: t =>
    if (endTagOf? name (c :: t)).isSome then ([], c :: t)
    else ((untilEndTag name t).1.cons c, (untilEndTag name t).2)

/-- Where a script is: outside comments, in a comment, or in a script in a comment.  Inside, the
number says how many hyphens came last, two at most. -/
inductive ScriptState where
  | outside
  | escaped (hyphens : Nat)
  | doubleEscaped (hyphens : Nat)
deriving Repr

/-- A text starts with `script` and a character that ends a tag name. -/
def startsWithScriptName (t : Text) : Bool :=
  match afterWord? "script" t with
  | some (c :: _) => isSpace c || c == '/' || c == '>'
  | _ => false

/-- The state after a character of a script that a text follows. -/
def ScriptState.after (s : ScriptState) (c : Char) (t : Text) : ScriptState :=
  match s with
  | .outside =>
    if c = '<' ∧ (Text.afterPrefix? "!--".toList t).isSome then .escaped 0 else .outside
  | .escaped n =>
    if c = '-' then .escaped (min 2 (n + 1))
    else if c = '>' ∧ n = 2 then .outside
    else if c = '<' ∧ startsWithScriptName t then .doubleEscaped 0
    else .escaped 0
  | .doubleEscaped n =>
    if c = '-' then .doubleEscaped (min 2 (n + 1))
    else if c = '>' ∧ n = 2 then .outside
    else if c = '<' ∧ t.head? = some '/' ∧ startsWithScriptName (t.drop 1) then .escaped 0
    else .doubleEscaped 0

/-- Whether the end tag of a script counts. -/
def ScriptState.endsHere : ScriptState → Bool
  | .doubleEscaped _ => false
  | _ => true

/-- The text of a script, and the text from its end tag on. -/
def scriptBody (s : ScriptState) : Text → Text × Text
  | [] => ([], [])
  | c :: t =>
    if s.endsHere && (endTagOf? "script" (c :: t)).isSome then ([], c :: t)
    else
      let r := scriptBody (s.after c t) t
      (c :: r.1, r.2)

/-- Text up to an end tag, or the end tag itself if it comes first. -/
def textOrEndTag (decode : Text → Text) (split : Text × Text) : Option Token × Text :=
  match split with
  | ([], _ :: _ :: r) => endTagAt r
  | (body, rest) => (some (text (decode body)), rest)

/-- The token at the start of a nonempty text, if one arises, and what follows.  `foreign` tells
that the place is outside HTML proper, where CDATA sections count. -/
def next (content : Content) (foreign : Bool) (t : Text) : Option Token × Text :=
  match content with
  | .plain => (some (text (replaceNul t)), [])
  | .script => textOrEndTag replaceNul (scriptBody .outside t)
  | .raw name => textOrEndTag replaceNul (untilEndTag name t)
  | .escapable name =>
    textOrEndTag (fun b => Reference.decode false (replaceNul b)) (untilEndTag name t)
  | .markup =>
    match t with
    | '<' :: r =>
      match behindLess foreign r with
      | some answer => answer
      | none => (some (text ('<' :: Reference.decode false (r.takeWhile (· != '<')))),
          r.dropWhile (· != '<'))
    | _ => (some (text (Reference.decode false (t.takeWhile (· != '<')))), t.dropWhile (· != '<'))

/-! ### Preparing a page -/

/-- A page as it is read: line ends are line feeds, and a byte order mark in front is left out. -/
def normalizeInput (t : Text) : Text :=
  lineEnds (if t.head? = some '\uFEFF' then t.drop 1 else t)
where
  /-- A text with each kind of line end as one line feed. -/
  lineEnds : Text → Text
    | [] => []
    | '\r' :: '\n' :: t => '\n' :: lineEnds t
    | '\r' :: t => '\n' :: lineEnds t
    | c :: t => c :: lineEnds t

end Token

end Html

end ChapterAssembly
