/-
**The parts of an XML text.**

An XML text falls into tags, character data and markup that says nothing about its content:
comments, processing instructions and the document type.  Tags are cut at the first `>` outside
quotes, so that a value may hold one.

Main definitions:

* `ChapterAssembly.Xml.Token` — a tag or a piece of character data;
* `Xml.tokens` — the tokens of a text;
* `Xml.attributes?` — the names and values in a tag.

Main results:

* `Xml.tokens_opening`, `Xml.tokens_empty`, `Xml.tokens_closing`, `Xml.tokens_raw` — the tokens of a
  text that starts with a tag or with character data.
-/

import ChapterAssembly.Xml.Text

set_option relaxedAutoImplicit false
set_option autoImplicit false

namespace ChapterAssembly

namespace Xml

/-- A part of an XML text that its content depends on. -/
inductive Token where
  /-- A tag that opens an element; what follows the name is kept as it is.  The tag of an element
  without content may close it, too. -/
  | opening (name rest : Text) (closed : Bool)
  | closing (name : Text)
  /-- Character data with references. -/
  | raw (t : Text)
  /-- Character data in which nothing is markup. -/
  | literal (t : Text)
  /-- What starts here is no markup, or has no end. -/
  | broken
deriving Repr, DecidableEq

/-! ### The ends of markup -/

/-- The inside of a tag and what follows the tag; `quote` is the quote that is open. -/
def tagEnd? (quote : Option Char) : Text → Option (Text × Text)
  | [] => none
  | c :: t =>
    if quote = none ∧ c = '>' then some ([], t)
    else
      let quote := match quote with
        | none => if c = '"' ∨ c = '\'' then some c else none
        | some q => if c = q then none else some q
      (tagEnd? quote t).map fun (a, b) => (c :: a, b)

/-- What follows a declaration, in which `<` and `>` are balanced up to `depth` open ones, and its
inside. -/
def declarationEnd? (depth : Nat) : Text → Option (Text × Text)
  | [] => none
  | c :: t =>
    if c = '>' ∧ depth = 0 then some ([], t)
    else
      let depth := if c = '<' then depth + 1 else if c = '>' then depth - 1 else depth
      (declarationEnd? depth t).map fun (a, b) => (c :: a, b)

theorem length_of_tagEnd? {q : Option Char} {t a b : Text} (h : tagEnd? q t = some (a, b)) :
    b.length < t.length := by
  induction t generalizing q a with
  | nil => simp [tagEnd?] at h
  | cons c t ih =>
    simp only [tagEnd?] at h
    split at h
    · simp_all
    · obtain ⟨⟨a', b'⟩, h', e⟩ := Option.map_eq_some_iff.1 h
      simp only [Prod.mk.injEq] at e
      obtain ⟨-, rfl⟩ := e
      exact Nat.lt_succ_of_lt (ih h')

theorem length_of_declarationEnd? {n : Nat} {t a b : Text}
    (h : declarationEnd? n t = some (a, b)) : b.length < t.length := by
  induction t generalizing n a with
  | nil => simp [declarationEnd?] at h
  | cons c t ih =>
    simp only [declarationEnd?] at h
    split at h
    · simp_all
    · obtain ⟨⟨a', b'⟩, h', e⟩ := Option.map_eq_some_iff.1 h
      simp only [Prod.mk.injEq] at e
      obtain ⟨-, rfl⟩ := e
      exact Nat.lt_succ_of_lt (ih h')

theorem length_dropWhile_le (p : Char → Bool) (t : Text) : (t.dropWhile p).length ≤ t.length := by
  have := congrArg List.length (List.takeWhile_append_dropWhile (p := p) (l := t))
  simp only [List.length_append] at this
  omega

theorem length_of_cutAt? {p t a b : Text} (h : Text.cutAt? p t = some (a, b)) :
    b.length ≤ t.length := by
  rw [Text.cutAt?_eq_append h]
  simp only [List.length_append]
  omega

/-! ### Tags -/

/-- The tag with the given inside. -/
def tag (inside : Text) : Token :=
  match inside with
  | '/' :: name => .closing (trimEnd name)
  | _ =>
    let closed := inside.getLast? = some '/'
    let inside := if closed then inside.dropLast else inside
    let name := inside.takeWhile (!isSpace ·)
    .opening name (inside.drop name.length) closed

/-- The names and values in a tag behind its name; `seen` are names that stand before.  There are
none if one is not of the form `name="value"` or `name='value'`, or a name stands twice. -/
def attributes? (seen : List Text) (t : Text) : Option (List (Text × Text)) :=
  match _hc : t.dropWhile isSpace with
  | [] => some []
  | c :: u =>
    match _hk : cut? (fun d => d == '=' || isSpace d) u with
    | none => none
    | some (k, d, v) =>
      match _he : (d :: v).dropWhile isSpace with
      | '=' :: w =>
        match _hq : w.dropWhile isSpace with
        | [] => none
        | q :: x =>
          if q = '"' ∨ q = '\'' then
            match _hv : cut? (· == q) x with
            | none => none
            | some (value, _, y) =>
              if c :: k ∈ seen then none
              else (attributes? ((c :: k) :: seen) y).map ((c :: k, value) :: ·)
          else none
      | _ => none
termination_by t.length
decreasing_by
  have h₁ := length_dropWhile_le isSpace t
  have h₂ := length_of_cut? _hk
  have h₃ := length_dropWhile_le isSpace (d :: v)
  have h₄ := length_dropWhile_le isSpace w
  have h₅ := length_of_cut? _hv
  simp only [_hc, _he, _hq, List.length_cons] at *
  omega

/-! ### Tokens -/

/-- What starts behind `<!`: character data that is literal, or nothing that counts; and what
follows it. -/
def declaration? (t : Text) : Option (List Token × Text) :=
  match t with
  | '-' :: '-' :: r => (Text.cutAt? "-->" r).map fun (_, rest) => ([], rest)
  | '[' :: r =>
    if Text.asciiLower (r.take 6) = "cdata[" then
      (Text.cutAt? "]]>" (r.drop 6)).map fun (a, rest) => ([.literal a], rest)
    else none
  | _ =>
    if Text.asciiLower (t.take 7) = "doctype" then
      match declarationEnd? 0 (t.drop 7) with
      | some (inside, rest) => if inside.all isSpace then none else some ([], rest)
      | none => none
    else none

/-- What starts behind `<`, and what follows it. -/
def markup? (t : Text) : Option (List Token × Text) :=
  match t with
  | '!' :: r => declaration? r
  | '?' :: '>' :: _ => none
  | '?' :: r => (Text.cutAt? "?>" r).map fun (_, rest) => ([], rest)
  | _ => (tagEnd? none t).map fun (inside, rest) => ([tag inside], rest)

theorem length_of_declaration? {t r : Text} {ts : List Token} (h : declaration? t = some (ts, r)) :
    r.length ≤ t.length := by
  unfold declaration? at h
  split at h
  · obtain ⟨⟨a, b⟩, h', e⟩ := Option.map_eq_some_iff.1 h
    simp only [Prod.mk.injEq] at e
    have := length_of_cutAt? h'
    simp only [← e.2, List.length_cons]
    omega
  · split at h
    · obtain ⟨⟨a, b⟩, h', e⟩ := Option.map_eq_some_iff.1 h
      simp only [Prod.mk.injEq] at e
      have := length_of_cutAt? h'
      simp only [← e.2, List.length_cons, List.length_drop] at *
      omega
    · simp at h
  · split at h
    · split at h
      · next h' =>
        have := length_of_declarationEnd? h'
        split at h
        · simp at h
        · simp only [Option.some.injEq, Prod.mk.injEq] at h
          simp only [← h.2, List.length_drop] at *
          omega
      · simp at h
    · simp at h

theorem length_of_markup? {t r : Text} {ts : List Token} (h : markup? t = some (ts, r)) :
    r.length ≤ t.length := by
  unfold markup? at h
  split at h
  · exact Nat.le_succ_of_le (length_of_declaration? h)
  · simp at h
  · obtain ⟨⟨a, b⟩, h', e⟩ := Option.map_eq_some_iff.1 h
    simp only [Prod.mk.injEq] at e
    have := length_of_cutAt? h'
    simp only [← e.2, List.length_cons]
    omega
  · obtain ⟨⟨a, b⟩, h', e⟩ := Option.map_eq_some_iff.1 h
    simp only [Prod.mk.injEq] at e
    have := length_of_tagEnd? h'
    simp only [← e.2]
    omega

/-- The tokens of a text, up to the first that is broken. -/
def tokens : Text → List Token
  | [] => []
  | c :: t =>
    if c = '<' then
      match _h : markup? t with
      | some (ts, rest) => ts ++ tokens rest
      | none => [.broken]
    else .raw (c :: t.takeWhile (· != '<')) :: tokens (t.dropWhile (· != '<'))
termination_by t => t.length
decreasing_by
  · have := length_of_markup? _h
    simp only [List.length_cons]
    omega
  · have := length_dropWhile_le (· != '<') t
    simp only [List.length_cons]
    omega

/-- A text without a byte order mark at its start. -/
def withoutMark (t : Text) : Text := if t.head? = some '\uFEFF' then t.tail else t

/-! ### The tokens of written text -/

/-- A character that names are written with. -/
def isNameChar (c : Char) : Bool := c.isAlpha || c == '_'

theorem tagEnd?_append {a : Text} (t : Text) (h : ∀ c ∈ a, isNameChar c = true ∨ c = '/') :
    tagEnd? none (a ++ '>' :: t) = some (a, t) := by
  induction a with
  | nil => simp [tagEnd?]
  | cons c a ih =>
    have hc : c ≠ '>' ∧ c ≠ '"' ∧ c ≠ '\'' := by
      rcases h c (by simp) with hc | rfl
      · refine ⟨?_, ?_, ?_⟩ <;> rintro rfl <;> revert hc <;> decide
      · decide
    simp [tagEnd?, hc, ih fun d hd => h d (by simp [hd])]

theorem tokens_raw {a : Text} (t : Text) (ha : a ≠ []) (h : ∀ c ∈ a, c ≠ '<') :
    tokens (a ++ '<' :: t) = .raw a :: tokens ('<' :: t) := by
  cases a with
  | nil => exact absurd rfl ha
  | cons c a =>
    have hc : c ≠ '<' := h c (by simp)
    have hp : ∀ d ∈ a, (d != '<') = true := fun d hd => by simpa using h d (by simp [hd])
    rw [List.cons_append, tokens, if_neg hc, List.takeWhile_append_of_pos hp,
      List.dropWhile_append_of_pos hp]
    simp

theorem takeWhile_eq_self {p : Char → Bool} {a : Text} (h : ∀ c ∈ a, p c = true) :
    a.takeWhile p = a := by
  have : (a ++ []).takeWhile p = a ++ [].takeWhile p := List.takeWhile_append_of_pos h
  simpa using this

theorem markup?_tag {a : Text} (t : Text) (ha : a ≠ [])
    (h : ∀ c ∈ a, isNameChar c = true ∨ c = '/') :
    markup? (a ++ '>' :: t) = some ([tag a], t) := by
  cases a with
  | nil => exact absurd rfl ha
  | cons c a =>
    have hc : c ≠ '!' ∧ c ≠ '?' := by
      rcases h c (by simp) with hc | rfl
      · refine ⟨?_, ?_⟩ <;> rintro rfl <;> revert hc <;> decide
      · decide
    rw [List.cons_append, markup?]
    · rw [← List.cons_append, tagEnd?_append t h]
      rfl
    all_goals simp_all

theorem not_isSpace_of_isNameChar {c : Char} (h : isNameChar c = true) : (!isSpace c) = true := by
  rcases hs : isSpace c with _ | _
  · rfl
  · simp only [isSpace, Bool.or_eq_true, beq_iff_eq] at hs
    rcases hs with ((rfl | rfl) | rfl) | rfl <;> revert h <;> decide

theorem ne_slash_of_isNameChar {c : Char} (h : isNameChar c = true) : c ≠ '/' := by
  rintro rfl
  revert h
  decide

theorem tag_name {a : Text} (h : ∀ c ∈ a, isNameChar c = true) : tag a = .opening a [] false := by
  have hl : a.getLast? ≠ some '/' := fun hl =>
    ne_slash_of_isNameChar (h _ (List.mem_of_getLast? hl)) rfl
  have ht : a.takeWhile (!isSpace ·) = a :=
    takeWhile_eq_self fun c hc => not_isSpace_of_isNameChar (h c hc)
  unfold tag
  split
  · next name => exact absurd rfl (ne_slash_of_isNameChar (h '/' (by simp)))
  · simp [hl, ht]

theorem tag_name_slash {a : Text} (ha : a ≠ []) (h : ∀ c ∈ a, isNameChar c = true) :
    tag (a ++ ['/']) = .opening a [] true := by
  have ht : a.takeWhile (!isSpace ·) = a :=
    takeWhile_eq_self fun c hc => not_isSpace_of_isNameChar (h c hc)
  unfold tag
  split
  · next name he =>
    cases a with
    | nil => exact absurd rfl ha
    | cons c a =>
      simp only [List.cons_append, List.cons.injEq] at he
      exact absurd he.1 (ne_slash_of_isNameChar (h c (by simp)))
  · simp [ht]

theorem tag_slash_name {a : Text} (h : ∀ c ∈ a, isNameChar c = true) :
    tag ('/' :: a) = .closing a := by
  have ht : trimStart a.reverse = a.reverse := by
    cases hr : a.reverse with
    | nil => rfl
    | cons c r =>
      have : isNameChar c = true := h c (by rw [← List.mem_reverse, hr]; simp)
      have := not_isSpace_of_isNameChar this
      simp_all [trimStart]
  simp [tag, trimEnd, ht]

theorem tokens_tag {a : Text} (t : Text) (ha : a ≠ [])
    (h : ∀ c ∈ a, isNameChar c = true ∨ c = '/') :
    tokens ('<' :: (a ++ '>' :: t)) = tag a :: tokens t := by
  rw [tokens, if_pos rfl]
  split
  · next ts rest he =>
    rw [markup?_tag t ha h] at he
    obtain ⟨rfl, rfl⟩ := he
    rfl
  · next he => simp [markup?_tag t ha h] at he

/-- **A text that starts with the opening tag of an element.** -/
theorem tokens_opening {a : Text} (t : Text) (ha : a ≠ []) (h : ∀ c ∈ a, isNameChar c = true) :
    tokens ('<' :: (a ++ '>' :: t)) = .opening a [] false :: tokens t := by
  rw [tokens_tag t ha fun c hc => .inl (h c hc), tag_name h]

theorem tokens_empty {a : Text} (t : Text) (ha : a ≠ []) (h : ∀ c ∈ a, isNameChar c = true) :
    tokens ('<' :: (a ++ '/' :: '>' :: t)) = .opening a [] true :: tokens t := by
  have := tokens_tag (a := a ++ ['/']) t (by simp) fun c hc => by
    rcases List.mem_append.1 hc with hc | hc
    · exact .inl (h c hc)
    · exact .inr (by simpa using hc)
  rw [tag_name_slash ha h] at this
  simpa using this

theorem tokens_closing {a : Text} (t : Text) (h : ∀ c ∈ a, isNameChar c = true) :
    tokens ('<' :: '/' :: (a ++ '>' :: t)) = .closing a :: tokens t := by
  have := tokens_tag (a := '/' :: a) t (by simp) fun c hc => by
    rcases List.mem_cons.1 hc with hc | hc
    · exact .inr hc
    · exact .inl (h c hc)
  rw [tag_slash_name h] at this
  simpa using this

end Xml

end ChapterAssembly
