/-
**Character data in XML.**

Markup characters in character data are written as references.  A reader also takes the other
references that need no declaration, and character references by number.

Main definitions:

* `ChapterAssembly.Xml.escape` — a text as character data;
* `Xml.unescape?` — the text that character data stands for.

Main results:

* `Xml.unescape?_escape` — what was written is read back.
-/

import ChapterAssembly.Text.Basic

set_option relaxedAutoImplicit false
set_option autoImplicit false

namespace ChapterAssembly

namespace Xml

/-- The blank characters of XML. -/
def isSpace (c : Char) : Bool := c == ' ' || c == '\t' || c == '\n' || c == '\r'

/-- A text without the blank characters of XML at its start. -/
def trimStart (t : Text) : Text := t.dropWhile isSpace

/-- A text without the blank characters of XML at its end. -/
def trimEnd (t : Text) : Text := (trimStart t.reverse).reverse

/-! ### Searching -/

/-- What stands before and after the first character for which `p` holds, and the character. -/
def cut? (p : Char → Bool) : Text → Option (Text × Char × Text)
  | [] => none
  | c :: t => if p c then some ([], c, t) else (cut? p t).map fun (a, d, b) => (c :: a, d, b)

theorem eq_append_of_cut? {p : Char → Bool} {t a b : Text} {c : Char}
    (h : cut? p t = some (a, c, b)) : t = a ++ c :: b := by
  induction t generalizing a with
  | nil => simp [cut?] at h
  | cons d t ih =>
    simp only [cut?] at h
    split at h
    · simp_all
    · obtain ⟨⟨a', c', b'⟩, h', e⟩ := Option.map_eq_some_iff.1 h
      simp only [Prod.mk.injEq] at e
      obtain ⟨rfl, rfl, rfl⟩ := e
      simp [ih h']

theorem length_of_cut? {p : Char → Bool} {t a b : Text} {c : Char}
    (h : cut? p t = some (a, c, b)) : b.length < t.length := by
  rw [eq_append_of_cut? h]
  simp only [List.length_append, List.length_cons]
  omega

theorem cut?_append {p : Char → Bool} {a : Text} (b : Text) {c : Char}
    (ha : ∀ d ∈ a, p d = false) (hc : p c = true) : cut? p (a ++ c :: b) = some (a, c, b) := by
  induction a with
  | nil => simp [cut?, hc]
  | cons d a ih =>
    have hd : p d = false := ha d (by simp)
    simp [cut?, hd, ih fun e he => ha e (by simp [he])]

/-! ### References -/

/-- A character in character data. -/
def escapeChar (c : Char) : Text :=
  if c = '<' then "&lt;" else if c = '>' then "&gt;" else if c = '&' then "&amp;" else [c]

/-- A text as character data. -/
def escape (t : Text) : Text := t.flatMap escapeChar

/-- The number that digits in a base stand for. -/
def numberIn? (base : Nat) (t : Text) : Option Nat :=
  if t.isEmpty then none
  else t.foldlM (fun n c => (Text.hexValue? c).bind fun v =>
    if v < base then some (n * base + v) else none) 0

/-- The character with a number, unless that is zero or no character has it. -/
def charAt? (n : Nat) : Option Char :=
  if n ≠ 0 ∧ n.isValidChar then some (Char.ofNat n) else none

/-- The character that a reference stands for; `name` is what stands between `&` and `;`. -/
def reference? (name : Text) : Option Char :=
  match name with
  | '#' :: 'x' :: digits => (numberIn? 16 digits).bind charAt?
  | '#' :: digits => (numberIn? 10 digits).bind charAt?
  | _ =>
    if name = "lt" then some '<'
    else if name = "gt" then some '>'
    else if name = "amp" then some '&'
    else if name = "apos" then some '\''
    else if name = "quot" then some '"'
    else none

/-- The text that character data stands for; there is none if a reference has no end or no
meaning. -/
def unescape? : Text → Option Text
  | [] => some []
  | c :: t =>
    if c = '&' then
      match _h : cut? (fun d => d == '&' || d == ';') t with
      | some (name, ';', rest) => do return (← reference? name) :: (← unescape? rest)
      | _ => none
    else (unescape? t).map (c :: ·)
termination_by t => t.length
decreasing_by
  · have := length_of_cut? _h
    simp only [List.length_cons]
    omega
  · simp

theorem unescape?_cons_of_ne {c : Char} (h : c ≠ '&') (t : Text) :
    unescape? (c :: t) = (unescape? t).map (c :: ·) := by
  rw [unescape?, if_neg h]

theorem unescape?_reference (name : Text) {c : Char} (t : Text)
    (hn : ∀ d ∈ name, (d == '&' || d == ';') = false) (h : reference? name = some c) :
    unescape? ('&' :: (name ++ ';' :: t)) = (unescape? t).map (c :: ·) := by
  rw [unescape?, if_pos rfl]
  have hc : cut? (fun d => d == '&' || d == ';') (name ++ ';' :: t) = some (name, ';', t) :=
    cut?_append t hn rfl
  split
  · next name' rest he =>
    rw [hc] at he
    obtain ⟨rfl, -, rfl⟩ := he
    cases unescape? t <;> simp [h]
  · next hne => exact absurd hc (hne _ _)

theorem unescape?_escapeChar (c : Char) (t : Text) :
    unescape? (escapeChar c ++ t) = (unescape? t).map (c :: ·) := by
  unfold escapeChar
  split
  · next h =>
    subst h
    exact unescape?_reference ['l', 't'] t (by simp) rfl
  · split
    · next h =>
      subst h
      exact unescape?_reference ['g', 't'] t (by simp) rfl
    · split
      · next h =>
        subst h
        exact unescape?_reference ['a', 'm', 'p'] t (by simp) rfl
      · next h => exact unescape?_cons_of_ne h t

/-- **What was written is read back.** -/
theorem unescape?_escape (t : Text) : unescape? (escape t) = some t := by
  induction t with
  | nil => simp [escape, unescape?]
  | cons c t ih =>
    have : escape (c :: t) = escapeChar c ++ escape t := by simp [escape]
    rw [this, unescape?_escapeChar, ih]
    rfl

end Xml

end ChapterAssembly
