/-
**Text, blank characters and lines.**

Every text of the library is a list of characters.  This module fixes the two notions that all
others share: which characters count as *blank* (Unicode `White_Space`), and how a text falls into
lines.

Main definitions:

* `ChapterAssembly.Text` — a text;
* `Text.isBlank`, `Text.trim` — the blank characters, and a text without those at its ends;
* `Text.pieces` — the parts of a text between line feeds;
* `Text.lines` — the lines of a text: a line feed *ends* a line, and a carriage return in front of
  it belongs to the line end;
* `Text.joinWith` — texts with a separator between them.

Main results:

* `Text.trim_trim` — trimming twice is trimming once;
* `Text.joinWith_pieces` — the pieces of a text, joined with line feeds, are the text.
-/

set_option relaxedAutoImplicit false
set_option autoImplicit false

namespace ChapterAssembly

/-- A text is the list of its characters. -/
abbrev Text := List Char

instance : Coe String Text := ⟨String.toList⟩

namespace Text

/-! ### Blank characters -/

/-- The characters with the Unicode property `White_Space`. -/
def isBlank (c : Char) : Bool :=
  let n := c.toNat
  (9 ≤ n && n ≤ 13) || n == 0x20 || n == 0x85 || n == 0xA0 || n == 0x1680 ||
    (0x2000 ≤ n && n ≤ 0x200A) || n == 0x2028 || n == 0x2029 || n == 0x202F || n == 0x205F ||
    n == 0x3000

/-- A text without the blank characters at its start. -/
def trimStart (t : Text) : Text := t.dropWhile isBlank

/-- A text without the blank characters at its end. -/
def trimEnd (t : Text) : Text := (trimStart t.reverse).reverse

/-- A text without the blank characters at its two ends. -/
def trim (t : Text) : Text := trimEnd (trimStart t)

/-- A text of blank characters only; the empty text is one. -/
def isBlankText (t : Text) : Bool := t.all isBlank

@[simp] theorem trim_nil : trim [] = [] := rfl

theorem trimStart_cons_of_not_isBlank {c : Char} {t : Text} (h : isBlank c = false) :
    trimStart (c :: t) = c :: t := by
  simp [trimStart, h]

theorem trimStart_eq_nil_iff {t : Text} : trimStart t = [] ↔ isBlankText t = true := by
  induction t with
  | nil => simp [trimStart, isBlankText]
  | cons c t ih =>
    by_cases h : isBlank c = true
    · simpa only [trimStart, isBlankText, List.dropWhile_cons, List.all_cons, h, if_true,
        Bool.true_and] using ih
    · simp [trimStart, isBlankText, h]

@[simp] theorem trimStart_trimStart (t : Text) : trimStart (trimStart t) = trimStart t := by
  induction t with
  | nil => rfl
  | cons c t ih =>
    by_cases h : isBlank c = true
    · simpa [trimStart, h] using ih
    · simp [trimStart, h]

@[simp] theorem trimEnd_trimEnd (t : Text) : trimEnd (trimEnd t) = trimEnd t := by
  simp [trimEnd]

theorem trimEnd_cons_of_not_isBlank {c : Char} (h : isBlank c = false) (t : Text) :
    trimEnd (c :: t) = c :: trimEnd t := by
  simp only [trimEnd, trimStart, List.reverse_cons, List.dropWhile_append]
  split
  · next he => simp_all
  · simp

theorem trimStart_trimEnd_trimStart (t : Text) :
    trimStart (trimEnd (trimStart t)) = trimEnd (trimStart t) := by
  match h : trimStart t with
  | [] => rfl
  | c :: u =>
    have hc : isBlank c = false := by
      have := List.head?_dropWhile_not isBlank t
      rw [show t.dropWhile isBlank = c :: u from h] at this
      exact this
    rw [trimEnd_cons_of_not_isBlank hc, trimStart_cons_of_not_isBlank hc]

/-- **Trimming twice is trimming once.** -/
@[simp] theorem trim_trim (t : Text) : trim (trim t) = trim t := by
  simp only [trim, trimStart_trimEnd_trimStart, trimEnd_trimEnd]

/-! ### Pieces and lines -/

/-- The parts of a text between occurrences of `sep`; there is one more part than occurrences. -/
def splitOnChar (sep : Char) : Text → List Text
  | [] => [[]]
  | c :: t =>
    match splitOnChar sep t with
    | [] => [[c]]
    | p :: ps => if c = sep then [] :: p :: ps else (c :: p) :: ps

/-- The parts of a text between line feeds. -/
def pieces (t : Text) : List Text := splitOnChar '\n' t

/-- A line without the carriage return that belongs to its end. -/
def dropReturn (l : Text) : Text :=
  if l.getLast? = some '\r' then l.dropLast else l

/-- The lines among the pieces: all but the last piece ended with a line feed, and so lose a
carriage return at their end; the last piece is a line only if something stands in it. -/
def linesOfPieces : List Text → List Text
  | [] => []
  | [p] => if p.isEmpty then [] else [p]
  | p :: q :: ps => dropReturn p :: linesOfPieces (q :: ps)

/-- The lines of a text. -/
def lines (t : Text) : List Text := linesOfPieces (pieces t)

/-- The texts `ts` with `sep` between each two. -/
def joinWith (sep : Text) : List Text → Text
  | [] => []
  | [t] => t
  | t :: u :: ts => t ++ sep ++ joinWith sep (u :: ts)

@[simp] theorem joinWith_nil (sep : Text) : joinWith sep [] = [] := rfl

@[simp] theorem joinWith_singleton (sep t : Text) : joinWith sep [t] = t := rfl

@[simp] theorem joinWith_cons_cons (sep t u : Text) (ts : List Text) :
    joinWith sep (t :: u :: ts) = t ++ sep ++ joinWith sep (u :: ts) := rfl

theorem splitOnChar_ne_nil (sep : Char) (t : Text) : splitOnChar sep t ≠ [] := by
  induction t with
  | nil => simp [splitOnChar]
  | cons c t ih =>
    unfold splitOnChar
    split
    · simp
    · split <;> simp

theorem joinWith_splitOnChar (sep : Char) (t : Text) :
    joinWith [sep] (splitOnChar sep t) = t := by
  induction t with
  | nil => rfl
  | cons c t ih =>
    unfold splitOnChar
    split
    · next h => exact absurd h (splitOnChar_ne_nil sep t)
    · next p ps h =>
      rw [h] at ih
      split
      · next hc => cases ps <;> simp_all
      · cases ps <;> simp_all

/-- **The pieces of a text, joined with line feeds, are the text.** -/
theorem joinWith_pieces (t : Text) : joinWith ['\n'] (pieces t) = t :=
  joinWith_splitOnChar '\n' t

/-! ### Searching -/

/-- What follows `p` at the start of a text. -/
def afterPrefix? : Text → Text → Option Text
  | [], t => some t
  | _ :: _, [] => none
  | c :: p, d :: t => if c = d then afterPrefix? p t else none

theorem afterPrefix?_append (p t : Text) : afterPrefix? p (p ++ t) = some t := by
  induction p with
  | nil => rfl
  | cons c p ih => simpa [afterPrefix?] using ih

theorem eq_append_of_afterPrefix? {p t r : Text} (h : afterPrefix? p t = some r) : t = p ++ r := by
  induction p generalizing t with
  | nil => simpa [afterPrefix?] using h
  | cons c p ih =>
    cases t with
    | nil => simp [afterPrefix?] at h
    | cons d t =>
      simp only [afterPrefix?] at h
      split at h
      · next hcd => rw [hcd, ih h, List.cons_append]
      · simp at h

/-- What stands before and after the first occurrence of `p` in a text. -/
def cutAt? (p : Text) : Text → Option (Text × Text)
  | [] => if p.isEmpty then some ([], []) else none
  | c :: t =>
    match afterPrefix? p (c :: t) with
    | some r => some ([], r)
    | none => (cutAt? p t).map fun (a, b) => (c :: a, b)

theorem cutAt?_eq_append {p t a b : Text} (h : cutAt? p t = some (a, b)) : t = a ++ p ++ b := by
  induction t generalizing a b with
  | nil =>
    simp only [cutAt?] at h
    split at h
    · next hp => simp_all
    · simp at h
  | cons c t ih =>
    simp only [cutAt?] at h
    split at h
    · next r hr =>
      simp only [Option.some.injEq, Prod.mk.injEq] at h
      obtain ⟨rfl, rfl⟩ := h
      simpa using eq_append_of_afterPrefix? hr
    · obtain ⟨⟨a', b'⟩, h', e⟩ := Option.map_eq_some_iff.1 h
      simp only [Prod.mk.injEq] at e
      obtain ⟨rfl, rfl⟩ := e
      simp [ih h']

/-- What stands before and after the last occurrence of `c` in a text. -/
def cutAtLast? (c : Char) (t : Text) : Option (Text × Text) :=
  match t.reverse.span (· != c) with
  | (_, []) => none
  | (after, _ :: before) => some (before.reverse, after.reverse)

/-- The parts of a text between occurrences of a nonempty `p`, found from the left. -/
def splitOnText (p t : Text) : List Text :=
  match _h : cutAt? p t with
  | none => [t]
  | some (a, b) => if _hp : p = [] then [t] else a :: splitOnText p b
termination_by t.length
decreasing_by
  have := congrArg List.length (cutAt?_eq_append _h)
  have : 0 < p.length := List.length_pos_iff.2 _hp
  simp only [List.length_append] at *
  omega

/-! ### ASCII letters and digits -/

/-- The ASCII digits. -/
def isAsciiDigit (c : Char) : Bool := c.isDigit

/-- The value of a hexadecimal digit. -/
def hexValue? (c : Char) : Option Nat :=
  if '0' ≤ c ∧ c ≤ '9' then some (c.toNat - 48)
  else if 'a' ≤ c ∧ c ≤ 'f' then some (c.toNat - 87)
  else if 'A' ≤ c ∧ c ≤ 'F' then some (c.toNat - 55)
  else none

/-- A text with its ASCII letters in lower case. -/
def asciiLower (t : Text) : Text := t.map Char.toLower

/-- The number written by decimal digits; `none` if something else stands there or nothing. -/
def decimal? (t : Text) : Option Nat :=
  if t.isEmpty || !t.all isAsciiDigit then none
  else some (t.foldl (fun n c => n * 10 + (c.toNat - 48)) 0)

/-- The decimal digits of a number. -/
def ofNat (n : Nat) : Text := Nat.toDigits 10 n

/-- `t` with copies of `c` in front of it, up to `width` characters. -/
def padStart (width : Nat) (c : Char) (t : Text) : Text :=
  List.replicate (width - t.length) c ++ t

/-- `t` with copies of `c` after it, up to `width` characters. -/
def padEnd (width : Nat) (c : Char) (t : Text) : Text :=
  t ++ List.replicate (width - t.length) c

end Text

end ChapterAssembly
