/-
**The hosts of URLs.**

A host is a domain name, which a special scheme brings into ASCII and every other scheme takes as it
is but for percent-encoding, or an address, which is written anew.  Whatever it is, neither a slash
nor a number sign is left in it, nor a line end or a blank: these end the host of a URL, or no host
may hold them, and no way to write a host brings them about.

Main definitions:

* `Host.barred` — the characters that are in no host;
* `Host.Read` — the hosts that are read.

Main results:

* `Punycode.notMem_encode`, `Punycode.mem_of_decode?` — Punycode brings no barred character about,
  neither when a label is written in it nor when one is read;
* `Domain.notMem_toAscii?` — none is in a domain name;
* `Host.Read.notMem_text` — **none is in a host**.
-/

import Mathlib.Data.Bool.Basic
import Mathlib.Data.List.Basic
import Mathlib.Data.Nat.Init
import ChapterAssembly.Proofs.Text.Pieces
import ChapterAssembly.Url.Parse

set_option relaxedAutoImplicit false
set_option autoImplicit false

namespace ChapterAssembly

/-- **The characters that are in no host.**  They stand before the digits, so that no digit is one
of them. -/
def Host.barred : Text := ['\t', '\n', '\r', ' ', '#', '/']

/-- What holds of all characters that are in no host. -/
theorem Host.forall_barred {p : Char → Prop} :
    (∀ x ∈ barred, p x) ↔ p '\t' ∧ p '\n' ∧ p '\r' ∧ p ' ' ∧ p '#' ∧ p '/' := by
  simp [barred]

open Host (barred forall_barred)

/-! ### Texts that are put together -/

namespace Text

/-- A character of texts with a separator between them is one of them or of the separator. -/
theorem mem_joinWith {sep : Text} {ts : List Text} {c : Char} (h : c ∈ joinWith sep ts) :
    c ∈ sep ∨ ∃ t ∈ ts, c ∈ t := by
  induction ts with
  | nil => cases h
  | cons t ts ih =>
      cases ts with
      | nil => exact .inr ⟨t, by simp, h⟩
      | cons u us =>
          rw [joinWith_cons_cons, List.mem_append, List.mem_append] at h
          rcases h with (h | h) | h
          · exact .inr ⟨t, by simp, h⟩
          · exact .inl h
          · exact (ih h).imp_right fun ⟨v, hv, hc⟩ => ⟨v, List.mem_cons_of_mem _ hv, hc⟩

/-- The digits of a number are those of numbers below the base. -/
theorem exists_of_mem_toDigits {base n : Nat} (hb : 1 < base) {c : Char}
    (h : c ∈ Nat.toDigits base n) : ∃ d < base, c = Nat.digitChar d := by
  induction n using Nat.strong_induction_on with
  | _ n ih =>
      by_cases hn : n < base
      · rw [Nat.toDigits_of_lt_base hn, List.mem_singleton] at h
        exact ⟨n, hn, h⟩
      · have hpos : 0 < n / base := Nat.div_pos (by omega) (by omega)
        have hmod : n % base < base := Nat.mod_lt _ (by omega)
        rw [← Nat.div_add_mod n base, ← Nat.toDigits_append_toDigits hb hpos hmod,
          List.mem_append] at h
        rcases h with h | h
        · exact ih _ (Nat.div_lt_self (by omega) hb) h
        · rw [Nat.toDigits_of_lt_base hmod, List.mem_singleton] at h
          exact ⟨_, hmod, h⟩

theorem notMem_toDigits {base n : Nat} (hb : 1 < base) (hle : base ≤ 16) {x : Char}
    (hx : x ∈ barred) : x ∉ Nat.toDigits base n := by
  intro h
  obtain ⟨d, hd, h⟩ := exists_of_mem_toDigits hb h
  have hdigits : ∀ x ∈ barred, ∀ d < 16, x ≠ Nat.digitChar d := forall_barred.2 (by decide)
  exact hdigits x hx d (by omega) h

end Text

/-! ### Percent-encoding -/

namespace Percent

variable {x : Char} {set : Char → Bool} {t : Text}

/-- The characters of which percent-encoding is written. -/
theorem mem_of_encodeByte {b : UInt8} (h : x ∈ encodeByte b) :
    x = '%' ∨ ∃ n < 16, x = hexDigit n := by
  have hb : b.toNat < 256 := b.toNat_lt
  simp only [encodeByte, List.mem_cons, List.not_mem_nil, or_false] at h
  rcases h with rfl | rfl | rfl
  · exact .inl rfl
  · exact .inr ⟨_, by omega, rfl⟩
  · exact .inr ⟨_, by omega, rfl⟩

/-- **What is in an encoded text** was there and may stay, or is part of what encoding writes. -/
theorem mem_of_encode (h : x ∈ encode set t) :
    (x ∈ t ∧ set x = false ∧ x.toNat < 128) ∨ x = '%' ∨ ∃ n < 16, x = hexDigit n := by
  obtain ⟨c, hct, hc⟩ := List.mem_flatMap.1 h
  unfold encodeChar at hc
  split at hc
  · obtain ⟨b, -, hb⟩ := List.mem_flatMap.1 hc
    exact .inr (mem_of_encodeByte hb)
  · next hset =>
      obtain rfl := List.mem_singleton.1 hc
      simp only [Bool.or_eq_true, decide_eq_true_eq, not_or, Bool.not_eq_true] at hset
      exact .inl ⟨hct, hset.1, by omega⟩

/-- Encoding brings no barred character about. -/
theorem notMem_encode (hx : x ∈ barred) (set : Char → Bool) (h : x ∉ t) : x ∉ encode set t := by
  intro hc
  rcases mem_of_encode hc with ⟨ht, -⟩ | rfl | ⟨n, hn, rfl⟩
  · exact h ht
  · revert hx
    decide
  · have hdigits : ∀ n < 16, hexDigit n ∉ barred := by decide
    exact hdigits n hn hx

end Percent

/-! ### Punycode -/

namespace Punycode

variable {x c : Char} {t u cs rest out : Text} {n i k w acc bias : Nat}

theorem ne_digit (hx : x ∈ barred) (n : Nat) : x ≠ digit n := by
  unfold digit
  split
  · next h =>
      have hsmall : ∀ x ∈ barred, ∀ n < 26, x ≠ Char.ofNat (97 + n) := forall_barred.2 (by decide)
      exact hsmall x hx n h
  · next h =>
      have hbefore : ∀ x ∈ barred, 0 < x.toNat ∧ x.toNat < 48 := forall_barred.2 (by decide)
      have hbounds := hbefore x hx
      intro heq
      have hnat : x.toNat = 22 + n ∨ x.toNat = 0 := by
        rw [heq]
        by_cases hvalid : (22 + n).isValidChar
        · exact .inl (congrArg Char.toNat (dif_pos hvalid))
        · exact .inr (congrArg Char.toNat (dif_neg hvalid))
      omega

theorem notMem_digits (hx : x ∈ barred) (bias k q : Nat) : x ∉ digits bias k q := by
  induction k, q using digits.induct bias with
  | case1 k q t h =>
      rw [digits, dif_pos h, List.mem_singleton]
      exact ne_digit hx q
  | case2 k q t h ih =>
      rw [digits, dif_neg h, List.mem_cons, not_or]
      exact ⟨ne_digit hx _, ih⟩

theorem Encoder.notMem_visit (hx : x ∈ barred) {basic m : Nat} {s : Encoder} (h : x ∉ s.out)
    (c : Char) : x ∉ (s.visit basic m c).out := by
  unfold visit
  split
  · exact h
  · split
    · rw [List.mem_append, not_or]
      exact ⟨h, notMem_digits hx _ _ _⟩
    · exact h

theorem Encoder.notMem_place (hx : x ∈ barred) {basic : Nat} {s : Encoder} (t : Text)
    (ms : List Nat) (n : Nat) (h : x ∉ s.out) : x ∉ (Encoder.place basic t ms n s).out := by
  induction ms generalizing n s with
  | nil => exact h
  | cons m ms ih =>
      have hvisit : ∀ (cs : Text) (s : Encoder), x ∉ s.out →
          x ∉ (cs.foldl (Encoder.visit basic m) s).out := by
        intro cs
        induction cs with
        | nil => exact fun s hs => hs
        | cons c cs ih => exact fun s hs => ih _ (notMem_visit hx hs c)
      exact ih _ (hvisit t _ h)

/-- **A label without barred characters is written without them.** -/
theorem notMem_encode (hx : x ∈ barred) (h : x ∉ t) : x ∉ encode t := by
  refine Encoder.notMem_place hx _ _ _ ?_
  have hbasic : x ∉ t.filter fun c => c.toNat < 128 := fun hc => h (List.mem_of_mem_filter hc)
  have hhyphen : '-' ∉ barred := by decide
  simp only
  split
  · simp
  · rw [List.mem_append, not_or, List.mem_singleton]
    exact ⟨hbasic, fun heq => hhyphen (heq ▸ hx)⟩

/-- What is read as a number are digits, and what is left follows them. -/
theorem mem_of_readNumber (h : readNumber bias k w acc cs = some (n, rest)) (hc : c ∈ cs) :
    (digitValue? c).isSome = true ∨ c ∈ rest := by
  induction cs generalizing k w acc with
  | nil => simp at hc
  | cons d cs ih =>
      simp only [readNumber] at h
      split at h
      · cases h
      · next v hv =>
          split at h
          · cases h
          · split at h
            · obtain ⟨-, rfl⟩ := Prod.mk.inj (Option.some.inj h)
              rcases List.mem_cons.1 hc with rfl | hc
              · exact .inl (by simp [hv])
              · exact .inr hc
            · rcases List.mem_cons.1 hc with rfl | hc
              · exact .inl (by simp [hv])
              · exact ih h hc

/-- Insertions keep what is there, and are written in digits. -/
theorem mem_of_insertAll (h : insertAll n i bias out cs = some u) :
    out ⊆ u ∧ ∀ c ∈ cs, (digitValue? c).isSome = true := by
  induction n, i, bias, out, cs using insertAll.induct with
  | case1 n i bias out =>
      rw [insertAll, Option.some.injEq] at h
      exact ⟨fun c hc => h ▸ hc, by simp⟩
  | case2 n i bias out c cs hread =>
      rw [insertAll] at h
      split at h <;> simp_all
  | case3 n i bias out c cs delta rest hread size n' pos hn ih =>
      rw [insertAll] at h
      split at h
      · cases h
      · next delta' rest' hread' =>
          obtain ⟨rfl, rfl⟩ := Prod.mk.inj (Option.some.inj (hread.symm.trans hread'))
          obtain ⟨hout, hrest⟩ := ih (by simpa [hn, size, n', pos] using h)
          have hpos : pos ≤ out.length := Nat.le_of_lt_succ (Nat.mod_lt _ (by omega))
          refine ⟨fun d hd => hout ?_, fun d hd => ?_⟩
          · rw [List.mem_insertIdx hpos]
            exact .inr hd
          · exact (mem_of_readNumber hread hd).elim id (hrest d)
  | case4 n i bias out c cs delta rest hread size n' hn =>
      rw [insertAll] at h
      split at h
      · cases h
      · next delta' rest' hread' =>
          obtain ⟨rfl, rfl⟩ := Prod.mk.inj (Option.some.inj (hread.symm.trans hread'))
          simp [hn, size, n'] at h

/-- What follows the last hyphen of a text, if there is one. -/
theorem exists_eq_append_hyphen (h : (t.reverse.takeWhile (· != '-')).length ≠ t.length) :
    ∃ front, t = front ++ '-' :: (t.reverse.takeWhile (· != '-')).reverse := by
  have hsplit := List.takeWhile_append_dropWhile (p := (· != '-')) (l := t.reverse)
  cases hd : t.reverse.dropWhile (· != '-') with
  | nil =>
      rw [hd, List.append_nil] at hsplit
      exact absurd (by rw [hsplit, List.length_reverse]) h
  | cons d front =>
      have hhead := List.head?_dropWhile_not (· != '-') t.reverse
      rw [hd] at hhead
      obtain rfl : d = '-' := by simpa using hhead
      rw [hd] at hsplit
      refine ⟨front.reverse, ?_⟩
      have := congrArg List.reverse hsplit
      rw [List.reverse_reverse, List.reverse_append, List.reverse_cons, List.append_assoc] at this
      exact this.symm

/-- **A label that is read** holds all that its ASCII form does besides digits and hyphens. -/
theorem mem_of_decode? (h : decode? t = some u) (hc : c ∈ t) :
    c ∈ u ∨ c = '-' ∨ (digitValue? c).isSome = true := by
  simp only [decode?] at h
  split at h
  · exact .inr (.inr ((mem_of_insertAll h).2 c hc))
  · next hcut =>
      rw [not_or, List.length_reverse] at hcut
      obtain ⟨front, ht⟩ := exists_eq_append_hyphen hcut.1
      generalize (t.reverse.takeWhile (· != '-')).reverse = tail at h ht
      subst ht
      rw [show (front ++ '-' :: tail).length - tail.length - 1 = front.length by simp; omega,
        List.take_left] at h
      obtain ⟨hfront, htail⟩ := mem_of_insertAll h
      rcases List.mem_append.1 hc with hc | hc
      · exact .inl (hfront hc)
      · rcases List.mem_cons.1 hc with rfl | hc
        · exact .inr (.inl rfl)
        · exact .inr (.inr (htail c hc))

end Punycode

/-! ### Domain names -/

namespace Domain

variable {x : Char} {t d : Text} {l : Label}

theorem notMem_of_any_forbidden (hx : x ∈ barred) (h : t.any forbidden = false) : x ∉ t := by
  intro hc
  have hforbidden : ∀ x ∈ barred, forbidden x = true := forall_barred.2 (by decide)
  exact List.any_eq_false.1 h x hc (hforbidden x hx)

/-- No barred character is in the ASCII form of a label that holds no character which is
forbidden. -/
theorem notMem_ascii (hx : x ∈ barred) (h : label? t = some l)
    (hl : l.chars.any forbidden = false) : x ∉ l.ascii := by
  have hxn : ∀ x ∈ barred, x ∉ "xn--".toList := forall_barred.2 (by decide)
  unfold label? at h
  split at h
  · next p hp =>
      -- a label in Punycode: a barred character in it would be one of the label
      obtain rfl := Text.eq_append_of_afterPrefix? hp
      split at h
      · cases h
      · next u hu =>
          split at h
          · cases h
          · next hok =>
              obtain rfl := Option.some.inj h
              intro hc
              rcases List.mem_append.1 hc with hc | hc
              · exact hxn x hx hc
              · rcases Punycode.mem_of_decode? hu hc with hc | rfl | hc
                · exact notMem_of_any_forbidden hx hl hc
                · revert hx
                  decide
                · have hvalue : ∀ x ∈ barred, (Punycode.digitValue? x).isSome = false :=
                  forall_barred.2 (by decide)
                  rw [hvalue x hx] at hc
                  cases hc
  · split at h
    · obtain rfl := Option.some.inj h
      exact notMem_of_any_forbidden hx hl
    · split at h
      · cases h
      · obtain rfl := Option.some.inj h
        rw [List.mem_append, not_or]
        exact ⟨hxn x hx, Punycode.notMem_encode hx (notMem_of_any_forbidden hx hl)⟩

/-- What a partial function makes of a list, it makes of the items. -/
theorem exists_of_mem_mapM {α β : Type} {f : α → Option β} {xs : List α} {ys : List β} {y : β}
    (h : xs.mapM f = some ys) (hy : y ∈ ys) : ∃ x, f x = some y := by
  induction xs generalizing ys with
  | nil =>
      obtain rfl : [] = ys := by simpa using h
      cases hy
  | cons x xs ih =>
      rw [List.mapM_cons] at h
      obtain ⟨z, hz, h⟩ := Option.bind_eq_some_iff.1 h
      obtain ⟨zs, hzs, h⟩ := Option.bind_eq_some_iff.1 h
      obtain rfl := Option.some.inj h
      rcases List.mem_cons.1 hy with rfl | hy
      · exact ⟨x, hz⟩
      · exact ih hzs hy

/-- **No barred character is in a domain name.** -/
theorem notMem_toAscii? (hx : x ∈ barred) (h : toAscii? t = some d) : x ∉ d := by
  unfold toAscii? at h
  obtain ⟨mapped, -, h⟩ := Option.bind_eq_some_iff.1 h
  obtain ⟨labels, hlabels, h⟩ := Option.bind_eq_some_iff.1 h
  split at h
  · cases h
  · next hok =>
      split at h
      · cases h
      · obtain rfl := Option.some.inj h
        intro hc
        rcases Text.mem_joinWith hc with hc | ⟨a, ha, hc⟩
        · obtain rfl := List.mem_singleton.1 hc
          revert hx
          decide
        · obtain ⟨l, hl, rfl⟩ := List.mem_map.1 ha
          obtain ⟨part, hpart⟩ := exists_of_mem_mapM hlabels hl
          have hl := List.any_eq_false.1 (Bool.eq_false_of_not_eq_true hok) l hl
          exact notMem_ascii hx hpart (by simp_all) hc

end Domain

/-! ### Hosts -/

namespace Host

variable {x : Char} {t : Text} {h : Host}

theorem notMem_ipv4Text (hx : x ∈ barred) (n : Nat) : x ∉ ipv4Text n := by
  intro hc
  rcases Text.mem_joinWith hc with hc | ⟨part, hpart, hc⟩
  · obtain rfl := List.mem_singleton.1 hc
    revert hx
    decide
  · obtain ⟨shift, -, rfl⟩ := List.mem_map.1 hpart
    exact Text.notMem_toDigits (by decide) (by decide) hx hc

theorem notMem_ipv6Text (hx : x ∈ barred) (ps : List Nat) : x ∉ ipv6Text ps := by
  have hsep : ∀ x ∈ barred, x ∉ [':'] ∧ x ∉ "::".toList := forall_barred.2 (by decide)
  have hcolon : ∀ ts : List Text, ts ⊆ ps.map (Nat.toDigits 16) → x ∉ Text.joinWith [':'] ts := by
    intro ts hts hc
    rcases Text.mem_joinWith hc with hc | ⟨part, hpart, hc⟩
    · exact (hsep x hx).1 hc
    · obtain ⟨n, -, rfl⟩ := List.mem_map.1 (hts hpart)
      exact Text.notMem_toDigits (by decide) (by decide) hx hc
  unfold ipv6Text
  simp only
  split
  · exact hcolon _ (List.Subset.refl _)
  · rw [List.mem_append, List.mem_append, not_or, not_or]
    exact ⟨⟨hcolon _ (List.take_subset _ _), (hsep x hx).2⟩, hcolon _ (List.drop_subset _ _)⟩

/-- **The hosts that are read**: none, that of a special scheme, and that of any other scheme. -/
inductive Read : Host → Prop where
  | none : Read (.domain [])
  | special {t : Text} {h : Host} (hs : ofSpecial t = .ok h) : Read h
  | other {t : Text} {h : Host} (ho : ofOther t = .ok h) : Read h

/-- No barred character is in an address in brackets. -/
theorem notMem_text_of_bracketed? (hx : x ∈ barred) (hb : bracketed? t = some (.ok h)) :
    x ∉ h.text := by
  have hbracket : ∀ x ∈ barred, x ≠ '[' ∧ x ∉ [']'] := forall_barred.2 (by decide)
  unfold bracketed? at hb
  split at hb
  · have hb := Option.some.inj hb
    split at hb
    · split at hb
      · next ps hps =>
          obtain rfl := Except.ok.inj hb
          rw [text, List.mem_append, List.mem_cons, not_or, not_or]
          exact ⟨⟨(hbracket x hx).1, notMem_ipv6Text hx ps⟩, (hbracket x hx).2⟩
      · cases hb
    · cases hb
  · cases hb

/-- No barred character is in the host of a special scheme. -/
theorem notMem_text_ofSpecial (hx : x ∈ barred) (hs : ofSpecial t = .ok h) : x ∉ h.text := by
  unfold ofSpecial at hs
  split at hs
  · next r hr => exact notMem_text_of_bracketed? hx (hs ▸ hr)
  · split at hs
    · cases hs
    · next d hd =>
        split at hs
        · cases hs
        · split at hs
          · split at hs
            · next n hn =>
                obtain rfl := Except.ok.inj hs
                exact notMem_ipv4Text hx n
            · cases hs
          · obtain rfl := Except.ok.inj hs
            exact Domain.notMem_toAscii? hx hd

/-- No barred character is in the host of any other scheme. -/
theorem notMem_text_ofOther (hx : x ∈ barred) (ho : ofOther t = .ok h) : x ∉ h.text := by
  unfold ofOther at ho
  split at ho
  · next r hr => exact notMem_text_of_bracketed? hx (ho ▸ hr)
  · split at ho
    · cases ho
    · next hforbidden =>
        obtain rfl := Except.ok.inj ho
        have hall : ∀ x ∈ barred, isForbidden x = true := forall_barred.2 (by decide)
        refine Percent.notMem_encode hx _ fun hc => hforbidden ?_
        exact List.any_eq_true.2 ⟨x, hc, hall x hx⟩

/-- **No barred character is in a host.** -/
theorem Read.notMem_text (hr : h.Read) (hx : x ∈ barred) : x ∉ h.text := by
  cases hr with
  | none => simp [text]
  | special hs => exact notMem_text_ofSpecial hx hs
  | other ho => exact notMem_text_ofOther hx ho

/-- Only an empty domain name is written as nothing. -/
theorem text_ne_nil (hd : h ≠ .domain []) : h.text ≠ [] := by
  cases h with
  | domain d => exact fun hnil => hd (congrArg Host.domain hnil)
  | ipv4 n => simp [text, ipv4Text]
  | ipv6 ps => simp [text]

end Host

end ChapterAssembly
