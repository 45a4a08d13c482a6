/-
**What URLs are made of.**

Reading takes a text apart, and percent-encodes each part as its place demands: the user name, the
password, every segment of a path, the query and the fragment.  Of the characters that may not stand
in a URL only some are encoded in a host of a scheme without rules of its own and in a path without
segments, and none in a domain name.  So a URL, whether it is read on its own or resolved against
another one, never has a line feed, and has a double quote in those places at most.

Main definitions:

* `Percent.Encoded` — nothing is left in a text that encoding takes;
* `Url.Encoded` — every part of a URL is as its place demands;
* `Url.Built` — the URLs that reading and resolving give.

Main results:

* `Url.encoded_resolve` — **what is resolved against an encoded URL is encoded**;
* `Url.built_pageBase` — the base of the links on a page is built;
* `Url.newline_notMem_text` — no line feed is in a URL;
* `Url.quote_mem_text_iff` — **where a double quote stands in a URL**;
* `Url.host_of_parse` — the host of a URL is neither empty nor has a slash.
-/

import Mathlib.Data.List.TakeWhile
import ChapterAssembly.Proofs.Url.Host
import ChapterAssembly.Url.Link

set_option relaxedAutoImplicit false
set_option autoImplicit false

namespace ChapterAssembly

/-! ### Encoded texts -/

namespace Percent

variable {set : Char → Bool} {t : Text}

/-- **Nothing is left in a text that encoding takes.** -/
def Encoded (set : Char → Bool) (t : Text) : Prop := ∀ c ∈ t, set c = false

theorem encoded_nil (set : Char → Bool) : Encoded set [] := by simp [Encoded]

/-- **What is encoded is encoded**, by a set that spares percent signs and digits. -/
theorem encoded_encode (hpercent : set '%' = false) (hdigit : ∀ n < 16, set (hexDigit n) = false)
    (t : Text) : Encoded set (encode set t) := by
  intro c hc
  rcases mem_of_encode hc with ⟨-, hset, -⟩ | rfl | ⟨n, hn, rfl⟩
  · exact hset
  · exact hpercent
  · exact hdigit n hn

theorem encoded_control (t : Text) : Encoded control (encode control t) :=
  encoded_encode (by decide) (by decide) t

theorem encoded_fragment (t : Text) : Encoded inFragment (encode inFragment t) :=
  encoded_encode (by decide) (by decide) t

theorem encoded_path (t : Text) : Encoded inPath (encode inPath t) :=
  encoded_encode (by decide) (by decide) t

theorem encoded_userinfo (t : Text) : Encoded inUserinfo (encode inUserinfo t) :=
  encoded_encode (by decide) (by decide) t

/-- The query of a special scheme is encoded all the more. -/
theorem encoded_query (special : Bool) (t : Text) :
    Encoded (inQuery false) (encode (inQuery special) t) := by
  have hspecial : Encoded (inQuery special) (encode (inQuery special) t) := by
    cases special <;> exact encoded_encode (by decide) (by decide) t
  intro c hc
  have hset := hspecial c hc
  simp only [inQuery, Bool.or_eq_false_iff] at hset ⊢
  simpa using hset.1

end Percent

open Percent (inUserinfo inPath inFragment inQuery control)

/-! ### Encoded URLs -/

/-- **Every part of an authority is as its place demands.** -/
structure Authority.Encoded (a : Authority) : Prop where
  username : Percent.Encoded inUserinfo a.username
  password : ∀ p, a.password = some p → Percent.Encoded inUserinfo p
  host : a.host.Read

/-- **Every segment is encoded**, and so is a path without segments, but for its controls only. -/
inductive UrlPath.Encoded : UrlPath → Prop where
  | segments {ss : List Text} (h : ∀ s ∈ ss, Percent.Encoded inPath s) : Encoded (.segments ss)
  | rootless {t : Text} (h : Percent.Encoded control t) : Encoded (.rootless t)

/-- **The query and the fragment of some parts are encoded.** -/
structure Url.Parts.Encoded (parts : Url.Parts) : Prop where
  query : ∀ q, parts.query = some q → Percent.Encoded (inQuery false) q
  fragment : ∀ f, parts.fragment = some f → Percent.Encoded inFragment f

/-- **Every part of a URL is as its place demands.** -/
structure Url.Encoded (u : Url) : Prop where
  scheme : ∀ c ∈ u.scheme, Url.isSchemeChar c = true
  authority : ∀ a, u.authority = some a → a.Encoded
  path : u.path.Encoded
  query : ∀ q, u.query = some q → Percent.Encoded (inQuery false) q
  fragment : ∀ f, u.fragment = some f → Percent.Encoded inFragment f

namespace Url

variable {t scheme rest : Text} {u base : Url} {a : Authority} {done ss : List Text} {file : Bool}

/-! ### Schemes -/

/-- What holds of all ASCII characters. -/
theorem of_ascii {p : Char → Prop} (h : ∀ n < 128, p (Char.ofNat n)) {c : Char}
    (hc : c.toNat < 128) : p c := by
  rw [← Char.ofNat_toNat c]
  exact h _ hc

theorem toNat_lt_of_isAlphanum {c : Char} (h : c.isAlphanum = true) : c.toNat < 128 := by
  have hval : c.toNat = c.val.toNat := rfl
  -- a capital, a small letter or a digit
  change (decide (c.val ≥ 'A'.val ∧ c.val ≤ 'Z'.val) ||
    (decide (c.val ≥ 'a'.val) && decide (c.val ≤ 'z'.val)) ||
    (decide (c.val ≥ '0'.val) && decide (c.val ≤ '9'.val))) = true at h
  simp only [Bool.or_eq_true, Bool.and_eq_true, decide_eq_true_eq, UInt32.le_iff_toNat_le,
    ge_iff_le] at h
  simp at h
  omega

theorem isSchemeChar_toLower {c : Char} (h : isSchemeChar c = true) :
    isSchemeChar c.toLower = true := by
  have hascii : c.toNat < 128 := by
    simp only [isSchemeChar, Bool.or_eq_true, beq_iff_eq] at h
    rcases h with ((h | rfl) | rfl) | rfl
    · exact toNat_lt_of_isAlphanum h
    all_goals decide
  revert h
  exact of_ascii (p := fun c => isSchemeChar c = true → isSchemeChar c.toLower = true) (by decide)
    hascii

/-- What is read as a scheme is one. -/
theorem isSchemeChar_of_scheme? (h : scheme? t = some (scheme, rest)) :
    ∀ c ∈ scheme, isSchemeChar c = true := by
  unfold scheme? at h
  split at h
  · cases h
  · split at h
    · split at h
      · obtain ⟨rfl, -⟩ := Prod.mk.inj (Option.some.inj h)
        intro c hc
        obtain ⟨d, hd, rfl⟩ := List.mem_map.1 hc
        exact isSchemeChar_toLower (List.mem_takeWhile_imp hd)
      · cases h
    · cases h

/-! ### Parts -/

theorem encoded_parts (special : Bool) (t : Text) : (Parts.of special t).Encoded where
  query q hq := by
    obtain ⟨q', -, rfl⟩ := Option.map_eq_some_iff.1 hq
    exact Percent.encoded_query special q'
  fragment f hf := by
    obtain ⟨f', -, rfl⟩ := Option.map_eq_some_iff.1 hf
    exact Percent.encoded_fragment f'

/-! ### Paths -/

/-- A letter is left as it is in a path. -/
theorem inPath_of_isAlpha {c : Char} (h : c.isAlpha = true) : inPath c = false := by
  have hascii : c.toNat < 128 := toNat_lt_of_isAlphanum (by simp [Char.isAlphanum, h])
  revert h
  exact of_ascii (p := fun c => c.isAlpha = true → inPath c = false) (by decide) hascii

theorem encoded_segmentText (file : Bool) (done : List Text) (s : Text) :
    Percent.Encoded inPath (segmentText file done s) := by
  unfold segmentText
  split
  · next c d =>
      split
      · next hdrive =>
          -- a drive letter with its colon
          have hc : c.isAlpha = true := by
            simp only [isDrive, Bool.and_eq_true] at hdrive
            exact hdrive.2.1
          simp only [Percent.Encoded, List.forall_mem_cons]
          exact ⟨inPath_of_isAlpha hc, by decide, by simp⟩
      · exact Percent.encoded_path _
  · exact Percent.encoded_path _

/-- Going up leaves segments that were there. -/
theorem goUp_subset (file : Bool) (done : List Text) : goUp file done ⊆ done := by
  unfold goUp
  split
  · exact List.Subset.refl _
  · split
    · exact List.Subset.refl _
    · exact List.subset_cons_self _ _

/-- **A path along encoded segments is encoded.** -/
theorem encoded_walk (hdone : ∀ s ∈ done, Percent.Encoded inPath s) :
    ∀ s ∈ walk file done ss, Percent.Encoded inPath s := by
  have hup : ∀ done : List Text, (∀ s ∈ done, Percent.Encoded inPath s) →
      ∀ s ∈ goUp file done, Percent.Encoded inPath s :=
    fun done hdone s hs => hdone s (goUp_subset file done hs)
  -- the last segment stands in front of those before it
  have hlast : ∀ (done : List Text) (s : Text), (∀ s ∈ done, Percent.Encoded inPath s) →
      Percent.Encoded inPath s → ∀ s' ∈ (s :: done).reverse, Percent.Encoded inPath s' :=
    fun done s hdone hs s' hs' => List.forall_mem_cons.2 ⟨hs, hdone⟩ s' (List.mem_reverse.1 hs')
  have hnil := Percent.encoded_nil inPath
  induction ss generalizing done with
  | nil => exact fun s hs => hdone s (List.mem_reverse.1 hs)
  | cons s ss ih =>
      have hs := encoded_segmentText file done s
      cases ss with
      | nil =>
          rw [walk]
          split
          · exact hlast _ _ (hup _ hdone) hnil
          · split
            · exact hlast _ _ hdone hnil
            · exact hlast _ _ hdone hs
      | cons s' ss =>
          rw [walk]
          · split
            · exact ih (hup _ hdone)
            · split
              · exact ih hdone
              · refine ih ?_
                split
                · exact hdone
                · exact List.forall_mem_cons.2 ⟨hs, hdone⟩
          · simp

theorem encoded_pathFrom (hdone : ∀ s ∈ done, Percent.Encoded inPath s) (scheme t : Text) :
    (pathFrom scheme done t).Encoded := .segments (encoded_walk hdone)

theorem encoded_pathAfterAuthority (scheme t : Text) : (pathAfterAuthority scheme t).Encoded := by
  have hfrom : ∀ t, (pathFrom scheme [] t).Encoded := encoded_pathFrom (by simp) scheme
  unfold pathAfterAuthority
  split
  · split
    · exact .segments (by simpa using Percent.encoded_nil inPath)
    · exact .segments (by simp)
  · split <;> exact hfrom _

/-- What a path starts from that goes on from another one. -/
theorem encoded_parents (h : u.Encoded) : ∀ s ∈ u.parents, Percent.Encoded inPath s := by
  have hpath := h.path
  unfold parents
  split
  · next ss hss =>
      rw [hss] at hpath
      cases hpath with
      | segments hpath => exact fun s hs => hpath s (List.mem_reverse.1 (goUp_subset _ _ hs))
  · simp

/-! ### Authorities -/

/-- What a computation that ends well went through. -/
theorem exists_of_bind {ε α β : Type} {x : Except ε α} {f : α → Except ε β} {b : β}
    (h : x >>= f = .ok b) : ∃ a, x = .ok a ∧ f a = .ok b := by
  cases x with
  | error e => cases h
  | ok a => exact ⟨a, rfl, h⟩

/-- A computation that ends well passes its checks. -/
theorem of_check {ε α : Type} {c : Prop} [Decidable c] {x y : Except ε α} {b : α}
    (h : (if c then x else y) = .ok b) (hx : ∀ b, x ≠ .ok b) : y = .ok b := by
  split at h
  · exact absurd h (hx b)
  · exact h

/-- A password is encoded, if there is one. -/
theorem encoded_password {password : Option Text} {p : Text}
    (h : (match password with
      | some (c :: p) => some (Percent.encode inUserinfo (c :: p))
      | _ => none) = some p) : Percent.Encoded inUserinfo p := by
  split at h
  · obtain rfl := Option.some.inj h
    exact Percent.encoded_userinfo _
  · cases h

/-- A URL that is put together from an authority, a path and other parts. -/
theorem encoded_of_parts {path : UrlPath} {parts : Parts}
    (hscheme : ∀ c ∈ scheme, isSchemeChar c = true) (ha : a.Encoded) (hpath : path.Encoded)
    (hparts : parts.Encoded) :
    Encoded ⟨scheme, some a, path, parts.query, parts.fragment⟩ where
  scheme := hscheme
  authority _ ha' := Option.some.inj ha' ▸ ha
  path := hpath
  query := hparts.query
  fragment := hparts.fragment

theorem encoded_withAuthority (hscheme : ∀ c ∈ scheme, isSchemeChar c = true)
    (h : withAuthority scheme t = .ok u) : u.Encoded := by
  have hparts := encoded_parts (isSpecial scheme) t
  simp only [withAuthority] at h
  have h := of_check (of_check h nofun) nofun
  -- what follows is the same for both kinds of schemes, but for the host
  split at h
  · obtain ⟨host, hhost, h⟩ := exists_of_bind h
    obtain ⟨port, -, h⟩ := exists_of_bind h
    obtain rfl := Except.ok.inj (of_check h nofun)
    refine encoded_of_parts hscheme ?_ (encoded_pathAfterAuthority _ _) hparts
    exact ⟨Percent.encoded_userinfo _, fun p hp => encoded_password hp, .special hhost⟩
  · obtain ⟨host, hhost, h⟩ := exists_of_bind h
    obtain ⟨port, -, h⟩ := exists_of_bind h
    obtain rfl := Except.ok.inj (of_check h nofun)
    refine encoded_of_parts hscheme ?_ (encoded_pathAfterAuthority _ _) hparts
    exact ⟨Percent.encoded_userinfo _, fun p hp => encoded_password hp, .other hhost⟩

theorem encoded_noHost : noHost.Encoded where
  username := Percent.encoded_nil _
  password p hp := by cases hp
  host := .none

theorem encoded_fileHost (h : fileHost t = .ok a) : a.Encoded := by
  unfold fileHost at h
  split at h
  · obtain rfl := Except.ok.inj h
    exact encoded_noHost
  · obtain ⟨host, hhost, h⟩ := exists_of_bind h
    obtain rfl := Except.ok.inj h
    refine ⟨Percent.encoded_nil _, fun p hp => (by cases hp), ?_⟩
    simp only
    split
    · exact .none
    · exact .special hhost

/-! ### References -/

/-- A URL that differs from an encoded one in its path, its query and its fragment. -/
theorem Encoded.with_path (h : u.Encoded) {path : UrlPath} (hpath : path.Encoded)
    {parts : Parts} (hparts : parts.Encoded) :
    Encoded { u with path, query := parts.query, fragment := parts.fragment } :=
  ⟨h.scheme, h.authority, hpath, hparts.query, hparts.fragment⟩

/-- A URL that differs from an encoded one in its fragment, and in its query if there is one. -/
theorem Encoded.with_query (h : u.Encoded) {parts : Parts} (hparts : parts.Encoded) :
    Encoded { u with query := if parts.query.isSome then parts.query else u.query
                     fragment := parts.fragment } where
  scheme := h.scheme
  authority := h.authority
  path := h.path
  query q hq := by
    simp only at hq
    split at hq
    · exact hparts.query q hq
    · exact h.query q hq
  fragment := hparts.fragment

theorem encoded_relativeTo (hb : base.Encoded) (h : relativeTo base t = .ok u) : u.Encoded := by
  have hparts := encoded_parts (isSpecial base.scheme) t
  have hroot : ∀ t, (pathFrom base.scheme [] t).Encoded := encoded_pathFrom (by simp) base.scheme
  simp only [relativeTo] at h
  split at h
  · obtain rfl := Except.ok.inj h
    exact hb.with_query hparts
  · split at h
    · split at h
      · split at h
        · split at h <;> exact encoded_withAuthority hb.scheme h
        · obtain rfl := Except.ok.inj h
          exact hb.with_path (hroot _) hparts
      · obtain rfl := Except.ok.inj h
        exact hb.with_path (hroot _) hparts
    · obtain rfl := Except.ok.inj h
      exact hb.with_path (encoded_pathFrom (encoded_parents hb) _ _) hparts

theorem encoded_fileReference {base : Option Url} (hb : ∀ b, base = some b → b.Encoded)
    (h : fileReference base t = .ok u) : u.Encoded := by
  have hparts := encoded_parts true t
  have hscheme : ∀ c ∈ "file".toList, isSchemeChar c = true := by simp; decide
  have hroot : ∀ t, (pathFrom "file".toList [] t).Encoded := encoded_pathFrom (by simp) _
  -- a URL of a file with the authority `a`
  have hsite : ∀ a : Authority, a.Encoded → ∀ r, Encoded
      ⟨"file".toList, some a, pathFrom "file".toList [] r, (Parts.of true t).query,
        (Parts.of true t).fragment⟩ :=
    fun a ha r => encoded_of_parts hscheme ha (hroot r) hparts
  have hbase : ((base.bind (·.authority)).getD noHost).Encoded := by
    cases hba : base.bind (·.authority) with
    | none => exact encoded_noHost
    | some a =>
        obtain ⟨b, rfl, ha⟩ := Option.bind_eq_some_iff.1 hba
        exact (hb b rfl).authority a ha
  simp only [fileReference] at h
  split at h
  · split at h
    · next b =>
        obtain rfl := Except.ok.inj h
        exact (hb b rfl).with_query hparts
    · obtain rfl := Except.ok.inj h
      exact hsite _ encoded_noHost _
  · split at h
    · split at h
      · split at h
        · split at h
          · obtain rfl := Except.ok.inj h
            exact hsite _ encoded_noHost _
          · obtain ⟨a, ha, h⟩ := exists_of_bind h
            obtain rfl := Except.ok.inj h
            exact hsite _ (encoded_fileHost ha) _
        · obtain rfl := Except.ok.inj h
          exact hsite _ hbase _
      · obtain rfl := Except.ok.inj h
        exact hsite _ hbase _
    · split at h
      · next b =>
          split at h
          · obtain rfl := Except.ok.inj h
            exact hsite _ encoded_noHost _
          · obtain rfl := Except.ok.inj h
            exact (hb b rfl).with_path (encoded_pathFrom (encoded_parents (hb b rfl)) _ _) hparts
      · obtain rfl := Except.ok.inj h
        exact hsite _ encoded_noHost _

theorem encoded_afterOtherScheme (hscheme : ∀ c ∈ scheme, isSchemeChar c = true)
    (h : afterOtherScheme scheme t = .ok u) : u.Encoded := by
  have hparts := encoded_parts false t
  unfold afterOtherScheme at h
  split at h
  · exact encoded_withAuthority hscheme h
  · obtain rfl := Except.ok.inj h
    refine ⟨hscheme, fun a ha => (by cases ha), ?_, hparts.query, hparts.fragment⟩
    simp only
    split
    · exact encoded_pathFrom (by simp) _ _
    · exact .rootless (Percent.encoded_control _)

/-- **What is resolved against an encoded URL is encoded.** -/
theorem encoded_resolve {base : Option Url} (hb : ∀ b, base = some b → b.Encoded)
    (h : resolve base t = .ok u) : u.Encoded := by
  simp only [resolve] at h
  split at h
  · next scheme rest hs =>
      have hscheme := isSchemeChar_of_scheme? hs
      split at h
      · exact encoded_fileReference (fun b hf => hb b (Option.filter_eq_some_iff.1 hf).1) h
      · split at h
        · split at h
          · next b hf => exact encoded_relativeTo (hb b (Option.filter_eq_some_iff.1 hf).1) h
          · exact encoded_withAuthority hscheme h
        · exact encoded_afterOtherScheme hscheme h
  · split at h
    · cases h
    · next b =>
        have hb := hb b rfl
        split at h
        · obtain rfl := Except.ok.inj h
          refine ⟨hb.scheme, hb.authority, hb.path, hb.query, ?_⟩
          rintro f ⟨⟩
          exact Percent.encoded_fragment _
        · split at h
          · cases h
          · split at h
            · refine encoded_fileReference ?_ h
              rintro b' ⟨⟩
              exact hb
            · exact encoded_relativeTo hb h

/-- **The URLs that reading and resolving give.** -/
inductive Built : Url → Prop where
  | parse {t : Text} {u : Url} (h : parse t = .ok u) : Built u
  | resolve {base : Url} {t : Text} {u : Url} (hb : Built base)
      (h : resolve (some base) t = .ok u) : Built u

theorem encoded_of_parse (h : parse t = .ok u) : u.Encoded :=
  encoded_resolve (fun b hb => by cases hb) h

theorem Built.encoded (h : u.Built) : u.Encoded := by
  induction h with
  | parse h => exact encoded_of_parse h
  | resolve _ h ih =>
      refine encoded_resolve ?_ h
      rintro b ⟨⟩
      exact ih

theorem built_blank : blank.Built := .parse (rfl : parse "about:blank".toList = .ok blank)

/-- **The base of the links on a page is built**, whatever the address of the page is. -/
theorem built_pageBase (address : Text) : (pageBase address).Built := by
  unfold pageBase pageBase?
  cases h : parse (Text.trim address) with
  | ok u => exact .parse h
  | error err => exact built_blank

/-- **The host of a URL is neither empty nor has a slash**, if there is one. -/
theorem host_of_parse {host : Text} (h : parse t = .ok u) (hu : u.hostText? = some host) :
    host ≠ [] ∧ '/' ∉ host := by
  unfold hostText? at hu
  split at hu
  · cases hu
  · next a hempty ha =>
      obtain rfl := Option.some.inj hu
      refine ⟨Host.text_ne_nil fun hd => ?_,
        ((encoded_of_parse h).authority a ha).host.notMem_text (by decide)⟩
      obtain ⟨username, password, host, port⟩ := a
      exact hempty username password port (by rw [show host = .domain [] from hd])
  · cases hu

/-! ### Characters of URLs -/

/-- **A character that is encoded** in every part but a host and a path without segments, and is
none of the signs between the parts. -/
structure Escaped (c : Char) : Prop where
  scheme : isSchemeChar c = false
  userinfo : inUserinfo c = true
  path : inPath c = true
  query : inQuery false c = true
  fragment : inFragment c = true
  sign : c ∉ [':', '/', '.', '@', '?', '#']

theorem escaped_quote : Escaped '"' := by constructor <;> decide

theorem escaped_newline : Escaped '\n' := by constructor <;> decide

variable {c : Char}

/-- A character that is encoded is not in an encoded text. -/
theorem notMem_of_encoded {set : Char → Bool} (h : Percent.Encoded set t) (hc : set c = true) :
    c ∉ t := by
  intro hmem
  rw [h c hmem] at hc
  cases hc

/-- No digit is encoded. -/
theorem Escaped.notMem_ofNat (hc : Escaped c) (n : Nat) : c ∉ Text.ofNat n := by
  intro hmem
  have hdigit : c.isDigit = true := Nat.isDigit_of_mem_toDigits (by decide) (by decide) hmem
  have hscheme := hc.scheme
  simp [isSchemeChar, Char.isAlphanum, hdigit] at hscheme

/-- A part behind a sign, if there is one. -/
theorem notMem_behind {sign : Char} {part : Option Text} (hsign : c ≠ sign)
    (h : ∀ p, part = some p → c ∉ p) :
    c ∉ (match part with
      | some p => sign :: p
      | none => []) := by
  cases part with
  | none => simp
  | some p => simpa [hsign] using h p rfl

/-- **Such a character is in an authority** just if it is in the host. -/
theorem Escaped.mem_authorityText_iff (hc : Escaped c) (ha : a.Encoded) :
    c ∈ authorityText a ↔ c ∈ a.host.text := by
  have hsign := hc.sign
  simp only [List.mem_cons, not_or] at hsign
  obtain ⟨hcolon, -, -, hat, -⟩ := hsign
  have husername : c ∉ a.username := notMem_of_encoded ha.username hc.userinfo
  have hpassword := notMem_behind hcolon fun p hp =>
    notMem_of_encoded (ha.password p hp) hc.userinfo
  have hat : ∀ user : Text, c ∉ user → c ∉ if user.isEmpty then [] else user ++ ['@'] := by
    intro user huser
    split
    · simp
    · simp [huser, hat]
  have huser := hat _ fun hmem => (List.mem_append.1 hmem).elim husername hpassword
  rw [authorityText, List.mem_append, List.mem_append]
  constructor
  · rintro ((hmem | hmem) | hmem)
    · exact absurd hmem huser
    · exact hmem
    · split at hmem
      · next n _ => exact absurd hmem (by simpa [hcolon] using hc.notMem_ofNat n)
      · cases hmem
  · exact fun hmem => .inl (.inr hmem)

/-- **Such a character stands before the path** just if it is in the host. -/
theorem Escaped.mem_beforePath_iff (hc : Escaped c) (h : u.Encoded) :
    c ∈ u.beforePath ↔ ∃ a, u.authority = some a ∧ c ∈ a.host.text := by
  have hsign := hc.sign
  simp only [List.mem_cons, not_or] at hsign
  unfold beforePath
  split
  · next a ha =>
      have hmem := hc.mem_authorityText_iff (h.authority a ha)
      simp [ha, hmem, hsign]
  · next ha _ => simp [ha, hsign]
  · next ha _ => simp [ha]

/-- **Such a character is in the path** just if the path has no segments. -/
theorem Escaped.mem_pathText_iff (hc : Escaped c) (h : u.Encoded) :
    c ∈ u.pathText ↔ ∃ t, u.path = .rootless t ∧ c ∈ t := by
  have hpath := h.path
  unfold pathText
  split
  · next ss hss =>
      rw [hss] at hpath
      cases hpath with
      | segments hpath =>
        constructor
        · intro hmem
          obtain ⟨s, hs, hmem⟩ := List.mem_flatMap.1 hmem
          rcases List.mem_cons.1 hmem with heq | hmem
          · exact absurd (by simp [heq]) hc.sign
          · exact absurd hmem (notMem_of_encoded (hpath s hs) hc.path)
        · rintro ⟨t, ht, -⟩
          simp [hss] at ht
  · next t ht => simp [ht]

/-- **Where such a character stands in a URL**: in the host, or in a path without segments. -/
theorem Escaped.mem_text_iff (hc : Escaped c) (h : u.Encoded) : c ∈ u.text ↔
    (∃ a, u.authority = some a ∧ c ∈ a.host.text) ∨ ∃ t, u.path = .rootless t ∧ c ∈ t := by
  have hsign := hc.sign
  simp only [List.mem_cons, not_or] at hsign
  obtain ⟨hcolon, -, -, -, hquestion, hnumber, -⟩ := hsign
  have hscheme : c ∉ u.scheme := fun hmem => by simpa [hc.scheme] using h.scheme c hmem
  have hquery := notMem_behind hquestion fun q hq => notMem_of_encoded (h.query q hq) hc.query
  have hfragment := notMem_behind hnumber fun f hf =>
    notMem_of_encoded (h.fragment f hf) hc.fragment
  rw [← hc.mem_beforePath_iff h, ← hc.mem_pathText_iff h, text]
  simp only [List.mem_append, List.mem_singleton, hscheme, hcolon, false_or]
  constructor
  · rintro (((hmem | hmem) | hmem) | hmem)
    · exact .inl hmem
    · exact .inr hmem
    · exact absurd hmem hquery
    · exact absurd hmem hfragment
  · rintro (hmem | hmem)
    · exact .inl (.inl (.inl hmem))
    · exact .inl (.inl (.inr hmem))

/-- **No line feed is in a URL.** -/
theorem newline_notMem_text (h : u.Encoded) : '\n' ∉ u.text := by
  rw [escaped_newline.mem_text_iff h]
  rintro (⟨a, ha, hmem⟩ | ⟨t, ht, hmem⟩)
  · exact (h.authority a ha).host.notMem_text (by decide) hmem
  · have hpath := h.path
    rw [ht] at hpath
    cases hpath with
    | rootless hpath => exact notMem_of_encoded hpath (by decide) hmem

/-- **Where a double quote stands in a URL.** -/
theorem quote_mem_text_iff (h : u.Encoded) : '"' ∈ u.text ↔
    (∃ a, u.authority = some a ∧ '"' ∈ a.host.text) ∨ ∃ t, u.path = .rootless t ∧ '"' ∈ t :=
  escaped_quote.mem_text_iff h

end Url

end ChapterAssembly
