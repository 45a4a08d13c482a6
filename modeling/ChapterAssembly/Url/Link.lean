/-
**Links on pages.**

A page gives links relative to its own address, and a page's address comes from outside, so neither
need be a URL.  A link that cannot be resolved stays as it is; an address that is no URL is replaced
by `about:blank`.

Main definitions:

* `Url.absolute` — a link made absolute;
* `Url.pageBase` — the base of a page's links.
-/

import ChapterAssembly.Url.Parse

set_option relaxedAutoImplicit false
set_option autoImplicit false

namespace ChapterAssembly

namespace Url

/-- The link `href`, made absolute against `base`.  A blank link is empty, and one that cannot be
resolved stands trimmed as it is. -/
def absolute (base : Url) (href : Text) : Text :=
  let href := Text.trim href
  if href.isEmpty then []
  else
    match resolve (some base) href with
    | .ok u => u.text
    | .error _ => href

/-- The base of the links on a page with the given address, if the address is a URL. -/
def pageBase? (address : Text) : Option Url := (parse (Text.trim address)).toOption

/-- The base of the links on a page with the given address. -/
def pageBase (address : Text) : Url := (pageBase? address).getD blank

@[simp] theorem absolute_of_isBlankText {base : Url} {href : Text} (h : Text.trim href = []) :
    absolute base href = [] := by
  simp [absolute, h]

end Url

end ChapterAssembly
