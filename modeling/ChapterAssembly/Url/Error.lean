/-
**Why a text is no URL.**

Main definitions:

* `ChapterAssembly.UrlError` — the causes, with their wording `UrlError.message`.
-/

import ChapterAssembly.Text.Basic

set_option relaxedAutoImplicit false
set_option autoImplicit false

namespace ChapterAssembly

/-- Why a text is no URL. -/
inductive UrlError where
  /-- There is no scheme, and no base to resolve against. -/
  | relativeWithoutBase
  /-- There is no scheme, and the base has no hierarchical path. -/
  | relativeToRootless
  | emptyHost
  | invalidPort
  | invalidIpv4
  | invalidIpv6
  /-- A host name that no domain can have. -/
  | invalidDomain
  /-- A host of a scheme without rules of its own that holds a forbidden character. -/
  | invalidHostCharacter
deriving Repr, DecidableEq, BEq

/-- The wording of a cause. -/
def UrlError.message : UrlError → Text
  | .relativeWithoutBase => "relative URL without a base"
  | .relativeToRootless => "relative URL with a cannot-be-a-base base"
  | .emptyHost => "empty host"
  | .invalidPort => "invalid port number"
  | .invalidIpv4 => "invalid IPv4 address"
  | .invalidIpv6 => "invalid IPv6 address"
  | .invalidDomain => "invalid international domain name"
  | .invalidHostCharacter => "invalid domain character"

end ChapterAssembly
