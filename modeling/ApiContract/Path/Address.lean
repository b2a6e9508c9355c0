/-
**Addresses under a base path.**

Main definitions:

* `Address` — a host with a base path;
* `Address.relative`, `Address.absolute` — the address of a path below them.
-/

import ApiContract.Path.Prefix

set_option autoImplicit false

namespace ApiContract

/-- A host and the base path under which its paths lie. -/
structure Address where
  /-- The host, with its scheme. -/
  host : String
  /-- The base path. -/
  base : String

namespace Address

/-- A path below the base path: one slash between them, none doubled where they meet. -/
def relative (a : Address) (path : String) : String :=
  let base := Text.trimEnds Path.isSlash a.base.toList
  let rest := path.toList.dropWhile Path.isSlash
  String.ofList (if base = [] then '/' :: rest else '/' :: base ++ '/' :: rest)

/-- The same with the host before it. -/
def absolute (a : Address) (path : String) : String :=
  Path.withoutTrailingSlashes a.host ++ a.relative path

end Address

end ApiContract
