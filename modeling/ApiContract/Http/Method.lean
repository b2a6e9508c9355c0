/-
**Methods.**

Main definitions:

* `Http.Method` — a request method: any token;
* `TrackedMethod` — the seven methods whose coverage is tracked, in their order.
-/

import ApiContract.Http.Token

set_option autoImplicit false

namespace ApiContract

/-- A request method: a token, in which case matters. -/
structure Http.Method where
  /-- The name. -/
  name : String
  deriving DecidableEq, Repr, Inhabited

namespace Http.Method

/-- The method with a name, if that is a token. -/
def ofString? (s : String) : Option Method := if isToken s then some ⟨s⟩ else none

/-- The methods with an operation of their own in a path item, `GET` first. -/
def get : Method := ⟨"GET"⟩
@[inherit_doc get] def head : Method := ⟨"HEAD"⟩
@[inherit_doc get] def put : Method := ⟨"PUT"⟩
@[inherit_doc get] def post : Method := ⟨"POST"⟩
@[inherit_doc get] def delete : Method := ⟨"DELETE"⟩
@[inherit_doc get] def patch : Method := ⟨"PATCH"⟩
@[inherit_doc get] def options : Method := ⟨"OPTIONS"⟩
@[inherit_doc get] def trace : Method := ⟨"TRACE"⟩

end Http.Method

/-- The methods whose coverage is tracked. -/
inductive TrackedMethod where
  | get | head | put | post | delete | patch | options
  deriving DecidableEq, Repr, Inhabited

namespace TrackedMethod

/-- All tracked methods, in order. -/
def all : List TrackedMethod := [get, head, put, post, delete, patch, options]

/-- The position in the order. -/
def index : TrackedMethod → Nat
  | get => 0 | head => 1 | put => 2 | post => 3 | delete => 4 | patch => 5 | options => 6

/-- The request method. -/
def method : TrackedMethod → Http.Method
  | get => .get | head => .head | put => .put | post => .post
  | delete => .delete | patch => .patch | options => .options

/-- The name. -/
def name (m : TrackedMethod) : String := m.method.name

/-- The tracked method that a request method is. -/
def ofMethod? (m : Http.Method) : Option TrackedMethod := all.find? (·.method = m)

/-- A tracked method is found from its request method. -/
theorem ofMethod?_method (m : TrackedMethod) : ofMethod? m.method = some m := by
  cases m <;> decide

end TrackedMethod

end ApiContract
