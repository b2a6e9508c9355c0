/-
**Policies.**

A policy says what a session checks and reports.  It can be read from a table of settings, and be
changed by variables of the environment.

Main definitions:

* `Policy` — a policy;
* `Policy.normal` — the policy with its base path in normal form;
* `Policy.Error` — why there is no policy, with `Policy.Error.message`;
* `Policy.ofTable?`, `Policy.read` — the policy in settings;
* `Policy.override` — the policy changed by variables;
* `Policy.toTree`, `Policy.text` — the texts of a policy.
-/

import ApiContract.Path.Prefix
import ApiContract.Text.Quoted
import ApiContract.Text.Uppercase
import ApiContract.Toml.Reading
import ApiContract.Tree

set_option autoImplicit false

namespace ApiContract

/-- What a session checks and reports. -/
structure Policy where
  /-- The base path of all requests; without one, the prefixes of the servers are tried. -/
  base : Option String := none
  /-- Whether documented failures of the server are tracked, and undocumented ones reported. -/
  internalErrors : Bool := false
  /-- Whether requests are checked. -/
  checkRequests : Bool := false
  /-- Whether coordinates that were not checked go unreported. -/
  partialCoverage : Bool := false
  /-- Whether responses go unreported when nothing but media types that cannot be read is at
  fault. -/
  ignoreUnsupported : Bool := false
  /-- Whether messages are logged. -/
  logging : Bool := false
  deriving DecidableEq, Repr

namespace Policy

/-- The base path with one leading slash and no trailing one. -/
def normalBase (p : Policy) : Option String := p.base.map Path.normalizeBase

/-- The policy with its base path in normal form. -/
def normal (p : Policy) : Policy := { p with base := p.normalBase }

/-- The policy with a given base path, in normal form. -/
def withBase (p : Policy) (base : String) : Policy :=
  { p with base := some (Path.normalizeBase base) }

/-! ### Flags -/

/-- The flags of a policy that settings name. -/
inductive Flag where
  | internalErrors | checkRequests | partialCoverage | ignoreUnsupported
  deriving DecidableEq, Repr

namespace Flag

/-- The flags, in order. -/
def all : List Flag := [internalErrors, checkRequests, partialCoverage, ignoreUnsupported]

/-- The name of a flag. -/
def name : Flag → String
  | internalErrors => "include_internal_server_errors"
  | checkRequests => "validate_requests"
  | partialCoverage => "disable_full_coverage"
  | ignoreUnsupported => "ignore_unsupported_body_formats"

end Flag

/-- Whether a flag is set. -/
def get (p : Policy) : Flag → Bool
  | .internalErrors => p.internalErrors
  | .checkRequests => p.checkRequests
  | .partialCoverage => p.partialCoverage
  | .ignoreUnsupported => p.ignoreUnsupported

/-- Set a flag, or clear it. -/
def set (p : Policy) (f : Flag) (on : Bool) : Policy :=
  match f with
  | .internalErrors => { p with internalErrors := on }
  | .checkRequests => { p with checkRequests := on }
  | .partialCoverage => { p with partialCoverage := on }
  | .ignoreUnsupported => { p with ignoreUnsupported := on }

theorem get_set (p : Policy) (f g : Flag) (on : Bool) :
    (p.set f on).get g = if f = g then on else p.get g := by
  cases f <;> cases g <;> rfl

/-! ### Errors -/

/-- Why there is no policy. -/
inductive Error where
  /-- A file of settings cannot be read. -/
  | unreadableFile (path : String)
  /-- A text is no settings text, or gives a setting a value of another kind. -/
  | malformed
  /-- The value of a variable is no truth value. -/
  | noTruthValue (name : String)
  deriving DecidableEq, Repr

/-- The text of an error. -/
def Error.message : Error → String
  | .unreadableFile path => "failed to read configuration file: " ++ path
  | .malformed => "failed to parse TOML configuration"
  | .noTruthValue name =>
    "failed to parse environment variable " ++ name ++ ": expected boolean"

/-! ### Settings -/

/-- The name of the base path. -/
def baseName : String := "base_path"

/-- Set a flag to what a table says; it stays as it is if the table does not name it. -/
def setFrom? (t : Toml.Table) (p : Policy) (f : Flag) : Option Policy :=
  match Dict.get? t f.name with
  | none => some p
  | some (.scalar (.bool on)) => some (p.set f on)
  | some _ => none

/-- The policy that a table describes.  Other names are passed over. -/
def ofTable? (t : Toml.Table) : Option Policy :=
  let base? : Option (Option String) :=
    match Dict.get? t baseName with
    | none => some none
    | some (.scalar (.text s)) => some (some s)
    | some _ => none
  base?.bind fun base => Flag.all.foldlM (setFrom? t) { base }

/-- The policy that a settings text describes. -/
def read (s : String) : Except Error Policy :=
  match (Toml.read? s).bind ofTable? with
  | some p => .ok p
  | none => .error .malformed

/-! ### Variables -/

/-- The truth value that a text is, in any case of its letters. -/
def boolOf? (s : String) : Option Bool :=
  if ["true", "1", "yes", "on"].any (Text.equalIgnoringCase s) then some true
  else if ["false", "0", "no", "off"].any (Text.equalIgnoringCase s) then some false
  else none

/-- The name of a setting that a variable under a namespace stands for. -/
def settingOf? (space name : String) : Option String :=
  ((Text.upperCased space ++ "_").toList.isPrefixOf? name.toList).map String.ofList

/-- Change a policy by a variable; variables of other names change nothing. -/
def overrideOne (space : String) (p : Policy) (v : String × String) : Except Error Policy :=
  match settingOf? space v.1 with
  | none => .ok p
  | some setting =>
    if setting = Text.upperCased baseName then .ok (p.withBase v.2)
    else match Flag.all.find? fun f => Text.upperCased f.name = setting with
      | none => .ok p
      | some f =>
        match boolOf? v.2 with
        | some on => .ok (p.set f on)
        | none => .error (.noTruthValue v.1)

/-- Change a policy by variables, one after the other. -/
def override (space : String) (p : Policy) (vs : List (String × String)) : Except Error Policy :=
  vs.foldlM (overrideOne space) p

/-! ### Texts -/

/-- The policy as a tree. -/
def toTree (p : Policy) : Tree Atom :=
  .record ((baseName, match p.base with | some s => .text s | none => .leaf .null) ::
    Flag.all.map fun f => (f.name, .bool (p.get f)))

/-- The policy in one line. -/
def text (p : Policy) : String :=
  let base := match p.base with | some s => "Some(" ++ Text.quote s ++ ")" | none => "None"
  let fields := (baseName, base) :: Flag.all.map (fun f => (f.name, toString (p.get f))) ++
    [("request_logger", toString p.logging)]
  "VerifierConfig \x7b " ++ Text.joined ", " (fields.map fun f => f.1 ++ ": " ++ f.2) ++ " \x7d"

end Policy

end ApiContract
