import Mathlib

/-!
# The workspace of a context

`tenant/context.go`: the identity that a request carries, and the keys that are made of it.
-/

namespace NewApi.Tenant

structure Identity where
  id : Int
  slug : String
deriving DecidableEq

/-- The errors of the package. -/
inductive ScopeError
  | missing
  | mismatch
  | invalidScript
  | scriptKeys
  | scanPattern
  | notPermitted (name : String)
  | invalidArguments
deriving DecidableEq

/-- The text of the error; the names that are refused are quoted. -/
def ScopeError.message : ScopeError → String
  | .missing => "tenant context is required"
  | .mismatch => "tenant identity cannot be changed"
  | .invalidScript => "invalid Redis script command"
  | .scriptKeys => "Redis scripts require explicit tenant keys"
  | .scanPattern => "Redis scans require a tenant key pattern"
  | .notPermitted name => "Redis command \"" ++ name ++ "\" is not permitted in a workspace"
  | .invalidArguments => "invalid Redis command arguments"

/-- The identity that the context carries, if it is one. -/
def fromContext (ctx : Option Identity) : Except ScopeError Identity :=
  match ctx with
  | none => .error .missing
  | some identity => if identity.id ≤ 0 then .error .missing else .ok identity

/-- What the keys of workspace `id` begin with. -/
def workspaceKey (id : Int) (key : String) : String := "tenant:" ++ toString id ++ ":" ++ key

def contextKey (ctx : Option Identity) (key : String) : Except ScopeError String :=
  match fromContext ctx with
  | .error e => .error e
  | .ok identity => .ok (workspaceKey identity.id key)

lemma fromContext_pos {ctx : Option Identity} {identity : Identity}
    (h : fromContext ctx = .ok identity) : 0 < identity.id := by
  unfold fromContext at h
  split at h
  · cases h
  split at h <;> cases h
  omega

end NewApi.Tenant
