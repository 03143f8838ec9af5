import Vynkor.Router.State

/-! The layers in front of the REST routes: authentication, and the gate of the routes
that start, stop and restart plugins. -/

namespace Vynkor.Api

inductive StatusCode where
  | unauthorized | forbidden
  deriving DecidableEq

/-- The header, if it is there and is text, and what the layers have verified. -/
structure Request where
  authorization : Option String := none
  verifiedPermissions : Option (List String) := none
  verifiedSub : Option String := none

variable {ρ : Type} (validate : Option (Moment → String → Except VynkorError PluginClaims)) (now : Moment)

def bearerToken (request : Request) : Option String :=
  request.authorization.bind fun value => Text.stripPrefix value "Bearer "

def authMiddleware (request : Request) (next : Request → Except StatusCode ρ) : Except StatusCode ρ :=
  match validate with
  | none => next request
  | some validate =>
    match bearerToken request with
    | none => .error .unauthorized
    | some token =>
      match validate now token with
      | .error _ => .error .unauthorized
      | .ok claims =>
        next { request with verifiedPermissions := some claims.permissions, verifiedSub := some claims.sub }

/-- A request without verified permissions is one to a kernel without authentication. -/
def requireKernelAdmin (request : Request) (next : Request → Except StatusCode ρ) : Except StatusCode ρ :=
  match request.verifiedPermissions with
  | none => next request
  | some permissions =>
    if permissions.any (· == PermissionType.kernelAdmin.asStrName) then next request else .error .forbidden

/-- The lifecycle routes: authentication is the outer layer. -/
def adminRoute (handler : Request → Except StatusCode ρ) (request : Request) : Except StatusCode ρ :=
  authMiddleware validate now request fun request => requireKernelAdmin request handler

end Vynkor.Api
