/-!
What a bridge says to a request: a status, possibly with a `Retry-After` header, or nothing at all
when the request failed on the way.
-/

set_option autoImplicit false

namespace LightShow

/-- A response of the bridge. -/
structure Response where
  status : UInt16
  retryAfter : Option String := none
  deriving DecidableEq, Repr

def Response.isSuccess (response : Response) : Bool :=
  200 ≤ response.status && response.status < 300

def Response.isRateLimited (response : Response) : Bool :=
  response.status == 429

/-- The outcome of a request. -/
inductive Answer where
  | response (response : Response)
  /-- The request got no response. -/
  | failed
  deriving DecidableEq, Repr

end LightShow
