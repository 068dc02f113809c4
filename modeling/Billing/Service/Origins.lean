import Billing.Service.Message
import Billing.Settings.Environment

/-!
# Origins

Pages of some origins may use the service from a browser. A browser names the origin of the page
in a request, and may ask first whether the request is allowed (`preflight`).
-/

namespace Billing.Service

/-- The origins from which the service may be used. -/
structure Origins where
  allowed : List String

namespace Origins

/-- The origins that an environment sets up. -/
def ofEnvironment (env : Environment) : Origins where
  allowed := ["http://localhost:3000", "http://localhost:3001"] ++
    if env.find? "ENVIRONMENT" = some "production" then
      (env.find? "RENDER_EXTERNAL_URL").toList.filter (!·.isEmpty)
    else []

/-- Whether an origin is allowed; a star stands for any. -/
def allows (o : Origins) (origin : String) : Bool :=
  o.allowed.contains "*" || o.allowed.contains origin

/-- The headers that name the one origin that is allowed. -/
def named (origin : String) : List (String × String) :=
  [("access-control-allow-origin", origin), ("vary", "Origin")]

/-- The headers of a response to a page of an origin. -/
def headers (o : Origins) (origin : String) : List (String × String) :=
  ("access-control-allow-credentials", "true") ::
    ("access-control-expose-headers", "Content-Disposition, X-Item-Count, X-Grand-Total") ::
    if o.allows origin then named origin else []

/-- The methods that a page may use. -/
def methods : List String := ["DELETE", "GET", "HEAD", "OPTIONS", "PATCH", "POST", "PUT", "QUERY"]

/-- Whether a request of an origin only asks if another one is allowed, and by which method. -/
def preflightMethod? (r : Request) : Option String :=
  if r.method = "OPTIONS" then r.header? "access-control-request-method" else none

/-- The answer to whether a page of an origin may use a method. Access to a private network is
refused to all that ask for it. -/
def preflight (o : Origins) (r : Request) (origin method : String) : Response :=
  let refused := (if o.allows origin then [] else ["origin"]) ++
    (if methods.contains method then [] else ["method"]) ++
    if (r.header? "access-control-request-private-network").isSome then ["private-network"] else []
  let asked := (r.header? "access-control-request-headers").toList
  { status := if refused.isEmpty then 200 else 400
    headers := (if o.allows origin then named origin else [("vary", "Origin")]) ++
      [("access-control-allow-methods", ", ".intercalate methods),
        ("access-control-max-age", "600"), ("access-control-allow-credentials", "true")] ++
      asked.map fun names => ("access-control-allow-headers", names)
    content := .text (if refused.isEmpty then "OK"
      else "Disallowed CORS " ++ ", ".intercalate refused) }

end Origins

end Billing.Service
