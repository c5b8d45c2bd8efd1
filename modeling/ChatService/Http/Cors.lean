import ChatService.Http.Request

/-!
# Pages of other origins

Which pages may call the service from a browser. The browser asks beforehand with the method
`OPTIONS`; such a request is answered here, whatever its path, and never reaches the service. All
other responses only say who may look at them.
-/

namespace ChatService.Http

inductive CorsPolicy where
  /-- Any page may do anything and see everything. -/
  | permissive
  /-- Any page may read and create. -/
  | anyOrigin
  /-- Pages of these origins may read and create. -/
  | origins (names : List String)
deriving DecidableEq, Repr

namespace CorsPolicy

/-- The policy of a configuration: permissive unless enabled, and an asterisk among the origins
    admits them all. -/
def ofSettings (enabled : Bool) (origins : List String) : CorsPolicy :=
  if !enabled then .permissive
  else if origins.contains "*" then .anyOrigin
  else .origins origins

/-- The origins that may use a response, seen from the origin of the request. -/
def allowedOrigin? (origin : Option String) : CorsPolicy → Option String
  | permissive | anyOrigin => some "*"
  | origins names => origin.filter names.contains

/-- The methods that pages may use. -/
def allowedMethods : CorsPolicy → String
  | permissive => "*"
  | anyOrigin | origins _ => "GET,POST,OPTIONS"

/-- The headers of a response that pages may see, besides the usual ones. -/
def exposedHeaders? : CorsPolicy → Option String
  | permissive => some "*"
  | anyOrigin | origins _ => none

/-- What every response says. -/
def originHeaders (policy : CorsPolicy) (r : Request) : List (String × String) :=
  ((policy.allowedOrigin? (r.header? "origin")).map ("access-control-allow-origin", ·)).toList

/-- The headers added to a response of the service. -/
def headers (policy : CorsPolicy) (r : Request) : List (String × String) :=
  policy.originHeaders r ++
    (policy.exposedHeaders?.map ("access-control-expose-headers", ·)).toList

/-- The response to a browser that asks beforehand. -/
def preflight (policy : CorsPolicy) (r : Request) : Response :=
  (Response.empty 200).withHeaders <|
    policy.originHeaders r ++
      [("access-control-allow-methods", policy.allowedMethods),
        ("access-control-allow-headers", "*")]

end CorsPolicy

end ChatService.Http
