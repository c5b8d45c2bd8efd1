import ChatService.Http.Handler

/-!
# The service

From a request to its response. A response is made within the time that the configuration grants,
and says which pages may look at it. Paths without a route and methods that a route does not know
get a response without a body.
-/

namespace ChatService.Http

namespace Service

variable {σ : Type} (service : Service σ)

/-- The response that a handler ends with. -/
def finish (handling : Handling σ Response) : Work σ Response := do
  match ← handling.run with
  | .ok response => return response
  | .error e => return errorResponse e

/-- The response to a `GET` request. -/
def get (r : Request) : Route → Work σ Response
  | .health => service.health
  | .applications => finish (service.listApplications r)
  | .application token => finish (service.findApplication token)
  | .chats token => finish (service.listChats token r)
  | .messages token number => finish (service.listMessages token number r)
  | .search token number => finish (service.searchMessages token number r)

/-- The response to a `POST` request, where the route has one. -/
def post? (r : Request) : Route → Option (Work σ Response)
  | .applications => some (finish (service.createApplication r))
  | .chats token => some (finish (service.createChat token))
  | .messages token number => some (finish (service.createMessage token number r))
  | .health | .application _ | .search _ _ => none

/-- The response of a route. -/
def answer (r : Request) (route : Route) : Work σ Response :=
  match r.method with
  | "GET" | "HEAD" => service.get r route
  | "POST" => (service.post? r route).getD (pure (.empty 405))
  | _ => pure (.empty 405)

/-- A response within the time that a request may take. -/
def timed (work : Work σ Response) : Work σ Response := do
  return (← work.before service.config.requestTimeout).getD (.empty 408)

/-- The response of the service itself, and what it says about other origins. -/
def layered (r : Request) (work : Work σ Response) : Work σ Response :=
  if r.method = "OPTIONS" then pure (service.config.cors.preflight r)
  else do return (← service.timed work).withHeaders (service.config.cors.headers r)

/-- What a route does to its responses: there is no body for `HEAD`, and whoever uses a method
    that the route does not know is told which ones it knows. -/
def dress (r : Request) (route : Route) (response : Response) : Response :=
  if r.method = "HEAD" then response.withoutBody
  else if route.methods.contains r.method then response
  else response.withHeaders [("allow", ",".intercalate route.methods)]

/-- The response to a request. -/
def respond (r : Request) : Work σ Response :=
  match Route.ofPath? r.target.path with
  | some route => do return dress r route (← service.layered r (service.answer r route))
  | none => service.layered r (pure (.empty 404))

end Service

end ChatService.Http
