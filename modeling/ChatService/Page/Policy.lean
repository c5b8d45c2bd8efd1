import ChatService.Page.Coerce
import ChatService.Page.Window

/-!
# Paging policy

What page a client gets when it leaves the page or its size out, writes them badly, or asks for too
much at once.
-/

namespace ChatService.Page

/-- The page size for requests that name none, and the largest page size served. -/
structure Policy where
  defaultPerPage : Int := Request.defaultPerPage
  /-- Zero or less: there is no largest size. -/
  maxPerPage : Int := 100
deriving DecidableEq, Repr

/-- The page that raw query values ask for. A page size is raised to 1 before it is lowered to the
    largest size, and the default size obeys both bounds like any other. -/
def Policy.normalize (policy : Policy) (page perPage : Option String) : Request :=
  let size := max ((perPage.map coerceInt).getD policy.defaultPerPage) 1
  let size := if 0 < policy.maxPerPage then min size policy.maxPerPage else size
  Request.clamped ((page.map coerceInt).getD 1) size

end ChatService.Page
