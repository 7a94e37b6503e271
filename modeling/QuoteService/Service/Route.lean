import QuoteService.Http.Address

/-!
# Routes

The pages that describe the service to its users (`/docs`, `/docs/oauth2-redirect`, `/redoc` and
`/openapi.json`) are left out. Their paths, and those with a slash more, are taken for unknown ones
here, and nothing that is said about unknown paths is meant of them.

* `Route`: the three things that the service does.
* `Dispatch.ofRequest`: the route of a request, or why it has none.
-/

namespace QuoteService.Service

open QuoteService.Http

/-- The path of quotes; its tokens also open the list of all. -/
def quotePath : String := "/api/v1/fortune"

/-- The path of the list of all quotes. -/
def allPath : String := "/api/v1/fortune/all"

/-- What a request asks for. -/
inductive Route where
  | random
  | all
  | add
  deriving DecidableEq

namespace Route

/-- The method of a route. -/
def method : Route → String
  | random => "GET"
  | all => "GET"
  | add => "POST"

/-- The path of a route. -/
def path : Route → String
  | random => quotePath
  | all => allPath
  | add => quotePath

/-- The routes in the order in which they are tried. -/
def list : List Route := [random, all, add]

/-- Whether a path is the one of a route; a line feed at its end does not matter. -/
def matchesPath (route : Route) (path : List Char) : Bool :=
  path == route.path.toList || path == route.path.toList ++ ['\n']

end Route

/-- What becomes of a request. -/
inductive Dispatch where
  | route (r : Route)
  | methodNotAllowed (allowed : String)
  | redirect (path : List Char)
  | notFound
  deriving DecidableEq

namespace Dispatch

/-- The path to try when none matches: without the slashes at its end, or else with one more. -/
def otherPath (path : List Char) : List Char :=
  if path.getLast? = some '/' then (path.reverse.dropWhile (· == '/')).reverse else path ++ ['/']

/-- The route that takes a method and a path; of a path that is known for other methods only the
first of them is named. -/
def ofRequest (method : String) (path : List Char) : Dispatch :=
  match Route.list.find? fun r => r.matchesPath path && r.method == method with
  | some r => .route r
  | none =>
    match Route.list.find? fun r => r.matchesPath path with
    | some r => .methodNotAllowed r.method
    | none =>
      if path != ['/'] && Route.list.any fun r => r.matchesPath (otherPath path) then
        .redirect (otherPath path)
      else .notFound

end Dispatch

end QuoteService.Service
