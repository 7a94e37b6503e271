import QuoteService.Service.App

/-!
# Which handler takes a request

* `Call.asks`: a request has the method and the path of a route.
* `Dispatch.ofRequest_eq_route_iff`: **a route takes just the requests that ask for it.**
* `App.handle_random`, `App.handle_all`, `App.handle_add`: what becomes of them.
* `App.guarded_cases`: a guarded request is refused or handled.
-/

namespace QuoteService.Service

open QuoteService.Http

/-- Whether a request has the method and the path of a route. -/
def Call.asks (call : Call) (r : Route) : Bool :=
  r.matchesPath call.request.path.toList && r.method == call.request.method

namespace Dispatch

/-- A path and the same path with a line feed belong to one route path only. -/
theorem path_eq_of_matchesPath {r r' : Route} {path : List Char} (h : r.matchesPath path = true)
    (h' : r'.matchesPath path = true) : r.path = r'.path := by
  simp only [Route.matchesPath, Bool.or_eq_true, beq_iff_eq] at h
  rcases h with rfl | rfl
  · cases r <;> cases r' <;> first | rfl | exact absurd h' (by decide)
  · cases r <;> cases r' <;> first | rfl | exact absurd h' (by decide)

/-- Routes of one path differ in their methods. -/
theorem eq_of_path_method {r r' : Route} (hpath : r.path = r'.path) (hmethod : r.method = r'.method) :
    r = r' := by
  cases r <;> cases r' <;>
    first | rfl | exact absurd hmethod (by decide) | exact absurd hpath (by decide)

/-- **A route takes just the requests that have its method and its path.** -/
theorem ofRequest_eq_route_iff {method : String} {path : List Char} {r : Route} :
    ofRequest method path = .route r ↔ (r.matchesPath path && r.method == method) = true := by
  unfold ofRequest
  constructor
  · intro h
    split at h
    · rename_i found hfound
      cases h
      have hsome := List.find?_some hfound
      exact hsome
    · split at h
      · cases h
      · split at h <;> cases h
  · intro h
    -- some route takes the request, and it can be no other one
    have hmem : r ∈ Route.list := by cases r <;> decide
    obtain ⟨found, hfound⟩ := Option.isSome_iff_exists.1 (List.find?_isSome
      (p := fun r => r.matchesPath path && r.method == method).2 ⟨r, hmem, h⟩)
    have hsome := List.find?_some hfound
    simp only [Bool.and_eq_true, beq_iff_eq] at h hsome
    rw [hfound, eq_of_path_method (path_eq_of_matchesPath hsome.1 h.1) (hsome.2.trans h.2.symm)]

end Dispatch

namespace App

variable {app : App} {call : Call} {db : Database}

theorem handle_random (h : call.asks .random = true) : app.handle call db = giveRandom call db := by
  simp only [handle, Dispatch.ofRequest_eq_route_iff.2 h]

theorem handle_all (h : call.asks .all = true) : app.handle call db = app.guarded call db giveAll := by
  simp only [handle, Dispatch.ofRequest_eq_route_iff.2 h]

theorem handle_add (h : call.asks .add = true) : app.handle call db = app.guarded call db addQuote := by
  simp only [handle, Dispatch.ofRequest_eq_route_iff.2 h]

/-- A guarded request is refused, or answered as its handler answers it. -/
theorem guarded_cases (app : App) (call : Call) (db : Database)
    (handler : Call → Database → Outcome) :
    ((app.guarded call db handler).response = unauthorized ∧
      (app.guarded call db handler).database = db) ∨
    ((app.guarded call db handler).response = (handler call db).response ∧
      (app.guarded call db handler).database = (handler call db).database) := by
  unfold guarded
  simp only
  split
  · exact .inr ⟨rfl, rfl⟩
  · exact .inl ⟨rfl, rfl⟩

end App

end QuoteService.Service
