/-!
# The store of quotes

A table of rows in the order of their numbers. The table itself refuses a quote that it holds
already, so `insert?` is safe whatever was looked up before it.

* `Store.quotes`: the view: the quotes in order.
* `Store.insert?`: appends a quote under a number one above all others.
* `Store.add`: looks a quote up and then inserts it.
* `Database`: a store, or no table yet.
-/

namespace QuoteService

/-- A stored quote. -/
structure Row where
  id : Nat
  quote : String
  deriving DecidableEq

/-- The rows of the table. -/
structure Store where
  rows : List Row
  deriving DecidableEq

namespace Store

/-- The empty store. -/
def empty : Store := ⟨[]⟩

/-- The quotes in order. -/
def quotes (s : Store) : List String := s.rows.map Row.quote

/-- Whether a quote is stored. -/
def contains (s : Store) (quote : String) : Bool := s.quotes.contains quote

/-- One above the greatest number in use. -/
def nextId (s : Store) : Nat := s.rows.foldl (fun n r => max n r.id) 0 + 1

/-- The store with one more row, unless it holds the quote. -/
def insert? (s : Store) (quote : String) : Option (Row × Store) :=
  if s.contains quote then none
  else
    let row : Row := ⟨s.nextId, quote⟩
    some (row, ⟨s.rows ++ [row]⟩)

/-- The quote is stored already, or is none. -/
structure Duplicate where
  quote : Option String
  deriving DecidableEq

/-- Adds a quote. A table that refuses the insertion is no different from a quote that was found. -/
def add (s : Store) (quote : Option String) : Except Duplicate (Row × Store) :=
  match quote with
  | none => .error ⟨none⟩
  | some q =>
    if s.contains q then .error ⟨some q⟩
    else
      match s.insert? q with
      | none => .error ⟨some q⟩
      | some added => .ok added

/-- Adds a quote while another writer stores the same quote between the look-up and the insertion.
The insertion is refused, and what is left is the other writer's store. -/
def addRaced (s : Store) (quote : Option String) : Duplicate × Store :=
  match quote with
  | none => (⟨none⟩, s)
  | some q =>
    match s.insert? q with
    | none => (⟨some q⟩, s)
    | some (_, others) => (⟨some q⟩, others)

/-- The quotes added one after another, and the number of each that was no duplicate. -/
def addAll (s : Store) (quotes : List (Option String)) : List (Option Nat) × Store :=
  quotes.foldl (fun (ids, s) quote =>
    match s.add quote with
    | .ok (row, s') => (ids ++ [some row.id], s')
    | .error _ => (ids ++ [none], s)) ([], s)

/-- The quote in one of the rows, whichever `pick` hits. -/
def random? (s : Store) (pick : Nat) : Option String := s.quotes[pick % s.quotes.length]?

/-- A store of distinct quotes, numbered from one. -/
def ofQuotes (quotes : List String) : Store := (empty.addAll (quotes.map some)).2

end Store

/-- The store, once its table has been created. -/
structure Database where
  table : Option Store
  deriving DecidableEq

namespace Database

/-- A database without a table. -/
def bare : Database := ⟨none⟩

/-- Creates the table if it is missing. -/
def createSchema (d : Database) : Database := ⟨some (d.table.getD .empty)⟩

/-- How many quotes are stored. -/
def size (d : Database) : Nat :=
  match d.table with
  | none => 0
  | some s => s.rows.length

end Database

end QuoteService
