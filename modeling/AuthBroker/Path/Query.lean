import AuthBroker.Document.Basic
import AuthBroker.Path.Basic

/-!
The values of a document that a path addresses.

Each step turns the list of documents reached so far into the list of those one step further,
in order: a key leads into a table that has it, an index into a list where it is in range,
counted from the end when negative, and the wildcard to every value of a table or list.
-/

namespace AuthBroker

/-- The position that an index means in a list of the given length. -/
def Segment.position? (length : Nat) (index : Int) : Option Nat :=
  if 0 ≤ index then
    if index < length then some index.toNat else none
  else if -(length : Int) ≤ index then some (length + index).toNat
  else none

/-- The documents one step below a document. -/
def Segment.select : Segment → Document → List Document
  | .key name, .object entries => (Table.get? entries name).toList
  | .index i, .list items => ((position? items.length i).bind (items[·]?)).toList
  | .wildcard, .object entries => Table.values entries
  | .wildcard, .list items => items
  | _, _ => []

namespace Path

/-- The documents that a path addresses, in order. -/
def query (path : Path) (document : Document) : List Document :=
  path.foldl (fun reached step => reached.flatMap step.select) [document]

theorem query_nil (document : Document) : query [] document = [document] := rfl

/-- Steps taken from many documents at once are taken from each in turn. -/
theorem foldl_select (path : Path) (reached : List Document) :
    path.foldl (fun reached step => reached.flatMap step.select) reached =
      reached.flatMap path.query := by
  induction path generalizing reached with
  | nil => exact (List.flatMap_singleton' reached).symm
  | cons step rest ih =>
    rw [List.foldl_cons, ih, List.flatMap_assoc]
    refine congrArg (List.flatMap · reached) (funext fun d => ?_)
    rw [query, List.foldl_cons, ih]
    simp

theorem query_cons (step : Segment) (rest : Path) (document : Document) :
    query (step :: rest) document = (step.select document).flatMap rest.query := by
  rw [query, List.foldl_cons, foldl_select]
  simp

/-- A longer path continues from every document that the shorter one reaches. -/
theorem query_append (first second : Path) (document : Document) :
    query (first ++ second) document = (first.query document).flatMap second.query := by
  rw [query, List.foldl_append, foldl_select]
  rfl

/-- The document that a path addresses, when it addresses exactly one. -/
def single? (path : Path) (document : Document) : Option Document :=
  match path.query document with
  | [value] => some value
  | _ => none

theorem single?_eq_some_iff (path : Path) (document value : Document) :
    path.single? document = some value ↔ path.query document = [value] := by
  unfold single?
  constructor
  · intro h
    split at h
    · rename_i hquery
      cases h
      exact hquery
    · cases h
  · intro h
    rw [h]

end Path

namespace Document

def query (document : Document) (expression : String) : Except Path.Invalid (List Document) :=
  (Path.parse expression).map (·.query document)

/-- The document that an expression addresses, when it addresses exactly one. -/
def lookup (document : Document) (expression : String) : Except Path.Invalid (Option Document) :=
  (Path.parse expression).map (·.single? document)

end Document

end AuthBroker
