import BookCatalog.Search.Results

/-!
# The searches that a search is made of

A search for a keyword asks its backend for six searches, whatever the backend does and whatever
becomes of them.

* `Results.searches`, `Results.Sixfold` — the six searches, and what is asked of them;
* `Results.logged` — a backend that keeps what it is asked for;
* `Results.run_gather_logged` — a backend is asked for the six searches, and for nothing else.
-/

namespace BookCatalog

/-- What a search looks for: the values of its parameters, but for the closeness. -/
def Query.sought (query : Query) : List String :=
  (query.parameters.filter (·.1 ≠ "closeness")).map Prod.snd

namespace Results

/-- The six searches for a keyword, in the order in which they are made. -/
def searches (keyword : String) : List Query :=
  [.keyword keyword true, .regex keyword true, .keyword keyword false, .regex keyword false,
    .author keyword, .title keyword]

/-- One search of each of six kinds, all of them for the keyword alone. -/
structure Sixfold (keyword : String) (calls : List Query) : Prop where
  kinds : (calls.map Query.kind).Perm
    [.title, .author, .keyword false, .keyword true, .regex false, .regex true]
  sought : ∀ query ∈ calls, query.sought = [keyword]

theorem sixfold_searches (keyword : String) : Sixfold keyword (searches keyword) where
  kinds := by
    rw [show (searches keyword).map Query.kind = (searches "").map Query.kind from rfl]
    decide
  sought query hquery := by
    simp only [searches, List.mem_cons, List.not_mem_nil, or_false] at hquery
    rcases hquery with rfl | rfl | rfl | rfl | rfl | rfl <;> simp [Query.sought, Query.parameters]

section Logged

variable {m : Type → Type} [Monad m] (fetch : Query → m Outcome)

/-- A backend that also keeps the searches it is asked for, in order. -/
def logged (query : Query) : StateT (List Query) m Outcome := do
  modify (· ++ [query])
  fetch query

variable [LawfulMonad m]

theorem run_logged (query : Query) (calls : List Query) :
    (logged fetch query).run calls =
      (fun outcome => (outcome, calls ++ [query])) <$> fetch query := by
  simp [logged]

/-- **A search asks for its six searches**, and for nothing else, whatever the backend does and
whatever becomes of them. -/
theorem run_gather_logged (query : Option String) (calls : List Query) :
    (gather (logged fetch) query).run calls =
      (fun results => (results, calls ++ searches (query.getD ""))) <$> gather fetch query := by
  simp [gather, run_logged, searches]

end Logged

end Results

end BookCatalog
