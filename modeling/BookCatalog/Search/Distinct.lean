import BookCatalog.Book.Basic

/-!
# Lists without repetitions

Of several items with one key the first is kept, and the kept items stay in order.  Two records with
one identifier are the same book, whatever their other fields say.
-/

namespace BookCatalog

/-- The items whose key is neither among `seen` nor that of an item before them. -/
def distinctFrom {α κ : Type} [DecidableEq κ] (key : α → κ) (seen : List κ) : List α → List α
  | [] => []
  | a :: as =>
    if key a ∈ seen then distinctFrom key seen as
    else a :: distinctFrom key (key a :: seen) as

/-- The items whose key is not that of an item before them. -/
def distinctBy {α κ : Type} [DecidableEq κ] (key : α → κ) (items : List α) : List α :=
  distinctFrom key [] items

namespace Book

/-- The first record of each book. -/
def distinct (books : List Book) : List Book := distinctBy Book.id books

/-- The first record of each book in one list and then another. -/
def merge (first second : List Book) : List Book := distinct (first ++ second)

end Book

end BookCatalog
