import BookCatalog.Search.Distinct
import BookCatalog.Search.Error
import BookCatalog.Search.Query

/-!
# Results of a search

A search fills four buckets, each from one or two kinds of request.  A bucket says whether all its
requests were answered, some, or none; an empty list means "no matches" only in the first case.
-/

namespace BookCatalog

/-- The books that one or two requests found, and what became of the requests. -/
inductive Bucket where
  /-- Every request was answered. -/
  | available (books : List Book)
  /-- Some request failed; the books are those that the others found. -/
  | partially (books : List Book) (reason : String)
  /-- Every request failed. -/
  | unavailable (reason : String)
  deriving DecidableEq

abbrev Outcome := Except SearchError (List Book)

namespace Bucket

def books : Bucket → List Book
  | .available books => books
  | .partially books _ => books
  | .unavailable _ => []

/-- Some request was answered. -/
def isAvailable : Bucket → Bool
  | .unavailable _ => false
  | _ => true

/-- Some request failed. -/
def isDegraded : Bucket → Bool
  | .available _ => false
  | _ => true

/-- Why requests failed. -/
def failure? : Bucket → Option String
  | .available _ => none
  | .partially _ reason => some reason
  | .unavailable reason => some reason

def value : Bucket → Json.Value
  | .available books => .object [("status", .text "available"), ("books", Book.listValue books)]
  | .partially books reason =>
    .object [("status", .text "partial"), ("books", Book.listValue books), ("reason", .text reason)]
  | .unavailable reason => .object [("status", .text "unavailable"), ("reason", .text reason)]

/-- The words for a failed request of a kind. -/
def blame (kind : Kind) (e : SearchError) : String := kind.name ++ ": " ++ e.message

def ofOutcome : Outcome → Bucket
  | .ok books => .available (Book.distinct books)
  | .error e => .unavailable e.message

def ofOutcomes (first : Kind) (a : Outcome) (second : Kind) (b : Outcome) : Bucket :=
  match a, b with
  | .ok xs, .ok ys => .available (Book.merge xs ys)
  | .ok xs, .error e => .partially (Book.distinct xs) (blame second e)
  | .error e, .ok ys => .partially (Book.distinct ys) (blame first e)
  | .error e, .error f => .unavailable (blame first e ++ "; " ++ blame second f)

end Bucket

inductive BucketName where
  | titles
  | authors
  | content
  | orderedContent
  deriving DecidableEq

def BucketName.word : BucketName → String
  | .titles => "booksByTitle"
  | .authors => "booksByAuthor"
  | .content => "booksByKeywordOrRegex"
  | .orderedContent => "booksByKeywordOrRegexOrdered"

def BucketName.all : List BucketName := [.titles, .authors, .content, .orderedContent]

structure Results where
  keyword : String
  titles : Bucket
  authors : Bucket
  content : Bucket
  orderedContent : Bucket
  deriving DecidableEq

namespace Results

def bucket (results : Results) : BucketName → Bucket
  | .titles => results.titles
  | .authors => results.authors
  | .content => results.content
  | .orderedContent => results.orderedContent

/-- Every request of the search failed. -/
def isUnavailable (results : Results) : Bool :=
  BucketName.all.all fun name => !(results.bucket name).isAvailable

def value (results : Results) : Json.Value :=
  .object [
    ("keyword", .text results.keyword),
    ("data", .object (BucketName.all.map fun name => (name.word, (results.bucket name).value)))]

/-- The results of a search whose requests go through `fetch`: six of them, all for the keyword.  A
search without a keyword looks for the empty text. -/
def gather {m : Type → Type} [Monad m] (fetch : Query → m Outcome) (query : Option String) :
    m Results := do
  let keyword := query.getD ""
  let rankedKeyword ← fetch (.keyword keyword true)
  let rankedRegex ← fetch (.regex keyword true)
  let plainKeyword ← fetch (.keyword keyword false)
  let plainRegex ← fetch (.regex keyword false)
  let author ← fetch (.author keyword)
  let title ← fetch (.title keyword)
  return {
    keyword := keyword
    titles := .ofOutcome title
    authors := .ofOutcome author
    content := .ofOutcomes (.keyword false) plainKeyword (.regex false) plainRegex
    orderedContent := .ofOutcomes (.keyword true) rankedKeyword (.regex true) rankedRegex }

end Results

end BookCatalog
