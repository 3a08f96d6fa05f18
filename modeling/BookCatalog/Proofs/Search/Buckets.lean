import BookCatalog.Proofs.Search.Distinct
import BookCatalog.Search.Results

/-!
# What a bucket says of its searches

A bucket is filled from one or two of the six searches.  What it says follows from the answers to
these searches alone.

* `Bucket.Reports` — the status, the books and the reason of a bucket, said by the answers;
* `Bucket.reports_ofOutcome`, `Bucket.reports_ofOutcomes` — the two ways to fill a bucket;
* `Results.gather_reports` — every bucket of a search reports its own sources and nothing else.
-/

namespace BookCatalog

/-- The searches that fill a bucket, in the order in which their books are listed. -/
def BucketName.sources (keyword : String) : BucketName → List Query
  | .titles => [.title keyword]
  | .authors => [.author keyword]
  | .content => [.keyword keyword false, .regex keyword false]
  | .orderedContent => [.keyword keyword true, .regex keyword true]

/-- The books that a search found; a failed search found none. -/
def Outcome.found : Outcome → List Book
  | .ok books => books
  | .error _ => []

/-- The words for the failed ones among some searches, each behind the name of its kind. -/
def failures (answer : Query → Outcome) (sources : List Query) : List String :=
  sources.filterMap fun q =>
    match answer q with
    | .ok _ => none
    | .error e => some (q.kind.name ++ ": " ++ e.message)

/-- Why books may be missing.  Where there is one search, its failure speaks for itself. -/
def missingReason (answer : Query → Outcome) : List Query → Option String
  | [q] =>
    match answer q with
    | .ok _ => none
    | .error e => some e.message
  | sources =>
    match failures answer sources with
    | [] => none
    | reasons => some (Text.join "; " reasons)

/-- What a bucket says of the searches that fill it. -/
structure Bucket.Reports (answer : Query → Outcome) (sources : List Query) (b : Bucket) :
    Prop where
  available_iff : (∃ books, b = .available books) ↔ ∀ q ∈ sources, ∃ books, answer q = .ok books
  unavailable_iff : (∃ reason, b = .unavailable reason) ↔ ∀ q ∈ sources, ∃ e, answer q = .error e
  /-- One of two searches failed and the other did not. -/
  partially_iff : (∃ books reason, b = .partially books reason) ↔
    ∃ p q, (sources = [p, q] ∨ sources = [q, p]) ∧ (∃ books, answer p = .ok books) ∧
      ∃ e, answer q = .error e
  books_eq : b.books = firsts Book.id (sources.flatMap fun q => (answer q).found)
  mem_iff : ∀ id, (∃ book ∈ b.books, book.id = id) ↔
    ∃ q ∈ sources, ∃ books, answer q = .ok books ∧ ∃ book ∈ books, book.id = id
  failure_eq : b.failure? = missingReason answer sources

/-! ## The two ways to fill a bucket -/

namespace Bucket

variable (answer : Query → Outcome)

theorem mem_found_iff (sources : List Query) (id : Id) :
    (∃ book ∈ sources.flatMap fun q => (answer q).found, book.id = id) ↔
      ∃ q ∈ sources, ∃ books, answer q = .ok books ∧ ∃ book ∈ books, book.id = id := by
  constructor
  · rintro ⟨book, hbook, rfl⟩
    obtain ⟨q, hq, hfound⟩ := List.mem_flatMap.1 hbook
    refine ⟨q, hq, ?_⟩
    cases hans : answer q with
    | error e => simp [hans, Outcome.found] at hfound
    | ok books => exact ⟨books, rfl, book, by simpa [hans, Outcome.found] using hfound, rfl⟩
  · rintro ⟨q, hq, books, hans, book, hbook, rfl⟩
    exact ⟨book, List.mem_flatMap.2 ⟨q, hq, by simpa [hans, Outcome.found] using hbook⟩, rfl⟩

/-- Of a bucket that keeps the first occurrences among the books found, nothing more has to be said
about its books. -/
theorem mem_books_iff {sources : List Query} {b : Bucket}
    (h : b.books = Book.distinct (sources.flatMap fun q => (answer q).found)) (id : Id) :
    (∃ book ∈ b.books, book.id = id) ↔
      ∃ q ∈ sources, ∃ books, answer q = .ok books ∧ ∃ book ∈ books, book.id = id := by
  rw [h, Book.distinct, exists_mem_distinctBy_iff, mem_found_iff]

theorem join_pair (sep a b : String) : Text.join sep [a, b] = a ++ sep ++ b := by
  rw [← String.toList_inj]
  simp [Text.join, Text.joined, List.intercalate]

theorem join_singleton (sep a : String) : Text.join sep [a] = a := by
  simp [Text.join, Text.joined, List.intercalate]

theorem reports_ofOutcome (q : Query) : (ofOutcome (answer q)).Reports answer [q] := by
  have hbooks : (ofOutcome (answer q)).books =
      Book.distinct ([q].flatMap fun q => (answer q).found) := by
    cases h : answer q <;> simp [ofOutcome, books, Outcome.found, h]
    rfl
  refine ⟨?_, ?_, ?_, ?_, mem_books_iff answer hbooks, ?_⟩
  · cases h : answer q <;> simp [ofOutcome, h]
  · cases h : answer q <;> simp [ofOutcome, h]
  · cases h : answer q <;> simp [ofOutcome]
  · rw [hbooks, Book.distinct, distinctBy_eq_firsts]
  · cases h : answer q <;> simp [ofOutcome, failure?, missingReason, h]

theorem reports_ofOutcomes (p q : Query) :
    (ofOutcomes p.kind (answer p) q.kind (answer q)).Reports answer [p, q] := by
  have hbooks : (ofOutcomes p.kind (answer p) q.kind (answer q)).books =
      Book.distinct ([p, q].flatMap fun q => (answer q).found) := by
    cases hp : answer p <;> cases hq : answer q <;>
      simp [ofOutcomes, books, Outcome.found, Book.merge, hp, hq]
    rfl
  refine ⟨?_, ?_, ?_, ?_, mem_books_iff answer hbooks, ?_⟩
  · cases hp : answer p <;> cases hq : answer q <;> simp [ofOutcomes, hp, hq]
  · cases hp : answer p <;> cases hq : answer q <;> simp [ofOutcomes, hp, hq]
  · constructor
    · rintro ⟨books, reason, h⟩
      cases hp : answer p with
      | ok xs =>
        cases hq : answer q with
        | ok ys => simp [ofOutcomes, hp, hq] at h
        | error e => exact ⟨p, q, Or.inl rfl, ⟨xs, hp⟩, e, hq⟩
      | error e =>
        cases hq : answer q with
        | ok ys => exact ⟨q, p, Or.inr rfl, ⟨ys, hq⟩, e, hp⟩
        | error f => simp [ofOutcomes, hp, hq] at h
    · rintro ⟨r, s, hrs, ⟨xs, hr⟩, e, hs⟩
      rcases hrs with h | h
      · obtain ⟨rfl, rfl⟩ : p = r ∧ q = s := by simpa using h
        simp [ofOutcomes, hr, hs]
      · obtain ⟨rfl, rfl⟩ : p = s ∧ q = r := by simpa using h
        simp [ofOutcomes, hr, hs]
  · rw [hbooks, Book.distinct, distinctBy_eq_firsts]
  · cases hp : answer p <;> cases hq : answer q <;>
      simp [ofOutcomes, failure?, missingReason, failures, blame, join_pair, join_singleton, hp, hq]

end Bucket

/-! ## All buckets of a search -/

/-- A backend that answers every search from a table, whatever else it does. -/
def answering {σ : Type} (answer : Query → Outcome) (effect : Query → σ → σ) (q : Query) :
    StateM σ Outcome :=
  fun s => (answer q, effect q s)

namespace Results

/-- The results of a search, by the answers to its six requests. -/
def ofAnswers (answer : Query → Outcome) (keyword : String) : Results where
  keyword := keyword
  titles := .ofOutcome (answer (.title keyword))
  authors := .ofOutcome (answer (.author keyword))
  content := .ofOutcomes (.keyword false) (answer (.keyword keyword false))
    (.regex false) (answer (.regex keyword false))
  orderedContent := .ofOutcomes (.keyword true) (answer (.keyword keyword true))
    (.regex true) (answer (.regex keyword true))

theorem reports_ofAnswers (answer : Query → Outcome) (keyword : String) (name : BucketName) :
    ((ofAnswers answer keyword).bucket name).Reports answer (name.sources keyword) := by
  cases name with
  | titles => exact Bucket.reports_ofOutcome answer (.title keyword)
  | authors => exact Bucket.reports_ofOutcome answer (.author keyword)
  | content =>
    exact Bucket.reports_ofOutcomes answer (.keyword keyword false) (.regex keyword false)
  | orderedContent =>
    exact Bucket.reports_ofOutcomes answer (.keyword keyword true) (.regex keyword true)

theorem bucket_ofAnswers_congr {answer answer' : Query → Outcome} {keyword : String}
    {name : BucketName} (h : ∀ q ∈ name.sources keyword, answer' q = answer q) :
    (ofAnswers answer' keyword).bucket name = (ofAnswers answer keyword).bucket name := by
  cases name <;> simp_all [BucketName.sources, ofAnswers, bucket]

theorem run_gather {σ : Type} {fetch : Query → StateM σ Outcome} {answer : Query → Outcome}
    (h : ∀ q s, ((fetch q).run s).1 = answer q) (query : Option String) (s : σ) :
    ((gather fetch query).run s).1 = ofAnswers answer (query.getD "") := by
  have hfetch : fetch = answering answer fun q s => ((fetch q).run s).2 := by
    funext q s
    exact Prod.ext (h q s) rfl
  rw [hfetch]
  rfl

/-- **Every bucket reports its own sources and nothing else**: its status, its books, which are the
first occurrences in what the answered searches found, and its reason. -/
theorem gather_reports {σ : Type} (answer : Query → Outcome) (effect : Query → σ → σ)
    (query : Option String) (s : σ) :
    let r := ((gather (answering answer effect) query).run s).1
    r.keyword = query.getD "" ∧
    (∀ name, (r.bucket name).Reports answer (name.sources r.keyword)) ∧
    ∀ (name : BucketName) (answer' : Query → Outcome) (effect' : Query → σ → σ) (s' : σ),
      (∀ q ∈ name.sources r.keyword, answer' q = answer q) →
        ((gather (answering answer' effect') query).run s').1.bucket name = r.bucket name := by
  intro r
  have hrun : ∀ (answer : Query → Outcome) (effect : Query → σ → σ) (s : σ),
      ((gather (answering answer effect) query).run s).1 = ofAnswers answer (query.getD "") :=
    fun answer effect s => run_gather (fun _ _ => rfl) query s
  have hr : r = ofAnswers answer (query.getD "") := hrun answer effect s
  refine ⟨by rw [hr]; rfl, fun name => ?_, fun name answer' effect' s' h => ?_⟩
  · rw [hr]
    exact reports_ofAnswers answer (query.getD "") name
  · rw [hrun, hr]
    rw [hr] at h
    exact bucket_ofAnswers_congr h

end Results

end BookCatalog
