import BookCatalog.Command.Basic
import BookCatalog.Proofs.Catalog.Outcome
import BookCatalog.Proofs.Search.Buckets

/-!
# Nothing found and nothing learned

What is shown of a search, section by section.  A section says that there are no results only where
every search behind it was answered with an empty list; where a search failed, it says so.

* `Bucket.Reports.eq_empty_iff` — the empty bucket stands for empty answers to all its searches;
* `View.header_eq_noResults_iff`, `View.tells_header_iff` — a header says which bucket it is of;
* `Config.showsFailures_of_ofConfig` — no failure is shown as an empty result.
-/

namespace BookCatalog

/-! ## Empty buckets -/

namespace Bucket.Reports

variable {answer : Query → Outcome} {sources : List Query} {b : Bucket}

theorem found_eq_nil_iff (h : b.Reports answer sources) :
    b.books = [] ↔ ∀ q ∈ sources, (answer q).found = [] := by
  rw [h.books_eq, ← distinctBy_eq_firsts, distinctBy_eq_nil_iff, List.flatMap_eq_nil_iff]

theorem eq_empty_iff (h : b.Reports answer sources) :
    b = .available [] ↔ ∀ q ∈ sources, answer q = .ok [] := by
  constructor
  · rintro rfl q hq
    obtain ⟨books, hbooks⟩ := h.available_iff.1 ⟨[], rfl⟩ q hq
    have hfound := h.found_eq_nil_iff.1 rfl q hq
    rw [hbooks] at hfound ⊢
    exact congrArg Except.ok hfound
  · intro hall
    obtain ⟨books, rfl⟩ := h.available_iff.2 fun q hq => ⟨[], hall q hq⟩
    have hbooks : books = [] := h.found_eq_nil_iff.2 fun q hq => by rw [hall q hq]; rfl
    rw [hbooks]

theorem failure_isSome_iff (h : b.Reports answer sources) :
    (∃ reason, b.failure? = some reason) ↔ ∃ q ∈ sources, ∀ books, answer q ≠ .ok books := by
  have havailable : (∃ reason, b.failure? = some reason) ↔ ¬ ∃ books, b = .available books := by
    cases b <;> simp [failure?]
  rw [havailable, h.available_iff]
  simp

end Bucket.Reports

/-! ## Headers -/

namespace View

def noResults (what keyword : String) : String :=
  line ("No results found of books' " ++ what ++ " containing \"" ++ keyword ++ "\"")

def counted (count : Nat) (what keyword : String) : String :=
  Decimal.natural count ++ " results of books' " ++ what ++ " containing \"" ++ keyword ++ "\""

/-- The headers that tell of failed searches. -/
inductive Tells (what keyword : String) : String → Prop
  | unavailable (reason : String) : Tells what keyword
      (line ("Search of books' " ++ what ++ " is temporarily unavailable (" ++ reason ++ ")"))
  | partiallyUnavailable (reason : String) : Tells what keyword
      (line ("Search of books' " ++ what ++ " is partially unavailable (" ++ reason ++ ")"))
  | incomplete (count : Nat) (reason : String) (h : count ≠ 0) : Tells what keyword
      (line (counted count what keyword ++ (" (partial: " ++ reason ++ ")")))

theorem natural_append_ne (n : Nat) (s : String) {t : String} {c : Char}
    (ht : t.toList.head? = some c) (hc : c.isDigit = false) : Decimal.natural n ++ s ≠ t := by
  rintro rfl
  obtain ⟨d, ds, hd⟩ := List.exists_cons_of_ne_nil (Decimal.digits_ne_nil n)
  have hdigit : d.isDigit = true := Decimal.isDigit_of_mem_digits (by rw [hd]; simp)
  rw [String.toList_append, Decimal.natural, String.toList_ofList, hd] at ht
  obtain rfl : d = c := by simpa using ht
  rw [hdigit] at hc
  cases hc

section

variable (what keyword : String)

theorem head?_noResults : (noResults what keyword).toList.head? = some 'N' := by
  simp [noResults, line]

theorem counted_ne (count : Nat) (s : String) {t : String} {c : Char}
    (ht : t.toList.head? = some c) (hc : c.isDigit = false) :
    line (counted count what keyword ++ s) ≠ t := by
  simp only [line, counted, String.append_assoc]
  exact natural_append_ne count _ ht hc

theorem header_available {books : List Book} (h : books ≠ []) :
    header what keyword (.available books) = line (counted books.length what keyword ++ "") := by
  simp [header, counted, h]

theorem header_partially {books : List Book} (h : books ≠ []) (reason : String) :
    header what keyword (.partially books reason) =
      line (counted books.length what keyword ++ (" (partial: " ++ reason ++ ")")) := by
  simp only [header, if_neg h, counted, String.append_assoc]

theorem tells_header_of_failure {b : Bucket} {reason : String} (h : b.failure? = some reason) :
    Tells what keyword (header what keyword b) := by
  cases b with
  | available books => cases h
  | unavailable reason => exact .unavailable reason
  | partially books reason =>
    by_cases hbooks : books = []
    · rw [header, if_pos hbooks]
      exact .partiallyUnavailable reason
    · rw [header_partially what keyword hbooks]
      exact .incomplete _ _ (by simpa using hbooks)

/-- What tells of failures is neither a line without results nor a count that ends with the
keyword. -/
theorem Tells.ne {s : String} (h : Tells what keyword s) :
    s ≠ noResults what keyword ∧ ∀ count, s ≠ line (counted count what keyword ++ "") := by
  have hnone := head?_noResults what keyword
  have hsearch : s.toList.head? = some 'S' → s ≠ noResults what keyword ∧
      ∀ count, s ≠ line (counted count what keyword ++ "") := by
    intro hs
    refine ⟨fun heq => ?_, fun count heq => counted_ne what keyword count "" hs rfl heq.symm⟩
    rw [heq, hnone] at hs
    cases hs
  cases h with
  | unavailable reason => exact hsearch (by simp [line])
  | partiallyUnavailable reason => exact hsearch (by simp [line])
  | incomplete n reason h =>
    refine ⟨counted_ne what keyword n _ hnone rfl, fun count heq => ?_⟩
    -- the first ends with a bracket, the second with a quotation mark
    have hlast := congrArg (fun s : String => s.toList.reverse) heq
    simp [line, counted] at hlast

/-- **A header** tells of failures exactly where there were some. -/
theorem tells_header_iff (b : Bucket) :
    Tells what keyword (header what keyword b) ↔ ∃ reason, b.failure? = some reason := by
  constructor
  · intro h
    cases b with
    | available books =>
      by_cases hbooks : books = []
      · exact absurd (by rw [hbooks]; rfl) h.ne.1
      · exact absurd (header_available what keyword hbooks) (h.ne.2 _)
    | partially books reason => exact ⟨reason, rfl⟩
    | unavailable reason => exact ⟨reason, rfl⟩
  · rintro ⟨reason, h⟩
    exact tells_header_of_failure what keyword h

/-- **A header** says that there are no results exactly for the bucket of empty answers. -/
theorem header_eq_noResults_iff (b : Bucket) :
    header what keyword b = noResults what keyword ↔ b = .available [] := by
  constructor
  · intro h
    cases b with
    | available books =>
      by_cases hbooks : books = []
      · rw [hbooks]
      · rw [header_available what keyword hbooks] at h
        exact absurd h (counted_ne what keyword _ "" (head?_noResults what keyword) rfl)
    | partially books reason =>
      exact absurd h (tells_header_of_failure what keyword (show _ = some reason from rfl)).ne.1
    | unavailable reason =>
      exact absurd h (tells_header_of_failure what keyword (show _ = some reason from rfl)).ne.1
  · rintro rfl
    rfl

end

/-! ## Sections -/

/-- The sections of a shown search, in their order. -/
inductive Section where
  | titles
  | content
  | authors

namespace Section

def what : Section → String
  | .titles => "titles"
  | .content => "content"
  | .authors => "authors' names"

def bucketName (order : Order) : Section → BucketName
  | .titles => .titles
  | .content =>
    match order with
    | .relevance => .content
    | .closeness => .orderedContent
  | .authors => .authors

def head (s : Section) (order : Order) (r : Results) : String :=
  header s.what r.keyword (r.bucket (s.bucketName order))

def body (s : Section) (order : Order) (r : Results) : String :=
  let books := (r.bucket (s.bucketName order)).books
  match s with
  | .content => (if books = [] then "" else line ("Ordered by " ++ order.label)) ++ entries books
  | _ => entries books

def shown (s : Section) (order : Order) (r : Results) : String := s.head order r ++ s.body order r

end Section

theorem results_eq_sections (order : Order) (r : Results) :
    results order r = Section.shown .titles order r ++ "\n" ++ Section.shown .content order r ++
      "\n" ++ Section.shown .authors order r := by
  have hbucket : order.bucket r = r.bucket (Section.bucketName order .content) := by
    cases order <;> rfl
  have hcontent : contentSection order r.keyword (order.bucket r) =
      Section.shown .content order r := by
    rw [hbucket]
    by_cases h : (r.bucket (Section.bucketName order .content)).books = [] <;>
      simp [contentSection, Section.shown, Section.head, Section.body, Section.what, h,
        String.append_assoc]
  rw [results, hcontent]
  rfl

end View

/-! ## What is shown -/

namespace Config

open View

/-- What settings with a client show of a catalog: a search without results and a search that failed
look different, and so do suggestions. -/
structure ShowsFailures (c : Config) (client : Client) (catalog : Catalog) : Prop where
  search : ∀ (query : Option String) (order : Order) (sent : List Url), ∃ r : Results,
    r.keyword = query.getD "" ∧ ((c.search catalog query).run sent).1 = .ok r ∧
    ((c.showSearch catalog query order .text).run sent).1 =
      .ok (Section.shown .titles order r ++ "\n" ++ Section.shown .content order r ++ "\n" ++
        Section.shown .authors order r) ∧
    ∀ s : Section,
      (s.head order r = noResults s.what r.keyword ↔
        ∀ q ∈ (s.bucketName order).sources r.keyword, client.Answered catalog q []) ∧
      (Tells s.what r.keyword (s.head order r) ↔
        ∃ q ∈ (s.bucketName order).sources r.keyword, ∀ books, ¬ client.Answered catalog q books)
  noSuggestions : ∀ (terms : List String) (sent : List Url),
    ((c.showSuggestions catalog terms .text).run sent).1 = .ok "No suggestions found\n" ↔
      client.Answered catalog (.suggestions terms) []
  suggestions : ∀ (terms : List String) (sent : List Url),
    (∃ e, ((c.showSuggestions catalog terms .text).run sent).1 = .error e) ↔
      ∀ books, ¬ client.Answered catalog (.suggestions terms) books

variable {c : Config} {client : Client}

theorem run_search (hc : Client.ofConfig c = .ok client) (catalog : Catalog)
    (query : Option String) (sent : List Url) :
    ((c.search catalog query).run sent).1 =
      .ok (Results.ofAnswers (client.outcome catalog) (query.getD "")) := by
  have hgather := Results.run_gather (client.run_search catalog) query sent
  rw [search, withClient, hc]
  exact congrArg Except.ok hgather

theorem run_suggestions (hc : Client.ofConfig c = .ok client) (catalog : Catalog)
    (terms : List String) (sent : List Url) :
    ((c.suggestions catalog terms).run sent).1 =
      (client.outcome catalog (.suggestions terms)).map Book.distinct := by
  have hsearch := client.run_search catalog (.suggestions terms) sent
  rw [suggestions, withClient, hc]
  exact congrArg (Except.map Book.distinct) hsearch

/-- **A section** says that there are no results iff all its searches were answered with an empty
list, and it tells of a failure iff one of them was not answered with a list. -/
theorem section_ofAnswers (client : Client) (catalog : Catalog) (keyword : String) (order : Order)
    (s : Section) :
    let r := Results.ofAnswers (client.outcome catalog) keyword
    (s.head order r = noResults s.what keyword ↔
      ∀ q ∈ (s.bucketName order).sources keyword, client.Answered catalog q []) ∧
    (Tells s.what keyword (s.head order r) ↔
      ∃ q ∈ (s.bucketName order).sources keyword, ∀ books, ¬ client.Answered catalog q books) := by
  intro r
  have hreports : (r.bucket (s.bucketName order)).Reports (client.outcome catalog)
      ((s.bucketName order).sources keyword) :=
    Results.reports_ofAnswers (client.outcome catalog) keyword (s.bucketName order)
  simp only [← Client.outcome_eq_ok_iff]
  exact ⟨(header_eq_noResults_iff s.what keyword _).trans hreports.eq_empty_iff,
    (tells_header_iff s.what keyword _).trans hreports.failure_isSome_iff⟩

theorem suggestions_eq_iff (books : List Book) :
    View.suggestions books = "No suggestions found\n" ↔ books = [] := by
  constructor
  · intro h
    by_contra hbooks
    rw [View.suggestions, if_neg hbooks, line, String.append_assoc, String.append_assoc] at h
    exact natural_append_ne (c := 'N') _ _ (by simp) rfl h
  · rintro rfl
    rfl

/-- **No failure is shown as an empty result.** -/
theorem showsFailures_of_ofConfig (hc : Client.ofConfig c = .ok client) (catalog : Catalog) :
    c.ShowsFailures client catalog where
  search query order sent := by
    have hrun := run_search hc catalog query sent
    refine ⟨_, rfl, hrun, ?_, fun s => section_ofAnswers client catalog _ order s⟩
    rw [← results_eq_sections]
    exact congrArg (present (View.results order)) hrun
  noSuggestions terms sent := by
    have hshown := congrArg (present View.suggestions) (run_suggestions hc catalog terms sent)
    rw [← Client.outcome_eq_ok_iff]
    refine (Eq.congr_left hshown).trans ?_
    cases h : client.outcome catalog (.suggestions terms) with
    | ok books =>
      simp [present, Except.map, suggestions_eq_iff, Book.distinct, distinctBy_eq_nil_iff]
    | error e => simp [present, Except.map]
  suggestions terms sent := by
    have hshown := congrArg (present View.suggestions) (run_suggestions hc catalog terms sent)
    simp only [← Client.outcome_eq_ok_iff]
    refine (exists_congr fun e => Eq.congr_left hshown).trans ?_
    cases h : client.outcome catalog (.suggestions terms) with
    | ok books => simp [present, Except.map]
    | error e => simp [present, Except.map]

/-- Settings with a client show the failures of a catalog that is not there. -/
theorem showsFailures_of_ofConfig_loopback :
    ∃ client, ShowsFailures ⟨"http://[::1]/api", 30, none⟩ client fun _ => .unreachable := by
  let base : Url :=
    { secure := false, user := [], password := [], host := .ipv6 [0, 0, 0, 0, 0, 0, 0, 1]
      port := none, path := [['a', 'p', 'i']], query := none, fragment := none }
  let c : Config := ⟨"http://[::1]/api", 30, none⟩
  have hvalid : c.validate = .ok base := by decide +kernel
  have hendpoint : Url.parse c.endpointText = .ok (.page (base.push "books")) := by decide +kernel
  have hagent : c.agent = .ok Config.defaultUserAgent := by decide +kernel
  have hc := Client.ofConfig_of_parse hvalid hendpoint hagent
  exact ⟨_, showsFailures_of_ofConfig hc fun _ => .unreachable⟩

end Config

end BookCatalog
