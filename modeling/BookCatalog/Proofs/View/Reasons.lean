import BookCatalog.Proofs.Catalog.Searches
import BookCatalog.Proofs.Json.Wording
import BookCatalog.Proofs.Url.OneLine
import BookCatalog.Proofs.View.Lines

/-!
# Reasons of one line

Why a search failed is said in one line, whatever the catalog answered: a reason is put together of
fixed words, of addresses as they are written and of what is said of a JSON text.

* `Catalog.isOneLine_of_onward`, `Catalog.isOneLine_of_follow` — the addresses that redirects lead
  to, one of them and all that are followed;
* `Client.isOneLine_of_outcome` — the words for a failed search;
* `Config.isOneLine_failures_of_ofConfig` — the reasons in the buckets of a search, and the headers
  that show them.
-/

namespace BookCatalog

open Text

/-! ## Failed requests -/

def FetchError.page : FetchError → Url
  | .building page => page
  | .sending first => first
  | .following page => page

theorem FetchError.isOneLine_message {e : FetchError} (h : e.page.IsOneLine) :
    IsOneLine e.message := by
  have hnamed : ∀ {front : String}, IsOneLine front → IsOneLine (front ++ e.page.toText ++ ")") :=
    fun hfront => (hfront.append (Url.isOneLine_toText h)).append (by decide)
  cases e with
  | building page => exact hnamed (by decide)
  | sending first => exact hnamed (by decide)
  | following page => exact hnamed (by decide)

namespace Catalog

/-- **One redirect** leads from an address of one line to another. -/
theorem isOneLine_of_onward {first page next : Url} {reply : Reply} (hpage : page.IsOneLine)
    (h : hop first page reply = .onward next) : next.IsOneLine := by
  unfold hop at h
  split at h
  · next answer =>
    split at h
    · cases h
    · cases h
    · next hnext =>
      cases h
      unfold redirect? at hnext
      split at hnext
      · obtain ⟨location, -, hread⟩ := Option.bind_eq_some_iff.1 hnext
        split at hread
        · next hresolved =>
          split at hread
          · cases hread
            exact hpage.resolve hresolved
          · cases hread
        · cases hread
        · cases hread
      · cases hnext
  · cases h

/-- Where a reply ends a fetch, a failure names the address first asked for. -/
theorem page_of_ending {first page : Url} {reply : Reply} {e : FetchError}
    (h : hop first page reply = .ending (.error e)) : e.page = first := by
  unfold hop at h
  split at h
  · split at h
    · cases h
    · cases h
      rfl
    · cases h
  · cases h
    rfl

/-- **Following redirects** from an address of one line fails with one, whatever is answered on the
way. -/
theorem isOneLine_of_follow {catalog : Catalog} {first page : Url} {left : Nat} {sent : List Url}
    {e : FetchError} (hfirst : first.IsOneLine) (hpage : page.IsOneLine)
    (h : ((catalog.follow first left page).run sent).1 = .error e) : e.page.IsOneLine := by
  -- the invariant: the page at which a fetch has arrived is of one line
  induction left generalizing page sent with
  | zero =>
    cases hhop : hop first page (catalog page.requested) with
    | ending result =>
      rw [(follow_makes_of_ending hhop 0).run_fst] at h
      rw [h] at hhop
      rwa [page_of_ending hhop]
    | onward next =>
      rw [(follow_makes_zero hhop).run_fst] at h
      cases h
      exact hpage
  | succ left ih =>
    cases hhop : hop first page (catalog page.requested) with
    | ending result =>
      rw [(follow_makes_of_ending hhop _).run_fst] at h
      rw [h] at hhop
      rwa [page_of_ending hhop]
    | onward next =>
      obtain ⟨result, made, hmade, -⟩ := follow_makes catalog first left next
      rw [(follow_makes_succ hhop hmade).run_fst] at h
      exact ih (isOneLine_of_onward hpage hhop) ((hmade.run_fst sent).trans h)

theorem isOneLine_of_fetch {catalog : Catalog} {url : Url} {sent : List Url} {e : FetchError}
    (hurl : url.IsOneLine) (h : ((catalog.fetch url).run sent).1 = .error e) :
    e.page.IsOneLine := by
  unfold fetch at h
  split at h
  · exact isOneLine_of_follow hurl hurl h
  · cases h
    exact hurl

end Catalog

/-! ## Failed searches -/

theorem Kind.isOneLine_name (kind : Kind) : IsOneLine kind.name := by
  rcases kind with _ | _ | (_ | _) | (_ | _) | _ | _ <;> decide

theorem Status.isOneLine_text (code : Nat) : IsOneLine (text code) := by
  have hphrase : IsOneLine ((phrase? code).getD "<unknown status code>") := by
    unfold phrase?
    split <;> decide
  exact ((isOneLine_natural code).append (by decide)).append hphrase

/-- What the words for a failure end with. -/
def SearchError.detail : SearchError → String
  | .transport detail => detail
  | .malformed detail => detail
  | .notFound id => id
  | .config detail => detail

theorem SearchError.isOneLine_message {e : SearchError} (h : IsOneLine e.detail) :
    IsOneLine e.message := by
  cases e with
  | transport detail => exact IsOneLine.append (by decide) h
  | malformed detail => exact IsOneLine.append (by decide) h
  | notFound id => exact IsOneLine.append (by decide) h
  | config detail => exact IsOneLine.append (by decide) h

namespace Client

variable {kind : Kind} {e : SearchError}

theorem isOneLine_of_received {reply : Except FetchError Answer}
    (hreply : ∀ f, reply = .error f → f.page.IsOneLine) (h : received kind reply = .error e) :
    IsOneLine e.detail := by
  unfold received at h
  split at h
  · next f =>
    cases h
    exact (kind.isOneLine_name.append (by decide)).append
      (FetchError.isOneLine_message (hreply f rfl))
  · split at h
    · cases h
    · cases h
      exact kind.isOneLine_name.append (by decide)

theorem isOneLine_of_parseBody {body : String} (h : parseBody Book.decodeAll kind body = .error e) :
    IsOneLine e.detail := by
  unfold parseBody at h
  split at h
  · cases h
  · next fault hfault =>
    cases h
    exact (kind.isOneLine_name.append (by decide)).append (Book.isOneLine_of_decodeAll hfault)

theorem isOneLine_refused (kind : Kind) (status : Nat) : IsOneLine (refused kind status).detail :=
  (kind.isOneLine_name.append (by decide)).append (Status.isOneLine_text status)

theorem isOneLine_of_booksOf {reply : Except FetchError Answer}
    (hreply : ∀ f, reply = .error f → f.page.IsOneLine) (h : booksOf kind reply = .error e) :
    IsOneLine e.detail := by
  unfold booksOf at h
  cases hanswer : received kind reply with
  | error f =>
    rw [hanswer] at h
    cases h
    exact isOneLine_of_received hreply hanswer
  | ok answer =>
    rw [hanswer] at h
    simp only [bind, Except.bind] at h
    split at h
    · exact isOneLine_of_parseBody h
    · cases h
      exact isOneLine_refused kind answer.status

theorem isOneLine_searchUrl {client : Client} (h : client.endpoint.IsOneLine) (query : Query) :
    (client.searchUrl query).IsOneLine :=
  h.withoutUser.addPairs query.parameters

/-- **The words for a failed search** are one line, whatever the catalog answered. -/
theorem isOneLine_of_outcome {client : Client} {catalog : Catalog} {query : Query}
    (hclient : client.endpoint.IsOneLine) (h : client.outcome catalog query = .error e) :
    IsOneLine e.message := by
  have hbooks : booksOf query.kind ((catalog.fetch (client.searchUrl query)).run []).1 = .error e :=
    h
  exact SearchError.isOneLine_message <| isOneLine_of_booksOf
    (fun f hf => Catalog.isOneLine_of_fetch (isOneLine_searchUrl hclient query) hf) hbooks

theorem isOneLine_endpoint {c : Config} {client : Client} (h : ofConfig c = .ok client) :
    client.endpoint.IsOneLine :=
  Url.isOneLine_of_parse (Config.parse_of_endpoint (ofConfig_eq_ok_iff.1 h).2.1)

end Client

/-! ## Reasons -/

/-- **A reason** is one line where the words for all failures are. -/
theorem isOneLine_of_mem_missingReason {answer : Query → Outcome} {sources : List Query}
    (h : ∀ q ∈ sources, ∀ e, answer q = .error e → IsOneLine e.message) {reason : String}
    (hreason : reason ∈ missingReason answer sources) : IsOneLine reason := by
  have hfailures : ∀ words ∈ failures answer sources, IsOneLine words := by
    intro words hwords
    obtain ⟨q, hq, hfound⟩ := List.mem_filterMap.1 hwords
    split at hfound
    · cases hfound
    · next e he =>
      cases hfound
      exact (q.kind.isOneLine_name.append (by decide)).append (h q hq e he)
  unfold missingReason at hreason
  split at hreason
  · next q =>
    split at hreason
    · cases hreason
    · next e he =>
      cases hreason
      exact h q List.mem_cons_self e he
  · split at hreason
    · cases hreason
    · cases hreason
      exact isOneLine_join (by decide) hfailures

namespace View

def lineEnds (s : String) : Nat := s.toList.count '\n'

theorem lineEnds_append (s t : String) : lineEnds (s ++ t) = lineEnds s + lineEnds t := by
  simp [lineEnds]

theorem lineEnds_eq_zero_iff {s : String} : lineEnds s = 0 ↔ IsOneLine s := List.count_eq_zero

theorem lineEnds_line (s : String) : lineEnds (line s) = lineEnds s + 1 := lineEnds_append s "\n"

/-- **A header** holds at most the line ends of the keyword, if the reason is of one line. -/
theorem Heads.lineEnds_le {what keyword l : String} {b : Bucket} (h : Heads what keyword b l)
    (hwhat : IsOneLine what) (hb : ∀ reason ∈ b.failure?, IsOneLine reason) :
    lineEnds l ≤ lineEnds keyword := by
  cases h with
  | failed hwords hreason hbooks =>
    rw [lineEnds_eq_zero_iff.2 (isLine_failed hwhat hb hwords hreason).2]
    exact Nat.zero_le _
  | nothing hbooks =>
    have hfront : IsOneLine ("No results found of books' " ++ what ++ " containing \"") :=
      (IsOneLine.append (by decide) hwhat).append (by decide)
    rw [lineEnds_append, lineEnds_append, lineEnds_eq_zero_iff.2 hfront, Nat.zero_add]
    exact Nat.le_refl _
  | found htail hbooks =>
    have hfront : IsOneLine (Decimal.natural b.books.length ++ " results of books' " ++ what ++
        " containing \"") :=
      (((isOneLine_natural _).append (by decide)).append hwhat).append (by decide)
    rw [lineEnds_append, lineEnds_eq_zero_iff.2 (isOneLine_tail hb htail), counted, lineEnds_append,
      lineEnds_append, lineEnds_eq_zero_iff.2 hfront, Nat.zero_add]
    exact Nat.le_refl _

end View

namespace Config

open View

/-- **No reason for a failure** in the results of a search holds a line end, whatever the catalog
answers and whatever is sought.  So the header of a section holds its own line end and those of the
keyword, if it names it, but none that the catalog sent. -/
theorem isOneLine_failures_of_ofConfig {c : Config} {client : Client}
    (hc : Client.ofConfig c = .ok client) (catalog : Catalog) (query : Option String)
    (sent : List Url) :
    ∃ r : Results, ((c.search catalog query).run sent).1 = .ok r ∧
      (∀ name : BucketName, ∀ reason ∈ (r.bucket name).failure?, IsOneLine reason) ∧
      ∀ (s : Section) (order : Order),
        lineEnds (s.head order r) ≤ lineEnds (query.getD "") + 1 := by
  let r := Results.ofAnswers (client.outcome catalog) (query.getD "")
  have hendpoint := Client.isOneLine_endpoint hc
  have hreasons : ∀ name : BucketName, ∀ reason ∈ (r.bucket name).failure?, IsOneLine reason := by
    intro name reason hreason
    have hreports := Results.reports_ofAnswers (client.outcome catalog) (query.getD "") name
    rw [hreports.failure_eq] at hreason
    exact isOneLine_of_mem_missingReason
      (fun q _ e he => Client.isOneLine_of_outcome hendpoint he) hreason
  refine ⟨r, run_search hc catalog query sent, hreasons, fun s order => ?_⟩
  have hwhat : IsOneLine s.what := by cases s <;> decide
  obtain ⟨l, hhead, hl⟩ := exists_heads s.what r.keyword (r.bucket (s.bucketName order))
  rw [Section.head, hhead, lineEnds_line]
  exact Nat.succ_le_succ (hl.lineEnds_le hwhat (hreasons _))

/-- A line end that the catalog sent is quoted in the reason, where it is no line end. -/
theorem isOneLine_failures_of_ofConfig_quoted :
    Client.ofConfig ⟨"http://[::1]/api", 30, none⟩ = .ok Client.loopback ∧
      ∃ r : Results, ((search ⟨"http://[::1]/api", 30, none⟩
          (fun _ => .answered ⟨200, none, Utf8.encode ['"', '\\', 'n', '"'], true⟩)
          (some "a")).run []).1 = .ok r ∧
        r.titles = .unavailable ("malformed response: title response: invalid type: " ++
          "string \"\\n\", expected a sequence at line 1 column 4") ∧
        ∀ name : BucketName, ∀ reason ∈ (r.bucket name).failure?, IsOneLine reason := by
  have htitles : ((search ⟨"http://[::1]/api", 30, none⟩
      (fun _ => .answered ⟨200, none, Utf8.encode ['"', '\\', 'n', '"'], true⟩)
      (some "a")).run []).1.map Results.titles =
      .ok (.unavailable ("malformed response: title response: invalid type: " ++
        "string \"\\n\", expected a sequence at line 1 column 4")) := by decide +kernel
  obtain ⟨r, hr, hreasons, -⟩ := isOneLine_failures_of_ofConfig Client.ofConfig_loopback
    (fun _ => .answered ⟨200, none, Utf8.encode ['"', '\\', 'n', '"'], true⟩) (some "a") []
  rw [hr] at htitles
  exact ⟨Client.ofConfig_loopback, r, hr, Except.ok.inj htitles, hreasons⟩

end Config

end BookCatalog
