import BookCatalog.Proofs.Catalog.Endpoint
import BookCatalog.Proofs.Catalog.Redirects

/-!
# What a client makes of an answer

The answer that a request ends in decides the outcome of a search or of a look-up, and nothing else
does: first whether it arrived whole, then its status, then its body.

* `Client.Partition` — the outcomes and the answers that lead to them;
* `Client.partition_verdict` — one reply is sorted that way;
* `Client.keepsPartition_of_ofConfig` — every client that can be built sorts all replies that way.
-/

namespace BookCatalog

/-- The answer arrived to its end, with a status of success. -/
def Answer.Succeeds (answer : Answer) : Prop :=
  answer.complete = true ∧ Status.isSuccess answer.status = true

namespace Client

variable {α : Type} (decode : String → Except Json.Error α) (kind : Kind) (sought : Option Id)

/-! ## The partition -/

/-- An outcome is what the final answer says, if there is one, to a search or to a look-up of the
identifier that is sought. -/
structure Partition (final : Answer → Prop) (outcome : Except SearchError α) : Prop where
  /-- No answer, half an answer, or a status that says nothing about books. -/
  transport_iff : (∃ detail, outcome = .error (.transport detail)) ↔
    (∀ answer, ¬ final answer) ∨ ∃ answer, final answer ∧ (answer.complete = false ∨
      Status.isSuccess answer.status = false ∧ (sought.isSome = true → answer.status ≠ 404))
  /-- Only of a book that is sought it is said that there is none. -/
  notFound_iff : ∀ text, outcome = .error (.notFound text) ↔ ∃ id, sought = some id ∧
    id.text = text ∧ ∃ answer, final answer ∧ answer.complete = true ∧ answer.status = 404
  malformed_iff : (∃ detail, outcome = .error (.malformed detail)) ↔
    ∃ answer, final answer ∧ answer.Succeeds ∧ ∀ v, decode (bodyText answer) ≠ .ok v
  ok_iff : ∀ v, outcome = .ok v ↔
    ∃ answer, final answer ∧ answer.Succeeds ∧ decode (bodyText answer) = .ok v
  ne_config : ∀ detail, outcome ≠ .error (.config detail)

/-- A client sorts every answer of every catalog, whatever was requested before. -/
structure KeepsPartition (client : Client) : Prop where
  search : ∀ (catalog : Catalog) (query : Query) (sent : List Url),
    Partition Book.decodeAll none (catalog.FinalAnswer (client.searchUrl query))
      ((client.search catalog query).run sent).1
  book : ∀ (catalog : Catalog) (id : Id) (sent : List Url), id.text ≠ "" →
    Partition Book.decode (some id) (catalog.FinalAnswer (client.bookUrl id))
      ((client.book catalog id).run sent).1
  /-- Without an identifier there is no request. -/
  noId : ∀ (catalog : Catalog) (id : Id) (sent : List Url), id.text = "" →
    (client.book catalog id).run sent = (.error (.notFound "empty book id"), sent)

/-! ## One reply -/

/-- What is made of a reply, in a search or in a look-up of the identifier that is sought. -/
def verdict (reply : Except FetchError Answer) : Except SearchError α := do
  let answer ← received kind reply
  match sought.filter fun _ => answer.status = 404 with
  | some id => .error (.notFound id.text)
  | none =>
    if Status.isSuccess answer.status then parseBody decode kind (bodyText answer)
    else .error (refused kind answer.status)

theorem booksOf_eq_verdict (reply : Except FetchError Answer) :
    booksOf kind reply = verdict Book.decodeAll kind none reply :=
  rfl

theorem bookOf_eq_verdict (id : Id) (reply : Except FetchError Answer) :
    bookOf id reply = verdict Book.decode .id (some id) reply := by
  unfold bookOf verdict
  congr 1
  funext answer
  by_cases h : answer.status = 404 <;> simp [Option.filter_some, h]

theorem verdict_incomplete {answer : Answer} (h : answer.complete = false) :
    ∃ detail, verdict decode kind sought (.ok answer) = .error (.transport detail) := by
  simp [verdict, received, h, bind, Except.bind]

theorem verdict_missing (id : Id) {answer : Answer} (hcomplete : answer.complete = true)
    (hstatus : answer.status = 404) :
    verdict decode kind (some id) (.ok answer) = .error (.notFound id.text) := by
  simp [verdict, received, hcomplete, hstatus, Option.filter_some, bind, Except.bind]

theorem verdict_refused {answer : Answer} (hcomplete : answer.complete = true)
    (hfound : sought.isSome = true → answer.status ≠ 404)
    (hstatus : Status.isSuccess answer.status = false) :
    ∃ detail, verdict decode kind sought (.ok answer) = .error (.transport detail) := by
  have hnone : sought.filter (fun _ => answer.status = 404) = none := by
    rw [Option.filter_eq_none_iff]
    rintro id rfl
    simpa using hfound rfl
  simp [verdict, received, hcomplete, hnone, hstatus, refused, bind, Except.bind]

theorem verdict_succeeds {answer : Answer} (h : answer.Succeeds) :
    verdict decode kind sought (.ok answer) = parseBody decode kind (bodyText answer) := by
  have hne : answer.status ≠ 404 := fun heq => absurd h.2 (by rw [heq]; decide)
  have hnone : sought.filter (fun _ => answer.status = 404) = none := by
    rw [Option.filter_eq_none_iff]
    rintro id rfl
    simpa using hne
  simp [verdict, received, h.1, h.2, hnone, bind, Except.bind]

/-- **One reply** is sorted by whether it arrived whole, its status and its body, in that order. -/
theorem partition_verdict {final : Answer → Prop} {reply : Except FetchError Answer}
    (hfinal : ∀ answer, reply = .ok answer ↔ final answer) :
    Partition decode sought final (verdict decode kind sought reply) := by
  obtain rfl : final = fun answer => reply = .ok answer :=
    funext fun answer => propext (hfinal answer).symm
  cases reply with
  | error e =>
    have h : verdict decode kind sought (.error e) =
      .error (.transport (kind.name ++ " request failed: " ++ e.message)) := rfl
    constructor <;> simp [h]
  | ok answer =>
    by_cases hcomplete : answer.complete = true
    · by_cases hsuccess : Status.isSuccess answer.status = true
      · have hne : answer.status ≠ 404 := fun heq => absurd hsuccess (by rw [heq]; decide)
        have h := verdict_succeeds decode kind sought ⟨hcomplete, hsuccess⟩
        unfold parseBody at h
        cases hbody : decode (bodyText answer) with
        | ok v =>
          rw [hbody] at h
          constructor <;> simp [h, hbody, hcomplete, hsuccess, hne, Answer.Succeeds]
        | error e =>
          rw [hbody] at h
          constructor <;> simp [h, hbody, hcomplete, hsuccess, hne, Answer.Succeeds]
      · have hfails : ¬ answer.Succeeds := fun h => hsuccess h.2
        by_cases hmissing : sought.isSome = true ∧ answer.status = 404
        · obtain ⟨hsome, hstatus⟩ := hmissing
          obtain ⟨id, rfl⟩ := Option.isSome_iff_exists.1 hsome
          have h := verdict_missing decode kind id hcomplete hstatus
          constructor <;> simp [h, hcomplete, hstatus, hfails]
        · have hfound : sought.isSome = true → answer.status ≠ 404 :=
            fun hsome hstatus => hmissing ⟨hsome, hstatus⟩
          obtain ⟨detail, h⟩ := verdict_refused decode kind sought hcomplete hfound
            (Bool.eq_false_iff.2 hsuccess)
          constructor <;> simp +contextual [h, hcomplete, hsuccess, hfound, hfails]
    · obtain ⟨detail, h⟩ := verdict_incomplete decode kind sought (Bool.eq_false_iff.2 hcomplete)
      constructor <;> simp [h, hcomplete, Answer.Succeeds]

/-! ## Searches and look-ups -/

/-- **A search** gives what its final answer says, whatever was requested before. -/
theorem search_makes (client : Client) (catalog : Catalog) (query : Query) :
    ∃ outcome made, Web.Makes (client.search catalog query) outcome made ∧
      Partition Book.decodeAll none (catalog.FinalAnswer (client.searchUrl query)) outcome := by
  obtain ⟨reply, made, hmade, hfinal⟩ := catalog.fetch_makes (client.searchUrl query)
  refine ⟨booksOf query.kind reply, made, hmade.map (booksOf query.kind), ?_⟩
  rw [booksOf_eq_verdict]
  exact partition_verdict Book.decodeAll query.kind none hfinal

/-- **A look-up** gives what its final answer says, whatever was requested before. -/
theorem book_makes (client : Client) (catalog : Catalog) {id : Id} (hid : id.text ≠ "") :
    ∃ outcome made, Web.Makes (client.book catalog id) outcome made ∧
      Partition Book.decode (some id) (catalog.FinalAnswer (client.bookUrl id)) outcome := by
  obtain ⟨reply, made, hmade, hfinal⟩ := catalog.fetch_makes (client.bookUrl id)
  refine ⟨bookOf id reply, made, ?_, ?_⟩
  · unfold book
    rw [if_neg hid]
    exact hmade.map (bookOf id)
  · rw [bookOf_eq_verdict]
    exact partition_verdict Book.decode .id (some id) hfinal

theorem keepsPartition (client : Client) : client.KeepsPartition where
  search catalog query sent := by
    obtain ⟨outcome, made, hmade, houtcome⟩ := search_makes client catalog query
    rwa [hmade.run_fst]
  book catalog id sent hid := by
    obtain ⟨outcome, made, hmade, houtcome⟩ := book_makes client catalog hid
    rwa [hmade.run_fst]
  noId catalog id sent hid := by
    rw [book, if_pos hid]
    rfl

/-- The request of a search ended in an answer that holds these books. -/
def Answered (client : Client) (catalog : Catalog) (query : Query) (books : List Book) : Prop :=
  ∃ answer, catalog.FinalAnswer (client.searchUrl query) answer ∧ answer.Succeeds ∧
    Book.decodeAll (bodyText answer) = .ok books

def outcome (client : Client) (catalog : Catalog) (query : Query) : Outcome :=
  ((client.search catalog query).run []).1

theorem run_search (client : Client) (catalog : Catalog) (query : Query) (sent : List Url) :
    ((client.search catalog query).run sent).1 = client.outcome catalog query := by
  obtain ⟨outcome, made, hmade, -⟩ := search_makes client catalog query
  rw [Client.outcome, hmade.run_fst, hmade.run_fst]

theorem outcome_eq_ok_iff (client : Client) (catalog : Catalog) (query : Query)
    (books : List Book) :
    client.outcome catalog query = .ok books ↔ client.Answered catalog query books :=
  ((keepsPartition client).search catalog query []).ok_iff books

/-! ## Clients -/

theorem ofConfig_eq_ok_iff {c : Config} {client : Client} :
    ofConfig c = .ok client ↔ (∃ base, c.validate = .ok base) ∧ c.endpoint = .ok client.endpoint ∧
      c.agent = .ok client.userAgent := by
  obtain ⟨endpoint, agent⟩ := client
  unfold ofConfig
  cases c.validate with
  | error e => simp [bind, Except.bind]
  | ok base =>
    cases c.endpoint with
    | error e => simp [bind, Except.bind]
    | ok found => cases c.agent <;> simp [bind, Except.bind, pure, Except.pure]

theorem ofConfig_of_parse {c : Config} {base endpoint : Url} {agent : String}
    (hvalid : c.validate = .ok base) (hendpoint : Url.parse c.endpointText = .ok (.page endpoint))
    (hagent : c.agent = .ok agent) : ofConfig c = .ok ⟨endpoint, agent⟩ := by
  have hpage : c.endpoint = .ok endpoint := by simp [Config.endpoint, hendpoint]
  exact ofConfig_eq_ok_iff.2 ⟨⟨base, hvalid⟩, hpage, hagent⟩

/-- **Every client that can be built** has an address of the web below which all books are, and
sorts all answers by the partition. -/
theorem keepsPartition_of_ofConfig {c : Config} {base : Url} {target : Url.Target} {agent : String}
    (hvalid : c.validate = .ok base) (htarget : Url.parse c.endpointText = .ok target)
    (hagent : c.agent = .ok agent) :
    ∃ client : Client, target = .page client.endpoint ∧ ofConfig c = .ok client ∧
      client.KeepsPartition := by
  obtain ⟨endpoint, rfl⟩ := Config.exists_page_of_parse hvalid htarget
  exact ⟨⟨endpoint, agent⟩, rfl, ofConfig_of_parse hvalid htarget hagent, keepsPartition _⟩

/-- A catalog on the same machine has a client. -/
theorem keepsPartition_of_ofConfig_loopback :
    ∃ client : Client, client.endpoint.path = [['a', 'p', 'i'], ['b', 'o', 'o', 'k', 's']] ∧
      ofConfig ⟨"http://[::1]/api", 30, none⟩ = .ok client ∧ client.KeepsPartition := by
  let base : Url :=
    { secure := false, user := [], password := [], host := .ipv6 [0, 0, 0, 0, 0, 0, 0, 1]
      port := none, path := [['a', 'p', 'i']], query := none, fragment := none }
  let c : Config := ⟨"http://[::1]/api", 30, none⟩
  have hvalid : c.validate = .ok base := by decide +kernel
  have htarget : Url.parse c.endpointText = .ok (.page (base.push "books")) := by decide +kernel
  have hagent : c.agent = .ok Config.defaultUserAgent := by decide +kernel
  obtain ⟨client, htarget, hclient⟩ := keepsPartition_of_ofConfig hvalid htarget hagent
  rw [Url.Target.page.injEq] at htarget
  refine ⟨client, ?_, hclient⟩
  rw [← htarget]
  decide +kernel

end Client

end BookCatalog
