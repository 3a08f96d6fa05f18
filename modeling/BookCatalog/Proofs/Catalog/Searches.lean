import BookCatalog.Proofs.Catalog.Outcome
import BookCatalog.Proofs.Catalog.Requests
import BookCatalog.Proofs.Search.Buckets
import BookCatalog.Proofs.Search.Fetches

/-!
# The requests of a search

Each of the six searches that a search for a keyword is made of is fetched from its own address.  If
the catalog answers at once, that is one request for each address that a request can be made for.

* `Results.gather_makes` — the results and the requests of a search, by those of its six searches;
* `Client.nodup_addresses` — no two of the six addresses are the same;
* `Config.search_sixfold` — what a search asks for, of any backend and of a catalog.
-/

namespace BookCatalog

open Web

/-! ## Six searches in turn -/

namespace Results

/-- **A search** gives the results, and makes the requests, of its six searches. -/
theorem gather_makes {fetch : Query → Web Outcome} {answer : Query → Outcome}
    {made : Query → List Url} (query : Option String)
    (h : ∀ q ∈ searches (query.getD ""), Makes (fetch q) (answer q) (made q)) :
    Makes (gather fetch query) (ofAnswers answer (query.getD ""))
      ((searches (query.getD "")).flatMap made) := by
  simp only [searches, List.forall_mem_cons] at h
  obtain ⟨hrankedKeyword, hrankedRegex, hkeyword, hregex, hauthor, htitle, -⟩ := h
  exact hrankedKeyword.bind <| hrankedRegex.bind <| hkeyword.bind <| hregex.bind <| hauthor.bind <|
    htitle.bind <| makes_pure _

end Results

/-! ## Catalogs that answer at once -/

namespace Catalog

variable {catalog : Catalog}

/-- Every request reaches the catalog, and no answer sends on. -/
structure AnswersAtOnce (catalog : Catalog) : Prop where
  arrives (page : Url) : catalog page.requested ≠ .unreachable
  stays (page : Url) (answer : Answer) (h : catalog page.requested = .answered answer) :
    redirect? page answer = none

theorem answersAtOnce_const (answer : Answer) (h : answer.location = none) :
    AnswersAtOnce fun _ => .answered answer where
  arrives _ := Reply.noConfusion
  stays page found hfound := by
    obtain rfl : answer = found := Reply.answered.inj hfound
    exact redirect?_of_location h page

theorem AnswersAtOnce.fetch_makes (h : catalog.AnswersAtOnce) (url : Url) :
    ∃ result, Makes (catalog.fetch url) result
      (if canRequest url then [url.requested] else []) := by
  unfold fetch
  split
  · have harrivals : catalog.arrivals url = [url.requested] := if_neg (h.arrives url)
    have hhop : ∃ result, hop url url (catalog url.requested) = .ending result := by
      cases hreply : catalog url.requested with
      | answered answer => exact ⟨_, by rw [hop, h.stays url answer hreply]⟩
      | unreachable => exact ⟨_, rfl⟩
      | dropped => exact ⟨_, rfl⟩
    obtain ⟨result, hresult⟩ := hhop
    exact ⟨result, harrivals ▸ follow_makes_of_ending hresult maxRedirects⟩
  · exact ⟨_, makes_pure _⟩

theorem canRequest_of_long {url : Url} {query : List Char} (hquery : url.query = some query)
    (hlong : maxLength ≤ query.length) : canRequest url = false := by
  have hwrite : query.length < url.write.length := by
    simp only [Url.write, hquery, Url.behind, List.length_append, List.length_cons]
    omega
  have hover : ¬ url.write.length ≤ maxLength := by omega
  simp [canRequest, hover]

end Catalog

namespace Client

variable (client : Client)

/-- The requests for those of the six searches for a keyword that a request can be made for. -/
def requests (keyword : String) : List Url :=
  ((Results.searches keyword).filter fun q => Catalog.canRequest (client.searchUrl q)).map
    fun q => (client.searchUrl q).requested

theorem requests_eq_flatMap (keyword : String) :
    client.requests keyword = (Results.searches keyword).flatMap fun q =>
      if Catalog.canRequest (client.searchUrl q) then [(client.searchUrl q).requested] else [] := by
  rw [requests]
  induction Results.searches keyword with
  | nil => rfl
  | cons q queries ih =>
    rw [List.flatMap_cons, ← ih, List.filter_cons]
    by_cases h : Catalog.canRequest (client.searchUrl q) = true <;> simp [h]

theorem search_makes_outcome {catalog : Catalog} {query : Query} {outcome : Outcome}
    {made : List Url} (h : Makes (client.search catalog query) outcome made) :
    Makes (client.search catalog query) (client.outcome catalog query) made := by
  rwa [Client.outcome, h.run_fst]

theorem gather_makes_requests {catalog : Catalog} (h : catalog.AnswersAtOnce)
    (query : Option String) :
    Makes (Results.gather (client.search catalog) query)
      (Results.ofAnswers (client.outcome catalog) (query.getD ""))
      (client.requests (query.getD "")) := by
  rw [requests_eq_flatMap]
  refine Results.gather_makes query fun q _ => ?_
  obtain ⟨result, hresult⟩ := h.fetch_makes (client.searchUrl q)
  exact client.search_makes_outcome (hresult.map (booksOf q.kind))

/-! ## Six addresses -/

theorem exists_write_searchUrl :
    ∃ front, ∀ query, (client.searchUrl query).requested.write =
      front ++ Url.behind '?' (client.searchUrl query).requested.query := by
  refine ⟨Url.schemeName client.endpoint.secure ++ [':', '/', '/'] ++ client.endpoint.host.write ++
    Url.behind ':' (client.endpoint.port.map Decimal.digits) ++
      Url.writePath client.endpoint.path, fun query => ?_⟩
  simp [Url.write, Url.writeUser, Url.requested, Url.withoutUser, searchUrl, Url.addPairs,
    Url.behind]

theorem parameters_eq_of_toText_eq {p q : Query}
    (h : (client.searchUrl p).requested.toText = (client.searchUrl q).requested.toText) :
    p.parameters = q.parameters := by
  obtain ⟨front, hfront⟩ := client.exists_write_searchUrl
  have hwrite : (client.searchUrl p).requested.write = (client.searchUrl q).requested.write :=
    String.ofList_inj.1 h
  rw [hfront, hfront] at hwrite
  have hquery := List.append_cancel_left hwrite
  have hquery : (client.searchUrl p).requested.query = (client.searchUrl q).requested.query :=
    congrArg some (List.cons.inj hquery).2
  have hpairs : (client.searchUrl p).requested.pairs = (client.searchUrl q).requested.pairs := by
    rw [Url.pairs, hquery, Url.pairs]
  rw [pairs_searchUrl, pairs_searchUrl] at hpairs
  exact List.append_cancel_left hpairs

/-- **No two of the six addresses** are the same, whatever the keyword is. -/
theorem nodup_addresses (keyword : String) :
    ((Results.searches keyword).map fun q => (client.searchUrl q).requested.toText).Nodup := by
  have hparameters : ((Results.searches keyword).map Query.parameters).Nodup := by
    simp [Results.searches, Query.parameters, Query.flag]
  have hne : (Results.searches keyword).Pairwise fun p q => p.parameters ≠ q.parameters :=
    List.pairwise_map.1 hparameters
  exact List.pairwise_map.2 (hne.imp fun h htext => h (client.parameters_eq_of_toText_eq htext))

/-! ## Long keywords -/

/-- What is sought takes up as much room in the query of an address, or more. -/
theorem length_le_query_searchUrl {query : Query} {text : String} (h : text ∈ query.sought) :
    ∃ added, (client.searchUrl query).query = some added ∧ text.toList.length ≤ added.length := by
  obtain ⟨p, hp, rfl⟩ := List.mem_map.1 h
  have hencode := Form.length_le_encode (List.mem_filter.1 hp).1
  refine ⟨_, rfl, ?_⟩
  split
  · exact hencode
  · exact hencode
  · rw [List.length_append, List.length_cons]
    omega

theorem canRequest_searchUrl_of_long {query : Query} {text : String} (h : text ∈ query.sought)
    (hlong : Catalog.maxLength ≤ text.toList.length) :
    Catalog.canRequest (client.searchUrl query) = false := by
  obtain ⟨added, hadded, hlength⟩ := client.length_le_query_searchUrl h
  exact Catalog.canRequest_of_long hadded (hlong.trans hlength)

theorem requests_of_long {keyword : String} (hlong : Catalog.maxLength ≤ keyword.toList.length) :
    client.requests keyword = [] := by
  have hnone : ∀ q ∈ Results.searches keyword,
      ¬ Catalog.canRequest (client.searchUrl q) = true := by
    intro q hq
    have hsought : keyword ∈ q.sought := by
      rw [(Results.sixfold_searches keyword).sought q hq]
      exact List.mem_singleton_self keyword
    rw [client.canRequest_searchUrl_of_long hsought hlong]
    exact Bool.false_ne_true
  rw [requests, List.filter_eq_nil_iff.2 hnone]
  rfl

end Client

/-! ## What a search asks for -/

/-- The client of a catalog on the same machine. -/
def Client.loopback : Client where
  endpoint :=
    { secure := false, user := [], password := [], host := .ipv6 [0, 0, 0, 0, 0, 0, 0, 1]
      port := none, path := [['a', 'p', 'i'], ['b', 'o', 'o', 'k', 's']], query := none
      fragment := none }
  userAgent := Config.defaultUserAgent

theorem Client.ofConfig_loopback : ofConfig ⟨"http://[::1]/api", 30, none⟩ = .ok loopback := by
  have hvalid : Config.validate ⟨"http://[::1]/api", 30, none⟩ =
      .ok { loopback.endpoint with path := [['a', 'p', 'i']] } := by decide +kernel
  have hendpoint : Url.parse (Config.endpointText ⟨"http://[::1]/api", 30, none⟩) =
      .ok (.page loopback.endpoint) := by decide +kernel
  have hagent : Config.agent ⟨"http://[::1]/api", 30, none⟩ = .ok loopback.userAgent := by
    decide +kernel
  exact ofConfig_of_parse hvalid hendpoint hagent

namespace Config

theorem withClient_of_ofConfig {α : Type} {c : Config} {client : Client}
    (h : Client.ofConfig c = .ok client) (act : Client → Web (Except SearchError α)) :
    c.withClient act = act client := by
  rw [withClient, h]

theorem search_makes_requests {c : Config} {client : Client} {catalog : Catalog}
    (hclient : Client.ofConfig c = .ok client) (hcatalog : catalog.AnswersAtOnce)
    (query : Option String) :
    Makes (c.search catalog query)
      (.ok (Results.ofAnswers (client.outcome catalog) (query.getD "")))
      (client.requests (query.getD "")) := by
  rw [search, withClient_of_ofConfig hclient]
  exact (client.gather_makes_requests hcatalog query).map Except.ok

theorem search_run_of_long {c : Config} {client : Client} {catalog : Catalog} {keyword : String}
    (hclient : Client.ofConfig c = .ok client) (hcatalog : catalog.AnswersAtOnce)
    (hlong : Catalog.maxLength ≤ keyword.toList.length) (sent : List Url) :
    ∃ results, (c.search catalog (some keyword)).run sent = (.ok results, sent) := by
  have hmakes := search_makes_requests hclient hcatalog (some keyword)
  rw [Option.getD_some, client.requests_of_long hlong] at hmakes
  exact ⟨_, by rw [hmakes, List.append_nil]⟩

/-- **A search asks for six things.**  Any backend is asked for one search of each of six kinds, all
of them for the keyword alone, whatever becomes of them.  A catalog that answers at once gets one
request for each that a request can be made for, and no two of them have the same address. -/
theorem search_sixfold (query : Option String) :
    Results.Sixfold (query.getD "") (Results.searches (query.getD "")) ∧
    (∀ (m : Type → Type) [Monad m] [LawfulMonad m] (fetch : Query → m Outcome) (calls : List Query),
      (Results.gather (Results.logged fetch) query).run calls =
        (fun results => (results, calls ++ Results.searches (query.getD ""))) <$>
          Results.gather fetch query) ∧
    ∀ (c : Config) (client : Client) (catalog : Catalog),
      Client.ofConfig c = .ok client → catalog.AnswersAtOnce →
        (∀ sent, ∃ results, (c.search catalog query).run sent =
          (.ok results, sent ++ client.requests (query.getD ""))) ∧
        ((∀ q ∈ Results.searches (query.getD ""), Catalog.canRequest (client.searchUrl q) = true) →
          client.requests (query.getD "") =
            (Results.searches (query.getD "")).map fun q => (client.searchUrl q).requested) ∧
        ((Results.searches (query.getD "")).map
          fun q => (client.searchUrl q).requested.toText).Nodup := by
  refine ⟨Results.sixfold_searches _, fun m _ _ fetch calls =>
    Results.run_gather_logged fetch query calls, fun c client catalog hclient hcatalog =>
    ⟨fun sent => ⟨_, search_makes_requests hclient hcatalog query sent⟩, fun hcan => ?_,
      client.nodup_addresses _⟩⟩
  rw [Client.requests, List.filter_eq_self.2 hcan]

/-- Six requests are made for a keyword that holds the mark between parameters. -/
theorem search_sixfold_loopback :
    ∃ client, Client.ofConfig ⟨"http://[::1]/api", 30, none⟩ = .ok client ∧
      ∃ results made,
        (search ⟨"http://[::1]/api", 30, none⟩ (fun _ => .answered ⟨200, none, [], true⟩)
          (some "a&b")).run [] = (.ok results, made) ∧
        made.length = 6 ∧ (made.map Url.toText).Nodup := by
  have hcatalog := Catalog.answersAtOnce_const ⟨200, none, [], true⟩ rfl
  have hcan : ∀ q ∈ Results.searches "a&b",
      Catalog.canRequest (Client.loopback.searchUrl q) = true := by decide +kernel
  obtain ⟨hrun, hall, hnodup⟩ := (search_sixfold (some "a&b")).2.2 ⟨"http://[::1]/api", 30, none⟩
    Client.loopback _ Client.ofConfig_loopback hcatalog
  obtain ⟨results, hresults⟩ := hrun []
  refine ⟨_, Client.ofConfig_loopback, results, _, hresults, ?_, ?_⟩
  · rw [List.nil_append, hall hcan]
    rfl
  · rw [List.nil_append, hall hcan, List.map_map]
    exact hnodup

/-- No request is made for a keyword that is too long for an address. -/
theorem search_of_long_keyword :
    Client.ofConfig ⟨"http://[::1]/api", 30, none⟩ = .ok Client.loopback ∧
      Catalog.AnswersAtOnce (fun _ => .answered ⟨200, none, [], true⟩) ∧
      ∀ sent, ∃ results,
        (search ⟨"http://[::1]/api", 30, none⟩ (fun _ => .answered ⟨200, none, [], true⟩)
          (some (String.ofList (List.replicate 65534 'a')))).run sent = (.ok results, sent) := by
  have hcatalog := Catalog.answersAtOnce_const ⟨200, none, [], true⟩ rfl
  have hlong : Catalog.maxLength ≤ (String.ofList (List.replicate 65534 'a')).toList.length := by
    rw [String.toList_ofList, List.length_replicate]
    exact Nat.le_refl _
  exact ⟨Client.ofConfig_loopback, hcatalog,
    search_run_of_long Client.ofConfig_loopback hcatalog hlong⟩

end Config

end BookCatalog
