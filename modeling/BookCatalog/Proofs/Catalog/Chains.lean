import BookCatalog.Proofs.Catalog.Searches

/-!
# Chains of redirects

A chain of at most ten redirects makes no difference but for the requests: what is asked for ends as
if the first address had given the answer at its end.  Longer chains end in a failure, as do rings,
after eleven requests.

* `Catalog.Trail`, `Catalog.Chain` — pages that send on in turn, and the answer at their end;
* `Catalog.follow_makes_of_chain`, `Catalog.follow_makes_of_long` — following short and long chains;
* `Transparent` — what redirects make of something that is asked of a catalog;
* `Config.redirects_end` — everything that can be asked is of that kind, and is bounded.
-/

namespace BookCatalog

open Web

/-! ## Redirects -/

/-- An answer sends on from a page to the next one: by its status and by a location, which leads to
an address of the web that a request can be made for. -/
structure Answer.SendsOn (answer : Answer) (page next : Url) : Prop where
  status : answer.status ∈ [301, 302, 303, 307, 308]
  location : ∃ text, answer.location = some text ∧ Url.resolve page text = .ok (.page next)
  canRequest : Catalog.canRequest next = true

def Answer.IsFinal (answer : Answer) : Prop :=
  answer.status ∉ [301, 302, 303, 307, 308] ∨ answer.location = none

/-- An answer as it would be if it were found where it was asked for. -/
def Answer.found (answer : Answer) : Answer := { answer with location := none }

namespace Catalog

theorem isRedirect_iff (status : Nat) :
    Status.isRedirect status = true ↔ status ∈ [301, 302, 303, 307, 308] := by
  simp [Status.isRedirect]

theorem redirect?_of_isFinal {answer : Answer} (h : answer.IsFinal) (page : Url) :
    redirect? page answer = none := by
  rcases h with hstatus | hlocation
  · exact if_neg fun hredirect => hstatus ((isRedirect_iff _).1 hredirect)
  · exact redirect?_of_location hlocation page

theorem redirect?_of_sendsOn {answer : Answer} {page next : Url} (h : answer.SendsOn page next) :
    redirect? page answer = some (.page next) := by
  obtain ⟨text, hlocation, hresolve⟩ := h.location
  simp [redirect?, (isRedirect_iff _).2 h.status, hlocation, hresolve, h.canRequest]

variable (catalog : Catalog)

/-- The pages that send on in turn, on the way from a page to another. -/
inductive Trail : Url → List Url → Url → Prop
  | here (page : Url) : Trail page [] page
  | onward {page next last : Url} {pages : List Url} {answer : Answer}
      (hanswer : catalog page.requested = .answered answer) (hnext : answer.SendsOn page next)
      (h : Trail next pages last) : Trail page (page :: pages) last

/-- A trail, and the answer at its end, which is no redirect. -/
structure Chain (url : Url) (pages : List Url) (last : Url) (answer : Answer) : Prop where
  trail : catalog.Trail url pages last
  reply : catalog last.requested = .answered answer
  final : answer.IsFinal

variable {catalog}

theorem Trail.append {page mid last : Url} {pages more : List Url}
    (h : catalog.Trail page pages mid) (hmore : catalog.Trail mid more last) :
    catalog.Trail page (pages ++ more) last := by
  induction h with
  | here => exact hmore
  | onward hanswer hnext _ ih => exact .onward hanswer hnext (ih hmore)

theorem Trail.exists_long {page : Url} {ring : List Url} (h : catalog.Trail page ring page)
    (hne : ring ≠ []) (n : Nat) : ∃ pages, catalog.Trail page pages page ∧ n ≤ pages.length := by
  induction n with
  | zero => exact ⟨[], .here page, Nat.le_refl 0⟩
  | succ n ih =>
    obtain ⟨pages, hpages, hlength⟩ := ih
    have hpositive := List.length_pos_of_ne_nil hne
    refine ⟨ring ++ pages, h.append hpages, ?_⟩
    rw [List.length_append]
    omega

/-! ## Following them -/

theorem hop_of_sendsOn (first : Url) {page next : Url} {answer : Answer}
    (hanswer : catalog page.requested = .answered answer) (hnext : answer.SendsOn page next) :
    hop first page (catalog page.requested) = .onward next := by
  rw [hanswer, hop, redirect?_of_sendsOn hnext]

/-- **A chain** with no more redirects than are followed leads to its answer, by a request for each
of its pages. -/
theorem follow_makes_of_chain (first : Url) {page last : Url} {pages : List Url} {answer : Answer}
    {left : Nat} (h : catalog.Chain page pages last answer) (hleft : pages.length ≤ left) :
    Makes (catalog.follow first left page) (.ok answer) ((pages ++ [last]).map Url.requested) := by
  obtain ⟨htrail, hreply, hfinal⟩ := h
  induction htrail generalizing left with
  | here page =>
    have hhop : hop first page (catalog page.requested) = .ending (.ok answer) := by
      rw [hreply, hop, redirect?_of_isFinal hfinal]
    rw [List.nil_append, List.map_singleton, ← arrivals_of_answered hreply]
    exact follow_makes_of_ending hhop left
  | onward hanswer hnext _ ih =>
    cases left with
    | zero => exact absurd hleft (Nat.not_succ_le_zero _)
    | succ left =>
      exact follow_makes_succ (hop_of_sendsOn first hanswer hnext)
        (ih (Nat.le_of_succ_le_succ hleft) hreply)

/-- **A trail** with more redirects than are followed leads to a failure, by a request for each of
the pages up to the one where no redirect is left. -/
theorem follow_makes_of_long (first : Url) {page last : Url} {pages : List Url} {left : Nat}
    (h : catalog.Trail page pages last) (hleft : left < pages.length) :
    ∃ stop, Makes (catalog.follow first left page) (.error (.following stop))
      ((pages.take (left + 1)).map Url.requested) := by
  induction h generalizing left with
  | here => exact absurd hleft (Nat.not_lt_zero left)
  | @onward page _ _ _ _ hanswer hnext _ ih =>
    have hhop := hop_of_sendsOn first hanswer hnext
    cases left with
    | zero => exact ⟨page, follow_makes_zero hhop⟩
    | succ left =>
      obtain ⟨stop, hstop⟩ := ih (Nat.lt_of_succ_lt_succ hleft)
      exact ⟨stop, follow_makes_succ hhop hstop⟩

theorem follow_length_le (catalog : Catalog) (first : Url) (left : Nat) (page : Url) :
    ∃ v made, Makes (catalog.follow first left page) v made ∧ made.length ≤ left + 1 := by
  have hsmall : ∀ page, (catalog.arrivals page).length ≤ 1 := by
    intro page
    unfold arrivals
    split <;> simp
  induction left generalizing page with
  | zero =>
    cases hhop : hop first page (catalog page.requested) with
    | ending result => exact ⟨_, _, follow_makes_of_ending hhop 0, hsmall page⟩
    | onward next => exact ⟨_, _, follow_makes_zero hhop, Nat.le_refl 1⟩
  | succ left ih =>
    cases hhop : hop first page (catalog page.requested) with
    | ending result =>
      exact ⟨_, _, follow_makes_of_ending hhop _, (hsmall page).trans (by omega)⟩
    | onward next =>
      obtain ⟨v, made, hmade, hlength⟩ := ih next
      exact ⟨v, _, follow_makes_succ hhop hmade, Nat.succ_le_succ hlength⟩

end Catalog

/-! ## What redirects make of it -/

/-- At most so many requests are made, whatever was requested before. -/
def Web.AtMost {α : Type} (n : Nat) (act : Web α) : Prop :=
  ∃ v made, Makes act v made ∧ made.length ≤ n

namespace Web

variable {α β : Type} {n k : Nat}

theorem atMost_pure (v : α) : AtMost n (pure v) := ⟨v, [], makes_pure v, Nat.zero_le n⟩

theorem AtMost.bind {act : Web α} {next : α → Web β} (hact : AtMost n act)
    (hnext : ∀ v, AtMost k (next v)) : AtMost (n + k) (act >>= next) := by
  obtain ⟨v, made, hmade, hlength⟩ := hact
  obtain ⟨w, more, hmore, hlength'⟩ := hnext v
  refine ⟨w, made ++ more, hmade.bind hmore, ?_⟩
  rw [List.length_append]
  omega

theorem AtMost.map {act : Web α} (hact : AtMost n act) (f : α → β) :
    AtMost n (do return f (← act)) := by
  obtain ⟨v, made, hmade, hlength⟩ := hact
  exact ⟨f v, made, hmade.map f, hlength⟩

end Web

theorem Catalog.fetch_atMost (catalog : Catalog) (url : Url) : AtMost 11 (catalog.fetch url) := by
  unfold fetch
  split
  · exact catalog.follow_length_le url 10 url
  · exact atMost_pure _

/-- Redirects make no difference to what is asked of a catalog at an address, but for the requests,
as long as they are ten at most. -/
structure Transparent {α : Type} (ask : Catalog → Web (Except SearchError α)) (url : Url) :
    Prop where
  /-- The answer is what it would be if the first address had given the answer at the end. -/
  settled (catalog direct : Catalog) (pages : List Url) (last : Url) (answer : Answer)
    (h : catalog.Chain url pages last answer) (hfew : pages.length ≤ 10)
    (hdirect : direct url.requested = .answered answer.found) :
    ∃ v, Makes (ask catalog) v ((pages ++ [last]).map Url.requested) ∧
      Makes (ask direct) v [url.requested]
  endless (catalog : Catalog) (pages : List Url) (last : Url) (h : catalog.Trail url pages last)
    (hmany : 10 < pages.length) :
    ∃ detail, Makes (ask catalog) (.error (.transport detail)) ((pages.take 11).map Url.requested)
  cyclic (catalog : Catalog) (pages ring : List Url) (page : Url)
    (h : catalog.Trail url pages page) (hring : catalog.Trail page ring page) (hne : ring ≠ []) :
    ∃ detail made, Makes (ask catalog) (.error (.transport detail)) made ∧ made.length = 11

theorem Answer.isFinal_found (answer : Answer) : answer.found.IsFinal := .inr rfl

theorem Client.verdict_found {α : Type} (decode : String → Except Json.Error α) (kind : Kind)
    (sought : Option Id) (answer : Answer) :
    verdict decode kind sought (.ok answer.found) = verdict decode kind sought (.ok answer) := by
  cases hcomplete : answer.complete <;>
    simp [verdict, received, bodyText, Answer.found, hcomplete, bind, Except.bind]

namespace Transparent

variable {α β : Type} {url : Url}

/-- **A fetch** is followed to the end of a chain of redirects. -/
theorem of_fetch {f : Except FetchError Answer → Except SearchError α}
    (hfail : ∀ e, ∃ detail, f (.error e) = .error (.transport detail))
    (hfound : ∀ answer : Answer, f (.ok answer.found) = f (.ok answer))
    (hcan : Catalog.canRequest url = true) :
    Transparent (fun catalog => do return f (← catalog.fetch url)) url := by
  have hfetch : ∀ catalog : Catalog, catalog.fetch url = catalog.follow url 10 url :=
    fun catalog => if_pos hcan
  have hendless : ∀ (catalog : Catalog) (pages : List Url) (last : Url),
      catalog.Trail url pages last → 10 < pages.length →
      ∃ detail, Makes (do return f (← catalog.fetch url)) (.error (.transport detail))
        ((pages.take 11).map Url.requested) := by
    intro catalog pages last h hmany
    obtain ⟨stop, hstop⟩ := Catalog.follow_makes_of_long url h hmany
    obtain ⟨detail, hdetail⟩ := hfail (.following stop)
    have hmakes := hstop.map f
    rw [hdetail] at hmakes
    exact ⟨detail, by rwa [hfetch]⟩
  refine ⟨fun catalog direct pages last answer h hfew hdirect => ?_, hendless, ?_⟩
  · have hthere : direct.Chain url [] url answer.found :=
      ⟨.here url, hdirect, answer.isFinal_found⟩
    have hmakes := (Catalog.follow_makes_of_chain url h hfew).map f
    have hmakes' := (Catalog.follow_makes_of_chain url hthere (Nat.zero_le 10)).map f
    rw [hfound] at hmakes'
    exact ⟨f (.ok answer), by rwa [hfetch], by rwa [hfetch]⟩
  · intro catalog pages ring page h hring hne
    obtain ⟨more, hmore, hlength⟩ := hring.exists_long hne 11
    obtain ⟨detail, hdetail⟩ := hendless catalog (pages ++ more) page (h.append hmore) (by
      rw [List.length_append]
      omega)
    refine ⟨detail, _, hdetail, ?_⟩
    rw [List.length_map, List.length_take, List.length_append]
    omega

theorem map {ask : Catalog → Web (Except SearchError α)} (h : Transparent ask url) (f : α → β) :
    Transparent (fun catalog => do return (← ask catalog).map f) url where
  settled catalog direct pages last answer hchain hfew hdirect := by
    obtain ⟨v, hv, hv'⟩ := h.settled catalog direct pages last answer hchain hfew hdirect
    exact ⟨v.map f, hv.map (Except.map f), hv'.map (Except.map f)⟩
  endless catalog pages last htrail hmany := by
    obtain ⟨detail, hdetail⟩ := h.endless catalog pages last htrail hmany
    exact ⟨detail, hdetail.map (Except.map f)⟩
  cyclic catalog pages ring page htrail hring hne := by
    obtain ⟨detail, made, hmade, hlength⟩ := h.cyclic catalog pages ring page htrail hring hne
    exact ⟨detail, made, hmade.map (Except.map f), hlength⟩

end Transparent

/-! ## Everything that can be asked -/

namespace Client

variable (client : Client)

theorem transparent_verdict {α : Type} (decode : String → Except Json.Error α) (kind : Kind)
    (sought : Option Id) {url : Url} (hcan : Catalog.canRequest url = true) :
    Transparent (fun catalog => do return verdict decode kind sought (← catalog.fetch url)) url :=
  .of_fetch (fun _ => ⟨_, rfl⟩) (verdict_found decode kind sought) hcan

theorem transparent_search {query : Query}
    (hcan : Catalog.canRequest (client.searchUrl query) = true) :
    Transparent (fun catalog => client.search catalog query) (client.searchUrl query) :=
  transparent_verdict Book.decodeAll query.kind none hcan

theorem transparent_book {id : Id} (hid : id.text ≠ "")
    (hcan : Catalog.canRequest (client.bookUrl id) = true) :
    Transparent (fun catalog => client.book catalog id) (client.bookUrl id) := by
  have hbook : (fun catalog => client.book catalog id) = fun catalog => do
      return verdict Book.decode .id (some id) (← catalog.fetch (client.bookUrl id)) := by
    funext catalog
    rw [book, if_neg hid]
    simp only [bookOf_eq_verdict]
  rw [hbook]
  exact transparent_verdict Book.decode .id (some id) hcan

theorem search_atMost (catalog : Catalog) (query : Query) :
    AtMost 11 (client.search catalog query) :=
  (catalog.fetch_atMost (client.searchUrl query)).map (booksOf query.kind)

theorem book_atMost (catalog : Catalog) (id : Id) : AtMost 11 (client.book catalog id) := by
  unfold book
  split
  · exact atMost_pure _
  · exact (catalog.fetch_atMost (client.bookUrl id)).map (bookOf id)

end Client

theorem Results.gather_atMost {fetch : Query → Web Outcome} {n : Nat}
    (h : ∀ query, AtMost n (fetch query)) (query : Option String) :
    AtMost (6 * n) (gather fetch query) := by
  have hsum : 6 * n = n + (n + (n + (n + (n + (n + 0))))) := by omega
  rw [hsum]
  exact (h _).bind fun _ => (h _).bind fun _ => (h _).bind fun _ => (h _).bind fun _ =>
    (h _).bind fun _ => (h _).bind fun _ => atMost_pure _

namespace Config

variable (c : Config)

theorem withClient_atMost {α : Type} {n : Nat} {act : Client → Web (Except SearchError α)}
    (h : ∀ client, AtMost n (act client)) : AtMost n (c.withClient act) := by
  unfold withClient
  split
  · exact h _
  · exact atMost_pure _

/-- Everything that the client of settings is asked for comes to the end of a chain of redirects. -/
structure FollowsRedirects (client : Client) : Prop where
  one_search (query : Query) (hcan : Catalog.canRequest (client.searchUrl query) = true) :
    Transparent (fun catalog => client.search catalog query) (client.searchUrl query)
  one_book (id : Id) (hid : id.text ≠ "") (hcan : Catalog.canRequest (client.bookUrl id) = true) :
    Transparent (fun catalog => client.book catalog id) (client.bookUrl id)
  book (id : Id) (hid : id.text ≠ "") (hcan : Catalog.canRequest (client.bookUrl id) = true) :
    Transparent (fun catalog => c.book catalog id) (client.bookUrl id)
  suggestions (terms : List String)
    (hcan : Catalog.canRequest (client.searchUrl (.suggestions terms)) = true) :
    Transparent (fun catalog => c.suggestions catalog terms) (client.searchUrl (.suggestions terms))
  /-- A search for a keyword follows six chains. -/
  search (catalog direct : Catalog) (query : Option String) (pages : Query → List Url)
    (last : Query → Url) (answer : Query → Answer)
    (h : ∀ q ∈ Results.searches (query.getD ""),
      Catalog.canRequest (client.searchUrl q) = true ∧
      catalog.Chain (client.searchUrl q) (pages q) (last q) (answer q) ∧ (pages q).length ≤ 10 ∧
      direct (client.searchUrl q).requested = .answered (answer q).found) :
    ∃ results,
      Makes (c.search catalog query) (.ok results)
        ((Results.searches (query.getD "")).flatMap
          fun q => (pages q ++ [last q]).map Url.requested) ∧
      Makes (c.search direct query) (.ok results)
        ((Results.searches (query.getD "")).map fun q => (client.searchUrl q).requested)

theorem followsRedirects_of_ofConfig {c : Config} {client : Client}
    (hclient : Client.ofConfig c = .ok client) : c.FollowsRedirects client where
  one_search _ hcan := client.transparent_search hcan
  one_book _ hid hcan := client.transparent_book hid hcan
  book id hid hcan := by
    have hbook : (fun catalog => c.book catalog id) = fun catalog => client.book catalog id :=
      funext fun _ => withClient_of_ofConfig hclient _
    rw [hbook]
    exact client.transparent_book hid hcan
  suggestions terms hcan := by
    have hsuggestions : (fun catalog => c.suggestions catalog terms) = fun catalog => do
        return (← client.search catalog (.suggestions terms)).map Book.distinct :=
      funext fun _ => withClient_of_ofConfig hclient _
    rw [hsuggestions]
    exact (client.transparent_search hcan).map Book.distinct
  search catalog direct query pages last answer h := by
    have hsame : ∀ q ∈ Results.searches (query.getD ""),
        Makes (client.search catalog q) (client.outcome catalog q)
          ((pages q ++ [last q]).map Url.requested) ∧
        Makes (client.search direct q) (client.outcome catalog q)
          [(client.searchUrl q).requested] := by
      intro q hq
      obtain ⟨hcan, hchain, hfew, hdirect⟩ := h q hq
      obtain ⟨v, hv, hv'⟩ := (client.transparent_search hcan).settled catalog direct (pages q)
        (last q) (answer q) hchain hfew hdirect
      obtain rfl : client.outcome catalog q = v := hv.run_fst []
      exact ⟨hv, hv'⟩
    refine ⟨Results.ofAnswers (client.outcome catalog) (query.getD ""), ?_, ?_⟩
    · rw [Config.search, withClient_of_ofConfig hclient]
      exact (Results.gather_makes query fun q hq => (hsame q hq).1).map Except.ok
    · rw [Config.search, withClient_of_ofConfig hclient, List.map_eq_flatMap]
      exact (Results.gather_makes query fun q hq => (hsame q hq).2).map Except.ok

/-- **Redirects come to an end**, and make no difference to anything that is asked of a catalog at
an address that a request can be made for, if they are ten at most on the way from there.  Whatever
the catalog does, a search for a keyword makes 66 requests at most, and anything else 11. -/
theorem redirects_end :
    (∀ client, Client.ofConfig c = .ok client → c.FollowsRedirects client) ∧
    ∀ catalog : Catalog,
      (∀ (client : Client) (query : Query), AtMost 11 (client.search catalog query)) ∧
      (∀ (client : Client) (id : Id), AtMost 11 (client.book catalog id)) ∧
      (∀ id, AtMost 11 (c.book catalog id)) ∧ (∀ terms, AtMost 11 (c.suggestions catalog terms)) ∧
      ∀ query, AtMost 66 (c.search catalog query) :=
  ⟨fun _ hclient => followsRedirects_of_ofConfig hclient, fun catalog =>
    ⟨fun client query => client.search_atMost catalog query,
      fun client id => client.book_atMost catalog id,
      fun id => c.withClient_atMost fun client => client.book_atMost catalog id,
      fun terms => c.withClient_atMost fun client =>
        (client.search_atMost catalog (.suggestions terms)).map fun v => v.map Book.distinct,
      fun query => c.withClient_atMost fun client =>
        (Results.gather_atMost (client.search_atMost catalog) query).map Except.ok⟩⟩

/-- Where every page sends on to the root, which is then a ring of one page, a search fails after
eleven requests. -/
theorem redirects_end_loopback :
    Client.ofConfig ⟨"http://[::1]/api", 30, none⟩ = .ok Client.loopback ∧
      ∃ detail made,
        Makes (Client.loopback.search (fun _ => .answered ⟨302, some "/", [], true⟩) (.title "a"))
          (.error (.transport detail)) made ∧ made.length = 11 := by
  let root : Url := { Client.loopback.endpoint with path := [[]] }
  have hcan : Catalog.canRequest (Client.loopback.searchUrl (.title "a")) = true := by
    decide +kernel
  have hroot : Catalog.canRequest root = true := by decide +kernel
  have hfirst : Answer.SendsOn ⟨302, some "/", [], true⟩ (Client.loopback.searchUrl (.title "a"))
      root := ⟨by decide, ⟨"/", rfl, by decide +kernel⟩, hroot⟩
  have hring : Answer.SendsOn ⟨302, some "/", [], true⟩ root root :=
    ⟨by decide, ⟨"/", rfl, by decide +kernel⟩, hroot⟩
  obtain ⟨hfollows, -⟩ := redirects_end ⟨"http://[::1]/api", 30, none⟩
  exact ⟨Client.ofConfig_loopback,
    ((hfollows Client.loopback Client.ofConfig_loopback).one_search (.title "a") hcan).cyclic _ _ _
      root (.onward rfl hfirst (.here root)) (.onward rfl hring (.here root)) nofun⟩

end Config

/-! ## Addresses that no request can be made for -/

theorem Url.resolve_query (base : Url) {query : List Char}
    (h : ∀ c ∈ query, Percent.keepInQuery c = true) :
    resolve base (String.ofList ('?' :: query)) =
      .ok (.page { base with query := some query, fragment := none }) := by
  have hvisible : ∀ c ∈ '?' :: query, 0x20 < c.toNat := by
    intro c hc
    rcases List.mem_cons.1 hc with rfl | hc
    · decide
    · have hkeep := h c hc
      simp only [Percent.keepInQuery, Percent.isVisible, Bool.and_eq_true, decide_eq_true_eq]
        at hkeep
      exact hkeep.1.1.1.1.1.1
  have hmark : ∀ c ∈ query, (!decide (c = '#')) = true := by
    intro c hc
    have hkeep := h c hc
    simp only [Percent.keepInQuery, Bool.and_eq_true, decide_eq_true_eq] at hkeep
    simpa using hkeep.1.1.1.2
  have hstrip : Text.strip (·.toNat ≤ 0x20) ('?' :: query) = '?' :: query := by
    refine Text.strip_eq_self (fun c hc => ?_) fun c hc => ?_
    · simpa using hvisible c (List.mem_of_mem_head? hc)
    · simpa using hvisible c (List.mem_of_getLast? hc)
  have hrelevant : relevant ('?' :: query) = '?' :: query := by
    rw [relevant, hstrip, List.filter_eq_self]
    intro c hc
    have hcode := hvisible c hc
    have hne : ∀ d : Char, d.toNat ≤ 0x20 → c ≠ d := by
      rintro d hd rfl
      omega
    simp [isTabOrNewline, hne '\t' (by decide), hne '\n' (by decide), hne '\r' (by decide)]
  have hend : parseEnd ('?' :: query) = (some query, none) := by
    simp [parseEnd, cutPart, List.takeWhile_eq_self_iff.2 hmark, List.dropWhile_eq_nil_iff.2 hmark,
      Percent.encode_of_keep h]
  rw [resolve, String.toList_ofList, hrelevant]
  simp [scheme?, resolveRelative, hend, Except.map]

namespace Catalog

variable {catalog : Catalog}

theorem fetch_makes_of_unsendable {url : Url} (h : canRequest url = false) :
    Makes (catalog.fetch url) (.error (.building url)) [] := by
  rw [fetch, if_neg (by simp [h])]
  exact makes_pure _

theorem fetch_makes_of_unsendable_next {url next : Url} {answer : Answer} {text : String}
    (hcan : canRequest url = true) (hreply : catalog url.requested = .answered answer)
    (hlocation : answer.location = some text) (hresolve : Url.resolve url text = .ok (.page next))
    (hnext : canRequest next = false) :
    Makes (catalog.fetch url) (.ok answer) [url.requested] := by
  have hstays : redirect? url answer = none := by
    simp [redirect?, hlocation, hresolve, hnext]
  have hhop : hop url url (catalog url.requested) = .ending (.ok answer) := by
    rw [hreply, hop, hstays]
  rw [fetch, if_pos hcan, ← arrivals_of_answered hreply]
  exact follow_makes_of_ending hhop maxRedirects

end Catalog

namespace Client

variable (client : Client) {catalog : Catalog} {query : Query}

theorem search_makes_of_unsendable (h : Catalog.canRequest (client.searchUrl query) = false) :
    ∃ detail, Makes (client.search catalog query) (.error (.transport detail)) [] :=
  ⟨_, (Catalog.fetch_makes_of_unsendable h).map (booksOf query.kind)⟩

theorem search_makes_of_unsendable_next {next : Url} {answer : Answer} {text : String}
    (hcan : Catalog.canRequest (client.searchUrl query) = true)
    (hreply : catalog (client.searchUrl query).requested = .answered answer)
    (hcomplete : answer.complete = true) (hstatus : Status.isSuccess answer.status = false)
    (hlocation : answer.location = some text)
    (hresolve : Url.resolve (client.searchUrl query) text = .ok (.page next))
    (hnext : Catalog.canRequest next = false) :
    ∃ detail, Makes (client.search catalog query) (.error (.transport detail))
      [(client.searchUrl query).requested] := by
  have hmakes := (Catalog.fetch_makes_of_unsendable_next hcan hreply hlocation hresolve hnext).map
    (booksOf query.kind)
  obtain ⟨detail, hdetail⟩ :=
    verdict_refused Book.decodeAll query.kind none hcomplete nofun hstatus
  rw [booksOf_eq_verdict, hdetail] at hmakes
  exact ⟨detail, hmakes⟩

end Client

/-- No request is made for a search that is too long, and none for a redirect that is: the first
ends without a request, and the second as if the redirect were the answer. -/
theorem Config.redirects_unsendable :
    let long := List.replicate 65534 'a'
    let first := Client.loopback.searchUrl (.title "a")
    let books : Catalog := fun _ => .answered ⟨200, none, Utf8.encode ['[', ']'], true⟩
    let elsewhere : Catalog := fun url =>
      if url = first.requested then .answered ⟨302, some (String.ofList ('?' :: long)), [], true⟩
      else books url
    Client.ofConfig ⟨"http://[::1]/api", 30, none⟩ = .ok Client.loopback ∧
      (∃ detail, Makes (Client.loopback.search books (.title (String.ofList long)))
        (.error (.transport detail)) []) ∧
      (∃ next, Url.resolve first (String.ofList ('?' :: long)) = .ok (.page next)) ∧
      ∃ detail, Makes (Client.loopback.search elsewhere (.title "a")) (.error (.transport detail))
        [first.requested] := by
  intro long first books elsewhere
  have hlength : long.length = 65534 := List.length_replicate
  have hkeep : ∀ c ∈ long, Percent.keepInQuery c = true := by
    intro c hc
    rw [List.eq_of_mem_replicate hc]
    decide
  have hresolve := Url.resolve_query first hkeep
  have hnext : Catalog.canRequest { first with query := some long, fragment := none } = false :=
    Catalog.canRequest_of_long rfl (Nat.le_of_eq hlength.symm)
  have hlong : Catalog.canRequest (Client.loopback.searchUrl (.title (String.ofList long))) =
      false := by
    have hsought : String.ofList long ∈ (Query.title (String.ofList long)).sought := by
      simp [Query.sought, Query.parameters]
    refine Client.loopback.canRequest_searchUrl_of_long hsought ?_
    rw [String.toList_ofList, hlength]
    exact Nat.le_refl _
  have hcan : Catalog.canRequest first = true := by decide +kernel
  have hreply : elsewhere first.requested =
      .answered ⟨302, some (String.ofList ('?' :: long)), [], true⟩ := by
    simp only [elsewhere, if_true]
  exact ⟨Client.ofConfig_loopback, Client.loopback.search_makes_of_unsendable hlong,
    ⟨_, hresolve⟩, Client.loopback.search_makes_of_unsendable_next hcan hreply rfl rfl rfl hresolve
      hnext⟩

end BookCatalog
