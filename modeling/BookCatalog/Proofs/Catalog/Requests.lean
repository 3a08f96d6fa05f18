import BookCatalog.Catalog.Client
import BookCatalog.Proofs.Catalog.Redirects
import BookCatalog.Proofs.Url.Encoding

/-!
# What a client asks for

A search or a look-up makes a request exactly where the address that the client made for it can be
reached, and the first one names that address; the query of the address of a search says what is
sought.

* `Catalog.fetch_startsAt` — the first request of a fetch;
* `Client.pairs_sent` — the named values in the request of a search.
-/

namespace BookCatalog

/-! ## First requests -/

/-- Where a condition holds, a use of the web makes a request, and the first one names this address;
where it does not, none is made.  What was requested before makes no difference. -/
def Web.StartsAt {α : Type} (act : Web α) (url : Url) (asked : Prop) : Prop :=
  ∀ sent, ∃ made, (act.run sent).2 = sent ++ made ∧
    ∀ first, made.head? = some first ↔ asked ∧ first = url

/-- A request can be made for an address, and it arrives. -/
structure Catalog.Reaches (catalog : Catalog) (url : Url) : Prop where
  sendable : canRequest url = true
  arrives : catalog url.requested ≠ .unreachable

namespace Web

variable {α β : Type} {act : Web α} {url : Url} {asked asked' : Prop}

theorem Makes.startsAt {v : α} {made : List Url} (h : Makes act v made)
    (hfirst : ∀ first, made.head? = some first ↔ asked ∧ first = url) :
    StartsAt act url asked := by
  intro sent
  exact ⟨made, by rw [h], hfirst⟩

theorem StartsAt.of_iff (h : StartsAt act url asked) (hasked : asked ↔ asked') :
    StartsAt act url asked' := by
  intro sent
  obtain ⟨made, hmade, hfirst⟩ := h sent
  exact ⟨made, hmade, fun first => (hfirst first).trans (and_congr_left' hasked)⟩

theorem startsAt_pure (v : α) (hasked : ¬ asked) : StartsAt (pure v) url asked := by
  refine (makes_pure v).startsAt fun first => ?_
  simp [hasked]

theorem StartsAt.map (h : StartsAt act url asked) (f : α → β) :
    StartsAt (do return f (← act)) url asked := by
  intro sent
  obtain ⟨made, hmade, hfirst⟩ := h sent
  exact ⟨made, hmade, hfirst⟩

end Web

namespace Catalog

open Web

variable {catalog : Catalog}

theorem head?_arrivals {page first : Url} : (catalog.arrivals page).head? = some first ↔
    catalog page.requested ≠ .unreachable ∧ first = page.requested := by
  unfold arrivals
  by_cases h : catalog page.requested = .unreachable
  · simp [h]
  · simp [h, eq_comm]

theorem follow_startsAt (first : Url) (left : Nat) (page : Url) :
    StartsAt (catalog.follow first left page) page.requested
      (catalog page.requested ≠ .unreachable) := by
  cases hhop : hop first page (catalog page.requested) with
  | ending result =>
    exact (follow_makes_of_ending hhop left).startsAt fun _ => head?_arrivals
  | onward next =>
    have hfirst : ∀ made : List Url, ∀ sent, (page.requested :: made).head? = some sent ↔
        catalog page.requested ≠ .unreachable ∧ sent = page.requested := by
      intro made sent
      rw [← head?_arrivals, arrivals_of_onward hhop]
      rfl
    cases left with
    | zero => exact (follow_makes_zero hhop).startsAt (hfirst [])
    | succ left =>
      obtain ⟨result, made, hmade, -⟩ := follow_makes catalog first left next
      exact (follow_makes_succ hhop hmade).startsAt (hfirst made)

/-- **The first request of a fetch** names the address that is fetched, and it is made exactly where
that address can be reached. -/
theorem fetch_startsAt (catalog : Catalog) (url : Url) :
    StartsAt (catalog.fetch url) url.requested (catalog.Reaches url) := by
  unfold fetch
  split
  · next hcan =>
    refine (follow_startsAt url maxRedirects url).of_iff ⟨fun harrives => ?_, Reaches.arrives⟩
    exact ⟨hcan, harrives⟩
  · next hcan => exact startsAt_pure _ fun hreaches => hcan hreaches.sendable

end Catalog

/-! ## Searches -/

/-- Whether a search asks for books by their closeness, where it can. -/
def Query.ranked? : Query → Option Bool
  | .keyword _ ranked => some ranked
  | .regex _ ranked => some ranked
  | _ => none

namespace Client

theorem search_startsAt (client : Client) (catalog : Catalog) (query : Query) :
    Web.StartsAt (client.search catalog query) (client.searchUrl query).requested
      (catalog.Reaches (client.searchUrl query)) :=
  (catalog.fetch_startsAt (client.searchUrl query)).map (booksOf query.kind)

/-- A look-up makes no request for the empty identifier. -/
theorem book_startsAt (client : Client) (catalog : Catalog) (id : Id) :
    Web.StartsAt (client.book catalog id) (client.bookUrl id).requested
      (id.text ≠ "" ∧ catalog.Reaches (client.bookUrl id)) := by
  unfold book
  split
  · next hblank => exact Web.startsAt_pure _ fun h => h.1 hblank
  · next hid =>
    exact ((catalog.fetch_startsAt (client.bookUrl id)).map (bookOf id)).of_iff
      (and_iff_right hid).symm

theorem book_startsAt_of_ne (client : Client) (catalog : Catalog) {id : Id} (hid : id.text ≠ "") :
    Web.StartsAt (client.book catalog id) (client.bookUrl id).requested
      (catalog.Reaches (client.bookUrl id)) :=
  (client.book_startsAt catalog id).of_iff (and_iff_right hid)

theorem pairs_searchUrl (client : Client) (query : Query) :
    (client.searchUrl query).requested.pairs = client.endpoint.pairs ++ query.parameters :=
  Url.pairs_addPairs client.endpoint.withoutUser query.parameters

theorem filter_closeness (query : Query) :
    query.parameters.filter (fun p => p.1 = "closeness") =
      match query.ranked? with
      | some true => [("closeness", "true")]
      | some false => [("closeness", "false")]
      | none => [] := by
  cases query with
  | keyword text ranked => cases ranked <;> rfl
  | regex pattern ranked => cases ranked <;> rfl
  | title text => rfl
  | author text => rfl
  | suggestions terms => rfl

/-- **The request of a search** holds the named values of the address of all books and behind them
the parameters of the search, unchanged and in order, whatever characters they hold; among those
added the closeness stands once, as the word for what the search has, where the search can be ranked
and not else. -/
theorem pairs_sent (client : Client) (catalog : Catalog) (query : Query) :
    Web.StartsAt (client.search catalog query) (client.searchUrl query).requested
      (catalog.Reaches (client.searchUrl query)) ∧
    (client.searchUrl query).requested.pairs = client.endpoint.pairs ++ query.parameters ∧
    ((client.searchUrl query).requested.pairs.drop client.endpoint.pairs.length).filter
        (fun p => p.1 = "closeness") =
      match query.ranked? with
      | some true => [("closeness", "true")]
      | some false => [("closeness", "false")]
      | none => [] := by
  refine ⟨search_startsAt client catalog query, pairs_searchUrl client query, ?_⟩
  rw [pairs_searchUrl, List.drop_left]
  exact filter_closeness query

end Client

end BookCatalog
