import BookCatalog.Proofs.Catalog.Searches
import BookCatalog.Proofs.Url.Path

/-!
# Terms of a search for suggestions

The terms are sent as one value, with a comma between each two of them.  Cutting the value at its
commas gives the terms again, if there are any and none of them holds a comma.

* `Query.termsIn_join_iff` — terms that are got back from their value;
* `Client.terms_sent` — the value in the request, and requests for different terms.
-/

namespace BookCatalog

namespace Query

variable {terms others : List String}

/-- The terms in a value: its pieces between the commas. -/
def termsIn (value : String) : List String := (Text.cut ',' value.toList).map String.ofList

/-- Terms that commas keep apart: at least one, and none that holds a comma. -/
structure Separable (terms : List String) : Prop where
  ne_nil : terms ≠ []
  comma : ∀ term ∈ terms, ',' ∉ term.toList

theorem separable_termsIn (value : String) : Separable (termsIn value) where
  ne_nil h := Text.cut_ne_nil ',' value.toList (List.map_eq_nil_iff.1 h)
  comma term hterm := by
    obtain ⟨piece, hpiece, rfl⟩ := List.mem_map.1 hterm
    rw [String.toList_ofList]
    exact Text.not_mem_of_mem_cut hpiece

/-- **Terms are got back** from the value that joins them, if commas keep them apart, and only
then. -/
theorem termsIn_join_iff : termsIn (Text.join "," terms) = terms ↔ Separable terms := by
  constructor
  · intro h
    rw [← h]
    exact separable_termsIn _
  · intro h
    have hcomma : ∀ piece ∈ terms.map String.toList, ',' ∉ piece := by
      intro piece hpiece
      obtain ⟨term, hterm, rfl⟩ := List.mem_map.1 hpiece
      exact h.comma term hterm
    have hback := Text.map_ofList_map_toList terms
    have hne : terms.map String.toList ≠ [] := mt List.map_eq_nil_iff.1 h.ne_nil
    rw [termsIn, Text.join, String.toList_ofList]
    generalize terms.map String.toList = pieces at hcomma hback hne ⊢
    obtain ⟨p, ps, rfl⟩ := List.exists_cons_of_ne_nil hne
    exact (congrArg (List.map String.ofList) (Text.cut_joined hcomma)).trans hback

theorem Separable.eq_of_join_eq (h : Separable terms) (h' : Separable others)
    (hjoin : Text.join "," terms = Text.join "," others) : terms = others := by
  rw [← termsIn_join_iff.2 h, hjoin, termsIn_join_iff.2 h']

end Query

namespace Client

open Query (termsIn Separable)

variable (client : Client)

/-- What a client makes of the terms of a search for suggestions. -/
structure SendsTerms (terms : List String) : Prop where
  /-- The search asks first for the address that is made of the terms, wherever it can. -/
  asked (c : Config) (catalog : Catalog) (h : ofConfig c = .ok client) :
    Web.StartsAt (c.suggestions catalog terms) (client.searchUrl (.suggestions terms)).requested
      (catalog.Reaches (client.searchUrl (.suggestions terms)))
  /-- The address holds a single named value, and the terms are the pieces of it between commas. -/
  single : ∃ value,
    (client.searchUrl (.suggestions terms)).requested.pairs = [("suggestions", value)] ∧
      termsIn value = terms
  /-- Other terms have another address. -/
  apart (others : List String) (h : Separable others) (hne : others ≠ terms) :
    (client.searchUrl (.suggestions others)).requested.toText ≠
      (client.searchUrl (.suggestions terms)).requested.toText

theorem suggestions_startsAt {c : Config} (h : ofConfig c = .ok client) (catalog : Catalog)
    (terms : List String) : Web.StartsAt (c.suggestions catalog terms)
      (client.searchUrl (.suggestions terms)).requested
      (catalog.Reaches (client.searchUrl (.suggestions terms))) := by
  rw [Config.suggestions, Config.withClient_of_ofConfig h]
  exact (client.search_startsAt catalog (.suggestions terms)).map fun v => v.map Book.distinct

/-- **Terms that commas keep apart** are got back from the request, with all their characters, in
order and with their repetitions, and different terms are sent in different requests. -/
theorem terms_sent (hquery : client.endpoint.query = none) {terms : List String}
    (h : Separable terms) : client.SendsTerms terms where
  asked c catalog hclient := client.suggestions_startsAt hclient catalog terms
  single := by
    have hnone : client.endpoint.pairs = [] := by
      rw [Url.pairs, hquery]
      rfl
    refine ⟨Text.join "," terms, ?_, Query.termsIn_join_iff.2 h⟩
    rw [pairs_searchUrl, hnone]
    rfl
  apart others hothers hne htext := by
    have hparameters := client.parameters_eq_of_toText_eq htext
    have hjoin : Text.join "," others = Text.join "," terms := by
      simpa only [Query.parameters, List.cons.injEq, Prod.mk.injEq, true_and, and_true]
        using hparameters
    exact hne (hothers.eq_of_join_eq h hjoin)

/-- Empty terms, terms that repeat, and marks of the syntax of addresses. -/
theorem terms_sent_loopback :
    Separable ["", " a", "+%2C", " a", ""] ∧ Separable [" a"] ∧
      (∃ value,
        (loopback.searchUrl (.suggestions ["", " a", "+%2C", " a", ""])).requested.pairs =
          [("suggestions", value)] ∧ termsIn value = ["", " a", "+%2C", " a", ""]) ∧
      (loopback.searchUrl (.suggestions [" a"])).requested.toText ≠
        (loopback.searchUrl (.suggestions ["", " a", "+%2C", " a", ""])).requested.toText := by
  have hterms : Separable ["", " a", "+%2C", " a", ""] := ⟨by decide, by decide⟩
  have hother : Separable [" a"] := ⟨by decide, by decide⟩
  have hsent := loopback.terms_sent rfl hterms
  exact ⟨hterms, hother, hsent.single, hsent.apart _ hother (by decide)⟩

end Client

end BookCatalog
