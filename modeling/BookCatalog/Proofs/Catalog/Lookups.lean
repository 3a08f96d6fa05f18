import BookCatalog.Proofs.Catalog.Outcome
import BookCatalog.Proofs.Catalog.Requests
import BookCatalog.Proofs.Url.Push

/-!
# The address of a book

A book is looked up at the address of all books with one segment more, in which the identifier
stands encoded, so that nothing in it is taken for a mark of the address.

* `Id.IsSegment` — the identifiers that can be a segment;
* `Client.bookUrl_eq` — the address of a book with such an identifier;
* `Client.segment_of_bookUrl` — what its last segment holds, and that no other book has this
  address.
-/

namespace BookCatalog

/-- An identifier that can be a segment of a path: it is not empty, it is not one dot or two, and it
holds no tab and no line end. -/
structure Id.IsSegment (id : Id) : Prop where
  ne_empty : id.text ≠ ""
  ne_dot : id.text ≠ "."
  ne_dots : id.text ≠ ".."
  plain : id.text.toList.any Url.isTabOrNewline = false

def Id.segment (id : Id) : List Char := Percent.encode Percent.keepInSegment id.text.toList

theorem Id.decode_segment (id : Id) :
    Percent.decode id.segment = Utf8.encode id.text.toList :=
  Percent.decode_encode (by decide) id.text.toList

theorem Id.segment_injective {a b : Id} (h : a.segment = b.segment) : a = b :=
  Id.eq_of_text (String.toList_inj.1 (Percent.encode_injective (by decide) h))

namespace Client

variable (client : Client) {id other : Id}

theorem push_segment (h : id.IsSegment) :
    client.endpoint.push id.text =
      { client.endpoint with path := Url.ground client.endpoint.path ++ [id.segment] } :=
  Url.push_eq client.endpoint h.ne_dot h.ne_dots fun c hc => by
    simpa using List.any_eq_false.1 h.plain c hc

theorem bookUrl_eq (h : id.IsSegment) :
    client.bookUrl id = { client.endpoint.withoutUser with
      path := Url.ground client.endpoint.path ++ [id.segment] } := by
  rw [bookUrl, push_segment client h]
  rfl

theorem toText_bookUrl_ne (h : id.IsSegment) (hother : other.IsSegment) (hne : other ≠ id) :
    (client.bookUrl other).requested.toText ≠ (client.bookUrl id).requested.toText := by
  intro htext
  have hwrite : (client.bookUrl other).requested.write = (client.bookUrl id).requested.write :=
    String.ofList_inj.1 htext
  rw [bookUrl_eq client h, bookUrl_eq client hother] at hwrite
  exact hne (Id.segment_injective (Url.write_append_injective client.endpoint.requested hwrite))

/-- **The address of a book** differs from the address of all books in its path alone: behind what a
push leaves there stands one further segment, which holds no mark of a path and stands for the
identifier.  It is the address that a look-up requests, and no other book has it. -/
theorem segment_of_bookUrl (h : id.IsSegment) :
    (∃ segment : List Char,
      client.endpoint.push id.text =
        { client.endpoint with path := Url.ground client.endpoint.path ++ [segment] } ∧
      client.bookUrl id = (client.endpoint.push id.text).withoutUser ∧
      (∀ mark ∈ ['/', '?', '#', '\\'], mark ∉ segment) ∧
      Percent.decode segment = Utf8.encode id.text.toList) ∧
    (∀ catalog, Web.StartsAt (client.book catalog id) (client.bookUrl id).requested
      (catalog.Reaches (client.bookUrl id))) ∧
    ∀ other : Id, other.IsSegment → other ≠ id →
      (client.bookUrl other).requested.toText ≠ (client.bookUrl id).requested.toText :=
  ⟨⟨id.segment, push_segment client h, rfl, fun _ hmark => Percent.not_mem_segment hmark _,
    id.decode_segment⟩,
    fun catalog => client.book_startsAt_of_ne catalog h.ne_empty,
    fun _ hother hne => toText_bookUrl_ne client h hother hne⟩

/-- A slash in an identifier and an encoded slash are told apart. -/
theorem segment_of_bookUrl_slash :
    ∃ client : Client, ofConfig ⟨"http://[::1]/api", 30, none⟩ = .ok client ∧
      (Id.ofText "a/b").IsSegment ∧ (Id.ofText "a%2Fb").IsSegment ∧
      (client.bookUrl (Id.ofText "a%2Fb")).requested.toText ≠
        (client.bookUrl (Id.ofText "a/b")).requested.toText := by
  let base : Url :=
    { secure := false, user := [], password := [], host := .ipv6 [0, 0, 0, 0, 0, 0, 0, 1]
      port := none, path := [['a', 'p', 'i']], query := none, fragment := none }
  let c : Config := ⟨"http://[::1]/api", 30, none⟩
  have hvalid : c.validate = .ok base := by decide +kernel
  have hendpoint : Url.parse c.endpointText = .ok (.page (base.push "books")) := by decide +kernel
  have hagent : c.agent = .ok Config.defaultUserAgent := by decide +kernel
  have hslash : (Id.ofText "a/b").IsSegment := ⟨by decide, by decide, by decide, by decide⟩
  have hencoded : (Id.ofText "a%2Fb").IsSegment := ⟨by decide, by decide, by decide, by decide⟩
  exact ⟨_, ofConfig_of_parse hvalid hendpoint hagent, hslash, hencoded,
    (segment_of_bookUrl _ hslash).2.2 (Id.ofText "a%2Fb") hencoded (by decide)⟩

/-- Of a path of two empty segments both give way, and not only the one at its end. -/
theorem bookUrl_of_two_empty :
    ∃ client : Client, ofConfig ⟨"http://[::1]//?x", 30, none⟩ = .ok client ∧
      (Id.ofText "5").IsSegment ∧
      ∀ segment : List Char,
        (client.bookUrl (Id.ofText "5")).path ≠ Url.stem client.endpoint.path ++ [segment] := by
  let base : Url :=
    { secure := false, user := [], password := [], host := .ipv6 [0, 0, 0, 0, 0, 0, 0, 1]
      port := none, path := [[], []], query := some ['x'], fragment := none }
  let endpoint : Url := { base with query := some ['x', '/', 'b', 'o', 'o', 'k', 's'] }
  let c : Config := ⟨"http://[::1]//?x", 30, none⟩
  have hvalid : c.validate = .ok base := by decide +kernel
  have hendpoint : Url.parse c.endpointText = .ok (.page endpoint) := by decide +kernel
  have hagent : c.agent = .ok Config.defaultUserAgent := by decide +kernel
  refine ⟨⟨endpoint, Config.defaultUserAgent⟩, ofConfig_of_parse hvalid hendpoint hagent,
    ⟨by decide, by decide, by decide, by decide⟩, fun segment h => ?_⟩
  have hpath : (bookUrl ⟨endpoint, Config.defaultUserAgent⟩ (Id.ofText "5")).path = [['5']] := by
    decide +kernel
  rw [hpath] at h
  exact absurd (congrArg List.length h) (by simp [endpoint, base, Url.stem])

end Client

end BookCatalog
