import BookCatalog.Proofs.Catalog.Endpoint
import BookCatalog.Proofs.Catalog.Outcome
import BookCatalog.Proofs.Catalog.Requests
import BookCatalog.Proofs.Url.Authority
import BookCatalog.Proofs.Url.Push

/-!
# The server of a catalog

All requests go to the server that the base address names: it is not lost when the address of all
books is made of the text of the base address, nor when a search or an identifier is added to that.

* `Url.SameServer` — two addresses name one server, reached in one way;
* `Url.sameServer_of_parsePage` — what is added behind an address does not change its server;
* `Client.staysAt_of_ofConfig` — the requests of every client that can be built.
-/

namespace BookCatalog

namespace Url

/-- Two addresses name one server, reached in one way. -/
structure SameServer (a b : Url) : Prop where
  secure : a.secure = b.secure
  host : a.host = b.host
  port : a.port = b.port

/-! ## Reading pages -/

theorem sameServer_of_zone {secure : Bool} {zone rest rest' : List Char} {a b : Url}
    (hzone : IsZone zone) (hrest : EndsZone rest) (hrest' : EndsZone rest')
    (ha : parsePage secure (zone ++ rest) = .ok a)
    (hb : parsePage secure (zone ++ rest') = .ok b) : b.SameServer a := by
  unfold parsePage at ha hb
  rw [parseAuthority_append hzone hrest] at ha
  rw [parseAuthority_append hzone hrest'] at hb
  cases hzone : parseAuthority zone with
  | error e =>
    rw [hzone] at ha
    cases ha
  | ok parts =>
    rw [hzone] at ha hb
    cases ha
    cases hb
    exact ⟨rfl, rfl, rfl⟩

theorem parsePage_nil (secure : Bool) : parsePage secure [] = .error .emptyHost := rfl

theorem exists_zone (cs : List Char) :
    ∃ zone rest, cs = zone ++ rest ∧ IsZone zone ∧ EndsZone rest := by
  refine ⟨cs.takeWhile (!endsAuthority true ·), cs.dropWhile (!endsAuthority true ·),
    List.takeWhile_append_dropWhile.symm, fun c hc => ?_, fun c hc => ?_⟩
  · simpa using List.all_eq_true.1 List.all_takeWhile c hc
  · simpa using Text.head?_dropWhile _ cs c hc

/-- A continued text has the part with user and host of the text that it continues, or this part
gets characters that count for nothing at the end, and is not read. -/
theorem zone_of_continued {secure : Bool} {kept slashes blank : List Char} {a : Url}
    (tail : List Char) (hslashes : ∀ c ∈ slashes, c = '/') (hblank : ∀ c ∈ blank, c.toNat ≤ 0x20)
    (ha : parsePage secure ((kept ++ slashes).dropWhile isSlash) = .ok a) :
    (∃ zone rest rest', IsZone zone ∧ EndsZone rest ∧ EndsZone rest' ∧
        (kept ++ slashes).dropWhile isSlash = zone ++ rest ∧
        (kept ++ blank ++ '/' :: tail).dropWhile isSlash = zone ++ rest' ∧
        (blank = [] ∨ ¬ IsZone (kept.dropWhile isSlash))) ∨
      (∃ e, parsePage secure ((kept ++ blank ++ '/' :: tail).dropWhile isSlash) = .error e) ∧
        blank ≠ [] ∧ IsZone (kept.dropWhile isSlash) := by
  rw [List.dropWhile_append] at ha ⊢
  rw [List.append_assoc kept, List.dropWhile_append]
  generalize kept.dropWhile isSlash = text at ha ⊢
  -- nothing but slashes in front would have given the first reading no host
  have hne : text.isEmpty = false := by
    refine eq_false_of_ne_true fun hempty => ?_
    have hnil : slashes.dropWhile isSlash = [] :=
      List.dropWhile_eq_nil_iff.2 fun c hc => by simp [isSlash, hslashes c hc]
    rw [if_pos hempty, hnil, parsePage_nil] at ha
    cases ha
  rw [if_neg (by simp [hne]), if_neg (by simp [hne])]
  obtain ⟨zone, rest, rfl, hzone, hrest⟩ := exists_zone text
  rw [List.append_assoc, List.append_assoc]
  cases rest with
  | cons d ds =>
    -- the zone ends before the two texts part
    have hmore : ∀ more, EndsZone (d :: ds ++ more) := fun more c hc => hrest c hc
    have hlong : ¬ IsZone (zone ++ d :: ds) := fun hall => by
      have hd := hall d (by simp)
      rw [hrest d rfl] at hd
      cases hd
    exact .inl ⟨zone, _, _, hzone, hmore slashes, hmore _, rfl, rfl, .inr hlong⟩
  | nil =>
    -- the two texts part where the zone ends: both go on with a slash, if with anything
    have hends : ∀ cs : List Char, (∀ c ∈ cs, c = '/') → EndsZone cs := by
      intro cs hcs c hc
      rw [hcs c (List.mem_of_mem_head? hc)]
      rfl
    have hslash : EndsZone ('/' :: tail) := by
      intro c hc
      cases hc
      rfl
    obtain rfl | ⟨before, last, rfl⟩ := List.eq_nil_or_concat' blank
    · exact .inl ⟨zone, _, _, hzone, hends slashes hslashes, hslash, rfl, rfl, .inl rfl⟩
    · -- or the zone would end with a character that counts for nothing, and not be read
      have hnot : ∀ c : Char, c.toNat ≤ 0x20 → endsAuthority true c = false := fun c hc =>
        of_control (P := fun c => endsAuthority true c = false) (by decide) hc
      have hall : IsZone (zone ++ before ++ [last]) := by
        intro c hc
        rw [List.append_assoc, List.mem_append] at hc
        rcases hc with hc | hc
        · exact hzone c hc
        · exact hnot c (hblank c hc)
      obtain ⟨e, he⟩ := parseAuthority_of_control hall (hblank last (by simp))
      have htext : zone ++ ([] ++ (before ++ [last] ++ '/' :: tail)) =
          zone ++ before ++ [last] ++ '/' :: tail := by simp
      refine .inr ⟨⟨e, ?_⟩, by simp, by rwa [List.append_nil]⟩
      rw [htext, parsePage, parseAuthority_append hall hslash, he]
      rfl

/-- **What stands behind the text of an address** does not change its server: slashes may be
exchanged for characters that count for nothing at the end, and further segments. -/
theorem sameServer_of_parsePage {secure : Bool} {kept slashes blank tail : List Char} {a b : Url}
    (hslashes : ∀ c ∈ slashes, c = '/') (hblank : ∀ c ∈ blank, c.toNat ≤ 0x20)
    (ha : parsePage secure ((kept ++ slashes).dropWhile isSlash) = .ok a)
    (hb : parsePage secure ((kept ++ blank ++ '/' :: tail).dropWhile isSlash) = .ok b) :
    b.SameServer a := by
  rcases zone_of_continued tail hslashes hblank ha with
    ⟨zone, rest, rest', hzone, hrest, hrest', heq, heq', -⟩ | ⟨⟨e, he⟩, -⟩
  · rw [heq] at ha
    rw [heq'] at hb
    exact sameServer_of_zone hzone hrest hrest' ha hb
  · rw [he] at hb
    cases hb

/-- **An address of the web** keeps its server when its text is continued. -/
theorem sameServer_of_parseAfterScheme {scheme kept slashes blank tail : List Char} {a b : Url}
    (hslashes : ∀ c ∈ slashes, c = '/') (hblank : ∀ c ∈ blank, c.toNat ≤ 0x20)
    (ha : parseAfterScheme scheme (kept ++ slashes) = .ok (.page a))
    (hb : parseAfterScheme scheme (kept ++ blank ++ '/' :: tail) = .ok (.page b)) :
    b.SameServer a := by
  obtain ⟨secure, hstyle, ha⟩ := web_of_parseAfterScheme ha
  obtain ⟨secure', hstyle', hb⟩ := web_of_parseAfterScheme hb
  obtain rfl : secure' = secure := by
    rw [hstyle] at hstyle'
    cases hstyle'
    rfl
  exact sameServer_of_parsePage hslashes hblank ha hb

end Url

namespace Client

variable {client : Client}

/-- The requests of a client go to the server of an address: a search keeps the path of the address
of all books, and a look-up keeps its query. -/
structure StaysAt (client : Client) (base : Url) : Prop where
  first_search : ∀ catalog query,
    Web.StartsAt (client.search catalog query) (client.searchUrl query).requested
      (catalog.Reaches (client.searchUrl query))
  search_server : ∀ query, (client.searchUrl query).requested.SameServer base
  search_path : ∀ query, (client.searchUrl query).requested.path = client.endpoint.path
  first_book : ∀ catalog id,
    Web.StartsAt (client.book catalog id) (client.bookUrl id).requested
      (id.text ≠ "" ∧ catalog.Reaches (client.bookUrl id))
  book_server : ∀ id, (client.bookUrl id).requested.SameServer base
  book_query : ∀ id, (client.bookUrl id).requested.query = client.endpoint.query

theorem StaysAt.of_endpoint {base : Url} (h : client.endpoint.SameServer base) :
    client.StaysAt base where
  first_search := search_startsAt client
  search_server _ := ⟨h.secure, h.host, h.port⟩
  search_path _ := rfl
  first_book := book_startsAt client
  book_server id := by
    obtain ⟨path, hpush⟩ := Url.push_eq_withPath client.endpoint id.text
    rw [bookUrl, hpush]
    exact ⟨h.secure, h.host, h.port⟩
  book_query id := by
    obtain ⟨path, hpush⟩ := Url.push_eq_withPath client.endpoint id.text
    rw [bookUrl, hpush]
    rfl

end Client

namespace Config

variable {c : Config}

/-- **The address of all books** is on the server that the base address names. -/
theorem sameServer_of_endpoint {base endpoint : Url} (hbase : c.validate = .ok base)
    (hendpoint : c.endpoint = .ok endpoint) : endpoint.SameServer base := by
  have hbase := parse_of_validate hbase
  have hendpoint := parse_of_endpoint hendpoint
  unfold Url.parse at hbase hendpoint
  cases hscheme : Url.scheme? (Url.relevant c.baseUrl.toList) with
  | none => simp [hscheme] at hbase
  | some found =>
    obtain ⟨scheme, rest⟩ := found
    obtain ⟨kept, slashes, rfl, hafter, hslashes, -⟩ := scheme?_endpointText hscheme
    rw [hscheme] at hbase
    rw [hafter] at hendpoint
    exact Url.sameServer_of_parseAfterScheme hslashes (fun _ => Url.le_of_mem_trailing) hbase
      hendpoint

end Config

/-- **Every client that can be built** sends its first requests to the server that the settings
name, whatever is sought. -/
theorem Client.staysAt_of_ofConfig {c : Config} {client : Client} (h : ofConfig c = .ok client) :
    ∃ base, c.validate = .ok base ∧ Url.parse c.baseUrl = .ok (.page base) ∧
      c.endpoint = .ok client.endpoint ∧ client.StaysAt base := by
  obtain ⟨⟨base, hvalid⟩, hendpoint, -⟩ := ofConfig_eq_ok_iff.1 h
  exact ⟨base, hvalid, Config.parse_of_validate hvalid, hendpoint,
    .of_endpoint (Config.sameServer_of_endpoint hvalid hendpoint)⟩

/-- The text that is added to a base address may become part of its query. -/
theorem Client.staysAt_of_ofConfig_query :
    ∃ client base, ofConfig ⟨"http://u:p@[::1]:8080?x", 30, none⟩ = .ok client ∧
      base.port = some 8080 ∧ client.StaysAt base ∧
      client.endpoint.query = some ['x', '/', 'b', 'o', 'o', 'k', 's'] := by
  let base : Url :=
    { secure := false, user := ['u'], password := ['p']
      host := .ipv6 [0, 0, 0, 0, 0, 0, 0, 1], port := some 8080, path := [[]]
      query := some ['x'], fragment := none }
  let endpoint : Url := { base with query := some ['x', '/', 'b', 'o', 'o', 'k', 's'] }
  let c : Config := ⟨"http://u:p@[::1]:8080?x", 30, none⟩
  have hvalid : c.validate = .ok base := by decide +kernel
  have hendpoint : Url.parse c.endpointText = .ok (.page endpoint) := by decide +kernel
  have hagent : c.agent = .ok Config.defaultUserAgent := by decide +kernel
  have hclient := ofConfig_of_parse hvalid hendpoint hagent
  obtain ⟨base', hbase', -, -, hstays⟩ := staysAt_of_ofConfig hclient
  rw [hvalid, Except.ok.injEq] at hbase'
  exact ⟨_, base, hclient, rfl, hbase' ▸ hstays, rfl⟩

end BookCatalog
