import BookCatalog.Proofs.Catalog.Server

/-!
# Settings that can be used

Settings that pass their check lead to a client, if the address of all books can be read and
requests can carry the name of the client.  The check looks at the base address alone: what counts
for nothing at its end does count where it comes to stand in front of `/books`.

* `Config.RunsOn` — base addresses that end with their server and then with such characters;
* `Config.exists_endpoint_iff` — for no others the address of all books cannot be read;
* `Client.ofConfig_of_validate` — checked settings with another base address have a client exactly
  where a request can carry its name.
-/

namespace BookCatalog

namespace Url

instance (cs : List Char) : Decidable (IsZone cs) :=
  decidable_of_iff (cs.all (!endsAuthority true ·) = true) (by simp [IsZone])

/-- The text of an address ends with its server: no path, query or fragment is begun. -/
def EndsWithServer (cs : List Char) : Prop :=
  ∃ found ∈ scheme? (relevant cs), IsZone (found.2.dropWhile isSlash)

instance (cs : List Char) : Decidable (EndsWithServer cs) :=
  decidable_of_iff
    ((scheme? (relevant cs)).any (fun found => decide (IsZone (found.2.dropWhile isSlash))) = true)
    (by simp [EndsWithServer, Option.any_eq_true])

theorem exists_parsePage_of_zone {secure : Bool} {zone rest rest' : List Char} {a : Url}
    (hzone : IsZone zone) (hrest : EndsZone rest) (hrest' : EndsZone rest')
    (ha : parsePage secure (zone ++ rest) = .ok a) :
    ∃ b, parsePage secure (zone ++ rest') = .ok b := by
  unfold parsePage at ha ⊢
  rw [parseAuthority_append hzone hrest] at ha
  rw [parseAuthority_append hzone hrest']
  cases hparts : parseAuthority zone with
  | error e =>
    rw [hparts] at ha
    cases ha
  | ok parts => exact ⟨_, rfl⟩

/-- **A continued text** of an address is read unless characters that count for nothing at the end
come to stand behind the server. -/
theorem exists_parseAfterScheme_iff {scheme kept slashes blank : List Char} {a : Url}
    (tail : List Char) (hslashes : ∀ c ∈ slashes, c = '/') (hblank : ∀ c ∈ blank, c.toNat ≤ 0x20)
    (ha : parseAfterScheme scheme (kept ++ slashes) = .ok (.page a)) :
    (∃ b, parseAfterScheme scheme (kept ++ blank ++ '/' :: tail) = .ok (.page b)) ↔
      blank = [] ∨ ¬ IsZone (kept.dropWhile isSlash) := by
  obtain ⟨secure, hstyle, ha⟩ := web_of_parseAfterScheme ha
  have hpage : (∃ b, parseAfterScheme scheme (kept ++ blank ++ '/' :: tail) = .ok (.page b)) ↔
      ∃ b, parsePage secure ((kept ++ blank ++ '/' :: tail).dropWhile isSlash) = .ok b := by
    unfold parseAfterScheme
    rw [hstyle]
    show (∃ b, (parsePage secure ((kept ++ blank ++ '/' :: tail).dropWhile isSlash)).map .page =
      .ok (Target.page b)) ↔ _
    generalize parsePage secure ((kept ++ blank ++ '/' :: tail).dropWhile isSlash) = page
    cases page with
    | error e => simp [Except.map]
    | ok b => simp [Except.map]
  rw [hpage]
  rcases zone_of_continued tail hslashes hblank ha with
    ⟨zone, rest, rest', hzone, hrest, hrest', heq, heq', hfree⟩ | ⟨⟨e, he⟩, hne, hserver⟩
  · rw [heq] at ha
    rw [heq']
    exact ⟨fun _ => hfree, fun _ => exists_parsePage_of_zone hzone hrest hrest' ha⟩
  · rw [he]
    constructor
    · rintro ⟨b, hb⟩
      cases hb
    · rintro (hnil | hlong)
      · exact absurd hnil hne
      · exact absurd hserver hlong

end Url

namespace Config

variable {c : Config}

/-- The base address ends with its server, and then with characters that count for nothing there:
they would become part of the server in front of `/books`. -/
def RunsOn (c : Config) : Prop :=
  Url.EndsWithServer c.baseUrl.toList ∧ Url.trailing c.baseUrl.toList ≠ []

instance (c : Config) : Decidable c.RunsOn :=
  inferInstanceAs (Decidable (Url.EndsWithServer c.baseUrl.toList ∧ _))

/-- **The address of all books** of checked settings can be read unless the base address runs on. -/
theorem exists_endpoint_iff {base : Url} (h : c.validate = .ok base) :
    (∃ endpoint, c.endpoint = .ok endpoint) ↔ ¬ c.RunsOn := by
  have hbase := parse_of_validate h
  have hparse : (∃ endpoint, c.endpoint = .ok endpoint) ↔
      ∃ endpoint, Url.parse c.endpointText = .ok (.page endpoint) := by
    constructor
    · rintro ⟨endpoint, hendpoint⟩
      exact ⟨endpoint, parse_of_endpoint hendpoint⟩
    · rintro ⟨endpoint, hpage⟩
      exact ⟨endpoint, by rw [Config.endpoint, hpage]⟩
  rw [hparse]
  unfold Url.parse at hbase ⊢
  cases hscheme : Url.scheme? (Url.relevant c.baseUrl.toList) with
  | none => simp [hscheme] at hbase
  | some found =>
    obtain ⟨scheme, rest⟩ := found
    obtain ⟨kept, slashes, rfl, hafter, hslashes, hnone⟩ := scheme?_endpointText hscheme
    rw [hscheme] at hbase
    have hends : Url.EndsWithServer c.baseUrl.toList ↔
        Url.IsZone ((kept ++ slashes).dropWhile Url.isSlash) := by
      constructor
      · rintro ⟨found, hfound, hzone⟩
        rw [hscheme] at hfound
        cases hfound
        exact hzone
      · intro hzone
        exact ⟨_, hscheme, hzone⟩
    have hblank : ∀ ch ∈ Url.trailing c.baseUrl.toList, ch.toNat ≤ 0x20 :=
      fun _ => Url.le_of_mem_trailing
    have hiff := Url.exists_parseAfterScheme_iff ['b', 'o', 'o', 'k', 's'] hslashes
      hblank hbase
    rw [hafter, RunsOn, hends]
    refine hiff.trans ?_
    rcases hnone with hnil | rfl
    · simp [hnil]
    · rw [List.append_nil, not_and_or, ne_eq, not_not, or_comm]

/-- A request can carry the name that is given to the client, if one is: it holds no control
character but the tab. -/
def CarriesName (c : Config) : Prop :=
  ∀ name ∈ c.userAgent, ∀ ch ∈ name.toList, ch = '\t' ∨ 0x20 ≤ ch.toNat ∧ ch.toNat ≠ 0x7F

theorem isHeaderChar_iff {ch : Char} :
    isHeaderChar ch = true ↔ ch = '\t' ∨ 0x20 ≤ ch.toNat ∧ ch.toNat ≠ 0x7F := by
  simp [isHeaderChar]

theorem all_isHeaderChar_iff :
    (c.userAgent.getD defaultUserAgent).toList.all isHeaderChar = true ↔ c.CarriesName := by
  unfold CarriesName
  cases c.userAgent with
  | none =>
    have hdefault : defaultUserAgent.toList.all isHeaderChar = true := by decide
    simp [hdefault]
  | some name => simp [List.all_eq_true, isHeaderChar_iff]

instance (c : Config) : Decidable c.CarriesName := decidable_of_iff _ all_isHeaderChar_iff

theorem agent_eq :
    c.agent = if c.CarriesName then .ok (c.userAgent.getD defaultUserAgent)
      else .error (.config "failed to build HTTP client: builder error") := by
  unfold agent
  simp only [all_isHeaderChar_iff]

end Config

namespace Client

theorem ofConfig_of_not_carriesName {c : Config} {base endpoint : Url}
    (hvalid : c.validate = .ok base) (hendpoint : c.endpoint = .ok endpoint)
    (hname : ¬ c.CarriesName) :
    ofConfig c = .error (.config "failed to build HTTP client: builder error") := by
  have hagent : c.agent = .error (.config "failed to build HTTP client: builder error") := by
    rw [Config.agent_eq, if_neg hname]
  unfold ofConfig
  rw [hvalid, hendpoint, hagent]
  rfl

/-- **Checked settings can be used** where the base address does not run on: the address of all
books can be read, and there is a client unless a request cannot carry its name. -/
theorem ofConfig_of_validate {c : Config} {base : Url} (hvalid : c.validate = .ok base)
    (hruns : ¬ c.RunsOn) :
    ∃ endpoint, Url.parse c.endpointText = .ok (.page endpoint) ∧
      (c.CarriesName → ofConfig c = .ok ⟨endpoint, c.userAgent.getD Config.defaultUserAgent⟩) ∧
      (¬ c.CarriesName →
        ofConfig c = .error (.config "failed to build HTTP client: builder error")) := by
  obtain ⟨endpoint, hendpoint⟩ := (Config.exists_endpoint_iff hvalid).2 hruns
  refine ⟨endpoint, Config.parse_of_endpoint hendpoint, fun hname => ?_, fun hname => ?_⟩
  · have hagent : c.agent = .ok (c.userAgent.getD Config.defaultUserAgent) := by
      rw [Config.agent_eq, if_pos hname]
    exact ofConfig_eq_ok_iff.2 ⟨⟨base, hvalid⟩, hendpoint, hagent⟩
  · exact ofConfig_of_not_carriesName hvalid hendpoint hname

/-- Space behind a query does no harm, and a name may hold a tab. -/
theorem ofConfig_of_validate_query :
    let c : Config := ⟨"http://[::1]?x \n", 30, some "a\tb"⟩
    (∃ base, c.validate = .ok base) ∧ ¬ c.RunsOn ∧ c.CarriesName ∧
      ∃ client, ofConfig c = .ok client ∧ client.userAgent = "a\tb" := by
  intro c
  let base : Url :=
    { secure := false, user := [], password := [], host := .ipv6 [0, 0, 0, 0, 0, 0, 0, 1]
      port := none, path := [[]], query := some ['x'], fragment := none }
  have hvalid : c.validate = .ok base := by decide +kernel
  have hruns : ¬ c.RunsOn := by decide +kernel
  have hname : c.CarriesName := by decide +kernel
  obtain ⟨endpoint, -, hclient, -⟩ := ofConfig_of_validate hvalid hruns
  exact ⟨⟨base, hvalid⟩, hruns, hname, _, hclient hname, rfl⟩

/-- The check does not look at the name of the client, nor at what comes to stand behind the
server. -/
theorem validate_without_client :
    let unnamed : Config := ⟨"http://[::1]/", 30, some "a\nb"⟩
    let trailing : Config := ⟨"http://[::1] ", 30, none⟩
    (∃ base, unnamed.validate = .ok base) ∧
      ofConfig unnamed = .error (.config "failed to build HTTP client: builder error") ∧
      (∃ base, trailing.validate = .ok base) ∧ ∀ client, ofConfig trailing ≠ .ok client := by
  intro unnamed trailing
  let base : Url :=
    { secure := false, user := [], password := [], host := .ipv6 [0, 0, 0, 0, 0, 0, 0, 1]
      port := none, path := [[]], query := none, fragment := none }
  have hunnamed : unnamed.validate = .ok base := by decide +kernel
  have htrailing : trailing.validate = .ok base := by decide +kernel
  have hname : ¬ unnamed.CarriesName := by decide +kernel
  have hfree : ¬ unnamed.RunsOn := by decide +kernel
  have hruns : trailing.RunsOn := by decide +kernel
  obtain ⟨endpoint, hendpoint⟩ := (Config.exists_endpoint_iff hunnamed).2 hfree
  refine ⟨⟨base, hunnamed⟩, ofConfig_of_not_carriesName hunnamed hendpoint hname, ⟨base, htrailing⟩,
    fun client hclient => ?_⟩
  obtain ⟨-, hfound, -⟩ := ofConfig_eq_ok_iff.1 hclient
  exact (Config.exists_endpoint_iff htrailing).1 ⟨_, hfound⟩ hruns

end Client

end BookCatalog
