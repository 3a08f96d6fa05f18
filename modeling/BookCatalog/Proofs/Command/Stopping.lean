import BookCatalog.Command.Basic
import BookCatalog.Proofs.Catalog.Searches

/-!
# Settings come first

Settings that describe no client stop everything that would use one, before anything is looked at or
requested, whatever is searched for.

* `Client.ofConfig_eq_error_iff` — which check it is whose failure is told;
* `Config.Stopped` — what such settings make of every search and every command;
* `Config.settingsFirst` — they stop everything, and all others stop no search.
-/

namespace BookCatalog

/-- The first check that fails is told: of the settings, then of the address of all books, then of
the name of the client. -/
theorem Client.ofConfig_eq_error_iff {c : Config} {e : SearchError} :
    ofConfig c = .error e ↔ c.validate = .error e ∨
      ∃ base, c.validate = .ok base ∧ (c.endpoint = .error e ∨
        ∃ endpoint, c.endpoint = .ok endpoint ∧ c.agent = .error e) := by
  unfold ofConfig
  cases c.validate with
  | error e => simp [bind, Except.bind]
  | ok base =>
    cases c.endpoint with
    | error e => simp [bind, Except.bind]
    | ok endpoint => cases c.agent <;> simp [bind, Except.bind, pure, Except.pure]

namespace Config

variable {c : Config} {e : SearchError}

/-! ## The failures of the checks -/

theorem exists_config_of_validate (h : c.validate = .error e) : ∃ detail, e = .config detail := by
  unfold validate at h
  split at h
  · cases h
    exact ⟨_, rfl⟩
  · cases h
    exact ⟨_, rfl⟩
  · split at h
    · cases h
      exact ⟨_, rfl⟩
    · cases h

theorem exists_config_of_endpoint (h : c.endpoint = .error e) : ∃ detail, e = .config detail := by
  unfold endpoint at h
  split at h
  · cases h
    exact ⟨_, rfl⟩
  · cases h
    exact ⟨_, rfl⟩
  · cases h

theorem exists_config_of_agent (h : c.agent = .error e) : ∃ detail, e = .config detail := by
  unfold agent at h
  dsimp only at h
  split at h
  · cases h
  · cases h
    exact ⟨_, rfl⟩

theorem exists_config_of_ofConfig (h : Client.ofConfig c = .error e) :
    ∃ detail, e = .config detail := by
  rcases Client.ofConfig_eq_error_iff.1 h with hvalid | ⟨-, -, hendpoint | ⟨-, -, hagent⟩⟩
  · exact exists_config_of_validate hvalid
  · exact exists_config_of_endpoint hendpoint
  · exact exists_config_of_agent hagent

/-! ## What is stopped -/

theorem withClient_of_error {α : Type} (h : Client.ofConfig c = .error e)
    (act : Client → Web (Except SearchError α)) : c.withClient act = pure (.error e) := by
  rw [withClient, h]

/-- What settings without a client make of every request: it ends in the failure to get the client,
and nothing is requested. -/
structure Stopped (c : Config) (e : SearchError) : Prop where
  settings : ∃ detail, e = .config detail
  /-- The failure is that of the check of the settings, if they do not pass it. -/
  invalid : ∀ e', c.validate = .error e' → e = e'
  search : ∀ (catalog : Catalog) (query : Option String) (sent : List Url),
    (c.search catalog query).run sent = (.error e, sent)
  book : ∀ (catalog : Catalog) (id : Id) (sent : List Url),
    (c.book catalog id).run sent = (.error e, sent)
  suggestions : ∀ (catalog : Catalog) (terms : List String) (sent : List Url),
    (c.suggestions catalog terms).run sent = (.error e, sent)
  showSearch : ∀ (catalog : Catalog) (query : Option String) (order : View.Order) (style : Style)
    (sent : List Url),
    (c.showSearch catalog query order style).run sent = (.error (.search e), sent)
  showBook : ∀ (catalog : Catalog) (id : Id) (style : Style) (sent : List Url),
    (c.showBook catalog id style).run sent = (.error (.search e), sent)
  showSuggestions : ∀ (catalog : Catalog) (terms : List String) (style : Style) (sent : List Url),
    (c.showSuggestions catalog terms style).run sent = (.error (.search e), sent)
  /-- A command tells of the failure in its own words. -/
  words : (CommandError.search e).message = e.message

theorem stopped_of_ofConfig (h : Client.ofConfig c = .error e) : c.Stopped e := by
  have hsearch : ∀ catalog query, c.search catalog query = pure (.error e) :=
    fun catalog query => withClient_of_error h _
  have hbook : ∀ catalog id, c.book catalog id = pure (.error e) :=
    fun catalog id => withClient_of_error h _
  have hsuggestions : ∀ catalog terms, c.suggestions catalog terms = pure (.error e) :=
    fun catalog terms => withClient_of_error h _
  refine ⟨exists_config_of_ofConfig h, ?_, ?_, ?_, ?_, ?_, ?_, ?_, rfl⟩
  · intro e' hinvalid
    rw [Client.ofConfig_eq_error_iff.2 (.inl hinvalid), Except.error.injEq] at h
    exact h.symm
  · intro catalog query sent
    rw [hsearch]
    rfl
  · intro catalog id sent
    rw [hbook]
    rfl
  · intro catalog terms sent
    rw [hsuggestions]
    rfl
  · intro catalog query order style sent
    cases style with
    | text => rw [showSearch, hsearch]; rfl
    | json => rw [showSearch, hsearch]; rfl
  · intro catalog id style sent
    cases style with
    | text => rw [showBook, hbook]; rfl
    | json => rw [showBook, hbook]; rfl
  · intro catalog terms style sent
    cases style with
    | text => rw [showSuggestions, hsuggestions]; rfl
    | json => rw [showSuggestions, hsuggestions]; rfl

/-! ## What is not stopped -/

/-- With a client every search ends in results, whatever the catalog does. -/
structure Searches (c : Config) : Prop where
  search : ∀ (catalog : Catalog) (query : Option String) (sent : List Url),
    ∃ results requests, (c.search catalog query).run sent = (.ok results, requests)
  showSearch : ∀ (catalog : Catalog) (query : Option String) (order : View.Order) (style : Style)
    (sent : List Url), ∃ output requests,
      (c.showSearch catalog query order style).run sent = (.ok output, requests)

theorem searches_of_ofConfig {client : Client} (h : Client.ofConfig c = .ok client) :
    c.Searches where
  search := by
    intro catalog query sent
    rw [search, withClient_of_ofConfig h]
    exact ⟨_, _, rfl⟩
  showSearch := by
    intro catalog query order style sent
    cases style with
    | text =>
      rw [showSearch, search, withClient_of_ofConfig h]
      exact ⟨_, _, rfl⟩
    | json =>
      rw [showSearch, search, withClient_of_ofConfig h]
      exact ⟨_, _, rfl⟩

structure SettingsFirst (c : Config) : Prop where
  /-- Settings that do not pass their check describe no client, and the failure is that of the
  check. -/
  invalid : ∀ e, c.validate = .error e → Client.ofConfig c = .error e
  stopped : ∀ e, Client.ofConfig c = .error e → c.Stopped e
  searches : ∀ client, Client.ofConfig c = .ok client → c.Searches

/-- **Settings come first**: settings that do not pass their check describe no client, without a
client everything is stopped by the failure to get one, and with one no search fails. -/
theorem settingsFirst (c : Config) : c.SettingsFirst where
  invalid := fun _ h => Client.ofConfig_eq_error_iff.2 (.inl h)
  stopped := fun _ => stopped_of_ofConfig
  searches := fun _ => searches_of_ofConfig

/-- The time to wait is checked in front of the name of the client. -/
example : Client.ofConfig ⟨"http://[::1]/", 0, some "a\nb"⟩ =
    .error (.config "timeout_seconds must be greater than 0") :=
  Client.ofConfig_eq_error_iff.2 (.inl (by decide +kernel))

end Config

end BookCatalog
