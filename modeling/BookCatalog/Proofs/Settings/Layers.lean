import BookCatalog.Proofs.Catalog.Endpoint
import BookCatalog.Settings.Store

/-!
# Layers of settings

The settings to use come in three layers.  The environment says where the catalog is, a file says
any of the settings, and what neither says is as by default.

* `Layer.IsIn` — what a TOML text says of the settings, said without reading them;
* `Config.ofText?_eq_some_iff` — reading them;
* `Config.load_layers` — which file is consulted, what is loaded, and when loading fails.
-/

namespace BookCatalog

/-! ## Layers -/

/-- Settings any of which may be left out. -/
structure Layer where
  baseUrl : Option String
  timeoutSeconds : Option Nat
  userAgent : Option String

namespace Layer

def empty : Layer := ⟨none, none, none⟩

/-- A layer on top of settings, which stand where it leaves something out. -/
def upon (layer : Layer) (c : Config) : Config where
  baseUrl := layer.baseUrl.getD c.baseUrl
  timeoutSeconds := layer.timeoutSeconds.getD c.timeoutSeconds
  userAgent := layer.userAgent.or c.userAgent

/-- What entries say of a key: nothing if it is missing, else what its value is read as. -/
inductive Says {α : Type} (entries : Toml.Entries) (key : String) (of? : Toml.Value → Option α) :
    Option α → Prop
  | nothing (h : entries.lookup key = none) : Says entries key of? none
  | value {v : Toml.Value} {x : α} (h : entries.lookup key = some v) (hx : of? v = some x) :
      Says entries key of? (some x)

/-- The entries on the settings in a document: a table, or a list of the values in order.  A date in
their place says nothing. -/
inductive Section (document : Toml.Entries) : Toml.Entries → Prop
  | missing (h : document.lookup "api" = none) : Section document []
  | table {origin : Toml.Origin} {entries : Toml.Entries}
      (h : document.lookup "api" = some (.table origin entries)) : Section document entries
  | list {values : List Toml.Value} (h : document.lookup "api" = some (.list values)) :
      Section document (Config.keys.zip values)
  | moment (h : document.lookup "api" = some .moment) : Section document []

structure Of (layer : Layer) (entries : Toml.Entries) : Prop where
  baseUrl : Says entries "base_url" Config.textOf? layer.baseUrl
  timeoutSeconds : Says entries "timeout_seconds" Config.secondsOf? layer.timeoutSeconds
  userAgent : Says entries "user_agent" Config.textOf? layer.userAgent

/-- What a TOML text says of the settings. -/
def IsIn (layer : Layer) (text : String) : Prop :=
  ∃ document entries, Toml.read text = some document ∧ Section document entries ∧ layer.Of entries

/-- What the file says that is consulted, if one is. -/
inductive Consulted (files : Files) : Option String → Layer → Prop
  | nothing : Consulted files none empty
  | file {path text : String} {layer : Layer} (hread : files.readText path = .ok text)
      (h : layer.IsIn text) : Consulted files (some path) layer

/-! ## Nothing is said twice -/

theorem Says.unique {α : Type} {entries : Toml.Entries} {key : String}
    {of? : Toml.Value → Option α} {a b : Option α} (ha : Says entries key of? a)
    (hb : Says entries key of? b) : a = b := by
  cases ha with
  | nothing h =>
    cases hb with
    | nothing _ => rfl
    | value h' _ => rw [h] at h'; cases h'
  | value h hx =>
    cases hb with
    | nothing h' => rw [h] at h'; cases h'
    | value h' hx' =>
      obtain rfl := Option.some.inj (h.symm.trans h')
      exact hx.symm.trans hx'

theorem Section.unique {document a b : Toml.Entries} (ha : Section document a)
    (hb : Section document b) : a = b := by
  cases ha with
  | missing h => cases hb <;> simp_all
  | table h => cases hb <;> simp_all
  | list h => cases hb <;> simp_all
  | moment h => cases hb <;> simp_all

theorem Of.unique {a b : Layer} {entries : Toml.Entries} (ha : a.Of entries) (hb : b.Of entries) :
    a = b := by
  obtain ⟨ha₁, ha₂, ha₃⟩ := ha
  obtain ⟨hb₁, hb₂, hb₃⟩ := hb
  cases a
  cases b
  rw [Layer.mk.injEq]
  exact ⟨ha₁.unique hb₁, ha₂.unique hb₂, ha₃.unique hb₃⟩

theorem IsIn.unique {a b : Layer} {text : String} (ha : a.IsIn text) (hb : b.IsIn text) :
    a = b := by
  obtain ⟨document, entries, hread, hsection, ha⟩ := ha
  obtain ⟨document', entries', hread', hsection', hb⟩ := hb
  obtain rfl := Option.some.inj (hread.symm.trans hread')
  obtain rfl := hsection.unique hsection'
  exact ha.unique hb

theorem Consulted.unique {files : Files} {path : Option String} {a b : Layer}
    (ha : a.Consulted files path) (hb : b.Consulted files path) : a = b := by
  cases ha with
  | nothing => cases hb; rfl
  | file hread h =>
    cases hb with
    | file hread' h' =>
      obtain rfl := Except.ok.inj (hread.symm.trans hread')
      exact h.unique h'

end Layer

/-- The address that an environment says, if it says one. -/
inductive Environment.Addressed (env : Environment) : Option String → Prop
  | unset (h : env.get? "API_URI" = none) : Addressed env none
  | blank {value : String} (h : env.get? "API_URI" = some value) (hvalue : Text.trim value = "") :
      Addressed env none
  | address {value : String} (h : env.get? "API_URI" = some value)
      (hvalue : Text.trim value ≠ "") : Addressed env (some (Text.trim value))

theorem Environment.addressed_iff {env : Environment} {address : Option String} :
    env.Addressed address ↔ env.address? = address := by
  unfold Environment.address?
  constructor
  · rintro (h | ⟨h, hvalue⟩ | ⟨h, hvalue⟩)
    · rw [h]
      rfl
    · simp [h, hvalue]
    · simp [h, hvalue]
  · rintro rfl
    cases h : env.get? "API_URI" with
    | none => exact .unset h
    | some value =>
      by_cases hvalue : Text.trim value = ""
      · rw [Option.map_some, Option.filter_some_neg (by simp [hvalue])]
        exact .blank h hvalue
      · rw [Option.map_some, Option.filter_some_pos (by simp [hvalue])]
        exact .address h hvalue

namespace Config

/-! ## Reading -/

section Fields

variable {α : Type} {entries : Toml.Entries} {key : String} {of? : Toml.Value → Option α}

theorem field_eq_some_iff {missing x : α} :
    field entries key of? missing = some x ↔
      ∃ said, Layer.Says entries key of? said ∧ said.getD missing = x := by
  constructor
  · intro h
    unfold field at h
    split at h
    · next v hv => exact ⟨some x, .value hv h, rfl⟩
    · next hv => exact ⟨none, .nothing hv, Option.some.inj h⟩
  · rintro ⟨said, hsaid, rfl⟩
    cases hsaid with
    | nothing h => simp [field, h]
    | value h hx => simp [field, h, hx]

theorem optionalField_eq_some_iff {missing x : Option α} :
    field entries key (fun v => (of? v).map some) missing = some x ↔
      ∃ said, Layer.Says entries key of? said ∧ said.or missing = x := by
  constructor
  · intro h
    unfold field at h
    split at h
    · next v hv =>
      obtain ⟨y, hy, rfl⟩ := Option.map_eq_some_iff.1 h
      exact ⟨some y, .value hv hy, rfl⟩
    · next hv => exact ⟨none, .nothing hv, Option.some.inj h⟩
  · rintro ⟨said, hsaid, rfl⟩
    cases hsaid with
    | nothing h => simp [field, h]
    | value h hx => simp [field, h, hx]

end Fields

theorem ofEntries?_eq_some_iff {entries : Toml.Entries} {c : Config} :
    ofEntries? entries = some c ↔ ∃ layer : Layer, layer.Of entries ∧ layer.upon default = c := by
  constructor
  · intro h
    obtain ⟨baseUrl, hbase, h⟩ := Option.bind_eq_some_iff.1 h
    obtain ⟨seconds, hseconds, h⟩ := Option.bind_eq_some_iff.1 h
    obtain ⟨agent, hagent, h⟩ := Option.bind_eq_some_iff.1 h
    obtain rfl := Option.some.inj h
    obtain ⟨a, ha, rfl⟩ := field_eq_some_iff.1 hbase
    obtain ⟨b, hb, rfl⟩ := field_eq_some_iff.1 hseconds
    obtain ⟨d, hd, rfl⟩ := optionalField_eq_some_iff.1 hagent
    exact ⟨⟨a, b, d⟩, ⟨ha, hb, hd⟩, rfl⟩
  · rintro ⟨layer, ⟨hbase, hseconds, hagent⟩, rfl⟩
    have hbase : field entries "base_url" textOf? default.baseUrl =
        some (layer.baseUrl.getD default.baseUrl) := field_eq_some_iff.2 ⟨_, hbase, rfl⟩
    have hseconds : field entries "timeout_seconds" secondsOf? default.timeoutSeconds =
        some (layer.timeoutSeconds.getD default.timeoutSeconds) :=
      field_eq_some_iff.2 ⟨_, hseconds, rfl⟩
    have hagent : field entries "user_agent" (fun v => (textOf? v).map some) default.userAgent =
        some (layer.userAgent.or default.userAgent) :=
      optionalField_eq_some_iff.2 ⟨_, hagent, rfl⟩
    rw [ofEntries?, hbase, hseconds, hagent]
    rfl

theorem of_nil : Layer.empty.Of [] := ⟨.nothing rfl, .nothing rfl, .nothing rfl⟩

/-- **Reading settings** succeeds on the texts that say something of them, and leaves what they do
not say as by default. -/
theorem ofText?_eq_some_iff {text : String} {c : Config} :
    ofText? text = some c ↔ ∃ layer : Layer, layer.IsIn text ∧ layer.upon default = c := by
  constructor
  · intro h
    obtain ⟨document, hread, h⟩ := Option.bind_eq_some_iff.1 h
    unfold field at h
    split at h
    · next v hv =>
      unfold ofValue? at h
      split at h
      · obtain ⟨layer, hlayer, rfl⟩ := ofEntries?_eq_some_iff.1 h
        exact ⟨layer, ⟨document, _, hread, .table hv, hlayer⟩, rfl⟩
      · obtain ⟨layer, hlayer, rfl⟩ := ofEntries?_eq_some_iff.1 h
        exact ⟨layer, ⟨document, _, hread, .list hv, hlayer⟩, rfl⟩
      · exact ⟨.empty, ⟨document, _, hread, .moment hv, of_nil⟩, Option.some.inj h⟩
      · cases h
    · next hv => exact ⟨.empty, ⟨document, _, hread, .missing hv, of_nil⟩, Option.some.inj h⟩
  · rintro ⟨layer, ⟨document, entries, hread, hsection, hlayer⟩, rfl⟩
    have hentries := ofEntries?_eq_some_iff.2 ⟨layer, hlayer, rfl⟩
    have hempty : entries = [] → layer.upon default = default := by
      rintro rfl
      rw [hlayer.unique of_nil]
      rfl
    rw [ofText?, hread, Option.bind_some, field]
    cases hsection with
    | missing h => simp [h, hempty rfl]
    | table h => simpa [h, ofValue?] using hentries
    | list h => simpa [h, ofValue?] using hentries
    | moment h => simp [h, ofValue?, hempty rfl]

/-! ## Loading -/

/-- The file that is consulted: the one that is named, else the one at the default path if it is
there. -/
def consulted (files : Files) (env : Environment) : Option String → Option String
  | some path => some path
  | none => env.settingsPath?.filter files.isFile

def layered (address : Option String) (layer : Layer) : Config where
  baseUrl := address.getD (layer.baseUrl.getD default.baseUrl)
  timeoutSeconds := layer.timeoutSeconds.getD default.timeoutSeconds
  userAgent := layer.userAgent.or default.userAgent

section Load

variable {files : Files} {env : Environment} {path : Option String} {address : Option String}
  {layer : Layer} {c : Config}

theorem override_upon (h : env.Addressed address) :
    (layer.upon default).override env = layered address layer := by
  rw [override, Environment.addressed_iff.1 h]
  rfl

theorem base_eq (files : Files) (env : Environment) (path : Option String) :
    base files env path =
      match consulted files env path with
      | some path => fromFile files path
      | none => .ok default := by
  unfold base consulted
  cases path with
  | some path => rfl
  | none =>
    cases env.settingsPath? with
    | none => rfl
    | some path => by_cases h : files.isFile path <;> simp [Option.filter_some, h]

theorem base_of_consulted (h : layer.Consulted files (consulted files env path)) :
    base files env path = .ok (layer.upon default) := by
  rw [base_eq]
  generalize consulted files env path = path at h ⊢
  cases h with
  | nothing => rfl
  | file hread h => simp [fromFile, hread, ofText?_eq_some_iff.2 ⟨_, h, rfl⟩]

theorem consulted_of_base (h : base files env path = .ok c) :
    ∃ layer : Layer, layer.Consulted files (consulted files env path) ∧ layer.upon default = c := by
  rw [base_eq] at h
  generalize consulted files env path = path at h ⊢
  cases path with
  | none => exact ⟨.empty, .nothing, Except.ok.inj h⟩
  | some path =>
    simp only [fromFile] at h
    split at h
    · cases h
    · next text hread =>
      split at h
      · cases h
      · next c' htext =>
        obtain rfl := Except.ok.inj h
        obtain ⟨layer, hlayer, hover⟩ := ofText?_eq_some_iff.1 htext
        exact ⟨layer, .file hread hlayer, hover⟩

theorem load_of_base_error {e : CommandError} (h : base files env path = .error e) :
    load files env path = .error e := by
  rw [load, h]
  rfl

theorem load_of_base (h : base files env path = .ok c) :
    load files env path =
      match (c.override env).validate with
      | .ok _ => .ok (c.override env)
      | .error e => .error (.search e) := by
  rw [load, h]
  rfl

theorem load_of_layers (hlayer : layer.Consulted files (consulted files env path))
    (haddress : env.Addressed address) :
    load files env path =
      match (layered address layer).validate with
      | .ok _ => .ok (layered address layer)
      | .error e => .error (.search e) := by
  rw [load_of_base (base_of_consulted hlayer), override_upon haddress]

theorem load_eq_ok_iff :
    load files env path = .ok c ↔
      ∃ (layer : Layer) (address : Option String),
        layer.Consulted files (consulted files env path) ∧ env.Addressed address ∧
          layered address layer = c ∧ ∃ base, c.validate = .ok base := by
  have haddress := Environment.addressed_iff.2 (rfl : env.address? = env.address?)
  constructor
  · intro h
    cases hbase : base files env path with
    | error e =>
      rw [load_of_base_error hbase] at h
      cases h
    | ok c' =>
      obtain ⟨layer, hlayer, -⟩ := consulted_of_base hbase
      refine ⟨layer, env.address?, hlayer, haddress, ?_⟩
      rw [load_of_layers hlayer haddress] at h
      split at h
      · next base hvalid =>
        obtain rfl := Except.ok.inj h
        exact ⟨rfl, base, hvalid⟩
      · cases h
  · rintro ⟨layer, address, hlayer, haddress, rfl, base, hvalid⟩
    rw [load_of_layers hlayer haddress, hvalid]

theorem consulted_congr {env' : Environment}
    (h : ∀ name, name ≠ "API_URI" → env'.get? name = env.get? name) :
    consulted files env' path = consulted files env path := by
  have hfolder : env'.settingsFolder? = env.settingsFolder? := by
    simp only [Environment.settingsFolder?, Environment.platformFolder?, Environment.home?,
      Environment.filled?, h "BOOKSHELF_CONFIG_DIR" (by decide), h "XDG_CONFIG_HOME" (by decide),
      h "HOME" (by decide), h Environment.accountHome (by decide)]
  cases path with
  | some path => rfl
  | none => rw [consulted, Environment.settingsPath?, hfolder]; rfl

end Load

structure Loads (files : Files) (env : Environment) (path : Option String) : Prop where
  /-- Settings are loaded if what is consulted says something, and all three layers can be used. -/
  ok_iff (c : Config) : load files env path = .ok c ↔
    ∃ (layer : Layer) (address : Option String),
      layer.Consulted files (consulted files env path) ∧ env.Addressed address ∧
        layered address layer = c ∧ ∃ base, c.validate = .ok base
  /-- A file that is named is consulted, there or not, whatever else there is. -/
  named (named : String) (h : path = some named) : consulted files env path = some named
  unreadable (consult : String) (e : FileError) (h : consulted files env path = some consult)
    (hread : files.readText consult = .error e) : load files env path = .error (.file e)
  unparsable (consult text : String) (h : consulted files env path = some consult)
    (hread : files.readText consult = .ok text) (htext : ∀ layer : Layer, ¬ layer.IsIn text) :
    load files env path = .error .format
  unusable (layer : Layer) (address : Option String) (e : SearchError)
    (hlayer : layer.Consulted files (consulted files env path)) (haddress : env.Addressed address)
    (h : (layered address layer).validate = .error e) : load files env path = .error (.search e)
  /-- An address in the environment stands for the one in the file, which need not be usable. -/
  overridden (layer : Layer) (address : String) (page : Url)
    (hlayer : layer.Consulted files (consulted files env path))
    (haddress : env.Addressed (some address)) (hpage : Url.parse address = .ok (.page page))
    (hseconds : layer.timeoutSeconds ≠ some 0) :
    load files env path = .ok (layered (some address) layer)
  /-- A file that leaves no time to wait is never loaded. -/
  hasty (layer : Layer) (hlayer : layer.Consulted files (consulted files env path))
    (hseconds : layer.timeoutSeconds = some 0) (c : Config) : load files env path ≠ .ok c
  valid (c : Config) (h : load files env path = .ok c) : ∃ base, c.validate = .ok base
  /-- To override once more changes nothing. -/
  settled (c : Config) (h : load files env path = .ok c) : c.override env = c
  /-- The address in the environment has no part in anything but the address. -/
  independent (env' : Environment) (c c' : Config)
    (henv : ∀ name, name ≠ "API_URI" → env'.get? name = env.get? name)
    (h : load files env path = .ok c) (h' : load files env' path = .ok c') :
    c'.timeoutSeconds = c.timeoutSeconds ∧ c'.userAgent = c.userAgent

/-- **Loading settings**, from any files, in any environment and with or without a file named. -/
theorem load_layers (files : Files) (env : Environment) (path : Option String) :
    Loads files env path where
  ok_iff _ := load_eq_ok_iff
  named _ h := by rw [h]; rfl
  unreadable consult e h hread := load_of_base_error (by rw [base_eq, h]; simp [fromFile, hread])
  unparsable consult text h hread htext := by
    have hnone : ofText? text = none := by
      rw [Option.eq_none_iff_forall_not_mem]
      rintro c hc
      obtain ⟨layer, hlayer, -⟩ := ofText?_eq_some_iff.1 hc
      exact htext layer hlayer
    exact load_of_base_error (by rw [base_eq, h]; simp [fromFile, hread, hnone])
  unusable layer address e hlayer haddress h := by rw [load_of_layers hlayer haddress, h]
  overridden layer address page hlayer haddress hpage hseconds := by
    have hvalid : (layered (some address) layer).validate = .ok page := by
      refine validate_eq_ok_iff.2 ⟨hpage, ?_⟩
      cases hlayer' : layer.timeoutSeconds with
      | none => simp [layered, hlayer', default]
      | some seconds => simpa [layered, hlayer'] using hseconds
    rw [load_of_layers hlayer haddress, hvalid]
  hasty layer hlayer hseconds c h := by
    obtain ⟨layer', address, hlayer', -, rfl, base, hvalid⟩ := load_eq_ok_iff.1 h
    obtain rfl := hlayer'.unique hlayer
    exact (validate_eq_ok_iff.1 hvalid).2 (by simp [layered, hseconds])
  valid c h := by
    obtain ⟨-, -, -, -, -, hvalid⟩ := load_eq_ok_iff.1 h
    exact hvalid
  settled c h := by
    obtain ⟨layer, address, -, haddress, rfl, -⟩ := load_eq_ok_iff.1 h
    rw [override, Environment.addressed_iff.1 haddress]
    cases address <;> rfl
  independent env' c c' henv h h' := by
    obtain ⟨layer, address, hlayer, -, rfl, -⟩ := load_eq_ok_iff.1 h
    obtain ⟨layer', address', hlayer', -, rfl, -⟩ := load_eq_ok_iff.1 h'
    rw [consulted_congr henv] at hlayer'
    obtain rfl := hlayer'.unique hlayer
    exact ⟨rfl, rfl⟩

end Config

end BookCatalog
