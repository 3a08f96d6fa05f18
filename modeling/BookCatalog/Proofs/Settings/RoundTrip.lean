import BookCatalog.Proofs.Text.Utf8
import BookCatalog.Proofs.Toml.Lines
import BookCatalog.Settings.Store

/-!
# Reading settings back

Settings are read from the text that was written for them, whatever characters their texts hold.
There is such a text unless the time to wait is no integer of TOML.

* `Config.written` — the keys of settings with their values, as they are written and read;
* `Config.ofText?_writtenText` — the written text gives the settings;
* `Config.save_eq_format_iff` — when saving fails for the format of settings.
-/

namespace BookCatalog.Config

variable (c : Config)

/-! ## The written text -/

/-- The keys of settings with their values, as they are written and as they are read. -/
def written : List (String × List Char × Toml.Value) :=
  ("base_url", Toml.quotedText c.baseUrl, .text c.baseUrl) ::
    ("timeout_seconds", Decimal.digits c.timeoutSeconds, .integer c.timeoutSeconds) ::
    (c.userAgent.map fun agent => ("user_agent", Toml.quotedText agent, .text agent)).toList

def writtenText : String :=
  String.ofList (Toml.headerLine "api" ++ c.written.flatMap fun f => Toml.keyLine f.1 f.2.1)

def greatestSeconds : Nat := 9223372036854775807

theorem isWord_iff :
    Decimal.isWord c.timeoutSeconds = true ↔ c.timeoutSeconds ≤ greatestSeconds := by
  have hword : Decimal.isWord c.timeoutSeconds = true ↔
      -(Decimal.wordEnd : Int) ≤ c.timeoutSeconds ∧ (c.timeoutSeconds : Int) < Decimal.wordEnd := by
    simp [Decimal.isWord]
  rw [hword, Decimal.wordEnd, greatestSeconds]
  omega

theorem toText?_eq_some_iff (text : String) :
    c.toText? = some text ↔ c.timeoutSeconds ≤ greatestSeconds ∧ text = c.writtenText := by
  have htext : Toml.headerLine "api" ++ Toml.keyLine "base_url" (Toml.quotedText c.baseUrl) ++
      Toml.keyLine "timeout_seconds" (Decimal.digits c.timeoutSeconds) ++
      (c.userAgent.map fun agent => Toml.keyLine "user_agent" (Toml.quotedText agent)).getD [] =
        Toml.headerLine "api" ++ c.written.flatMap fun f => Toml.keyLine f.1 f.2.1 := by
    cases h : c.userAgent <;> simp [written, h]
  rw [toText?, htext, ← isWord_iff]
  split
  · next hword => simp [hword, writtenText, eq_comm]
  · next hword => simp [hword]

/-! ## Reading -/

theorem stands_written (h : c.timeoutSeconds ≤ greatestSeconds) :
    ∀ f ∈ c.written, Toml.IsKey f.1 ∧ Toml.Stands f.2.1 f.2.2 := by
  have hbase : Toml.IsKey "base_url" := ⟨by decide, by decide⟩
  have hseconds : Toml.IsKey "timeout_seconds" := ⟨by decide, by decide⟩
  have hagent : Toml.IsKey "user_agent" := ⟨by decide, by decide⟩
  intro f hf
  simp only [written, List.mem_cons, Option.mem_toList, Option.map_eq_some_iff] at hf
  rcases hf with rfl | rfl | ⟨agent, -, rfl⟩
  · exact ⟨hbase, Toml.stands_quotedText c.baseUrl⟩
  · exact ⟨hseconds, Toml.stands_digits _ (c.isWord_iff.2 h)⟩
  · exact ⟨hagent, Toml.stands_quotedText agent⟩

theorem ofEntries?_written : ofEntries? (c.written.map fun f => (f.1, f.2.2)) = some c := by
  obtain ⟨baseUrl, seconds, agent⟩ := c
  cases agent with
  | none => rfl
  | some agent => rfl

/-- **The written text** gives the settings. -/
theorem ofText?_writtenText (h : c.timeoutSeconds ≤ greatestSeconds) :
    ofText? c.writtenText = some c := by
  have hdistinct : (c.written.map Prod.fst).Nodup := by
    cases hagent : c.userAgent <;> simp [written, hagent]
  have hkey : Toml.IsKey "api" := ⟨by decide, by decide⟩
  have hread := Toml.read_table hkey (c.stands_written h) hdistinct
  rw [ofText?, writtenText, hread]
  exact c.ofEntries?_written

theorem ofText?_of_toText? {text : String} (h : c.toText? = some text) : ofText? text = some c := by
  obtain ⟨hsmall, rfl⟩ := (c.toText?_eq_some_iff text).1 h
  exact c.ofText?_writtenText hsmall

/-! ## Files -/

theorem fromFile_of_readBytes {text : String} {files : Files} {path : String}
    (hbytes : files.readBytes path = .ok (Utf8.encode text.toList)) (hc : ofText? text = some c) :
    fromFile files path = .ok c := by
  have htext : files.readText path = .ok text := by
    rw [Files.readText, hbytes]
    simp only [bind, Except.bind, Utf8.decode?_encode, String.ofList_toList]
    rfl
  rw [fromFile, htext]
  simp only [hc]

theorem save_eq_format_iff (files : Files) (path : String) :
    (c.save files path).2 = .error .format ↔
      (makeRoom files path).2 = .ok () ∧ c.toText? = none := by
  unfold save
  rcases makeRoom files path with ⟨roomy, e | ⟨⟩⟩
  · simp
  · cases c.toText? with
    | none => simp
    | some text => cases h : roomy.writeText path text <;> simp [h]

end BookCatalog.Config
