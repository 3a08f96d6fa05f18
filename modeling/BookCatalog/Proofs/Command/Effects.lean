import BookCatalog.Command.Run
import BookCatalog.Proofs.Settings.Saving

/-!
# Effects of a run

What a run of the program can do to files and to the catalog, whatever its arguments, the files, the
environment and the catalog are.

* `Command.run_of_call` — a run performs the command that its arguments ask for;
* `Command.perform_files` — no command but the initialising of settings changes files;
* `Command.run_effects` — what a run changes, writes and requests, and what it does not depend on.
-/

namespace BookCatalog

def Ending.ofResult : Except CommandError String → Ending
  | .ok output => .shown output
  | .error e => .failed e

theorem Ending.output_eq {ending : Ending} (h : ending.code ≠ 0) : ending.output = "" := by
  cases ending with
  | shown output => exact absurd rfl h
  | failed e => rfl
  | misused words => rfl

namespace Command

variable (catalog : Catalog) {files : Files} {env : Environment} {args : List String}
  (explain : List String → String) (sent : List Url)

/-! ## Commands -/

def AsksInit (args : List String) (named : Option String) (force : Bool) : Prop :=
  Invocation.read args = .ok ⟨named, .init force⟩

theorem AsksInit.unique {named named' : Option String} {force force' : Bool}
    (h : AsksInit args named force) (h' : AsksInit args named' force') :
    named = named' ∧ force = force' := by
  have heq := Except.ok.inj (h.symm.trans h')
  exact ⟨congrArg Invocation.settings heq, Command.init.inj (congrArg Invocation.command heq)⟩

theorem perform_files {command : Command} (h : ∀ force, command ≠ .init force)
    (named : Option String) :
    ((command.perform catalog files env named).run sent).1.1 = files := by
  cases command with
  | init force => exact absurd rfl (h force)
  | _ =>
    unfold perform
    generalize Config.load files env named = loaded
    cases loaded <;> rfl

theorem perform_of_load_error {command : Command} (h : ∀ force, command ≠ .init force)
    {named : Option String} {e : CommandError} (hload : Config.load files env named = .error e) :
    (command.perform catalog files env named).run sent = ((files, .error e), sent) := by
  cases command with
  | init force => exact absurd rfl (h force)
  | _ =>
    unfold perform
    rw [hload]
    rfl

/-! ## Runs -/

theorem run_of_halt {halt : Halt} (h : Invocation.read args = .error halt) :
    (run catalog files env args explain).run sent =
      ((files, halt.ending (explain args)), sent) := by
  unfold run
  rw [h]
  rfl

theorem run_of_call {call : Invocation} (h : Invocation.read args = .ok call) :
    (run catalog files env args explain).run sent =
      let performed := (call.command.perform catalog files env call.settings).run sent
      ((performed.1.1, Ending.ofResult performed.1.2), performed.2) := by
  unfold run
  rw [h]
  dsimp only
  rw [StateT.run_bind]
  generalize (call.command.perform catalog files env call.settings).run sent = performed
  obtain ⟨⟨after, e | output⟩, requests⟩ := performed
  · rfl
  · rfl

theorem run_files (h : ∀ named force, ¬ AsksInit args named force) :
    ((run catalog files env args explain).run sent).1.1 = files := by
  cases hread : Invocation.read args with
  | error halt => rw [run_of_halt catalog explain sent hread]
  | ok call =>
    rw [run_of_call catalog explain sent hread]
    refine perform_files catalog sent (fun force hcommand => ?_) call.settings
    refine h call.settings force ?_
    rw [AsksInit, hread, ← hcommand]

theorem run_of_asksInit {named : Option String} {force : Bool} (h : AsksInit args named force) :
    (run catalog files env args explain).run sent =
      let initialised := Config.init files env named force
      ((initialised.1, Ending.ofResult initialised.2), sent) :=
  run_of_call catalog explain sent h

/-! ## Effects -/

/-- What a run does, after some requests were made: the files and the requests afterwards, and how
it ends. -/
structure Effects (catalog : Catalog) (files : Files) (env : Environment) (args : List String)
    (explain : List String → String) (sent : List Url) (after : Files) (ending : Ending)
    (requests : List Url) : Prop where
  run_eq : (run catalog files env args explain).run sent = ((after, ending), requests)
  unchanged (h : ∀ named force, ¬ AsksInit args named force) : after = files
  /-- Initialising settings touches at most the file at the end of its path. -/
  changed (named : Option String) (force : Bool) (h : AsksInit args named force) (place : Location)
    (hplace : ¬ files.SameFileAt after place) :
    ∃ path, (named <|> env.settingsPath?) = some path ∧ after.locate path = .ok place
  silent (named : Option String) (force : Bool) (h : AsksInit args named force) : requests = sent
  failed (h : ending.code = 1 ∨ ending.code = 2) :
    ending.output = "" ∧ ∀ place, files.SameFileAt after place
  /-- A command without the settings it needs fails as loading them did, and requests nothing. -/
  unloaded (call : Invocation) (h : Invocation.read args = .ok call)
    (hcommand : ∀ force, call.command ≠ .init force) (e : CommandError)
    (hload : Config.load files env call.settings = .error e) :
    ending = .failed e ∧ requests = sent
  /-- Initialising settings ends in the same way whatever the files hold. -/
  blind (named : Option String) (force : Bool) (h : AsksInit args named force) (others : Files)
    (halike : files.Alike others) :
    ∃ after', (run catalog others env args explain).run sent = ((after', ending), sent) ∧
      after.Alike after'

theorem init_files (files : Files) (env : Environment) (named : Option String) (force : Bool) :
    let initialised := Config.init files env named force
    (∀ place, ¬ files.SameFileAt initialised.1 place →
      ∃ path, (named <|> env.settingsPath?) = some path ∧ initialised.1.locate path = .ok place) ∧
    ((Ending.ofResult initialised.2).code ≠ 0 → ∀ place, files.SameFileAt initialised.1 place) := by
  rcases h : Config.init files env named force with ⟨after, e | words⟩
  · have hadds := Config.init_of_error h
    exact ⟨fun place hplace => absurd (hadds.sameFileAt place) hplace, fun _ => hadds.sameFileAt⟩
  · obtain ⟨path, place, hpath, -, hkept⟩ := Config.init_of_ok h
    refine ⟨fun other hother => ⟨path, hpath, ?_⟩, fun hcode => absurd rfl hcode⟩
    by_cases hne : other = place
    · rw [hne, hkept.locate_eq]
    · exact absurd (hkept.sameFileAt hne) hother

theorem effects_of_asksInit {named : Option String} {force : Bool} (h : AsksInit args named force) :
    let initialised := Config.init files env named force
    Effects catalog files env args explain sent initialised.1 (Ending.ofResult initialised.2)
      sent where
  run_eq := run_of_asksInit catalog explain sent h
  unchanged hnot := absurd h (hnot named force)
  changed named' force' h' place hplace := by
    obtain ⟨rfl, rfl⟩ := h.unique h'
    exact (init_files files env named force).1 place hplace
  silent _ _ _ := rfl
  failed hcode :=
    have hne : (Ending.ofResult (Config.init files env named force).2).code ≠ 0 := by omega
    ⟨Ending.output_eq hne, (init_files files env named force).2 hne⟩
  unloaded call hread hcommand e hload := by
    obtain rfl := Except.ok.inj (h.symm.trans hread)
    exact absurd rfl (hcommand force)
  blind named' force' h' others halike := by
    obtain ⟨rfl, rfl⟩ := h.unique h'
    have hinit := Config.init_alike halike env named force
    exact ⟨_, by rw [run_of_asksInit catalog explain sent h, hinit.snd], hinit.fst⟩

theorem effects_of_not_asksInit (h : ∀ named force, ¬ AsksInit args named force) :
    let outcome := (run catalog files env args explain).run sent
    Effects catalog files env args explain sent outcome.1.1 outcome.1.2 outcome.2 where
  run_eq := rfl
  unchanged _ := run_files catalog explain sent h
  changed named force h' := absurd h' (h named force)
  silent named force h' := absurd h' (h named force)
  failed hcode :=
    have hne : ((run catalog files env args explain).run sent).1.2.code ≠ 0 := by omega
    ⟨Ending.output_eq hne, fun place => by
      rw [run_files catalog explain sent h]
      exact fun _ => Iff.rfl⟩
  unloaded call hread hcommand e hload := by
    rw [run_of_call catalog explain sent hread, perform_of_load_error catalog sent hcommand hload]
    exact ⟨rfl, rfl⟩
  blind named force h' := absurd h' (h named force)

/-- **The effects of a run**, for all arguments, files, environments and catalogs, and whatever is
said of arguments that are not understood. -/
theorem run_effects (catalog : Catalog) (files : Files) (env : Environment) (args : List String)
    (explain : List String → String) (sent : List Url) :
    ∃ after ending requests,
      Effects catalog files env args explain sent after ending requests := by
  by_cases h : ∃ named force, AsksInit args named force
  · obtain ⟨named, force, h⟩ := h
    exact ⟨_, _, _, effects_of_asksInit catalog explain sent h⟩
  · have hnot : ∀ named force, ¬ AsksInit args named force := fun named force hasks =>
      h ⟨named, force, hasks⟩
    exact ⟨_, _, _, effects_of_not_asksInit catalog explain sent hnot⟩

end Command

end BookCatalog
