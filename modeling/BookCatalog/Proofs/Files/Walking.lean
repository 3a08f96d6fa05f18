import BookCatalog.Files.Access
import Mathlib.Data.List.DropRight

/-!
# Where paths lead

A walk goes from folder to folder, so where folders stay it leads to the same place, and without
`..` it only goes further in.  In a file system all that is there is in a folder; behind a folder
that is missing there is nothing, unless the walk climbs out of it again.

* `Files.Rooted` — all that is there is in a folder;
* `Files.walk_mono`, `Files.locate_mono` — a walk through folders that stay;
* `Files.walk_of_target`, `Files.target_place` — where a path would put something new;
* `Files.ClimbsMissing` — a path with a `..` behind a folder that is missing;
* `Files.at?_of_not_holds` — a path that holds nothing holds nothing once its folders are there,
  unless it climbs.
-/

namespace BookCatalog.Files

theorem bind_eq_ok_iff {ε α β : Type} {x : Except ε α} {f : α → Except ε β} {b : β} :
    (x >>= f) = .ok b ↔ ∃ a, x = .ok a ∧ f a = .ok b := by
  cases x with
  | error e => simp [bind, Except.bind]
  | ok a => simp [bind, Except.bind]

variable {files a b : Files} {place next : Location} {name path : String} {names : List String}

/-! ## What is at a location -/

theorem lookup_filter_ne {entries : List (Location × Entry)} {other : Location}
    (h : other ≠ place) : (entries.filter (·.1 ≠ place)).lookup other = entries.lookup other := by
  induction entries with
  | nil => rfl
  | cons first rest ih =>
    obtain ⟨here, entry⟩ := first
    by_cases hhere : here = place
    · have hskip : (other == here) = false := by simpa [hhere] using h
      rw [List.filter_cons_of_neg (by simpa using hhere), ih, List.lookup_cons, hskip]
    · rw [List.filter_cons_of_pos (by simpa using hhere), List.lookup_cons, List.lookup_cons, ih]

@[simp]
theorem start_put (files : Files) (place : Location) (entry : Entry) :
    (files.put place entry).start = files.start := rfl

theorem at?_put_self (files : Files) (hplace : place ≠ []) (entry : Entry) :
    (files.put place entry).at? place = some entry := by
  simp [at?, put, hplace]

theorem at?_put_of_ne (files : Files) {other : Location} (h : other ≠ place) (entry : Entry) :
    (files.put place entry).at? other = files.at? other := by
  have hskip : (other == place) = false := by simpa using h
  rw [at?, at?, put, List.lookup_cons, hskip]
  simp only [lookup_filter_ne h]

/-- All that is there is in a folder. -/
def Rooted (files : Files) : Prop :=
  ∀ name around entry, files.at? (name :: around) = some entry → files.at? around = some .folder

theorem Rooted.at?_of_suffix (hrooted : files.Rooted) (hnone : files.at? place = none)
    (h : place <:+ next) : files.at? next = none := by
  obtain ⟨inner, rfl⟩ := h
  induction inner with
  | nil => exact hnone
  | cons name inner ih =>
    cases hat : files.at? (name :: (inner ++ place)) with
    | none => exact hat
    | some entry =>
      have hfolder := hrooted _ _ _ hat
      rw [ih] at hfolder
      cases hfolder

theorem Rooted.put (hrooted : files.Rooted) (hfolder : files.at? place = some .folder)
    (hfree : files.at? (name :: place) ≠ some .folder) (entry : Entry) :
    (files.put (name :: place) entry).Rooted := by
  intro other around there hthere
  have haround : files.at? around = some .folder := by
    by_cases hother : other :: around = name :: place
    · obtain ⟨-, rfl⟩ := List.cons.inj hother
      exact hfolder
    · rw [at?_put_of_ne _ hother] at hthere
      exact hrooted _ _ _ hthere
  have hne : around ≠ name :: place := by
    rintro rfl
    exact hfree haround
  rw [at?_put_of_ne _ hne, haround]

theorem mem_upward_iff {start : Location} :
    place ∈ upward start ↔ place ≠ [] ∧ place <:+ start := by
  induction start with
  | nil => simp [upward]
  | cons name around ih =>
    rw [upward, List.mem_cons, ih, List.suffix_cons_iff]
    constructor
    · rintro (rfl | ⟨hne, hsuffix⟩)
      · exact ⟨List.cons_ne_nil _ _, .inl rfl⟩
      · exact ⟨hne, .inr hsuffix⟩
    · rintro ⟨hne, rfl | hsuffix⟩
      · exact .inl rfl
      · exact .inr ⟨hne, hsuffix⟩

theorem at?_withFolder_iff {start : Location} {entry : Entry} :
    (withFolder start).at? place = some entry ↔ entry = .folder ∧ place <:+ start := by
  by_cases hplace : place = []
  · simp [at?, hplace, eq_comm]
  · have hlookup : ((upward start).map fun around => (around, Entry.folder)).lookup place =
        some entry ↔ entry = .folder ∧ place ∈ upward start := by
      induction upward start with
      | nil => simp
      | cons first rest ih =>
        rw [List.map_cons, List.lookup_cons]
        by_cases hfirst : place = first
        · simp [hfirst, eq_comm]
        · have hskip : (place == first) = false := by simpa using hfirst
          rw [hskip, ih]
          simp [hfirst]
    rw [at?, if_neg hplace, withFolder, hlookup, mem_upward_iff]
    simp [hplace]

theorem rooted_withFolder (start : Location) : (withFolder start).Rooted := by
  intro name around entry h
  have hsuffix := (at?_withFolder_iff.1 h).2
  exact at?_withFolder_iff.2 ⟨rfl, (List.suffix_cons name around).trans hsuffix⟩

/-! ## Steps -/

theorem enter_eq_ok_iff : files.enter place = .ok () ↔ files.at? place = some .folder := by
  unfold enter
  cases files.at? place with
  | none => simp
  | some entry => cases entry <;> simp

theorem step_congr (h : a.enter place = b.enter place) (name : String) :
    a.step place name = b.step place name := by
  unfold step
  rw [h]

theorem step_of_none (h : files.at? place = none) (name : String) :
    files.step place name = .error .notFound := by
  simp [step, enter, h, bind, Except.bind]

/-- What a step does: it is taken in a folder, and stays, climbs or goes further in. -/
theorem step_cases (h : files.step place name = .ok next) :
    files.at? place = some .folder ∧
      (Path.isIdle name = true ∧ next = place ∨ name = ".." ∧ next = place.tail ∨
        Path.isIdle name = false ∧ name ≠ ".." ∧ next = name :: place) := by
  obtain ⟨⟨⟩, henter, h⟩ := bind_eq_ok_iff.1 h
  refine ⟨enter_eq_ok_iff.1 henter, ?_⟩
  split_ifs at h with hidle hup hlong
  · exact .inl ⟨hidle, (Except.ok.inj h).symm⟩
  · exact .inr (.inl ⟨hup, (Except.ok.inj h).symm⟩)
  · exact .inr (.inr ⟨by simpa using hidle, hup, (Except.ok.inj h).symm⟩)

/-! ## Walks -/

theorem walk_cons_eq_ok_iff :
    files.walk place (name :: names) = .ok next ↔
      ∃ here, files.step place name = .ok here ∧ files.walk here names = .ok next := by
  rw [walk, List.foldlM_cons, bind_eq_ok_iff]
  rfl

theorem walk_append (files : Files) (place : Location) (before after : List String) :
    files.walk place (before ++ after) =
      files.walk place before >>= fun here => files.walk here after :=
  List.foldlM_append

theorem walk_of_none (h : files.at? place = none) (name : String) (names : List String) :
    files.walk place (name :: names) = .error .notFound := by
  rw [walk, List.foldlM_cons, step_of_none h]
  rfl

theorem walk_suffix (h : files.walk place names = .ok next) (hclimb : ".." ∉ names) :
    place <:+ next := by
  induction names generalizing place with
  | nil =>
    obtain rfl := Except.ok.inj h
    exact List.suffix_rfl
  | cons name names ih =>
    obtain ⟨here, hstep, hwalk⟩ := walk_cons_eq_ok_iff.1 h
    have hrest := ih hwalk (fun hmem => hclimb (List.mem_cons_of_mem _ hmem))
    obtain ⟨-, ⟨-, rfl⟩ | ⟨rfl, -⟩ | ⟨-, -, rfl⟩⟩ := step_cases hstep
    · exact hrest
    · exact absurd List.mem_cons_self hclimb
    · exact (List.suffix_cons name place).trans hrest

section Mono

variable (hfolders : ∀ place, a.at? place = some .folder → b.at? place = some .folder)
include hfolders

theorem step_mono (h : a.step place name = .ok next) : b.step place name = .ok next := by
  have hfolder := (step_cases h).1
  rw [← h]
  refine (step_congr ?_ name).symm
  rw [enter_eq_ok_iff.2 hfolder, enter_eq_ok_iff.2 (hfolders _ hfolder)]

theorem walk_mono (h : a.walk place names = .ok next) : b.walk place names = .ok next := by
  induction names generalizing place with
  | nil => exact h
  | cons name names ih =>
    obtain ⟨here, hstep, hwalk⟩ := walk_cons_eq_ok_iff.1 h
    exact walk_cons_eq_ok_iff.2 ⟨here, step_mono hfolders hstep, ih hwalk⟩

end Mono

/-! ## Paths -/

theorem origin_congr (h : a.start = b.start) (path : String) : a.origin path = b.origin path := by
  unfold origin
  rw [h]

theorem locate_eq_ok_iff :
    files.locate path = .ok place ↔
      ∃ start, files.origin path = .ok start ∧ files.walk start (Path.steps path) = .ok place :=
  bind_eq_ok_iff

theorem find_eq_ok_iff {entry : Entry} :
    files.find path = .ok entry ↔ ∃ place, files.locate path = .ok place ∧
      files.at? place = some entry := by
  rw [find, bind_eq_ok_iff]
  refine exists_congr fun place => and_congr_right fun _ => ?_
  cases files.at? place with
  | none => simp [throw, throwThe, MonadExceptOf.throw]
  | some there => simp [pure, Except.pure]

theorem holds_iff :
    files.holds path = true ↔ ∃ place entry, files.locate path = .ok place ∧
      files.at? place = some entry := by
  have hfind : files.holds path = true ↔ ∃ entry, files.find path = .ok entry := by
    unfold holds
    cases files.find path <;> simp [Except.isOk, Except.toBool]
  rw [hfind, exists_comm]
  exact exists_congr fun _ => find_eq_ok_iff

theorem isFolder_iff :
    files.isFolder path = true ↔ ∃ place, files.locate path = .ok place ∧
      files.at? place = some .folder := by
  rw [← find_eq_ok_iff, isFolder, decide_eq_true_eq]
  cases files.find path with
  | error e => simp [Except.toOption]
  | ok entry => simp [Except.toOption]

theorem locate_mono (hstart : b.start = a.start)
    (hfolders : ∀ place, a.at? place = some .folder → b.at? place = some .folder)
    (h : a.locate path = .ok place) : b.locate path = .ok place := by
  obtain ⟨start, horigin, hwalk⟩ := locate_eq_ok_iff.1 h
  refine locate_eq_ok_iff.2 ⟨start, ?_, walk_mono hfolders hwalk⟩
  rw [origin_congr hstart, horigin]

theorem named_steps (steps : List String) :
    ∃ named rest, (steps.reverse.dropWhile (· = "")).reverse = named ∧ steps = named ++ rest ∧
      ∀ last ∈ named.getLast?, last ≠ "" := by
  obtain ⟨rest, hrest⟩ := List.rdropWhile_prefix (fun step : String => decide (step = "")) steps
  refine ⟨_, rest, rfl, hrest.symm, fun last hlast => ?_⟩
  obtain ⟨hne, rfl⟩ := List.mem_getLast?_eq_getLast hlast
  have hlast := List.rdropWhile_last_not (fun step : String => decide (step = "")) steps hne
  rwa [decide_eq_true_eq] at hlast

/-- Where a path would put something new is in a folder.  The path leads there, and further on only
by the slashes at its end. -/
theorem walk_of_target {slash : Bool} (h : files.target path = .ok (.place place slash)) :
    ∃ start named rest, files.origin path = .ok start ∧ Path.steps path = named ++ rest ∧
      files.walk start named = .ok place ∧ (slash = false → rest = []) ∧
      ∃ name around, place = name :: around ∧ files.at? around = some .folder := by
  obtain ⟨start, horigin, h⟩ := bind_eq_ok_iff.1 h
  obtain ⟨named, rest, heq, hsteps, hname⟩ := named_steps (Path.steps path)
  simp only [heq] at h
  split at h
  · cases h
  · next last hlast =>
    obtain ⟨folder, hwalk, h⟩ := bind_eq_ok_iff.1 h
    obtain ⟨there, hstep, h⟩ := bind_eq_ok_iff.1 h
    split at h
    · cases h
    · next hdots =>
      obtain ⟨rfl, rfl⟩ := Target.place.inj (Except.ok.inj h)
      obtain ⟨hfolder, hcases⟩ := step_cases hstep
      simp only [Bool.or_eq_true, decide_eq_true_eq, not_or] at hdots
      refine ⟨start, named, rest, horigin, hsteps, ?_, fun hslash => ?_, ?_⟩
      · rw [← List.dropLast_append_getLast? last hlast, walk_append, hwalk]
        exact walk_cons_eq_ok_iff.2 ⟨_, hstep, rfl⟩
      · -- without a slash behind the last name, all steps are walked
        simpa [hsteps] using hslash
      · obtain ⟨hidle, -⟩ | ⟨hup, -⟩ | ⟨-, -, rfl⟩ := hcases
        · simp [Path.isIdle, hname last hlast, hdots.1] at hidle
        · exact absurd hup hdots.2
        · exact ⟨last, folder, rfl, hfolder⟩

theorem target_place {slash : Bool} (h : files.target path = .ok (.place place slash)) :
    (∃ name around, place = name :: around ∧ files.at? around = some .folder) ∧
      (slash = false → files.locate path = .ok place) := by
  obtain ⟨start, named, rest, horigin, hsteps, hwalk, hrest, hfolder⟩ := walk_of_target h
  refine ⟨hfolder, fun hslash => locate_eq_ok_iff.2 ⟨start, horigin, ?_⟩⟩
  rw [hsteps, hrest hslash, List.append_nil, hwalk]

theorem at?_of_target {slash : Bool} (h : files.target path = .ok (.place place slash))
    (hholds : files.holds path = true) : files.at? place ≠ none := by
  intro hnone
  obtain ⟨there, entry, hleads, hentry⟩ := holds_iff.1 hholds
  obtain ⟨start, horigin, hwalk⟩ := locate_eq_ok_iff.1 hleads
  obtain ⟨start', named, rest, horigin', hsteps, hnamed, -⟩ := walk_of_target h
  obtain rfl := Except.ok.inj (horigin.symm.trans horigin')
  rw [hsteps, walk_append, hnamed] at hwalk
  have hwalk : files.walk place rest = .ok there := hwalk
  cases rest with
  | nil =>
    obtain rfl := Except.ok.inj hwalk
    rw [hnone] at hentry
    cases hentry
  | cons name rest =>
    rw [walk_of_none hnone] at hwalk
    cases hwalk

/-! ## Climbing -/

/-- A path climbs out of a folder that is missing: the walk to one of its `..` ends where nothing
is. -/
def ClimbsMissing (files : Files) (path : String) : Prop :=
  ∃ start before after, files.origin path = .ok start ∧ Path.steps path = before ++ ".." :: after ∧
    files.walk start (before ++ [".."]) = .error .notFound

/-- A path does not climb out of a missing folder if the walk to its last `..` is possible. -/
theorem not_climbsMissing_of_walk {start here : Location} {before rest : List String}
    (horigin : files.origin path = .ok start) (hsteps : Path.steps path = before ++ rest)
    (hwalk : files.walk start before = .ok here) (hrest : ".." ∉ rest) :
    ¬ files.ClimbsMissing path := by
  rintro ⟨start', inner, after, horigin', hsplit, hmissing⟩
  obtain rfl := Except.ok.inj (horigin.symm.trans horigin')
  rw [hsteps] at hsplit
  obtain ⟨more, -, rfl⟩ | ⟨more, rfl, hafter⟩ := List.append_eq_append_iff.1 hsplit
  · exact hrest (by simp)
  · cases more with
    | nil =>
      rw [List.nil_append] at hafter
      exact hrest (hafter ▸ List.mem_cons_self)
    | cons up more =>
      obtain ⟨rfl, -⟩ := List.cons.inj hafter
      rw [List.append_cons, walk_append, hmissing] at hwalk
      cases hwalk

/-- A walk that is possible only after something was added stops where nothing was. -/
theorem walk_stops (hsame : ∀ place entry, a.at? place = some entry → b.at? place = some entry)
    (hb : b.walk place names = .ok next) (ha : a.walk place names ≠ .ok next) :
    ∃ before name after here, names = before ++ name :: after ∧ a.walk place before = .ok here ∧
      a.at? here = none ∧ b.walk here (name :: after) = .ok next := by
  induction names generalizing place with
  | nil => exact absurd hb ha
  | cons name names ih =>
    obtain ⟨here, hstep, hwalk⟩ := walk_cons_eq_ok_iff.1 hb
    cases hat : a.at? place with
    | none => exact ⟨[], name, names, place, rfl, rfl, hat, hb⟩
    | some entry =>
      have hfolder := (step_cases hstep).1
      rw [hsame _ _ hat] at hfolder
      have hastep : a.step place name = .ok here := by
        rw [← hstep]
        refine step_congr ?_ name
        rw [enter_eq_ok_iff.2 (hat.trans hfolder), enter_eq_ok_iff.2 (step_cases hstep).1]
      have hrest : a.walk here names ≠ .ok next := fun h =>
        ha (walk_cons_eq_ok_iff.2 ⟨here, hastep, h⟩)
      obtain ⟨before, stop, after, there, rfl, hbefore, hnone, hafter⟩ := ih hwalk hrest
      exact ⟨name :: before, stop, after, there, rfl,
        walk_cons_eq_ok_iff.2 ⟨here, hastep, hbefore⟩, hnone, hafter⟩

/-- **A path that holds nothing** leads to a place where nothing is, once all its folders are there,
unless it climbs out of one that was missing. -/
theorem at?_of_not_holds (hrooted : a.Rooted) (hstart : b.start = a.start)
    (hsame : ∀ place entry, a.at? place = some entry → b.at? place = some entry)
    (hholds : a.holds path = false) (hclimb : ¬ a.ClimbsMissing path)
    (h : b.locate path = .ok place) : a.at? place = none := by
  obtain ⟨start, horigin, hwalk⟩ := locate_eq_ok_iff.1 h
  rw [origin_congr hstart] at horigin
  by_cases ha : a.walk start (Path.steps path) = .ok place
  · refine Option.eq_none_iff_forall_ne_some.2 fun entry hentry => ?_
    have hthere := holds_iff.2 ⟨place, entry, locate_eq_ok_iff.2 ⟨start, horigin, ha⟩, hentry⟩
    rw [hthere] at hholds
    cases hholds
  · obtain ⟨before, name, after, here, hsteps, hbefore, hnone, hafter⟩ := walk_stops hsame hwalk ha
    -- a `..` behind the place where the walk stops would climb out of a missing folder
    have hin : ".." ∉ name :: after := by
      intro hmem
      obtain ⟨inner, rest, hrest⟩ := List.append_of_mem hmem
      refine hclimb ⟨start, before ++ inner, rest, horigin, by rw [hsteps, hrest]; simp, ?_⟩
      rw [List.append_assoc, walk_append, hbefore]
      cases inner with
      | nil => exact walk_of_none hnone _ _
      | cons first inner => exact walk_of_none hnone _ _
    exact hrooted.at?_of_suffix hnone (walk_suffix hafter hin)

end BookCatalog.Files
