import BookCatalog.Proofs.Files.Walking

/-!
# File systems that differ in what files hold

Two file systems are alike if the same folders and files are at the same places, whatever the files
hold.  Where a path leads, whether anything is there and how an operation that does not read a file
ends is then the same for both.

* `Files.Alike` — alike file systems;
* `Files.Alike.target_eq`, `Files.Alike.holds_eq` — paths do not tell them apart;
* `Files.Alike.makeFolders`, `Files.Alike.writeText` — neither does making folders nor writing.
-/

namespace BookCatalog.Files

/-- The same folders and files are at the same places. -/
structure Alike (a b : Files) : Prop where
  start_eq : a.start = b.start
  /-- What differs at a place is at most what a file holds. -/
  at?_cases : ∀ place, a.at? place = b.at? place ∨
    ∃ x y, a.at? place = some (.file x) ∧ b.at? place = some (.file y)

/-- Two operations end alike: in the same failure, or both in success, with related results. -/
inductive Agrees {ε α β : Type} (Related : α → β → Prop) : Except ε α → Except ε β → Prop
  | ok {v : α} {w : β} (h : Related v w) : Agrees Related (.ok v) (.ok w)
  | error (e : ε) : Agrees Related (.error e) (.error e)

/-- Two operations end in alike file systems, with the same result. -/
inductive EndsAlike {α : Type} : Files × α → Files × α → Prop
  | mk {a b : Files} (h : a.Alike b) (result : α) : EndsAlike (a, result) (b, result)

theorem EndsAlike.fst {α : Type} {x y : Files × α} (h : EndsAlike x y) : x.1.Alike y.1 := by
  cases h with
  | mk halike result => exact halike

theorem EndsAlike.snd {α : Type} {x y : Files × α} (h : EndsAlike x y) : x.2 = y.2 := by
  cases h with
  | mk halike result => rfl

theorem agrees_bind {ε α β γ : Type} {Related : β → γ → Prop} (x : Except ε α)
    {f : α → Except ε β} {g : α → Except ε γ} (h : ∀ v, Agrees Related (f v) (g v)) :
    Agrees Related (x >>= f) (x >>= g) := by
  cases x with
  | error e => exact .error e
  | ok v => exact h v

namespace Alike

variable {a b : Files} (h : a.Alike b)
include h

/-! ## Paths -/

theorem enter_eq (place : Location) : a.enter place = b.enter place := by
  unfold enter
  obtain heq | ⟨x, y, hx, hy⟩ := h.at?_cases place
  · rw [heq]
  · rw [hx, hy]

theorem folder_iff (place : Location) :
    a.at? place = some .folder ↔ b.at? place = some .folder := by
  rw [← enter_eq_ok_iff, ← enter_eq_ok_iff, h.enter_eq]

theorem isSome_eq (place : Location) : (a.at? place).isSome = (b.at? place).isSome := by
  obtain heq | ⟨x, y, hx, hy⟩ := h.at?_cases place
  · rw [heq]
  · rw [hx, hy]
    rfl

theorem step_eq : a.step = b.step :=
  funext fun place => funext fun name => step_congr (h.enter_eq place) name

theorem walk_eq (place : Location) (names : List String) :
    a.walk place names = b.walk place names := by
  rw [walk, walk, h.step_eq]

theorem locate_eq (path : String) : a.locate path = b.locate path := by
  unfold locate
  simp only [origin_congr h.start_eq, h.walk_eq]

theorem target_eq (path : String) : a.target path = b.target path := by
  unfold target
  simp only [origin_congr h.start_eq, h.walk_eq, h.step_eq]

theorem holds_eq (path : String) : a.holds path = b.holds path := by
  rw [Bool.eq_iff_iff, holds_iff, holds_iff]
  refine exists_congr fun place => ?_
  have hsome : (∃ entry, a.at? place = some entry) ↔ ∃ entry, b.at? place = some entry := by
    rw [← Option.isSome_iff_exists, ← Option.isSome_iff_exists, h.isSome_eq]
  rw [exists_and_left, exists_and_left, h.locate_eq, hsome]

theorem isFolder_eq (path : String) : a.isFolder path = b.isFolder path := by
  rw [Bool.eq_iff_iff, isFolder_iff, isFolder_iff]
  exact exists_congr fun place => by rw [h.locate_eq, h.folder_iff]

/-! ## Operations -/

theorem put (place : Location) (entry : Entry) : (a.put place entry).Alike (b.put place entry) where
  start_eq := h.start_eq
  at?_cases other := by
    by_cases hother : other = place
    · subst hother
      by_cases hroot : other = []
      · simp [at?, hroot]
      · rw [at?_put_self _ hroot, at?_put_self _ hroot]
        exact .inl rfl
    · rw [at?_put_of_ne _ hother, at?_put_of_ne _ hother]
      exact h.at?_cases other

theorem makeFolder (path : String) : Agrees Alike (a.makeFolder path) (b.makeFolder path) := by
  unfold Files.makeFolder
  rw [h.target_eq]
  refine agrees_bind _ fun target => ?_
  cases target with
  | standing => exact .error _
  | place place slash =>
    dsimp only
    obtain heq | ⟨x, y, hx, hy⟩ := h.at?_cases place
    · rw [heq]
      cases b.at? place with
      | none => exact .ok (h.put place .folder)
      | some entry => exact .error _
    · rw [hx, hy]
      exact .error _

theorem ensureFolder (path : String) :
    Agrees Alike (a.ensureFolder path) (b.ensureFolder path) := by
  have hmake := h.makeFolder path
  unfold Files.ensureFolder
  generalize a.makeFolder path = made at hmake ⊢
  generalize b.makeFolder path = made' at hmake ⊢
  cases hmake with
  | ok halike => exact .ok halike
  | error e =>
    simp only [h.isFolder_eq]
    split
    · exact .ok h
    · exact .error e

/-- By induction on how far the folders around are made, too. -/
theorem makeFoldersWithin (depth : Nat) (path : String) :
    EndsAlike (a.makeFoldersWithin depth path) (b.makeFoldersWithin depth path) := by
  induction depth generalizing path with
  | zero => exact .mk h _
  | succ depth ih =>
    unfold Files.makeFoldersWithin
    split
    · exact .mk h _
    · have hensure := h.ensureFolder path
      generalize a.ensureFolder path = made at hensure ⊢
      generalize b.ensureFolder path = made' at hensure ⊢
      cases hensure with
      | ok halike => exact .mk halike _
      | error e =>
        cases e with
        | notFound =>
          dsimp only
          cases Path.parent? path with
          | none => exact .mk h _
          | some around =>
            have hbelow := ih around
            dsimp only
            generalize a.makeFoldersWithin depth around = below at hbelow ⊢
            generalize b.makeFoldersWithin depth around = below' at hbelow ⊢
            obtain ⟨hthere, e | done⟩ := hbelow
            · exact .mk hthere _
            · have hagain := Alike.ensureFolder hthere path
              dsimp only
              generalize Files.ensureFolder _ path = last at hagain ⊢
              generalize Files.ensureFolder _ path = last' at hagain ⊢
              cases hagain with
              | ok halike => exact .mk halike _
              | error e => exact .mk hthere _
        | _ => exact .mk h _

theorem makeFolders (path : String) : EndsAlike (a.makeFolders path) (b.makeFolders path) :=
  h.makeFoldersWithin _ path

theorem writeText (path text : String) :
    Agrees Alike (a.writeText path text) (b.writeText path text) := by
  unfold Files.writeText writeBytes
  rw [h.target_eq]
  refine agrees_bind _ fun target => ?_
  cases target with
  | standing => exact .error _
  | place place slash =>
    cases slash with
    | true => exact .error _
    | false =>
      dsimp only
      obtain heq | ⟨x, y, hx, hy⟩ := h.at?_cases place
      · rw [heq]
        cases b.at? place with
        | none => exact .ok (h.put place _)
        | some entry =>
          cases entry with
          | folder => exact .error _
          | file bytes => exact .ok (h.put place _)
      · rw [hx, hy]
        exact .ok (h.put place _)

end Alike

end BookCatalog.Files
