import BookCatalog.Text.Canonical

/-!
# The space and the control characters

Composing the characters of a text and cutting it into pieces keep the space and the control
characters of ASCII.

* `of_control` — what holds of each of their codes holds of them;
* `Text.Canonical.mem_normalize` — they belong to no composition, so they are kept by it;
* `Text.exists_mem_cut` — the pieces of a text hold all its characters but the separators.
-/

namespace BookCatalog

theorem of_control {P : Char → Prop} (h : ∀ n < 0x21, P (Char.ofNat n)) {c : Char}
    (hc : c.toNat ≤ 0x20) : P c := by
  have hat := h c.toNat (by omega)
  rwa [Char.ofNat_toNat] at hat

/-! ## Runs -/

theorem Text.Runs.contains_of_lt {runs : Runs} {c : Char}
    (h : ∀ edge ∈ runs.edges, c.toNat < edge) : runs.contains c = false := by
  have hfold : ∀ edges : List Nat, (∀ edge ∈ edges, c.toNat < edge) →
      edges.foldl (fun inside edge => if edge ≤ c.toNat then !inside else inside) false =
        false := by
    intro edges hedges
    induction edges with
    | nil => rfl
    | cons edge edges ih =>
      rw [List.forall_mem_cons] at hedges
      rw [List.foldl_cons, if_neg (Nat.not_le.2 hedges.1)]
      exact ih hedges.2
  rw [contains, ← Array.foldl_toList]
  exact hfold _ fun edge hedge => h edge (by simpa using hedge)

/-! ## Composition -/

namespace Text.Canonical

section Control

variable {c : Char} (hc : c.toNat ≤ 0x20)

include hc

theorem level_of_control : level c = 0 := by
  have hnone : (markRuns.find? fun run => run.first ≤ c.toNat && c.toNat ≤ run.last) = none := by
    rw [Array.find?_eq_none]
    intro run _ h
    have hvisible := run.visible
    simp only [Bool.and_eq_true, decide_eq_true_eq] at h
    omega
  simp only [level, hnone, Option.map_none, Option.getD_none]

theorem parts_of_control (depth : Nat) : parts depth c = [c] := by
  have hhangul : hangulParts? c = none := by
    unfold hangulParts?
    exact if_pos (by simp; omega)
  have hwhole : composites.find? (·.whole = c) = none := by
    rw [Array.find?_eq_none]
    intro x _ h
    have hvisible := x.visible.1
    rw [decide_eq_true_eq] at h
    rw [h] at hvisible
    omega
  cases depth with
  | zero => rfl
  | succ depth => simp only [parts, hhangul, hwhole, Option.getD_none, Option.elim_none]

theorem compose?_of_control (b : Char) : compose? c b = none ∧ compose? b c = none := by
  have hangul_left : hangul? c b = none := by
    unfold hangul?
    simp only
    rw [if_neg (by simp; omega), if_neg (by simp; omega)]
  have hangul_right : hangul? b c = none := by
    unfold hangul?
    simp only
    rw [if_neg (by simp; omega), if_neg (by simp; omega)]
  have hleft : (composites.find? fun x => x.first = c && x.second = b) = none := by
    rw [Array.find?_eq_none]
    intro x _ h
    have hvisible := x.visible.2.1
    simp only [Bool.and_eq_true, decide_eq_true_eq] at h
    rw [h.1] at hvisible
    omega
  have hright : (composites.find? fun x => x.first = b && x.second = c) = none := by
    rw [Array.find?_eq_none]
    intro x _ h
    have hvisible := x.visible.2.2
    simp only [Bool.and_eq_true, decide_eq_true_eq] at h
    rw [h.2] at hvisible
    omega
  simp only [compose?, hangul_left, hangul_right, hleft, hright, Option.map_none, Option.or_none,
    and_self]

theorem mem_ordered {pending : List (Nat × Char)} {cs : List Char} (h : c ∈ cs) :
    c ∈ ordered pending cs := by
  induction cs generalizing pending with
  | nil => cases h
  | cons d cs ih =>
    unfold ordered
    dsimp only
    split
    · rcases List.mem_cons.1 h with rfl | h
      · simp
      · simp [ih h]
    · next hlevel =>
      rcases List.mem_cons.1 h with rfl | h
      · exact absurd (level_of_control hc) hlevel
      · exact ih h

theorem mem_composed {starter : Char} {behind : List Char} {last : Nat} {cs : List Char}
    (h : c ∈ starter :: behind ++ cs) : c ∈ composed starter behind last cs := by
  -- what was taken and what is to come hold the character; it is in no pair that is joined
  induction cs generalizing starter behind last with
  | nil => simpa [composed] using h
  | cons d cs ih =>
    unfold composed
    dsimp only
    split
    · next whole hwhole =>
      have hjoined : compose? starter d = some whole := by
        split at hwhole
        · exact hwhole
        · cases hwhole
      have hstarter : c ≠ starter := by
        rintro rfl
        simp [(compose?_of_control hc d).1] at hjoined
      have hd : c ≠ d := by
        rintro rfl
        simp [(compose?_of_control hc starter).2] at hjoined
      apply ih
      refine List.mem_cons_of_mem whole ?_
      simpa [hstarter, hd] using h
    · split
      · rw [List.cons_append, List.mem_cons, List.mem_append] at h
        rcases h with h | h | h
        · simp [h]
        · simp [h]
        · exact List.mem_append_right (starter :: behind) (ih h)
      · exact ih (by simpa using h)

theorem mem_composedAll {cs : List Char} (h : c ∈ cs) : c ∈ composedAll cs := by
  induction cs with
  | nil => cases h
  | cons d cs ih =>
    unfold composedAll
    split
    · exact mem_composed hc h
    · rcases List.mem_cons.1 h with rfl | h
      · exact List.mem_cons_self
      · exact List.mem_cons_of_mem d (ih h)

theorem mem_normalize {cs : List Char} (h : c ∈ cs) : c ∈ normalize cs := by
  refine mem_composedAll hc (mem_ordered hc (List.mem_flatMap.2 ⟨c, h, ?_⟩))
  rw [parts_of_control hc]
  exact List.mem_singleton_self c

end Control

end Text.Canonical

/-! ## Pieces -/

namespace Text

theorem exists_mem_cut {sep c : Char} {cs : List Char} (h : c ∈ cs) (hne : c ≠ sep) :
    ∃ piece ∈ cut sep cs, c ∈ piece := by
  induction cs with
  | nil => cases h
  | cons d cs ih =>
    unfold cut
    split
    · next hd =>
      have hcs : c ∈ cs := by
        rcases List.mem_cons.1 h with rfl | hcs
        · exact absurd hd hne
        · exact hcs
      obtain ⟨piece, hpiece, hmem⟩ := ih hcs
      exact ⟨piece, List.mem_cons_of_mem _ hpiece, hmem⟩
    · obtain ⟨p, ps, hcut⟩ := List.exists_cons_of_ne_nil (cut_ne_nil sep cs)
      rw [hcut] at ih ⊢
      dsimp only
      rcases List.mem_cons.1 h with rfl | hcs
      · exact ⟨c :: p, List.mem_cons_self, List.mem_cons_self⟩
      · obtain ⟨piece, hpiece, hmem⟩ := ih hcs
        rcases List.mem_cons.1 hpiece with rfl | hpiece
        · exact ⟨d :: piece, List.mem_cons_self, List.mem_cons_of_mem d hmem⟩
        · exact ⟨piece, List.mem_cons_of_mem _ hpiece, hmem⟩

end Text

end BookCatalog
