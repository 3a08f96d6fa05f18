import BookCatalog.Proofs.Json.Skipped

/-!
# What is read off any text

A reader may be given any text, not only one that holds values.  Where it reads something, it has
taken a text of its type off the front, so what it accepts lies in the grammar.

* `Sound` — what a reader takes off any text has the meaning that is read;
* `Inside` — what the loop over the items of a list has not read yet, with its commas;
* `Sound.text`, `Sound.list` — texts, and lists of what a sound reader takes.
-/

namespace BookCatalog.Json

variable {α β : Type}

/-- What a reader takes off any text is, behind space, a text to which `R` gives the meaning that is
read, and which has ended there. -/
def Sound (read : Reader α) (R : α → List Char → Prop) : Prop :=
  ∀ {input rest : List Char} {v : α}, read input = .ok (v, rest) →
    ∃ g t, input = g ++ (t ++ rest) ∧ Gap g ∧ Ended t rest ∧ R v t

namespace Sound

variable {read : Reader α} {R : α → List Char → Prop}

theorem map (h : Sound read R) (f : α → β) :
    Sound (fun input => (read input).map fun (v, rest) => (f v, rest))
      fun w t => ∃ v, R v t ∧ w = f v := by
  intro input rest w hread
  obtain ⟨⟨v, after⟩, hv, heq⟩ := exists_of_map hread
  cases heq
  obtain ⟨g, t, hinput, hg, hended, hR⟩ := h hv
  exact ⟨g, t, hinput, hg, hended, v, hR, rfl⟩

/-- **The reader of texts** is sound. -/
theorem text : Sound readText SpelledText := by
  intro input rest s hread
  unfold readText at hread
  split at hread
  · cases hread
  · next cs hskip =>
    obtain ⟨g, hg, rfl⟩ := exists_gap_of_skipSpace hskip
    obtain ⟨⟨chars, after⟩, hchars, heq⟩ := exists_of_map hread
    cases heq
    obtain ⟨t, rfl, hspelled⟩ := spelled_of_readChars hchars
    refine ⟨g, '"' :: t ++ ['"'], by simp, hg, ended_cons (by decide) rfl _ _, .mk ?_⟩
    rwa [String.toList_ofList]
  · cases hread

end Sound

/-! ## Items -/

/-- Texts with commas between them, as the loop over them still has them in front of it: all of
them, or those behind one that was read. -/
def Inside : Bool → List (List Char) → List Char → Prop
  | true => Spread
  | false => Rest

namespace Inside

variable {first : Bool} {g lead t more : List Char} {ts : List (List Char)}

theorem of_gap (first : Bool) (hg : Gap g) : Inside first [] g := by
  cases first with
  | true => exact .none hg
  | false => exact .nil hg

theorem cons (hlead : Lead first lead) (hg : Gap g) (h : Rest ts more) :
    Inside first (t :: ts) (lead ++ (g ++ (t ++ more))) := by
  cases hlead with
  | first => exact h.spread hg
  | @next h' hh =>
    rw [List.append_assoc]
    exact .cons hh hg h

theorem gap (h : Inside first [] g) : Gap g := by
  cases first with
  | true =>
    cases h with
    | none hg => exact hg
  | false =>
    cases h with
    | nil hg => exact hg

theorem exists_lead {text : List Char} (h : Inside first (t :: ts) text) :
    ∃ lead g more, text = lead ++ (g ++ (t ++ more)) ∧ Lead first lead ∧ Gap g ∧ Rest ts more := by
  cases first with
  | true =>
    obtain ⟨g, more, rfl, hg, hmore⟩ := Spread.exists_rest h
    exact ⟨[], g, more, rfl, .first, hg, hmore⟩
  | false =>
    cases h with
    | @cons h g _ more _ hh hg hmore =>
      exact ⟨h ++ [','], g, more, by simp, .next hh, hg, hmore⟩

end Inside

/-- What the search for the next item finds: none, in front of the closing bracket, or one behind
what leads up to it. -/
inductive AtItem (first : Bool) (input : List Char) : Bool × List Char → Prop
  | none {g cs : List Char} (hg : Gap g) (heq : input = g ++ ']' :: cs) :
      AtItem first input (false, ']' :: cs)
  | some {lead g rest : List Char} (hlead : Lead first lead) (hg : Gap g)
      (heq : input = lead ++ (g ++ rest)) : AtItem first input (true, rest)

theorem atItem_of_nextItem {first : Bool} {input : List Char} {found : Bool × List Char}
    (h : nextItem first input = .ok found) : AtItem first input found := by
  unfold nextItem at h
  split at h
  · cases h
  · next c cs hskip =>
    obtain ⟨g, hg, rfl⟩ := exists_gap_of_skipSpace hskip
    split at h
    · next hc =>
      subst hc
      cases h
      exact .none hg rfl
    · split at h
      · next hfirst =>
        subst hfirst
        cases h
        exact .some .first hg rfl
      · next hfirst =>
        obtain rfl : first = false := by simpa using hfirst
        split at h
        · next hcomma =>
          subst hcomma
          split at h
          · cases h
          · next d ds hitem =>
            obtain ⟨g', hg', rfl⟩ := exists_gap_of_skipSpace hitem
            split at h
            · cases h
            · cases h
              exact .some (.next hg) hg' (by simp)
        · cases h

/-- **What the loop over the items reads** are items, up to the closing bracket. -/
theorem Sound.items {item : Reader α} {R : α → List Char → Prop} (h : Sound item R) {first : Bool}
    {input last : List Char} {vs : List α} (hread : readItems item first input = .ok (vs, last)) :
    ∃ ts inside after, input = inside ++ last ∧ last = ']' :: after ∧ Inside first ts inside ∧
      List.Forall₂ R vs ts := by
  fun_induction readItems item first input generalizing vs with
  | case2 first input rest hnext =>
    cases hread
    cases atItem_of_nextItem hnext with
    | @none g cs hg heq => exact ⟨[], g, cs, heq, rfl, .of_gap first hg, .nil⟩
  | case5 first input rest hnext v after hitem _ vs' last' hmore ih =>
    cases hread
    obtain ⟨ts, inside, closed, rfl, hlast, hinside, hvs⟩ := ih hmore
    obtain ⟨g', t, rfl, hg', -, ht⟩ := h hitem
    cases atItem_of_nextItem hnext with
    | some hlead hg heq =>
      refine ⟨t :: ts, _, closed, ?_, hlast, .cons hlead (hg.append hg') hinside, .cons ht hvs⟩
      rw [heq]
      simp
  | _ => cases hread

/-! ## Lists -/

theorem exists_gap_of_closeList {input rest : List Char} (h : closeList input = .ok rest) :
    ∃ g, Gap g ∧ input = g ++ ']' :: rest := by
  unfold closeList at h
  split at h
  · cases h
  · next cs hskip =>
    cases h
    exact exists_gap_of_skipSpace hskip
  · split at h
    · cases h
    · cases h
  · cases h

theorem leaveList_eq_ok_iff {result : Result α} {v : α} {rest : List Char} :
    leaveList result = .ok (v, rest) ↔
      ∃ inside, result = .ok (v, inside) ∧ closeList inside = .ok rest := by
  constructor
  · intro h
    obtain ⟨inside, rfl⟩ := exists_of_leaveList h
    obtain ⟨after, hclose, heq⟩ := exists_of_map h
    cases heq
    exact ⟨inside, rfl, hclose⟩
  · rintro ⟨inside, rfl, hclose⟩
    simp only [leaveList, hclose, Except.map]

theorem leaveList_error_ne (e : Failure) (v : α) (rest : List Char) :
    leaveList (.error e) ≠ .ok (v, rest) := by
  intro h
  obtain ⟨inside, herror, -⟩ := leaveList_eq_ok_iff.1 h
  cases herror

/-- The texts of lists of what `R` gives a meaning. -/
inductive ListOf (R : α → List Char → Prop) : List α → List Char → Prop
  | mk {xs : List α} {ts : List (List Char)} {t : List Char} (hspread : Spread ts t)
      (hitems : List.Forall₂ R xs ts) : ListOf R xs ('[' :: t ++ [']'])

/-- **The reader of lists** is sound where that of their items is. -/
theorem Sound.list {item : ValueReader α} {levels : Nat} {R : α → List Char → Prop}
    (h : Sound (item levels) R) : Sound (readList item (levels + 1)) (ListOf R) := by
  intro input rest xs hread
  unfold readList at hread
  split at hread
  · cases hread
  · next cs hskip =>
    obtain ⟨g, hg, rfl⟩ := exists_gap_of_skipSpace hskip
    obtain ⟨inside, hitems, hclose⟩ := leaveList_eq_ok_iff.1 hread
    obtain ⟨ts, text, after, rfl, rfl, hspread, hxs⟩ := h.items hitems
    rw [closeList_close] at hclose
    cases hclose
    exact ⟨g, '[' :: text ++ [']'], by simp, hg, ended_cons (by decide) rfl _ _, .mk hspread hxs⟩
  · cases hread

end BookCatalog.Json
