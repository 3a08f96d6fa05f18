import BookCatalog.Proofs.Search.Merging

/-!
# Coarser keys

A key is coarser than another one if it does not tell apart what the other does not.  Reducing a
list by a finer key, before or after, makes no difference to reducing it by a coarser one.

* `distinctFrom_distinctFrom` — two loops, the second over what the first keeps;
* `absorbs_iff` — one key absorbs another exactly if it is coarser;
* `coarser_absorbs` — the same with its two outermost cases: a key and itself, and any key and the
  items themselves.
-/

namespace BookCatalog

variable {α κ μ : Type} [DecidableEq κ] [DecidableEq μ] {fine : α → κ} {coarse : α → μ}

/-- **Two loops, one behind the other.**  While every item with a finer key of `seen` has a coarser
key of `seen'`, the finer loop takes away no item that the coarser one would keep. -/
theorem distinctFrom_distinctFrom (h : ∀ a b, fine a = fine b → coarse a = coarse b)
    {seen : List κ} {seen' : List μ} (hseen : ∀ a, fine a ∈ seen → coarse a ∈ seen')
    (items : List α) :
    distinctFrom coarse seen' (distinctFrom fine seen items) = distinctFrom coarse seen' items := by
  induction items generalizing seen seen' with
  | nil => rfl
  | cons a as ih =>
    by_cases hfine : fine a ∈ seen
    · rw [distinctFrom, if_pos hfine, distinctFrom, if_pos (hseen a hfine), ih hseen]
    · by_cases hcoarse : coarse a ∈ seen'
      · -- only `seen` grows, by the key of an item whose coarser key is in `seen'`
        have hseen' : ∀ b, fine b ∈ fine a :: seen → coarse b ∈ seen' := by
          intro b hb
          rcases List.mem_cons.1 hb with hb | hb
          · rwa [h b a hb]
          · exact hseen b hb
        calc distinctFrom coarse seen' (distinctFrom fine seen (a :: as))
            = distinctFrom coarse seen' (distinctFrom fine (fine a :: seen) as) := by
              rw [distinctFrom, if_neg hfine, distinctFrom, if_pos hcoarse]
          _ = distinctFrom coarse seen' as := ih hseen'
          _ = distinctFrom coarse seen' (a :: as) := by rw [distinctFrom, if_pos hcoarse]
      · -- both loops keep `a`
        have hseen' : ∀ b, fine b ∈ fine a :: seen → coarse b ∈ coarse a :: seen' := by
          intro b hb
          rcases List.mem_cons.1 hb with hb | hb
          · exact List.mem_cons.2 (.inl (h b a hb))
          · exact List.mem_cons_of_mem _ (hseen b hb)
        calc distinctFrom coarse seen' (distinctFrom fine seen (a :: as))
            = a :: distinctFrom coarse (coarse a :: seen')
                (distinctFrom fine (fine a :: seen) as) := by
              rw [distinctFrom, if_neg hfine, distinctFrom, if_neg hcoarse]
          _ = a :: distinctFrom coarse (coarse a :: seen') as := by rw [ih hseen']
          _ = distinctFrom coarse seen' (a :: as) := by rw [distinctFrom, if_neg hcoarse]

theorem distinctBy_fine_distinctBy (h : ∀ a b, fine a = fine b → coarse a = coarse b)
    (items : List α) : distinctBy fine (distinctBy coarse items) = distinctBy coarse items := by
  refine distinctBy_eq_self fine ((pairwise_distinctBy coarse items).imp ?_)
  intro a b hne heq
  exact hne (h a b heq)

/-- **Absorption** by a key, in both orders, holds of all lists exactly if the key is coarser: two
items with one finer key and two coarser ones are told apart by whether the finer key comes in. -/
theorem absorbs_iff :
    (∀ items : List α, distinctBy coarse (distinctBy fine items) = distinctBy coarse items ∧
      distinctBy fine (distinctBy coarse items) = distinctBy coarse items) ↔
      ∀ a b, fine a = fine b → coarse a = coarse b := by
  constructor
  · intro habsorbs a b heq
    refine Decidable.byContradiction fun hne => ?_
    have hfine : distinctBy fine [a, b] = [a] := by simp [distinctBy, distinctFrom, heq]
    have hboth : distinctBy coarse [a, b] = [a, b] := by
      simp [distinctBy, distinctFrom, Ne.symm hne]
    have hkept := (habsorbs [a, b]).2
    rw [hboth, hfine] at hkept
    simp at hkept
  · intro h items
    exact ⟨distinctFrom_distinctFrom h (by simp) items, distinctBy_fine_distinctBy h items⟩

/-- **Coarser keys absorb finer ones**, whatever the items and the keys are.  So reducing twice by
one key is reducing once, and taking away items that are equal in all they hold changes no later
reduction by a key. -/
theorem coarser_absorbs :
    (∀ (α κ μ : Type) [DecidableEq κ] [DecidableEq μ] (fine : α → κ) (coarse : α → μ),
      (∀ items : List α, distinctBy coarse (distinctBy fine items) = distinctBy coarse items ∧
        distinctBy fine (distinctBy coarse items) = distinctBy coarse items) ↔
        ∀ a b, fine a = fine b → coarse a = coarse b) ∧
    (∀ (α κ : Type) [DecidableEq κ] (key : α → κ) (items : List α),
      distinctBy key (distinctBy key items) = distinctBy key items) ∧
    ∀ (α κ : Type) [DecidableEq α] [DecidableEq κ] (key : α → κ) (items : List α),
      distinctBy key (distinctBy id items) = distinctBy key items ∧
        distinctBy id (distinctBy key items) = distinctBy key items := by
  refine ⟨fun α κ μ _ _ fine coarse => absorbs_iff, fun α κ _ key items => ?_,
    fun α κ _ _ key items => ?_⟩
  · exact distinctBy_distinctBy key items
  · exact absorbs_iff.2 (fun a b heq => congrArg key heq) items

end BookCatalog
