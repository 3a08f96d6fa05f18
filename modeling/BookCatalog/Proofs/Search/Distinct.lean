import BookCatalog.Search.Distinct

/-!
# First occurrences

What is kept of a list with repetitions, said by positions: an item is kept iff no item at an
earlier position has its key.

* `distinctFrom_eq_later` — the invariant: `seen` holds the keys of the items that were passed;
* `distinctBy_eq_firsts` — what is kept are the first occurrences;
* `exists_mem_distinctBy_iff` — no key is lost and none is added;
* `distinctBy_cons` — the first item takes away the later ones with its key;
* `distinct_selects` — everything that is said of what is kept, for any key and for books.
-/

namespace BookCatalog

variable {α κ : Type} [DecidableEq κ] (key : α → κ)

/-- The items, read after those of `before`, whose key no item at an earlier position has. -/
def laterFirsts (before items : List α) : List α :=
  ((items.zipIdx before.length).filter fun p =>
    key p.1 ∉ ((before ++ items).take p.2).map key).map Prod.fst

/-- The items whose key no item at an earlier position has. -/
def firsts (items : List α) : List α :=
  (items.zipIdx.filter fun p => key p.1 ∉ (items.take p.2).map key).map Prod.fst

theorem laterFirsts_cons (before : List α) (a : α) (as : List α) :
    laterFirsts key before (a :: as) =
      if key a ∈ before.map key then laterFirsts key (before ++ [a]) as
      else a :: laterFirsts key (before ++ [a]) as := by
  have happ : before ++ [a] ++ as = before ++ a :: as := by simp
  have htake : (before ++ a :: as).take before.length = before := List.take_left' rfl
  unfold laterFirsts
  rw [happ, List.zipIdx_cons, List.filter_cons, htake, List.length_append, List.length_singleton]
  by_cases h : key a ∈ before.map key <;> simp [h]

/-- **The invariant of the loop.**  While `seen` holds exactly the keys of the items passed so far,
what is still kept are the items whose key occurs at no earlier position. -/
theorem distinctFrom_eq_later {seen : List κ} (before items : List α)
    (hseen : ∀ k, k ∈ seen ↔ k ∈ before.map key) :
    distinctFrom key seen items = laterFirsts key before items := by
  induction items generalizing seen before with
  | nil => rfl
  | cons a as ih =>
    rw [distinctFrom, laterFirsts_cons]
    by_cases ha : key a ∈ seen
    · have ha' := (hseen (key a)).1 ha
      rw [if_pos ha, if_pos ha']
      apply ih
      intro k
      rw [hseen, List.map_append, List.mem_append]
      constructor
      · exact Or.inl
      · rintro (hk | hk)
        · exact hk
        · rw [List.mem_singleton.1 hk]
          exact ha'
    · have ha' : key a ∉ before.map key := fun h => ha ((hseen (key a)).2 h)
      rw [if_neg ha, if_neg ha']
      congr 1
      apply ih
      intro k
      rw [List.mem_cons, hseen, List.map_append, List.mem_append, or_comm]
      simp

/-- What is kept are the first occurrences. -/
theorem distinctBy_eq_firsts (items : List α) : distinctBy key items = firsts key items := by
  rw [distinctBy, distinctFrom_eq_later key [] items (by simp)]
  simp [laterFirsts, firsts]

theorem exists_mem_distinctFrom_iff {seen : List κ} (items : List α) (k : κ) :
    (∃ a ∈ distinctFrom key seen items, key a = k) ↔ k ∉ seen ∧ ∃ a ∈ items, key a = k := by
  induction items generalizing seen with
  | nil => simp [distinctFrom]
  | cons a as ih =>
    rw [distinctFrom]
    by_cases ha : key a ∈ seen
    · rw [if_pos ha, ih]
      refine and_congr_right fun hk => ?_
      have hne : key a ≠ k := fun h => hk (h ▸ ha)
      simp [hne]
    · rw [if_neg ha]
      by_cases hk : key a = k
      · subst hk
        simp [ha]
      · simp [hk, Ne.symm hk, ih]

theorem exists_mem_distinctBy_iff (items : List α) (k : κ) :
    (∃ a ∈ distinctBy key items, key a = k) ↔ ∃ a ∈ items, key a = k := by
  simp [distinctBy, exists_mem_distinctFrom_iff]

theorem distinctBy_eq_nil_iff (items : List α) : distinctBy key items = [] ↔ items = [] := by
  cases items with
  | nil => simp [distinctBy, distinctFrom]
  | cons a as => simp [distinctBy, distinctFrom]

/-! ## The kept items one by one -/

/-- Keys seen before take away the items that have them, and no others. -/
theorem distinctFrom_eq_filter (seen : List κ) (items : List α) :
    distinctFrom key seen items = (distinctBy key items).filter (key · ∉ seen) := by
  induction items generalizing seen with
  | nil => rfl
  | cons a as ih =>
    have hby : distinctBy key (a :: as) = a :: (distinctBy key as).filter (key · ∉ [key a]) := by
      simp only [distinctBy, distinctFrom, List.not_mem_nil, if_false]
      rw [ih [key a], distinctBy]
    rw [hby, distinctFrom]
    by_cases ha : key a ∈ seen
    · rw [if_pos ha, ih, List.filter_cons_of_neg (by simpa using ha), List.filter_filter]
      refine List.filter_congr fun b _ => ?_
      -- an item whose key was not seen has another key than `a`
      by_cases hb : key b = key a <;> simp [hb, ha]
    · rw [if_neg ha, ih, List.filter_cons_of_pos (by simpa using ha), List.filter_filter]
      congr 1
      refine List.filter_congr fun b _ => ?_
      simp [Bool.and_comm]

/-- The first item is kept, and of the later ones those that would be kept without it, unless they
have its key. -/
theorem distinctBy_cons (a : α) (as : List α) :
    distinctBy key (a :: as) = a :: (distinctBy key as).filter (key · ≠ key a) := by
  have h : distinctBy key (a :: as) = a :: distinctFrom key [key a] as := by
    simp [distinctBy, distinctFrom]
  rw [h, distinctFrom_eq_filter]
  simp

theorem distinctBy_sublist (items : List α) : (distinctBy key items).Sublist items := by
  induction items with
  | nil => exact .slnil
  | cons a as ih =>
    rw [distinctBy_cons]
    exact (List.filter_sublist.trans ih).cons_cons a

theorem pairwise_distinctBy (items : List α) :
    (distinctBy key items).Pairwise (key · ≠ key ·) := by
  induction items with
  | nil => exact .nil
  | cons a as ih =>
    rw [distinctBy_cons, List.pairwise_cons]
    refine ⟨fun b hb => ?_, ih.filter _⟩
    have hne : key b ≠ key a := by simpa using (List.mem_filter.1 hb).2
    exact hne.symm

theorem mem_distinctBy_iff (items : List α) (b : α) :
    b ∈ distinctBy key items ↔ items.find? (key · = key b) = some b := by
  induction items with
  | nil => simp [distinctBy, distinctFrom]
  | cons a as ih =>
    rw [distinctBy_cons, List.mem_cons, List.mem_filter, ih]
    by_cases hkey : key a = key b
    · rw [List.find?_cons_of_pos (by simpa using hkey)]
      simp [hkey, eq_comm]
    · rw [List.find?_cons_of_neg (by simpa using hkey)]
      have hne : b ≠ a := fun h => hkey (h ▸ rfl)
      simp [hne, Ne.symm hkey]

/-! ## What is kept -/

/-- What is kept of items when each key is to occur once. -/
structure Selects (items kept : List α) : Prop where
  /-- By positions: the items whose key no item at an earlier position has. -/
  eq_firsts : kept = firsts key items
  sublist : kept.Sublist items
  pairwise : kept.Pairwise (key · ≠ key ·)
  covers : ∀ a ∈ items, ∃ b ∈ kept, key b = key a
  /-- Of all items with one key it is the first that is kept, with all it holds besides. -/
  mem_iff : ∀ b, b ∈ kept ↔ items.find? (key · = key b) = some b

theorem selects_distinctBy (items : List α) : Selects key items (distinctBy key items) where
  eq_firsts := distinctBy_eq_firsts key items
  sublist := distinctBy_sublist key items
  pairwise := pairwise_distinctBy key items
  covers a ha := (exists_mem_distinctBy_iff key items (key a)).2 ⟨a, ha, rfl⟩
  mem_iff := mem_distinctBy_iff key items

/-- **What is kept of items**, whatever they are and whatever tells them apart, are the first ones
with each key, in order; for books it is the identifier that tells them apart. -/
theorem distinct_selects :
    (∀ (α κ : Type) [DecidableEq κ] (key : α → κ) (items : List α),
      Selects key items (distinctBy key items)) ∧
    ∀ books : List Book, Selects Book.id books (Book.distinct books) :=
  ⟨fun _ _ _ => selects_distinctBy, selects_distinctBy Book.id⟩

end BookCatalog
