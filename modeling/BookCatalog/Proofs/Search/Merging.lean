import BookCatalog.Proofs.Search.Distinct

/-!
# Merging lists

Merging puts one list behind another and keeps what occurs first.  Whatever the lists hold twice, in
one of them or in both, this is an algebra of whole lists: equal are the records and their order,
not only the keys.

* `distinctBy_append` — what is kept of two lists, said by what is kept of each;
* `distinctBy_append_distinctBy`, `distinctBy_distinctBy_append` — a part may be reduced first;
* `Book.merge_laws` — the laws for lists of books.
-/

namespace BookCatalog

section Keys

variable {α κ : Type} [DecidableEq κ] (key : α → κ)

/-- Of the second of two lists is kept what would be kept of it alone, unless its key occurs in the
first. -/
theorem distinctBy_append (as bs : List α) :
    distinctBy key (as ++ bs) =
      distinctBy key as ++ (distinctBy key bs).filter (key · ∉ as.map key) := by
  induction as with
  | nil => exact (List.filter_eq_self.2 (by simp)).symm
  | cons a as ih =>
    rw [List.cons_append, distinctBy_cons, ih, distinctBy_cons, List.filter_append,
      List.filter_filter, List.cons_append]
    congr 2
    refine List.filter_congr fun b _ => ?_
    simp

theorem distinctBy_eq_self {items : List α} (h : items.Pairwise (key · ≠ key ·)) :
    distinctBy key items = items := by
  induction items with
  | nil => rfl
  | cons a as ih =>
    obtain ⟨hfirst, hrest⟩ := List.pairwise_cons.1 h
    rw [distinctBy_cons, ih hrest, List.filter_eq_self.2]
    intro b hb
    simpa using (hfirst b hb).symm

theorem distinctBy_distinctBy (items : List α) :
    distinctBy key (distinctBy key items) = distinctBy key items :=
  distinctBy_eq_self key (pairwise_distinctBy key items)

theorem mem_map_distinctBy (items : List α) (k : κ) :
    k ∈ (distinctBy key items).map key ↔ k ∈ items.map key := by
  rw [List.mem_map, List.mem_map]
  exact exists_mem_distinctBy_iff key items k

theorem distinctBy_distinctBy_append (as bs : List α) :
    distinctBy key (distinctBy key as ++ bs) = distinctBy key (as ++ bs) := by
  rw [distinctBy_append, distinctBy_append, distinctBy_distinctBy]
  simp only [mem_map_distinctBy]

theorem distinctBy_append_distinctBy (as bs : List α) :
    distinctBy key (as ++ distinctBy key bs) = distinctBy key (as ++ bs) := by
  rw [distinctBy_append, distinctBy_append, distinctBy_distinctBy]

end Keys

namespace Book

/-- **The algebra of merging.**  A merged list is the first one, reduced, and behind it those books
of the second one, reduced, that do not occur in the first.  Reducing the lists before or the result
after changes nothing, and it does not matter which two of three lists are merged first. -/
theorem merge_laws (a b c : List Book) :
    merge a b = distinct a ++ (distinct b).filter (fun book => book.id ∉ a.map Book.id) ∧
    merge (distinct a) (distinct b) = merge a b ∧
    distinct (merge a b) = merge a b ∧
    merge (merge a b) c = merge a (merge b c) := by
  refine ⟨distinctBy_append _ a b, ?_, distinctBy_distinctBy _ _, ?_⟩
  · exact (distinctBy_distinctBy_append _ a _).trans (distinctBy_append_distinctBy _ a b)
  · calc merge (merge a b) c = distinct (a ++ b ++ c) := distinctBy_distinctBy_append _ (a ++ b) c
      _ = distinct (a ++ (b ++ c)) := by rw [List.append_assoc]
      _ = merge a (merge b c) := (distinctBy_append_distinctBy _ a (b ++ c)).symm

end Book

end BookCatalog
