import BookCatalog.Proofs.View.Lines

/-!
# What a view tells of a search

The text of a view tells for each of its sections whether all, some or none of the requests behind
it were answered, how many books they found and why they failed.  Titles, subjects and keywords may
imitate the wording of a header without making it another one.

* `Bucket.Alike` — buckets of one outcome, count and reason;
* `View.alike_of_header_eq` — a header tells them;
* `View.alike_of_results_eq` — so does the view, for each of its sections.
-/

namespace BookCatalog

/-- Buckets of one outcome, with as many books and for the same reason. -/
inductive Bucket.Alike : Bucket → Bucket → Prop
  | available {xs ys : List Book} (h : xs.length = ys.length) :
      Alike (.available xs) (.available ys)
  | partially {xs ys : List Book} (h : xs.length = ys.length) (reason : String) :
      Alike (.partially xs reason) (.partially ys reason)
  | unavailable (reason : String) : Alike (.unavailable reason) (.unavailable reason)

namespace View

/-! ## Headers -/

section

variable {what keyword : String}

theorem counted_append_inj {m n : Nat} {s t : String}
    (h : line (counted m what keyword ++ s) = line (counted n what keyword ++ t)) :
    m = n ∧ s = t := by
  have htext : Decimal.digits m ++ ' ' :: ((" results of books' " ++ what ++ " containing \"" ++
      keyword ++ "\"").toList.tail ++ s.toList) = Decimal.digits n ++ ' ' ::
      ((" results of books' " ++ what ++ " containing \"" ++ keyword ++ "\"").toList.tail ++
        t.toList) := by
    have hcounted := line_injective h
    rw [← String.toList_inj] at hcounted
    simpa [counted, Decimal.natural] using hcounted
  have hspace : ∀ k, ' ' ∉ Decimal.digits k := fun k hmem =>
    absurd (Decimal.isDigit_of_mem_digits hmem) (by decide)
  obtain ⟨hdigits, hrest⟩ := eq_of_append_cons (hspace m) (hspace n) htext
  exact ⟨Decimal.digits_injective hdigits, String.toList_inj.1 (List.append_cancel_left hrest)⟩

theorem unavailable_ne_partially (r s : String) :
    line ("Search of books' " ++ what ++ " is temporarily unavailable (" ++ r ++ ")") ≠
      line ("Search of books' " ++ what ++ " is partially unavailable (" ++ s ++ ")") := by
  intro h
  rw [← String.toList_inj] at h
  simp [line] at h

theorem reason_of_append {front r s : String}
    (h : front ++ r ++ ")" = front ++ s ++ ")") : r = s := by
  rw [← String.toList_inj] at h ⊢
  simpa using h

theorem head?_header_unavailable (reason : String) :
    (header what keyword (.unavailable reason)).toList.head? = some 'S' := by
  simp [header, line]

theorem head?_header_partially_nil (reason : String) :
    (header what keyword (.partially [] reason)).toList.head? = some 'S' := by
  simp [header, line]

theorem eq_unavailable_of_header_eq {b : Bucket} {reason : String}
    (h : header what keyword b = header what keyword (.unavailable reason)) :
    b = .unavailable reason := by
  cases b with
  | available books =>
    have htells : Tells what keyword (header what keyword (.available books)) := by
      rw [h, tells_header_iff]
      exact ⟨reason, rfl⟩
    obtain ⟨_, hfailure⟩ := (tells_header_iff what keyword _).1 htells
    cases hfailure
  | partially books reason' =>
    by_cases hbooks : books = []
    · subst hbooks
      exact absurd h.symm (unavailable_ne_partially reason reason')
    · rw [header_partially what keyword hbooks] at h
      exact absurd h (counted_ne what keyword _ _ (head?_header_unavailable reason) rfl)
  | unavailable reason' =>
    have htext := reason_of_append (line_injective h)
    rw [htext]

/-- The header of a bucket with some answers tells how many books they hold, and the reason. -/
theorem partially_of_header_eq {xs ys : List Book} {r s : String}
    (h : header what keyword (.partially xs r) = header what keyword (.partially ys s)) :
    xs.length = ys.length ∧ r = s := by
  by_cases hxs : xs = []
  · by_cases hys : ys = []
    · subst hxs hys
      exact ⟨rfl, reason_of_append (line_injective h)⟩
    · subst hxs
      rw [header_partially what keyword hys] at h
      exact absurd h.symm (counted_ne what keyword _ _ (head?_header_partially_nil r) rfl)
  · by_cases hys : ys = []
    · subst hys
      rw [header_partially what keyword hxs] at h
      exact absurd h (counted_ne what keyword _ _ (head?_header_partially_nil s) rfl)
    · rw [header_partially what keyword hxs, header_partially what keyword hys] at h
      obtain ⟨hlength, hreason⟩ := counted_append_inj h
      exact ⟨hlength, reason_of_append hreason⟩

theorem available_of_header_eq {xs ys : List Book}
    (h : header what keyword (.available xs) = header what keyword (.available ys)) :
    xs.length = ys.length := by
  by_cases hxs : xs = []
  · have hempty : header what keyword (.available ys) = noResults what keyword := by
      rw [← h, header_eq_noResults_iff, hxs]
    rw [header_eq_noResults_iff] at hempty
    cases hempty
    rw [hxs]
  · by_cases hys : ys = []
    · have hempty : header what keyword (.available xs) = noResults what keyword := by
        rw [h, header_eq_noResults_iff, hys]
      rw [header_eq_noResults_iff] at hempty
      cases hempty
      rw [hys]
    · rw [header_available what keyword hxs, header_available what keyword hys] at h
      exact (counted_append_inj h).1

/-- **A header** tells the outcome, the count and the reason. -/
theorem alike_of_header_eq {a b : Bucket}
    (h : header what keyword a = header what keyword b) : a.Alike b := by
  -- where one of the two tells of failures, so does the other
  have hfailed : (∃ reason, a.failure? = some reason) ↔ ∃ reason, b.failure? = some reason := by
    rw [← tells_header_iff what keyword a, ← tells_header_iff what keyword b, h]
  cases a with
  | unavailable reason =>
    rw [eq_unavailable_of_header_eq h.symm]
    exact .unavailable reason
  | available xs =>
    cases b with
    | available ys => exact .available (available_of_header_eq h)
    | partially ys s =>
      obtain ⟨_, hfailure⟩ := hfailed.2 ⟨s, rfl⟩
      cases hfailure
    | unavailable s =>
      obtain ⟨_, hfailure⟩ := hfailed.2 ⟨s, rfl⟩
      cases hfailure
  | partially xs r =>
    cases b with
    | available ys =>
      obtain ⟨_, hfailure⟩ := hfailed.1 ⟨r, rfl⟩
      cases hfailure
    | partially ys s =>
      obtain ⟨hlength, rfl⟩ := partially_of_header_eq h
      exact .partially hlength r
    | unavailable s => cases eq_unavailable_of_header_eq h

end

/-! ## Views -/

/-- The blocks of lines between empty ones are told by all lines. -/
theorem eq_of_append_blank {xs ys r s : List String} (hx : ∀ l ∈ xs, IsLine l)
    (hy : ∀ l ∈ ys, IsLine l) (h : xs ++ "" :: r = ys ++ "" :: s) : xs = ys ∧ r = s :=
  eq_of_append_cons (fun hmem => (hx "" hmem).1 rfl) (fun hmem => (hy "" hmem).1 rfl) h

/-- **A view** tells the headers of its sections. -/
theorem head_eq_of_results_eq {order : Order} {a b : Results} (ha : a.IsOneLine)
    (hb : b.IsOneLine) (h : results order a = results order b) (s : Section) :
    s.head order a = s.head order b := by
  choose l ls hhead hshown hlines using fun s => exists_lines_section s order ha
  choose m ms hhead' hshown' hlines' using fun s => exists_lines_section s order hb
  have hparts : (l .titles :: ls .titles) ++ "" :: ((l .content :: ls .content) ++
      "" :: (l .authors :: ls .authors)) = (m .titles :: ms .titles) ++
      "" :: ((m .content :: ms .content) ++ "" :: (m .authors :: ms .authors)) := by
    rw [← lines_results hshown fun s k hk => (hlines s k hk).2,
      ← lines_results hshown' fun s k hk => (hlines' s k hk).2, h]
  -- the first empty line ends the titles, the second one the contents
  obtain ⟨htitles, hrest⟩ := eq_of_append_blank (hlines .titles) (hlines' .titles) hparts
  obtain ⟨hcontent, hauthors⟩ := eq_of_append_blank (hlines .content) (hlines' .content) hrest
  have hfirst : l s = m s := by
    cases s with
    | titles => exact (List.cons.inj htitles).1
    | content => exact (List.cons.inj hcontent).1
    | authors => exact (List.cons.inj hauthors).1
  rw [hhead, hhead', hfirst]

/-- **What a view tells**: results for one keyword that look the same have, section by section, the
same outcome, as many books and the same reason for failures. -/
theorem alike_of_results_eq (order : Order) {a b : Results} (hkeyword : a.keyword = b.keyword)
    (ha : a.IsOneLine) (hb : b.IsOneLine) (h : results order a = results order b) (s : Section) :
    (a.bucket (s.bucketName order)).Alike (b.bucket (s.bucketName order)) := by
  have hhead := head_eq_of_results_eq ha hb h s
  unfold Section.head at hhead
  rw [← hkeyword] at hhead
  exact alike_of_header_eq hhead

/-- A keyword and a title that imitate headers; the results differ in what is not shown. -/
theorem alike_of_results_eq_imitation :
    let book (language : String) : Book :=
      { Book.blank with
        title := "2 results of books' titles containing \"x\""
        languages := [language] }
    let found (language : String) : Results :=
      { keyword := "x\" (partial: y)"
        titles := .available [book language]
        authors := .unavailable "z"
        content := .partially [book language] "regex: z"
        orderedContent := .available [] }
    results .relevance (found "en") = results .relevance (found "fr") ∧ found "en" ≠ found "fr" ∧
      ∀ s : Section, ((found "en").bucket (s.bucketName .relevance)).Alike
        ((found "fr").bucket (s.bucketName .relevance)) := by
  intro book found
  have hviews : results .relevance (found "en") = results .relevance (found "fr") := by
    decide +kernel
  have hfirst : (found "en").IsOneLine := by decide
  have hsecond : (found "fr").IsOneLine := by decide
  exact ⟨hviews, by decide, alike_of_results_eq .relevance rfl hfirst hsecond hviews⟩

end View

end BookCatalog
