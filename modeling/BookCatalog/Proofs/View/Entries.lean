import BookCatalog.Proofs.View.Lines

/-!
# Sections, counts and entries

What can be read from the lines of a view: its two empty lines part it into three sections, the
lines that name books are the books of the bucket of the section, and the number in front of the
header is how many there are.

* `View.filter_isEntry_rest` — no other line of a section is taken for one that names a book;
* `View.Section.Agrees` — what the lines of a section tell of its bucket;
* `View.agrees_of_results` — the lines of a view.
-/

namespace BookCatalog.View

open Text

/-! ## Kinds of lines -/

def startsWith (word l : String) : Bool := word.toList.isPrefixOf l.toList

/-- A line of blank space, or of nothing. -/
def isBlankLine (l : String) : Bool := l.toList.all isBlank

/-- A line that looks like one that names a book. -/
def isEntry (l : String) : Bool := startsWith "  [" l

/-- A line that looks like the one that says how books are ordered. -/
def saysOrder (l : String) : Bool := startsWith "Ordered by" l

/-- The number that a line starts with. -/
def number? (l : String) : Option Nat := Decimal.digits? (l.toList.takeWhile Char.isDigit)

/-- Whether a line starts with a word is decided by as many characters as the word has. -/
theorem startsWith_append {word label : String} (h : word.toList.length ≤ label.toList.length)
    (rest : String) : startsWith word (label ++ rest) = startsWith word label := by
  have hfront : label.toList <+: (label ++ rest).toList := by
    rw [String.toList_append]
    exact List.prefix_append _ _
  rw [Bool.eq_iff_iff]
  simp only [startsWith, List.isPrefixOf_iff_prefix]
  exact ⟨fun hword => List.prefix_of_prefix_length_le hword hfront h, fun hword => hword.trans hfront⟩

theorem startsWith_of_head?_ne {word l : String} {c d : Char} (hword : word.toList.head? = some d)
    (hl : l.toList.head? = some c) (hne : d ≠ c) : startsWith word l = false := by
  obtain ⟨ds, hds⟩ := List.head?_eq_some_iff.1 hword
  obtain ⟨cs, hcs⟩ := List.head?_eq_some_iff.1 hl
  simp [startsWith, hds, hcs, List.isPrefixOf, hne]

theorem isBlankLine_append {label : String} (h : isBlankLine label = false) (rest : String) :
    isBlankLine (label ++ rest) = false := by
  unfold isBlankLine at h ⊢
  rw [String.toList_append, List.all_append, h, Bool.false_and]

/-! ## Headers -/

theorem Heads.exists_head? {what keyword l : String} {b : Bucket} (h : Heads what keyword b l) :
    ∃ c, l.toList.head? = some c ∧ (c.isDigit = true ∨ c ∈ ['N', 'S']) := by
  cases h with
  | failed hwords hreason hbooks => exact ⟨'S', by simp, .inr (by decide)⟩
  | nothing hbooks => exact ⟨'N', by simp, .inr (by decide)⟩
  | found htail hbooks =>
    obtain ⟨c, cs, hc⟩ := List.exists_cons_of_ne_nil (Decimal.digits_ne_nil b.books.length)
    refine ⟨c, by simp [counted, Decimal.natural, hc], .inl ?_⟩
    exact Decimal.isDigit_of_mem_digits (by rw [hc]; exact List.mem_cons_self)

theorem kinds_of_head? {l : String} {c : Char} (hl : l.toList.head? = some c)
    (hc : c.isDigit = true ∨ c ∈ ['N', 'S']) :
    isBlankLine l = false ∧ isEntry l = false ∧ saysOrder l = false := by
  obtain ⟨cs, hcs⟩ := List.head?_eq_some_iff.1 hl
  have hchar : isBlank c = false ∧ ' ' ≠ c ∧ 'O' ≠ c := by
    rcases hc with hdigit | hletter
    · have hlow : 48 ≤ c.toNat := (Bool.and_eq_true_iff.1 hdigit).1 |> of_decide_eq_true
      have hhigh : c.toNat ≤ 57 := (Bool.and_eq_true_iff.1 hdigit).2 |> of_decide_eq_true
      refine ⟨?_, ?_, ?_⟩
      · simp [isBlank]
        omega
      · rintro rfl
        exact absurd hlow (by decide)
      · rintro rfl
        exact absurd hhigh (by decide)
    · simp only [List.mem_cons, List.not_mem_nil, or_false] at hletter
      rcases hletter with rfl | rfl <;> decide
  obtain ⟨hblank, hspace, hletter⟩ := hchar
  refine ⟨?_, startsWith_of_head?_ne rfl hl hspace, startsWith_of_head?_ne rfl hl hletter⟩
  rw [isBlankLine, hcs, List.all_cons, hblank, Bool.false_and]

theorem number?_of_not_isDigit {l : String} {c : Char} (hl : l.toList.head? = some c)
    (hc : c.isDigit = false) : number? l = none := by
  obtain ⟨cs, hcs⟩ := List.head?_eq_some_iff.1 hl
  rw [number?, hcs, List.takeWhile_cons_of_neg (by simp [hc])]
  rfl

theorem number?_counted (n : Nat) (what keyword s : String) :
    number? (counted n what keyword ++ s) = some n := by
  have hdigits : ∀ c ∈ Decimal.digits n, c.isDigit = true := fun c =>
    Decimal.isDigit_of_mem_digits
  have htext : (counted n what keyword ++ s).toList = Decimal.digits n ++
      ' ' :: ("results of books' " ++ what ++ " containing \"" ++ keyword ++ "\"" ++ s).toList := by
    simp [counted, Decimal.natural]
  rw [number?, htext, List.takeWhile_append_of_pos hdigits,
    List.takeWhile_cons_of_neg (by decide), List.append_nil, Decimal.digits?_digits]

/-- **The number in a header** is that of the books of the bucket, if there are any. -/
theorem Heads.number?_eq {what keyword l : String} {b : Bucket} (h : Heads what keyword b l) :
    number? l = if b.books = [] then none else some b.books.length := by
  cases h with
  | failed hwords hreason hbooks =>
    rw [if_pos hbooks]
    exact number?_of_not_isDigit (c := 'S') (by simp) (by decide)
  | nothing hbooks =>
    rw [if_pos hbooks]
    exact number?_of_not_isDigit (c := 'N') (by simp) (by decide)
  | found htail hbooks => rw [if_neg hbooks, number?_counted]

/-! ## Sections -/

theorem isEntry_title (b : Book) : isEntry (title b) = true := by
  unfold isEntry title
  rw [String.append_assoc, String.append_assoc, startsWith_append (by decide)]
  decide

theorem saysOrder_title (b : Book) : saysOrder (title b) = false :=
  startsWith_of_head?_ne (c := ' ') (d := 'O') rfl (by simp [title]) (by decide)

theorem kinds_of_mem_details {b : Book} (h : b.IsOneLine) {l : String} (hl : l ∈ details b) :
    isBlankLine l = false ∧ isEntry l = false ∧ saysOrder l = false := by
  obtain ⟨label, hlabel, rest, -, rfl⟩ := exists_label_of_mem_details h hl
  have hlabels : ∀ label ∈ detailLabels, isBlankLine label = false ∧ isEntry label = false ∧
      saysOrder label = false ∧ "Ordered by".toList.length ≤ label.toList.length := by decide
  obtain ⟨hblank, hentry, horder, hlength⟩ := hlabels label hlabel
  refine ⟨isBlankLine_append hblank rest, ?_, ?_⟩
  · unfold isEntry at hentry ⊢
    rw [startsWith_append (Nat.le_trans (by decide) hlength), hentry]
  · unfold saysOrder at horder ⊢
    rw [startsWith_append hlength, horder]

/-- **The lines that name books**: those of the books that are listed, in their order. -/
theorem filter_isEntry_flatMap {books : List Book} (h : ∀ b ∈ books, b.IsOneLine) :
    (books.flatMap fun b => title b :: details b).filter isEntry = books.map title := by
  induction books with
  | nil => rfl
  | cons b books ih =>
    have hdetails : (details b).filter isEntry = [] := List.filter_eq_nil_iff.2 fun l hl => by
      simp [(kinds_of_mem_details (h b List.mem_cons_self) hl).2.1]
    rw [List.flatMap_cons, List.filter_append, List.filter_cons_of_pos (isEntry_title b), hdetails,
      ih fun b' hb' => h b' (List.mem_cons_of_mem b hb'), List.map_cons, List.singleton_append]

theorem kinds_of_order (order : Order) :
    isBlankLine ("Ordered by " ++ order.label) = false ∧
      isEntry ("Ordered by " ++ order.label) = false ∧
      saysOrder ("Ordered by " ++ order.label) = true := by
  cases order <;> decide

/-- What the lines of a section tell of the bucket that it shows: its header first, its books in their
order and how many they are, and in the section of contents how they are ordered. -/
structure Section.Agrees (s : Section) (order : Order) (r : Results) (ls : List String) : Prop where
  header : ∃ l rest, ls = l :: rest ∧ s.head order r = line l
  entries : ls.filter isEntry = (r.bucket (s.bucketName order)).books.map title
  count : ls.head?.bind number? =
    let books := (r.bucket (s.bucketName order)).books
    if books = [] then none else some books.length
  ordered : ls.filter saysOrder = s.orderLines order r

section

variable {s : Section} {order : Order} {r : Results}

theorem isBlankLine_of_mem_rest (h : r.IsOneLine) {l : String} (hl : l ∈ s.rest order r) :
    isBlankLine l = false := by
  rcases List.mem_append.1 hl with hl | hl
  · rw [eq_of_mem_orderLines hl]
    exact (kinds_of_order order).1
  · obtain ⟨b, hb, hl⟩ := List.mem_flatMap.1 hl
    rcases List.mem_cons.1 hl with rfl | hl
    · unfold title
      rw [String.append_assoc, String.append_assoc]
      exact isBlankLine_append (by decide) _
    · exact (kinds_of_mem_details ((h.bucket (s.bucketName order)).books b hb) hl).1

/-- **No other line** of a section is taken for one that names a book. -/
theorem filter_isEntry_rest (h : r.IsOneLine) :
    (s.rest order r).filter isEntry = (r.bucket (s.bucketName order)).books.map title := by
  have horder : (s.orderLines order r).filter isEntry = [] := List.filter_eq_nil_iff.2 fun l hl => by
    simp [eq_of_mem_orderLines hl, (kinds_of_order order).2.1]
  rw [Section.rest, List.filter_append, horder, List.nil_append,
    filter_isEntry_flatMap (h.bucket (s.bucketName order)).books]

theorem filter_saysOrder_rest (h : r.IsOneLine) :
    (s.rest order r).filter saysOrder = s.orderLines order r := by
  have horder : (s.orderLines order r).filter saysOrder = s.orderLines order r :=
    List.filter_eq_self.2 fun l hl => by
      rw [eq_of_mem_orderLines hl, (kinds_of_order order).2.2]
  have hbooks : ((r.bucket (s.bucketName order)).books.flatMap fun b =>
      title b :: details b).filter saysOrder = [] := by
    refine List.filter_eq_nil_iff.2 fun l hl => ?_
    obtain ⟨b, hb, hl⟩ := List.mem_flatMap.1 hl
    rcases List.mem_cons.1 hl with rfl | hl
    · simp [saysOrder_title]
    · simp [(kinds_of_mem_details ((h.bucket (s.bucketName order)).books b hb) hl).2.2]
  rw [Section.rest, List.filter_append, horder, hbooks, List.append_nil]

/-- **The lines of a section** agree with its bucket, and none is blank. -/
theorem Section.exists_agrees (s : Section) (order : Order) (h : r.IsOneLine) :
    ∃ ls, s.shown order r = ofLines ls ∧ (∀ l ∈ ls, IsOneLine l ∧ isBlankLine l = false) ∧
      s.Agrees order r ls := by
  have hwhat : IsOneLine s.what := by cases s <;> decide
  obtain ⟨l, hhead, hl⟩ := exists_heads s.what r.keyword (r.bucket (s.bucketName order))
  have hkinds : isBlankLine l = false ∧ isEntry l = false ∧ saysOrder l = false := by
    obtain ⟨c, hc, hkind⟩ := hl.exists_head?
    exact kinds_of_head? hc hkind
  refine ⟨l :: s.rest order r, ?_, fun k hk => ?_, ⟨l, _, rfl, hhead⟩, ?_, ?_, ?_⟩
  · rw [Section.shown, ofLines_cons, ← body_eq_ofLines, ← hhead]
    rfl
  · rcases List.mem_cons.1 hk with rfl | hk
    · exact ⟨(hl.isLine hwhat (h.bucket (s.bucketName order)).failure h.keyword).2, hkinds.1⟩
    · exact ⟨(isLine_of_mem_rest h hk).2, isBlankLine_of_mem_rest h hk⟩
  · rw [List.filter_cons_of_neg (by simp [hkinds.2.1]), filter_isEntry_rest h]
  · exact hl.number?_eq
  · rw [List.filter_cons_of_neg (by simp [hkinds.2.2]), filter_saysOrder_rest h]

/-! ## Views -/

/-- **Sections, counts and entries** of a view agree: its two blank lines part it into the sections,
and each tells its bucket. -/
theorem agrees_of_results (order : Order) (h : r.IsOneLine) :
    (lines (results order r)).filter isBlankLine = ["", ""] ∧
      ∃ ls : Section → List String,
        (lines (results order r)).splitOnP isBlankLine = [ls .titles, ls .content, ls .authors] ∧
        ∀ s : Section, s.Agrees order r (ls s) := by
  choose ls hshown hlines hagrees using fun s : Section => s.exists_agrees order h
  have hblank : ∀ s, ∀ l ∈ ls s, isBlankLine l = false := fun s l hl => (hlines s l hl).2
  rw [lines_results hshown fun s l hl => (hlines s l hl).1]
  refine ⟨?_, ls, ?_, hagrees⟩
  · have hnone : ∀ s, (ls s).filter isBlankLine = [] := fun s =>
      List.filter_eq_nil_iff.2 fun l hl => by simp [hblank s l hl]
    rw [List.filter_append, hnone, List.filter_cons_of_pos rfl, List.filter_append, hnone,
      List.filter_cons_of_pos rfl, hnone]
    rfl
  · rw [List.splitOnP_append_cons_of_forall_mem (hblank .titles) "" rfl,
      List.splitOnP_append_cons_of_forall_mem (hblank .content) "" rfl,
      List.splitOnP_eq_singleton (hblank .authors)]

end

/-- A title and a subject that imitate lines of other kinds, in the one section with books. -/
theorem agrees_of_results_imitation :
    let book : Book :=
      { Book.blank with
        title := "Ordered by  [7] x"
        subjects := ["  [8] y", "2 results of books' titles"] }
    let r : Results :=
      { keyword := "x"
        titles := .available []
        authors := .partially [] "y"
        content := .unavailable "z"
        orderedContent := .partially [book] "regex: z" }
    r.IsOneLine ∧ ∃ ls : Section → List String,
      (lines (results .closeness r)).splitOnP isBlankLine = [ls .titles, ls .content, ls .authors] ∧
      (ls .content).filter isEntry = [title book] ∧
      ∀ s : Section, s.Agrees .closeness r (ls s) := by
  intro book r
  have hone : r.IsOneLine := by decide
  obtain ⟨-, ls, hparts, hagrees⟩ := agrees_of_results .closeness hone
  exact ⟨hone, ls, hparts, (hagrees .content).entries, hagrees⟩

end BookCatalog.View
