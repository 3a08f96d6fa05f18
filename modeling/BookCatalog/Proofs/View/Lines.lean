import BookCatalog.Proofs.Text.OneLine
import BookCatalog.Proofs.View.Failures

/-!
# The lines of a view

What is shown of results is made of lines.  Where no text of the results holds a line end, no line
of a section is empty, so the two empty lines between the sections are the only ones.

* `View.lines_ofLines` — lines are got back from the text that they make up;
* `View.exists_label_of_mem_details` — the lines of a book;
* `View.Heads`, `View.exists_heads` — the lines that head a section;
* `View.exists_lines_section`, `View.lines_results` — the lines of a section and of a view.
-/

namespace BookCatalog

/-! ## Results of one line -/

/-- No text of a book holds a line end. -/
structure Book.IsOneLine (b : Book) : Prop where
  id : Text.IsOneLine b.id.text
  title : Text.IsOneLine b.title
  image : Text.IsOneLine b.image
  authors : ∀ p ∈ b.authors, Text.IsOneLine p.name
  translators : ∀ p ∈ b.translators, Text.IsOneLine p.name
  bookshelves : ∀ s ∈ b.bookshelves, Text.IsOneLine s
  subjects : ∀ s ∈ b.subjects, Text.IsOneLine s
  languages : ∀ s ∈ b.languages, Text.IsOneLine s
  text : Text.IsOneLine b.text

instance (b : Book) : Decidable b.IsOneLine :=
  decidable_of_iff
    (Text.IsOneLine b.id.text ∧ Text.IsOneLine b.title ∧ Text.IsOneLine b.image ∧
      (∀ p ∈ b.authors, Text.IsOneLine p.name) ∧ (∀ p ∈ b.translators, Text.IsOneLine p.name) ∧
      (∀ s ∈ b.bookshelves, Text.IsOneLine s) ∧ (∀ s ∈ b.subjects, Text.IsOneLine s) ∧
      (∀ s ∈ b.languages, Text.IsOneLine s) ∧ Text.IsOneLine b.text)
    ⟨fun ⟨h1, h2, h3, h4, h5, h6, h7, h8, h9⟩ => ⟨h1, h2, h3, h4, h5, h6, h7, h8, h9⟩,
      fun ⟨h1, h2, h3, h4, h5, h6, h7, h8, h9⟩ => ⟨h1, h2, h3, h4, h5, h6, h7, h8, h9⟩⟩

structure Bucket.IsOneLine (b : Bucket) : Prop where
  books : ∀ book ∈ b.books, book.IsOneLine
  failure : ∀ reason ∈ b.failure?, Text.IsOneLine reason

instance (b : Bucket) : Decidable b.IsOneLine :=
  decidable_of_iff
    ((∀ book ∈ b.books, book.IsOneLine) ∧ ∀ reason ∈ b.failure?, Text.IsOneLine reason)
    ⟨fun ⟨h1, h2⟩ => ⟨h1, h2⟩, fun ⟨h1, h2⟩ => ⟨h1, h2⟩⟩

structure Results.IsOneLine (r : Results) : Prop where
  keyword : Text.IsOneLine r.keyword
  bucket : ∀ name, (r.bucket name).IsOneLine

instance (r : Results) : Decidable r.IsOneLine :=
  decidable_of_iff (Text.IsOneLine r.keyword ∧ ∀ name ∈ BucketName.all, (r.bucket name).IsOneLine)
    ⟨fun ⟨h1, h2⟩ => ⟨h1, fun name => h2 name (by cases name <;> decide)⟩,
      fun ⟨h1, h2⟩ => ⟨h1, fun name _ => h2 name⟩⟩

namespace View

open Text

/-! ## Lines -/

def ofLines (ls : List String) : String := String.join (ls.map line)

/-- A line that is shown: it is not empty, and it is one. -/
def IsLine (l : String) : Prop := l ≠ "" ∧ IsOneLine l

instance (l : String) : Decidable (IsLine l) := inferInstanceAs (Decidable (l ≠ "" ∧ IsOneLine l))

theorem IsLine.append {s t : String} (hs : IsLine s) (ht : IsOneLine t) : IsLine (s ++ t) := by
  refine ⟨fun hempty => ?_, hs.2.append ht⟩
  exact hs.1 (String.append_eq_empty_iff.1 hempty).1

theorem isLine_natural (n : Nat) : IsLine (Decimal.natural n) := by
  refine ⟨fun hempty => ?_, isOneLine_natural n⟩
  have hdigits : Decimal.digits n = [] := by
    rw [← String.toList_ofList (l := Decimal.digits n)]
    exact congrArg String.toList hempty
  exact Decimal.digits_ne_nil n hdigits

theorem line_injective {s t : String} (h : line s = line t) : s = t := by
  rw [← String.toList_inj] at h ⊢
  simpa [line] using h

theorem ofLines_cons (l : String) (ls : List String) :
    ofLines (l :: ls) = line l ++ ofLines ls := by
  simp [ofLines]

theorem ofLines_append (ls ms : List String) : ofLines (ls ++ ms) = ofLines ls ++ ofLines ms := by
  simp [ofLines]

theorem ofLines_singleton (l : String) : ofLines [l] = line l := by
  simp [ofLines]

theorem eq_of_append_cons {α : Type} {a : α} {xs ys r s : List α} (hx : a ∉ xs) (hy : a ∉ ys)
    (h : xs ++ a :: r = ys ++ a :: s) : xs = ys ∧ r = s := by
  induction xs generalizing ys with
  | nil =>
    cases ys with
    | nil => exact ⟨rfl, (List.cons.inj h).2⟩
    | cons y ys =>
      obtain ⟨rfl, -⟩ := List.cons.inj h
      exact absurd List.mem_cons_self hy
  | cons x xs ih =>
    cases ys with
    | nil =>
      obtain ⟨rfl, -⟩ := List.cons.inj h
      exact absurd List.mem_cons_self hx
    | cons y ys =>
      obtain ⟨rfl, hrest⟩ := List.cons.inj h
      obtain ⟨rfl, hr⟩ := ih (fun hmem => hx (List.mem_cons_of_mem _ hmem))
        (fun hmem => hy (List.mem_cons_of_mem _ hmem)) hrest
      exact ⟨rfl, hr⟩

/-- The lines of a text: what stands between its line ends, and behind the last one if something
does. -/
def lines (text : String) : List String :=
  let pieces := cut '\n' text.toList
  (if pieces.getLast? = some [] then pieces.dropLast else pieces).map String.ofList

theorem cut_ofLines {ls : List String} (h : ∀ l ∈ ls, IsOneLine l) :
    cut '\n' (ofLines ls).toList = ls.map String.toList ++ [[]] := by
  induction ls with
  | nil => rfl
  | cons l ls ih =>
    have hrest := ih fun k hk => h k (List.mem_cons_of_mem l hk)
    have htext : (ofLines (l :: ls)).toList = l.toList ++ '\n' :: (ofLines ls).toList := by
      rw [ofLines_cons]
      simp [line]
    rw [htext, cut_append (h l List.mem_cons_self), hrest]
    rfl

/-- **Lines** are got back from the text that they make up. -/
theorem lines_ofLines {ls : List String} (h : ∀ l ∈ ls, IsOneLine l) : lines (ofLines ls) = ls := by
  have hback := map_ofList_map_toList ls
  simp only [lines, cut_ofLines h, List.getLast?_concat, if_true, List.dropLast_concat, hback]

/-! ## The lines of a book -/

def labelledLines (label sep : String) (pieces : List String) : List String :=
  if pieces = [] then [] else [label ++ ": " ++ join sep pieces]

/-- The line of a labelled text, if it is not empty. -/
def optionalLines (label shown given : String) : List String :=
  if given = "" then [] else [label ++ ": " ++ shown]

theorem labelled_eq_ofLines (label sep : String) (pieces : List String) :
    labelled label sep pieces = ofLines (labelledLines label sep pieces) := by
  unfold labelled labelledLines
  split
  · rfl
  · exact (ofLines_singleton _).symm

theorem optional_eq_ofLines (label shown given : String) :
    optional label shown given = ofLines (optionalLines label shown given) := by
  unfold optional optionalLines
  split
  · rfl
  · exact (ofLines_singleton _).symm

def title (b : Book) : String := "  [" ++ b.id.text ++ "] " ++ b.title

/-- The lines of a book behind the one that names it. -/
def details (b : Book) : List String :=
  optionalLines "      image" (b.cover .small) b.image ++
    labelledLines "      Author" ", " (b.authors.map Person.displayName) ++
    labelledLines "      Translators" ", " (b.translators.map Person.displayName) ++
    labelledLines "      Bookshelves" "; " b.bookshelves ++
    labelledLines "      Subject" "; " b.subjects

/-- What the lines behind the one that names a book start with. -/
def detailLabels : List String :=
  ["      image", "      Author", "      Translators", "      Bookshelves", "      Subject"]

theorem entry_eq_ofLines (b : Book) : entry b = ofLines (title b :: details b) := by
  simp only [entry, people, labelled_eq_ofLines, optional_eq_ofLines, details, ofLines_cons,
    ofLines_append, title, String.append_assoc]

theorem entries_eq_ofLines (books : List Book) :
    entries books = ofLines (books.flatMap fun b => title b :: details b) := by
  induction books with
  | nil => rfl
  | cons b books ih =>
    have hcons : entries (b :: books) = entry b ++ entries books := by simp [entries]
    rw [hcons, entry_eq_ofLines, ih, List.flatMap_cons, ofLines_append]

theorem exists_of_mem_labelledLines {label sep l : String} {pieces : List String}
    (hsep : IsOneLine sep) (h : ∀ p ∈ pieces, IsOneLine p)
    (hl : l ∈ labelledLines label sep pieces) : ∃ rest, IsOneLine rest ∧ l = label ++ rest := by
  unfold labelledLines at hl
  split at hl
  · cases hl
  · refine ⟨": " ++ join sep pieces, IsOneLine.append (by decide) (isOneLine_join hsep h), ?_⟩
    rw [List.mem_singleton.1 hl, String.append_assoc]

theorem exists_of_mem_optionalLines {label shown given l : String} (h : IsOneLine shown)
    (hl : l ∈ optionalLines label shown given) : ∃ rest, IsOneLine rest ∧ l = label ++ rest := by
  unfold optionalLines at hl
  split at hl
  · cases hl
  · refine ⟨": " ++ shown, IsOneLine.append (by decide) h, ?_⟩
    rw [List.mem_singleton.1 hl, String.append_assoc]

/-- **The lines behind the one that names a book** start with their labels. -/
theorem exists_label_of_mem_details {b : Book} (h : b.IsOneLine) {l : String} (hl : l ∈ details b) :
    ∃ label ∈ detailLabels, ∃ rest, IsOneLine rest ∧ l = label ++ rest := by
  have hnames : ∀ {persons : List Person}, (∀ p ∈ persons, IsOneLine p.name) →
      ∀ s ∈ persons.map Person.displayName, IsOneLine s := by
    intro persons hpersons s hs
    obtain ⟨p, hp, rfl⟩ := List.mem_map.1 hs
    exact isOneLine_exchange (by decide) (hpersons p hp)
  simp only [details, List.mem_append] at hl
  rcases hl with (((hl | hl) | hl) | hl) | hl
  · exact ⟨_, by decide,
      exists_of_mem_optionalLines (isOneLine_exchange (by decide) h.image) hl⟩
  · exact ⟨_, by decide, exists_of_mem_labelledLines (by decide) (hnames h.authors) hl⟩
  · exact ⟨_, by decide, exists_of_mem_labelledLines (by decide) (hnames h.translators) hl⟩
  · exact ⟨_, by decide, exists_of_mem_labelledLines (by decide) h.bookshelves hl⟩
  · exact ⟨_, by decide, exists_of_mem_labelledLines (by decide) h.subjects hl⟩

theorem isLine_title {b : Book} (h : b.IsOneLine) : IsLine (title b) := by
  have hopen : IsLine "  [" := by decide
  exact ((hopen.append h.id).append (by decide)).append h.title

theorem isLine_of_mem_details {b : Book} (h : b.IsOneLine) {l : String} (hl : l ∈ details b) :
    IsLine l := by
  obtain ⟨label, hlabel, rest, hrest, rfl⟩ := exists_label_of_mem_details h hl
  have hlabels : ∀ label ∈ detailLabels, IsLine label := by decide
  exact (hlabels label hlabel).append hrest

/-! ## Headers -/

/-- The words in a header without books between what was searched and why that failed. -/
def failedWords : List String := [" is temporarily unavailable (", " is partially unavailable ("]

/-- The lines that head the section of a bucket. -/
inductive Heads (what keyword : String) (b : Bucket) : String → Prop
  /-- There are no books, and some search failed. -/
  | failed {words reason : String} (hwords : words ∈ failedWords) (hreason : reason ∈ b.failure?)
      (hbooks : b.books = []) :
      Heads what keyword b ("Search of books' " ++ what ++ words ++ reason ++ ")")
  /-- There are no books. -/
  | nothing (hbooks : b.books = []) : Heads what keyword b
      ("No results found of books' " ++ what ++ " containing \"" ++ keyword ++ "\"")
  /-- There are books, and behind their count it is said why there may be more. -/
  | found {tail : String}
      (htail : tail = "" ∨ ∃ reason ∈ b.failure?, tail = " (partial: " ++ reason ++ ")")
      (hbooks : b.books ≠ []) : Heads what keyword b (counted b.books.length what keyword ++ tail)

/-- **A header** is one of these lines. -/
theorem exists_heads (what keyword : String) (b : Bucket) :
    ∃ l, header what keyword b = line l ∧ Heads what keyword b l := by
  cases b with
  | unavailable reason => exact ⟨_, rfl, .failed (by decide) rfl rfl⟩
  | available books =>
    by_cases hbooks : books = []
    · exact ⟨_, if_pos hbooks, .nothing hbooks⟩
    · exact ⟨_, header_available what keyword hbooks, .found (.inl rfl) hbooks⟩
  | partially books reason =>
    by_cases hbooks : books = []
    · exact ⟨_, if_pos hbooks, .failed (by decide) rfl hbooks⟩
    · exact ⟨_, header_partially what keyword hbooks reason,
        .found (.inr ⟨reason, rfl, rfl⟩) hbooks⟩

section

variable {what keyword : String} {b : Bucket} {l : String} (hwhat : IsOneLine what)
  (hb : ∀ reason ∈ b.failure?, IsOneLine reason)

include hb

theorem isOneLine_tail {tail : String}
    (h : tail = "" ∨ ∃ reason ∈ b.failure?, tail = " (partial: " ++ reason ++ ")") :
    IsOneLine tail := by
  rcases h with rfl | ⟨reason, hreason, rfl⟩
  · decide
  · exact (IsOneLine.append (by decide) (hb reason hreason)).append (by decide)

include hwhat

theorem isLine_failed {words reason : String} (hwords : words ∈ failedWords)
    (hreason : reason ∈ b.failure?) :
    IsLine ("Search of books' " ++ what ++ words ++ reason ++ ")") := by
  have hsearch : IsLine "Search of books' " := by decide
  have hall : ∀ words ∈ failedWords, IsOneLine words := by decide
  exact (((hsearch.append hwhat).append (hall words hwords)).append (hb reason hreason)).append
    (by decide)

/-- **A header** is one line where the keyword is. -/
theorem Heads.isLine (h : Heads what keyword b l) (hkeyword : IsOneLine keyword) : IsLine l := by
  cases h with
  | failed hwords hreason hbooks => exact isLine_failed hwhat hb hwords hreason
  | nothing hbooks =>
    have hnone : IsLine "No results found of books' " := by decide
    exact (((hnone.append hwhat).append (by decide)).append hkeyword).append (by decide)
  | found htail hbooks =>
    have hcount : IsLine (counted b.books.length what keyword) :=
      ((((isLine_natural _).append (by decide)).append hwhat).append (by decide)).append hkeyword
        |>.append (by decide)
    exact hcount.append (isOneLine_tail hb htail)

end

/-! ## The lines of a section -/

/-- The line of a section that says how its books are ordered: that of the contents has one, if there
are any. -/
def Section.orderLines (s : Section) (order : Order) (r : Results) : List String :=
  match s with
  | .content =>
    if (r.bucket (s.bucketName order)).books = [] then [] else ["Ordered by " ++ order.label]
  | _ => []

def Section.rest (s : Section) (order : Order) (r : Results) : List String :=
  s.orderLines order r ++ (r.bucket (s.bucketName order)).books.flatMap fun b =>
    title b :: details b

theorem body_eq_ofLines (s : Section) (order : Order) (r : Results) :
    s.body order r = ofLines (s.rest order r) := by
  unfold Section.body Section.rest Section.orderLines
  rw [ofLines_append, ← entries_eq_ofLines]
  cases s with
  | titles => exact (String.empty_append).symm
  | authors => exact (String.empty_append).symm
  | content =>
    dsimp only
    split
    · rfl
    · rw [ofLines_singleton]

theorem eq_of_mem_orderLines {s : Section} {order : Order} {r : Results} {l : String}
    (hl : l ∈ s.orderLines order r) : l = "Ordered by " ++ order.label := by
  unfold Section.orderLines at hl
  split at hl
  · split at hl
    · cases hl
    · exact List.mem_singleton.1 hl
  · cases hl

theorem isLine_of_mem_rest {s : Section} {order : Order} {r : Results} (h : r.IsOneLine) {l : String}
    (hl : l ∈ s.rest order r) : IsLine l := by
  rcases List.mem_append.1 hl with hl | hl
  · rw [eq_of_mem_orderLines hl]
    cases order <;> decide
  · obtain ⟨b, hb, hl⟩ := List.mem_flatMap.1 hl
    have hbook := (h.bucket (s.bucketName order)).books b hb
    rcases List.mem_cons.1 hl with rfl | hl
    · exact isLine_title hbook
    · exact isLine_of_mem_details hbook hl

/-- **The lines of a section** start with its header. -/
theorem exists_lines_section (s : Section) (order : Order) {r : Results} (h : r.IsOneLine) :
    ∃ l ls, s.head order r = line l ∧ s.shown order r = ofLines (l :: ls) ∧
      ∀ k ∈ l :: ls, IsLine k := by
  have hwhat : IsOneLine s.what := by cases s <;> decide
  obtain ⟨l, hhead, hl⟩ := exists_heads s.what r.keyword (r.bucket (s.bucketName order))
  refine ⟨l, s.rest order r, hhead, ?_, fun k hk => ?_⟩
  · rw [Section.shown, ofLines_cons, ← body_eq_ofLines, ← hhead]
    rfl
  · rcases List.mem_cons.1 hk with rfl | hk
    · exact hl.isLine hwhat (h.bucket (s.bucketName order)).failure h.keyword
    · exact isLine_of_mem_rest h hk

theorem results_eq_ofLines {order : Order} {r : Results} {titles content authors : List String}
    (htitles : Section.shown .titles order r = ofLines titles)
    (hcontent : Section.shown .content order r = ofLines content)
    (hauthors : Section.shown .authors order r = ofLines authors) :
    results order r = ofLines (titles ++ "" :: (content ++ "" :: authors)) := by
  have hblank : line "" = "\n" := rfl
  rw [results_eq_sections, htitles, hcontent, hauthors]
  simp only [ofLines_append, ofLines_cons, hblank, String.append_assoc]

/-- **The lines of a view**: those of the three sections, with an empty line between each two. -/
theorem lines_results {order : Order} {r : Results} {ls : Section → List String}
    (hshown : ∀ s : Section, s.shown order r = ofLines (ls s))
    (hlines : ∀ s, ∀ l ∈ ls s, IsOneLine l) :
    lines (results order r) = ls .titles ++ "" :: (ls .content ++ "" :: ls .authors) := by
  rw [results_eq_ofLines (hshown .titles) (hshown .content) (hshown .authors)]
  have hempty : IsOneLine "" := by decide
  exact lines_ofLines (List.forall_mem_append.2 ⟨hlines .titles, List.forall_mem_cons.2 ⟨hempty,
    List.forall_mem_append.2 ⟨hlines .content, List.forall_mem_cons.2 ⟨hempty,
      hlines .authors⟩⟩⟩⟩)

end View

end BookCatalog
