import BookCatalog.Proofs.Book.RoundTrip
import BookCatalog.Proofs.Json.Unique
import BookCatalog.Search.Results

/-!
# Written results lose nothing

Results are written as one object, in the compact form or indented, and no two results are written
alike: neither a text in a book nor a reason nor the keyword can pass for the structure around it.

* `Book.listValue_inj`, `Bucket.value_inj`, `Results.value_inj` — the values that are written;
* `Results.document_iff` — what a text of results gives: their keyword, and each bucket under its
  name;
* `Results.lossless` — so the results can be told from their text.
-/

namespace BookCatalog

open Json

theorem Book.listValue_inj {xs ys : List Book} (h : Book.listValue xs = Book.listValue ys) :
    xs = ys := by
  have hread := (decode_forms (Book.reads_all 123 xs)).1
  rw [h, (decode_forms (Book.reads_all 123 ys)).1] at hread
  exact (Except.ok.inj hread).symm

/-- **A bucket** is told from its written form: its status says which members there are. -/
theorem Bucket.value_inj {a b : Bucket} (h : a.value = b.value) : a = b := by
  cases a with
  | available xs =>
    cases b with
    | available ys =>
      have hbooks : Book.listValue xs = Book.listValue ys := by simpa [Bucket.value] using h
      rw [Book.listValue_inj hbooks]
    | partially ys r => simp [Bucket.value] at h
    | unavailable r => simp [Bucket.value] at h
  | partially xs q =>
    cases b with
    | available ys => simp [Bucket.value] at h
    | partially ys r =>
      obtain ⟨hbooks, hreason⟩ : Book.listValue xs = Book.listValue ys ∧ q = r := by
        simpa [Bucket.value] using h
      rw [Book.listValue_inj hbooks, hreason]
    | unavailable r => simp [Bucket.value] at h
  | unavailable q =>
    cases b with
    | available ys => simp [Bucket.value] at h
    | partially ys r => simp [Bucket.value] at h
    | unavailable r =>
      have hreason : q = r := by simpa [Bucket.value] using h
      rw [hreason]

namespace Results

/-- **Results** are told from their written form. -/
theorem value_inj {a b : Results} (h : a.value = b.value) : a = b := by
  obtain ⟨keyword, titles, authors, content, orderedContent⟩ := a
  obtain ⟨keyword', titles', authors', content', orderedContent'⟩ := b
  simp only [value, BucketName.all, List.map_cons, List.map_nil, bucket, Value.object.injEq,
    List.cons.injEq, Prod.mk.injEq, Value.text.injEq, true_and, and_true] at h
  obtain ⟨hkeyword, htitles, hauthors, hcontent, hordered⟩ := h
  rw [hkeyword, Bucket.value_inj htitles, Bucket.value_inj hauthors, Bucket.value_inj hcontent,
    Bucket.value_inj hordered]

/-- The forms in which results are written: compact, indented, and as they are put out. -/
def forms (r : Results) : List String := [r.value.toCompact, r.value.toIndented, output r.value]

theorem document_output (v : Value) : Document v.tree (output v) := by
  rw [output_eq_ofList]
  exact .mk gap_nil (Written.indented 0 v).spelled (gap_newLine 0)

theorem document_forms (r : Results) : ∀ text ∈ r.forms, Document r.value.tree text := by
  intro text htext
  simp only [forms, List.mem_cons, List.not_mem_nil, or_false] at htext
  rcases htext with rfl | rfl | rfl
  · exact document_toCompact r.value
  · exact document_toIndented r.value
  · exact document_output r.value

/-- **A text of results** gives one object: the keyword, and an object of the four buckets. -/
theorem document_iff {r : Results} {text : String} (htext : text ∈ r.forms) {v : Tree} :
    Document v text ↔ v = .object [
      ("keyword", .text r.keyword),
      ("data", .object [
        ("booksByTitle", r.titles.value.tree),
        ("booksByAuthor", r.authors.value.tree),
        ("booksByKeywordOrRegex", r.content.value.tree),
        ("booksByKeywordOrRegexOrdered", r.orderedContent.value.tree)])] := by
  have hgiven := document_forms r text htext
  constructor
  · exact fun h => h.unique hgiven
  · rintro rfl
    exact hgiven

/-- What the text of results tells about them. -/
structure Lossless : Prop where
  /-- Results with one text, both compact or both indented, are the same: the keyword, and of every
  bucket the status, the books and the reason. -/
  same : ∀ a b : Results, a.value.toCompact = b.value.toCompact ∨
    a.value.toIndented = b.value.toIndented ∨ output a.value = output b.value →
    a.keyword = b.keyword ∧ ∀ name, a.bucket name = b.bucket name
  /-- The text gives one object, whose data are the four buckets under their names. -/
  object : ∀ r : Results, ∀ text ∈ r.forms, ∀ v : Tree, Document v text ↔ v = .object [
    ("keyword", .text r.keyword),
    ("data", .object [
      ("booksByTitle", r.titles.value.tree),
      ("booksByAuthor", r.authors.value.tree),
      ("booksByKeywordOrRegex", r.content.value.tree),
      ("booksByKeywordOrRegexOrdered", r.orderedContent.value.tree)])]
  /-- What stands under a name is the written form of no other bucket. -/
  bucket : ∀ a b : Bucket, a.value.tree = b.value.tree → a = b

/-- **The text of results loses nothing.** -/
theorem lossless : Lossless where
  same := by
    intro a b h
    have hvalue : ∀ text : String, text ∈ a.forms → text ∈ b.forms → a = b := by
      intro text ha hb
      have htree := (document_forms a text ha).unique (document_forms b text hb)
      exact value_inj (Value.tree_inj htree)
    have heq : a = b := by
      rcases h with h | h | h
      · exact hvalue a.value.toCompact (by simp [forms]) (by simp [forms, h])
      · exact hvalue a.value.toIndented (by simp [forms]) (by simp [forms, h])
      · exact hvalue (output a.value) (by simp [forms]) (by simp [forms, h])
    rw [heq]
    exact ⟨rfl, fun _ => rfl⟩
  object r text htext v := document_iff htext
  bucket _ _ h := Bucket.value_inj (Value.tree_inj h)

end Results

end BookCatalog
