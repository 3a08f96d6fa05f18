import BookCatalog.Book.Basic
import BookCatalog.Command.Basic
import BookCatalog.Proofs.Json.Records

/-!
# Books are read back

What is written of a book is read back as the same book: every field, and the identifier, which is
written as a number or as a text.

* `Id.reads` — identifiers;
* `Book.reads` — books;
* `Book.decode_value` — books and lists of books, in the compact and in the indented form.
-/

namespace BookCatalog

open Json

/-- **An identifier** is read back, whether it is written as a number or as a text. -/
theorem Id.reads (levels : Nat) (id : Id) : Reads (Id.read levels) id.value id := by
  intro t ht g rest hg hrest
  unfold Id.value at ht
  cases hnumber : id.number? with
  | some n =>
    rw [hnumber] at ht
    obtain ⟨hint, hword⟩ := Option.filter_eq_some_iff.1 hnumber
    have hid : Id.ofInt n = id := by
      obtain ⟨text, htrim⟩ := id
      have htext : text.toList = Decimal.int n := Decimal.int?_eq_some_iff.1 hint
      have heq : Decimal.integer n = text := by
        rw [Decimal.integer, ← htext, String.ofList_toList]
      simp only [Id.ofInt, heq]
    cases ht
    have hloose := takes_readLoose_number levels hword g rest hg hrest
    simp only [Id.read, hloose, hword, if_true, hid]
  | none =>
    rw [hnumber] at ht
    have hid : Id.ofText id.text = id := by
      obtain ⟨text, htrim⟩ := id
      simp only [Id.ofText, htrim]
    cases ht
    have hloose :=
      takes_readLoose_text levels (spelledText_writeText id.text) g rest hg hrest
    simp only [Id.read, hloose, hid]

theorem Person.reads (levels : Nat) (p : Person) : Reads (Person.read (levels + 1)) p.value p := by
  have hname : Filled levels Person.shape.fields [("name", .text p.name)] fun _ => ⟨p.name⟩ := by
    refine .cons (f := ⟨"name", true, _⟩) ?_ .nil
    intro t ht g rest hg hrest
    simp only [reads_text p.name t ht g rest hg hrest, Except.map]
  exact reads_shape (by decide) hname

namespace Book

theorem reads_field {α : Type} {read : ValueReader α} {levels : Nat} {v : Value} {x : α}
    (h : Reads (read levels) v x) (name : String) (required : Bool) (set : α → Book → Book) :
    Reads ((field name required read set).read levels) v (set x) := by
  intro t ht g rest hg hrest
  simp only [field, h t ht g rest hg hrest, Except.map]

theorem reads_texts (levels : Nat) (texts : List String) :
    Reads (readTexts (levels + 1)) (.list (texts.map .text)) texts :=
  reads_list reads_text texts

theorem reads_people (levels : Nat) (people : List Person) :
    Reads (readPeople (levels + 2)) (.list (people.map Person.value)) people :=
  reads_list (Person.reads levels) people

/-- **A book** is read back where three more levels may be opened. -/
theorem reads (levels : Nat) (b : Book) : Reads (Book.read (levels + 3)) b.value b := by
  have hfilled : Filled (levels + 2) Book.shape.fields
      [("id", b.id.value), ("title", .text b.title), ("image", .text b.image),
        ("authors", .list (b.authors.map Person.value)),
        ("translators", .list (b.translators.map Person.value)),
        ("bookshelves", .list (b.bookshelves.map .text)),
        ("subjects", .list (b.subjects.map .text)),
        ("languages", .list (b.languages.map .text)), ("text", .text b.text)] _ :=
    .cons (reads_field (Id.reads _ b.id) "id" true _) <|
    .cons (reads_field (reads_text b.title) "title" false _) <|
    .cons (reads_field (reads_text b.image) "image" false _) <|
    .cons (reads_field (reads_people levels b.authors) "authors" false _) <|
    .cons (reads_field (reads_people levels b.translators) "translators" false _) <|
    .cons (reads_field (reads_texts (levels + 1) b.bookshelves) "bookshelves" false _) <|
    .cons (reads_field (reads_texts (levels + 1) b.subjects) "subjects" false _) <|
    .cons (reads_field (reads_texts (levels + 1) b.languages) "languages" false _) <|
    .cons (reads_field (reads_text b.text) "text" false _) .nil
  exact reads_shape (by decide) hfilled

theorem reads_all (levels : Nat) (books : List Book) :
    Reads (readAll (levels + 4)) (listValue books) books :=
  reads_list (reads levels) books

end Book

theorem output_eq_ofList (v : Value) :
    output v = String.ofList ([] ++ (v.indented 0 ++ newLine 0)) := by
  rw [← String.toList_inj]
  simp [output, Value.toIndented, newLine]

theorem decode_forms {α : Type} {read : ValueReader α} {v : Value} {x : α}
    (h : Reads (read maxLevels) v x) :
    Json.decode read v.toCompact = .ok x ∧ Json.decode read (output v) = .ok x := by
  have hcompact := decode_of_reads h (Written.compact v) gap_nil gap_nil
  have hindented := decode_of_reads h (Written.indented 0 v) gap_nil (gap_newLine 0)
  rw [List.nil_append, List.append_nil] at hcompact
  refine ⟨hcompact, ?_⟩
  rw [output_eq_ofList]
  exact hindented

/-- **Books are read back**, alone and in a list, from the compact form and from what is put out. -/
theorem Book.decode_value :
    (∀ b : Book, Book.decode b.value.toCompact = .ok b ∧ Book.decode (output b.value) = .ok b) ∧
    ∀ books : List Book, Book.decodeAll (Book.listValue books).toCompact = .ok books ∧
      Book.decodeAll (output (Book.listValue books)) = .ok books :=
  ⟨fun b => decode_forms (Book.reads 124 b), fun books => decode_forms (Book.reads_all 123 books)⟩

end BookCatalog
