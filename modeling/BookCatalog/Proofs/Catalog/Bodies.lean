import BookCatalog.Catalog.Client
import BookCatalog.Proofs.Book.Shapes

/-!
# Lists of books in answers

What an answer to a search holds is a list of books.  It is read item by item, and either all items
are books, or none of them is given back.

* `Book.decodeAll_eq_ok_iff` — the texts that hold books, and the books they hold;
* `Client.wholeLists` — an answer gives the books of all its items in their order, or a failure.
-/

namespace BookCatalog

open Json

namespace Book

/-- Texts that each hold a book, as they stand. -/
def HoldEach (ts : List (List Char)) (books : List Book) : Prop :=
  List.Forall₂ (fun t b => Book.decode (String.ofList t) = .ok b) ts books

theorem decode_value_iff {t : List Char} (ht : IsValue t) {b : Book} :
    Book.decode (String.ofList t) = .ok b ↔ Given b t := by
  have hiff : Json.decode Book.read (String.ofList ([] ++ (t ++ []))) = .ok b ↔ Given b t :=
    (parses 124).decides.decode_iff gap_nil ht gap_nil
  rwa [List.nil_append, List.append_nil] at hiff

theorem holdEach_iff {ts : List (List Char)} (hvalues : ∀ t ∈ ts, IsValue t) {books : List Book} :
    HoldEach ts books ↔ List.Forall₂ Given books ts := by
  induction ts generalizing books with
  | nil =>
    constructor
    · intro h
      cases h
      exact .nil
    · intro h
      cases h
      exact .nil
  | cons t ts ih =>
    have ht : IsValue t := hvalues t List.mem_cons_self
    have hts : ∀ u ∈ ts, IsValue u := fun u hu => hvalues u (List.mem_cons_of_mem t hu)
    constructor
    · intro h
      cases h with
      | cons hb hbs => exact .cons ((decode_value_iff ht).1 hb) ((ih hts).1 hbs)
    · intro h
      cases h with
      | cons hb hbs => exact .cons ((decode_value_iff ht).2 hb) ((ih hts).2 hbs)

theorem exists_holdEach_iff {ts : List (List Char)} :
    (∃ books, HoldEach ts books) ↔ ∀ t ∈ ts, ∃ b, Book.decode (String.ofList t) = .ok b := by
  induction ts with
  | nil =>
    constructor
    · intro _
      simp
    · intro _
      exact ⟨[], .nil⟩
  | cons t ts ih =>
    rw [List.forall_mem_cons, ← ih]
    constructor
    · rintro ⟨_, _ | ⟨hb, hbs⟩⟩
      exact ⟨⟨_, hb⟩, _, hbs⟩
    · rintro ⟨⟨b, hb⟩, books, hbs⟩
      exact ⟨b :: books, .cons hb hbs⟩

theorem parsesAll (levels : Nat) : Parses (Book.readAll (levels + 4)) (ListOf Given) :=
  (parses levels).list

/-- **A list** is decoded as the books that its items hold. -/
theorem decodeAll_list_iff {ts : List (List Char)} {text : String} (h : ListText ts text)
    {books : List Book} : Book.decodeAll text = .ok books ↔ HoldEach ts books := by
  cases h with
  | @mk g t back hg ht hback =>
    have hlist : ListOf Given books t ↔ List.Forall₂ Given books ts :=
      ht.listOf_iff (parses 0).decides
    rw [Book.decodeAll, (parsesAll 123).decides.decode_iff hg ht.isValue hback, hlist,
      holdEach_iff ht.items]

/-- **The texts that hold books** are the lists of which each item holds one. -/
theorem decodeAll_eq_ok_iff {text : String} {books : List Book} :
    Book.decodeAll text = .ok books ↔ ∃ ts, ListText ts text ∧ HoldEach ts books := by
  constructor
  · intro hread
    obtain ⟨g, t, back, rfl, hg, hback, hlist⟩ := (parsesAll 123).decode_iff.1 hread
    cases hlist with
    | @mk ts inside hspread hitems =>
      have htext : ListText ts (String.ofList (g ++ ('[' :: inside ++ [']'] ++ back))) :=
        .mk hg (.mk hspread ((parses 0).decides.isValue_of_forall₂ hitems)) hback
      exact ⟨ts, htext, (decodeAll_list_iff htext).1 hread⟩
  · rintro ⟨ts, htext, heach⟩
    exact (decodeAll_list_iff htext).2 heach

end Book

namespace Json

theorem ListText.gap {ts us : List (List Char)} {g t back : List Char}
    (h : ListText us (String.ofList (g ++ (t ++ back)))) (hg : Gap g) (ht : IsList ts t) :
    Gap back := by
  generalize htext : String.ofList (g ++ (t ++ back)) = text at h
  cases h with
  | @mk g' u back' hg' hu hback =>
    have heq : g ++ (t ++ back) = g' ++ (u ++ back') := String.ofList_inj.1 htext
    obtain ⟨-, -, rfl⟩ := ht.isValue.cut hu.isValue hg hg' (ht.ended back) (hu.ended back') heq
    exact hback

end Json

namespace Client

/-- A text of an answer is refused as malformed, in the words for what is wrong with it. -/
def Malformed (kind : Kind) (text : String) : Prop :=
  ∃ e, Book.decodeAll text = .error e ∧ parseBody Book.decodeAll kind text =
    .error (.malformed (kind.name ++ " response: " ++ e.message))

theorem parseBody_cases (kind : Kind) (text : String) :
    (∃ books, Book.decodeAll text = .ok books ∧
      parseBody Book.decodeAll kind text = .ok books) ∨ Malformed kind text := by
  cases hread : Book.decodeAll text with
  | ok books => exact .inl ⟨books, rfl, by rw [parseBody, hread]⟩
  | error e => exact .inr ⟨e, hread, by rw [parseBody, hread]⟩

theorem parseBody_eq_ok_iff {kind : Kind} {text : String} {books : List Book} :
    parseBody Book.decodeAll kind text = .ok books ↔ Book.decodeAll text = .ok books := by
  rcases parseBody_cases kind text with ⟨found, hread, hparse⟩ | ⟨e, hread, hparse⟩
  · rw [hread, hparse, Except.ok.injEq, Except.ok.injEq]
  · rw [hread, hparse]
    simp

theorem malformed_of_ne {kind : Kind} {text : String}
    (h : ∀ books, Book.decodeAll text ≠ .ok books) : Malformed kind text := by
  rcases parseBody_cases kind text with ⟨books, hread, -⟩ | hmalformed
  · exact absurd hread (h books)
  · exact hmalformed

/-- What an answer to a search of a kind gives. -/
structure WholeLists (kind : Kind) : Prop where
  /-- A list is accepted where each of its items holds a book on its own. -/
  accepted : ∀ {ts : List (List Char)} {text : String}, ListText ts text →
    ((∃ books, parseBody Book.decodeAll kind text = .ok books) ↔
      ∀ t ∈ ts, ∃ b, Book.decode (String.ofList t) = .ok b)
  /-- It gives the books of the items, one for each and in their order. -/
  books : ∀ {ts : List (List Char)} {text : String}, ListText ts text →
    ∀ books, parseBody Book.decodeAll kind text = .ok books ↔
      List.Forall₂ (fun t b => Book.decode (String.ofList t) = .ok b) ts books
  /-- One item that holds no book fails the whole answer. -/
  refused : ∀ {ts : List (List Char)} {text : String}, ListText ts text →
    ∀ t ∈ ts, ∀ e, Book.decode (String.ofList t) = .error e → Malformed kind text
  /-- A text that is no list is refused. -/
  notList : ∀ {text : String}, (∀ ts, ¬ ListText ts text) → Malformed kind text
  /-- So is a list with something other than space behind it. -/
  trailing : ∀ {ts : List (List Char)} {g t back : List Char}, Gap g → IsList ts t → ¬ Gap back →
    Malformed kind (String.ofList (g ++ (t ++ back)))

theorem exists_parseBody_iff {kind : Kind} {ts : List (List Char)} {text : String}
    (h : ListText ts text) : (∃ books, parseBody Book.decodeAll kind text = .ok books) ↔
      ∀ t ∈ ts, ∃ b, Book.decode (String.ofList t) = .ok b := by
  rw [← Book.exists_holdEach_iff]
  simp only [parseBody_eq_ok_iff, Book.decodeAll_list_iff h]

theorem malformed_of_not_list {kind : Kind} {text : String} (h : ∀ ts, ¬ ListText ts text) :
    Malformed kind text := by
  refine malformed_of_ne fun books hread => ?_
  obtain ⟨ts, htext, -⟩ := Book.decodeAll_eq_ok_iff.1 hread
  exact h ts htext

/-- **An answer gives the books of all its items**, or it is malformed. -/
theorem wholeLists (kind : Kind) : WholeLists kind where
  accepted := exists_parseBody_iff
  books := by
    intro ts text htext books
    rw [parseBody_eq_ok_iff, Book.decodeAll_list_iff htext]
    rfl
  refused := by
    intro ts text htext t ht e hfails
    refine malformed_of_ne fun books hread => ?_
    have hholds := (Book.decodeAll_list_iff htext).1 hread
    obtain ⟨b, hb⟩ := Book.exists_holdEach_iff.1 ⟨books, hholds⟩ t ht
    rw [hb] at hfails
    cases hfails
  notList := malformed_of_not_list
  trailing := by
    intro ts g t back hg ht hback
    exact malformed_of_not_list fun us htext => hback (htext.gap hg ht)

end Client

end BookCatalog
