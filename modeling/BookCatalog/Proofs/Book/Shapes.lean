import BookCatalog.Proofs.Book.Schema

/-!
# Books in both shapes

A book may be given as a list of the values of its first fields, and so may a person, whose only
field is the name.  Which shape is used makes no difference, wherever a book or a person stands.

* `Person.Alike` — two texts for one person, in whatever shape;
* `Book.Reshaped` — two values that differ in the shape of people alone;
* `Book.decode_list_iff` — a list is decoded as the book that its items give;
* `Book.twoShapes` — both shapes of a book give the same book, or none.
-/

namespace BookCatalog

open Json

/-! ## Values in place of others -/

theorem Id.not_given_list {ts : List (List Char)} {t : List Char} (ht : IsList ts t) (id : Id) :
    ¬ Id.Given id t := by
  cases ht with
  | @mk inside _ _ =>
    intro hid
    have hread := (Id.parses 0).takes hid [] [] gap_nil ends_nil
    rcases Id.read_eq_ok_iff.1 hread with ⟨n, hloose, -⟩ | ⟨s, hloose, -⟩
    · cases readLoose_other (g := []) (c := '[') gap_nil (by decide) hloose
    · cases readLoose_other (g := []) (c := '[') gap_nil (by decide) hloose

theorem Json.SpelledText.head {s : String} {t : List Char} (h : SpelledText s t) :
    t.head? = some '"' := by
  cases h
  rfl

/-! ## People -/

namespace Person

/-- Two texts for one person: the same text, or a list of the name alone and an object with the name
alone. -/
inductive Alike : List Char → List Char → Prop
  | same (t : List Char) : Alike t t
  | list {v t u : List Char} (ht : IsList [v] t) (hu : IsObject [("name", v)] u) : Alike t u
  | object {v t u : List Char} (ht : IsObject [("name", v)] t) (hu : IsList [v] u) : Alike t u

theorem Alike.symm {t u : List Char} (h : Alike t u) : Alike u t := by
  cases h with
  | same => exact .same t
  | list ht hu => exact .object hu ht
  | object ht hu => exact .list hu ht

/-- **The two shapes of a person** give the same person, or none. -/
theorem Given.of_alike {p : Person} {t u : List Char} (h : Alike t u) (hp : Given p t) :
    Given p u := by
  rw [given_iff] at hp ⊢
  cases h with
  | same => exact hp
  | list ht hu => exact (Shape.given_list_iff_given_object shape ht hu Nat.le.refl).1 hp
  | object ht hu => exact (Shape.given_list_iff_given_object shape hu ht Nat.le.refl).2 hp

theorem Alike.spelledText {s : String} {t u : List Char} (h : Alike t u) (hs : SpelledText s t) :
    SpelledText s u := by
  have hhead := hs.head
  cases h with
  | same => exact hs
  | list ht =>
    cases ht
    cases hhead
  | object ht =>
    cases ht
    cases hhead

end Person

/-! ## Fields -/

namespace Book

/-- Two values that differ in the shape of people alone: the same value, or lists of people whose
items are alike. -/
inductive Reshaped : List Char → List Char → Prop
  | same (t : List Char) : Reshaped t t
  | people {ts us : List (List Char)} {t u : List Char} (ht : IsList ts t) (hu : IsList us u)
      (halike : List.Forall₂ Person.Alike ts us) : Reshaped t u

theorem Reshaped.symm {t u : List Char} (h : Reshaped t u) : Reshaped u t := by
  cases h with
  | same => exact .same t
  | people ht hu halike =>
    exact .people hu ht (halike.flip.imp fun _ _ h => h.symm)

theorem forall₂_of_alike {α : Type} {R : α → List Char → Prop}
    (hR : ∀ (x : α) {t u : List Char}, Person.Alike t u → R x t → R x u) {xs : List α}
    {ts us : List (List Char)} (halike : List.Forall₂ Person.Alike ts us)
    (h : List.Forall₂ R xs ts) : List.Forall₂ R xs us := by
  induction h generalizing us with
  | nil =>
    cases halike
    exact .nil
  | cons hx _ ih =>
    cases halike with
    | cons ht hts => exact .cons (hR _ ht hx) (ih hts)

theorem listOf_of_alike {α : Type} {read : Reader α} {R : α → List Char → Prop}
    (h : Decides read R) (hR : ∀ (x : α) {t u : List Char}, Person.Alike t u → R x t → R x u)
    {xs : List α} {ts us : List (List Char)} {t u : List Char} (ht : IsList ts t)
    (hu : IsList us u) (halike : List.Forall₂ Person.Alike ts us) (hxs : ListOf R xs t) :
    ListOf R xs u :=
  (hu.listOf_iff h).2 (forall₂_of_alike hR halike ((ht.listOf_iff h).1 hxs))

/-- **The value of a field** means the same, whatever the shape of people in it. -/
theorem Sets.of_reshaped {k : String} {t u : List Char} {change : Book → Book}
    (h : Reshaped t u) (hsets : Sets k t change) : Sets k u change := by
  cases h with
  | same => exact hsets
  | people ht hu halike =>
    have htext : ∀ s, ¬ SpelledText s t := by
      intro s hs
      have hhead := hs.head
      cases ht
      cases hhead
    have hpeople : ∀ ps, ListOf Person.Given ps t → ListOf Person.Given ps u := fun _ =>
      listOf_of_alike (Person.parses 0).decides (fun _ => Person.Given.of_alike)
        ht hu halike
    have htexts : ∀ ss, ListOf SpelledText ss t → ListOf SpelledText ss u := fun _ =>
      listOf_of_alike Parses.text.decides (fun _ => Person.Alike.spelledText) ht hu halike
    unfold Sets at hsets
    split at hsets
    · obtain ⟨id, hid, -⟩ := hsets
      exact absurd hid (Id.not_given_list ht id)
    · obtain ⟨s, hs, -⟩ := hsets
      exact absurd hs (htext s)
    · obtain ⟨s, hs, -⟩ := hsets
      exact absurd hs (htext s)
    · obtain ⟨ps, hps, rfl⟩ := hsets
      exact ⟨ps, hpeople ps hps, rfl⟩
    · obtain ⟨ps, hps, rfl⟩ := hsets
      exact ⟨ps, hpeople ps hps, rfl⟩
    · obtain ⟨ss, hss, rfl⟩ := hsets
      exact ⟨ss, htexts ss hss, rfl⟩
    · obtain ⟨ss, hss, rfl⟩ := hsets
      exact ⟨ss, htexts ss hss, rfl⟩
    · obtain ⟨ss, hss, rfl⟩ := hsets
      exact ⟨ss, htexts ss hss, rfl⟩
    · obtain ⟨s, hs, -⟩ := hsets
      exact absurd hs (htext s)
    · exact hsets.elim

/-! ## Whole books -/

/-- The names of the fields, in the order in which a list gives them. -/
def fieldNames : List String :=
  ["id", "title", "image", "authors", "translators", "bookshelves", "subjects", "languages", "text"]

/-- **A list** is decoded as the book that its items give to the first fields. -/
theorem decode_list_iff {ts : List (List Char)} {text : String} (h : ListText ts text) {b : Book} :
    Book.decode text = .ok b ↔
      ts.length ≤ 9 ∧ Shape.Gives shape Sets (fieldNames.zip ts) b := by
  cases h with
  | mk hg ht hback =>
    rw [Book.decode, (parses 124).decides.decode_iff hg ht.isValue hback]
    exact Shape.given_list_iff ht

/-- Values that differ in the shape of people alone, under the same names. -/
def SameMember (m n : String × List Char) : Prop := m.1 = n.1 ∧ Reshaped m.2 n.2

theorem forall₂_zip {ts us : List (List Char)} (h : List.Forall₂ Reshaped ts us)
    (names : List String) : List.Forall₂ SameMember (names.zip ts) (names.zip us) := by
  induction h generalizing names with
  | nil =>
    rw [List.zip_nil_right]
    exact .nil
  | cons htu _ ih =>
    cases names with
    | nil => exact .nil
    | cons name names => exact .cons ⟨rfl, htu⟩ (ih names)

/-- **The book that members give** is the same, whatever the shape of people in it. -/
theorem gives_of_sameMember {ms ns : List (String × List Char)} {b : Book}
    (h : List.Forall₂ SameMember ms ns) (hgives : Shape.Gives shape Sets ms b) :
    Shape.Gives shape Sets ns b :=
  hgives.congr (h.imp fun _ _ ⟨hname, hvalue⟩ =>
    ⟨hname, fun _ hsets => hsets.of_reshaped hvalue⟩)

theorem gives_iff_of_sameMember {ms ns : List (String × List Char)} {b : Book}
    (h : List.Forall₂ SameMember ms ns) :
    Shape.Gives shape Sets ms b ↔ Shape.Gives shape Sets ns b :=
  ⟨gives_of_sameMember h,
    gives_of_sameMember (h.flip.imp fun _ _ ⟨hname, hvalue⟩ => ⟨hname.symm, hvalue.symm⟩)⟩

/-- A text that gives values to the first fields of a book, in one shape or the other. -/
inductive GivesFirst (ts : List (List Char)) (text : String) : Prop
  | list (h : ListText ts text)
  | object (h : ObjectText (fieldNames.zip ts) text)

theorem GivesFirst.decode_iff {ts : List (List Char)} {text : String} (h : GivesFirst ts text)
    (hlength : ts.length ≤ 9) {b : Book} :
    Book.decode text = .ok b ↔ Shape.Gives shape Sets (fieldNames.zip ts) b := by
  cases h with
  | list h =>
    rw [decode_list_iff h]
    exact ⟨And.right, fun hgives => ⟨hlength, hgives⟩⟩
  | object h => exact decode_object_iff h

structure TwoShapes : Prop where
  /-- A list of up to nine values is the book that an object is which gives them to the first
  fields, or neither is a book. -/
  agree : ∀ {ts : List (List Char)} {text text' : String}, ts.length ≤ 9 → ListText ts text →
    ObjectText (fieldNames.zip ts) text' →
    ∀ b, Book.decode text = .ok b ↔ Book.decode text' = .ok b
  /-- The book is what the values mean for these fields, in their order. -/
  meant : ∀ {ts : List (List Char)} {text : String}, ListText ts text →
    ∀ b, Book.decode text = .ok b ↔
      ts.length ≤ 9 ∧ Shape.Gives shape Sets (fieldNames.zip ts) b
  /-- A list of no values, or of more than there are fields, is no book. -/
  refused : ∀ {ts : List (List Char)} {text : String}, ts = [] ∨ 9 < ts.length →
    ListText ts text → ∃ e, Book.decode text = .error e
  /-- Nor does it matter in which shape people are given, in either shape of a book. -/
  people : ∀ {ts us : List (List Char)} {text text' : String}, ts.length ≤ 9 →
    List.Forall₂ Reshaped ts us → GivesFirst ts text → GivesFirst us text' →
    ∀ b, Book.decode text = .ok b ↔ Book.decode text' = .ok b
  /-- The same holds for objects with any members. -/
  members : ∀ {ms ns : List (String × List Char)} {text text' : String},
    List.Forall₂ SameMember ms ns → ObjectText ms text → ObjectText ns text' →
    ∀ b, Book.decode text = .ok b ↔ Book.decode text' = .ok b

/-- **Both shapes of a book** give the same book, or none. -/
theorem twoShapes : TwoShapes where
  agree := by
    intro ts text text' hlength hlist hobject b
    rw [GivesFirst.decode_iff (.list hlist) hlength,
      GivesFirst.decode_iff (.object hobject) hlength]
  meant := by
    intro ts text hlist b
    exact decode_list_iff hlist
  refused := by
    intro ts text hts hlist
    cases hread : Book.decode text with
    | error e => exact ⟨e, rfl⟩
    | ok b =>
      obtain ⟨hlength, hgives⟩ := (decode_list_iff hlist).1 hread
      rcases hts with rfl | hlong
      · -- the identifier is missing
        obtain ⟨hrequired, -, -⟩ := Shape.exists_gives_iff.1 ⟨b, hgives⟩
        cases hrequired _ List.mem_cons_self rfl
      · omega
  people := by
    intro ts us text text' hlength hsame htext htext' b
    have hlength' : us.length ≤ 9 := hsame.length_eq ▸ hlength
    rw [htext.decode_iff hlength, htext'.decode_iff hlength',
      gives_iff_of_sameMember (forall₂_zip hsame fieldNames)]
  members := by
    intro ms ns text text' hsame htext htext' b
    rw [decode_object_iff htext, decode_object_iff htext', gives_iff_of_sameMember hsame]

end Book

end BookCatalog
