import BookCatalog.Proofs.Book.Identity
import BookCatalog.Proofs.Json.Shapes

/-!
# What is read as a book

A book is read of an object that gives its identifier, once, and each other field at most once, with
a value of the type of the field.  Which book it is depends on these members alone: neither their
order matters nor what other members stand among them.

* `Person.Given`, `Person.parses` — the texts of people;
* `Book.Sets` — what the value of each field makes of a book;
* `Book.decode_object_iff` — an object is decoded as the book that its members give;
* `Book.recordSchema` — which objects are books, and which books they are.
-/

namespace BookCatalog

open Json

/-- **The reader of lists of texts** takes the lists of spellings. -/
theorem Book.parses_texts (levels : Nat) :
    Parses (Book.readTexts (levels + 1)) (ListOf SpelledText) := by
  have htext : Parses ((fun _ => readText : ValueReader String) levels) SpelledText := Parses.text
  exact htext.list

/-! ## People -/

namespace Person

/-- The texts that give a person: an object with one name, a text, or a list of a text alone. -/
inductive Given : Person → List Char → Prop
  | object {ms : List (String × List Char)} {t u : List Char} {s : String} (ht : IsObject ms t)
      (honce : (ms.map Prod.fst).count "name" = 1) (hname : ("name", u) ∈ ms)
      (hs : SpelledText s u) : Given ⟨s⟩ t
  | list {t : List Char} {s : String} (h : ListOf SpelledText [s] t) : Given ⟨s⟩ t

/-- What the value of the only field makes of a person. -/
def Sets : Shape.Meaning Person := fun name t change =>
  match name with
  | "name" => ∃ s, SpelledText s t ∧ change = fun _ => ⟨s⟩
  | _ => False

theorem parsesFields (levels : Nat) : Shape.ParsesFields shape levels Sets where
  nodup := by decide
  parses := by
    intro f hf
    obtain rfl := List.mem_singleton.1 hf
    exact Parses.text.map fun (s : String) (_ : Person) => (⟨s⟩ : Person)

theorem gives_iff {ms : List (String × List Char)} {p : Person} :
    Shape.Gives shape Sets ms p ↔ (ms.map Prod.fst).count "name" = 1 ∧
      ∃ u, ("name", u) ∈ ms ∧ SpelledText p.name u := by
  have hname : "name" ∈ shape.names := by decide
  have hpart : ∀ {p : Person}, Shape.Gives shape Sets ms p →
      Shape.OfMember ms "name" SpelledText "" p.name := by
    rintro p ⟨given, hrun, -⟩
    refine hrun.part "name" Person.name ?_ ?_ hname
    · rintro t change r ⟨s, hs, rfl⟩
      exact hs
    · intro k t change r hne hsets
      unfold Sets at hsets
      split at hsets
      · exact absurd rfl hne
      · cases hsets
  constructor
  · intro hgives
    obtain ⟨hrequired, hcount, -⟩ := Shape.exists_gives_iff.1 ⟨p, hgives⟩
    have hmem : "name" ∈ ms.map Prod.fst := hrequired _ List.mem_cons_self rfl
    have hle := hcount "name" hname
    have hpos := List.count_pos_iff.2 hmem
    refine ⟨by omega, ?_⟩
    rcases hpart hgives with hu | ⟨hnone, -⟩
    · exact hu
    · obtain ⟨⟨k, t⟩, hm, rfl⟩ := List.mem_map.1 hmem
      exact absurd hm (hnone t)
  · rintro ⟨hcount, u, hu, hs⟩
    have hcounts : ∀ k ∈ shape.names, (ms.map Prod.fst).count k ≤ 1 := by
      intro k hk
      rw [List.mem_singleton.1 hk]
      exact Nat.le_of_eq hcount
    have hrequired : ∀ f ∈ shape.fields, f.required = true → f.name ∈ ms.map Prod.fst := by
      intro f hf _
      rw [List.mem_singleton.1 hf]
      exact List.mem_map_of_mem (f := Prod.fst) hu
    have hmeans : ∀ m ∈ shape.known ms, ∃ change, Sets m.1 m.2 change := by
      rintro ⟨k, t⟩ hm
      obtain ⟨hm, hk⟩ := List.mem_filter.1 hm
      have hk : k ∈ shape.names := by simpa using hk
      obtain rfl : k = "name" := List.mem_singleton.1 hk
      obtain rfl := Shape.value_unique hcounts hname hm hu
      exact ⟨_, p.name, hs, rfl⟩
    obtain ⟨q, hq⟩ := Shape.exists_gives_iff.2 ⟨hrequired, hcounts, hmeans⟩
    have heq : q.name = p.name := by
      rcases hpart hq with ⟨v, hv, hsv⟩ | ⟨hnone, -⟩
      · obtain rfl := Shape.value_unique hcounts hname hv hu
        exact hsv.unique hs
      · exact absurd hu (hnone u)
    have hqp : q = p := by
      cases q
      cases p
      rw [Person.mk.injEq]
      exact heq
    rw [← hqp]
    exact hq

theorem given_object_iff {ms : List (String × List Char)} {t : List Char} (ht : IsObject ms t)
    (p : Person) : Given p t ↔ (ms.map Prod.fst).count "name" = 1 ∧
      ∃ u, ("name", u) ∈ ms ∧ SpelledText p.name u := by
  constructor
  · intro h
    cases h with
    | object ht' honce hname hs =>
      cases ht'.unique ht
      exact ⟨honce, _, hname, hs⟩
    | list h =>
      generalize hu : t = u at h
      cases ht
      cases h
      cases (List.cons.inj hu).1
  · rintro ⟨honce, u, hname, hs⟩
    exact .object ht honce hname hs

theorem given_iff {p : Person} {t : List Char} : Given p t ↔ Shape.Given shape Sets p t := by
  constructor
  · intro h
    cases h with
    | object ht honce hname hs => exact .object ht (gives_iff.2 ⟨honce, _, hname, hs⟩)
    | @list _ s h =>
      cases h with
      | mk hspread hitems =>
        cases hitems with
        | cons hs hnil =>
          cases hnil
          exact .list (.mk hspread (by simpa using hs.isValue)) Nat.le.refl
            (gives_iff.2 ⟨rfl, _, List.mem_singleton_self _, hs⟩)
  · intro h
    cases h with
    | object ht hr =>
      obtain ⟨honce, u, hname, hs⟩ := gives_iff.1 hr
      exact .object ht honce hname hs
    | @list ts _ _ ht hlength hr =>
      obtain ⟨-, u, hname, hs⟩ := gives_iff.1 hr
      rcases ts with _ | ⟨x, _ | ⟨y, ts⟩⟩
      · cases hname
      · obtain rfl : u = x := by simpa [Shape.named, shape] using hname
        cases ht with
        | mk hspread _ => exact .list (.mk hspread (.cons hs .nil))
      · exact absurd hlength (by simp [shape])

/-- **The reader of people** takes the texts that give one. -/
theorem parses (levels : Nat) : Parses (Person.read (levels + 1)) Given :=
  (Shape.parses (parsesFields levels)).congr given_iff

end Person

namespace Book

/-! ## Fields -/

/-- What the value of each field makes of a book. -/
def Sets : Shape.Meaning Book := fun name t change =>
  match name with
  | "id" => ∃ id, Id.Given id t ∧ change = fun b => { b with id := id }
  | "title" => ∃ s, SpelledText s t ∧ change = fun b => { b with title := s }
  | "image" => ∃ s, SpelledText s t ∧ change = fun b => { b with image := s }
  | "authors" => ∃ ps, ListOf Person.Given ps t ∧ change = fun b => { b with authors := ps }
  | "translators" =>
    ∃ ps, ListOf Person.Given ps t ∧ change = fun b => { b with translators := ps }
  | "bookshelves" => ∃ ss, ListOf SpelledText ss t ∧ change = fun b => { b with bookshelves := ss }
  | "subjects" => ∃ ss, ListOf SpelledText ss t ∧ change = fun b => { b with subjects := ss }
  | "languages" => ∃ ss, ListOf SpelledText ss t ∧ change = fun b => { b with languages := ss }
  | "text" => ∃ s, SpelledText s t ∧ change = fun b => { b with text := s }
  | _ => False

theorem parses_people (levels : Nat) : Parses (readPeople (levels + 2)) (ListOf Person.Given) :=
  (Person.parses levels).list

theorem parses_field {α : Type} {read : ValueReader α} {levels : Nat}
    {R : α → List Char → Prop} (h : Parses (read levels) R) (name : String) (required : Bool)
    (set : α → Book → Book) : Parses ((field name required read set).read levels)
      fun change t => ∃ v, R v t ∧ change = set v :=
  h.map set

/-- **The readers of the fields** take what their values mean. -/
theorem parsesFields (levels : Nat) : Shape.ParsesFields shape (levels + 2) Sets := by
  refine ⟨by decide, ?_⟩
  have htext : Parses ((fun _ => readText : ValueReader String) (levels + 2)) SpelledText :=
    Parses.text
  have htexts := parses_texts (levels + 1)
  have hpeople := parses_people levels
  intro f hf
  simp only [shape, List.mem_cons, List.not_mem_nil, or_false] at hf
  rcases hf with rfl | rfl | rfl | rfl | rfl | rfl | rfl | rfl | rfl
  · exact parses_field (Id.parses _) "id" true fun v b => { b with id := v }
  · exact parses_field htext "title" false fun v b => { b with title := v }
  · exact parses_field htext "image" false fun v b => { b with image := v }
  · exact parses_field hpeople "authors" false fun v b => { b with authors := v }
  · exact parses_field hpeople "translators" false fun v b => { b with translators := v }
  · exact parses_field htexts "bookshelves" false fun v b => { b with bookshelves := v }
  · exact parses_field htexts "subjects" false fun v b => { b with subjects := v }
  · exact parses_field htexts "languages" false fun v b => { b with languages := v }
  · exact parses_field htext "text" false fun v b => { b with text := v }

/-- A book is another one but for the field of a name. -/
structure Keeps (name : String) (b c : Book) : Prop where
  id : name ≠ "id" → c.id = b.id
  title : name ≠ "title" → c.title = b.title
  image : name ≠ "image" → c.image = b.image
  authors : name ≠ "authors" → c.authors = b.authors
  translators : name ≠ "translators" → c.translators = b.translators
  bookshelves : name ≠ "bookshelves" → c.bookshelves = b.bookshelves
  subjects : name ≠ "subjects" → c.subjects = b.subjects
  languages : name ≠ "languages" → c.languages = b.languages
  text : name ≠ "text" → c.text = b.text

theorem keeps_of_sets {name : String} {t : List Char} {change : Book → Book}
    (h : Sets name t change) (b : Book) : Keeps name b (change b) := by
  unfold Sets at h
  split at h
  case h_10 => exact h.elim
  all_goals
    obtain ⟨v, -, rfl⟩ := h
    constructor
  all_goals
    intro hne
    first
    | rfl
    | exact absurd rfl hne

/-- A book is what members tell of it: what each field means, and nothing where it is missing. -/
structure Told (ms : List (String × List Char)) (b : Book) : Prop where
  id : ∃ t, ("id", t) ∈ ms ∧ Id.Given b.id t
  title : Shape.OfMember ms "title" SpelledText "" b.title
  image : Shape.OfMember ms "image" SpelledText "" b.image
  authors : Shape.OfMember ms "authors" (ListOf Person.Given) [] b.authors
  translators : Shape.OfMember ms "translators" (ListOf Person.Given) [] b.translators
  bookshelves : Shape.OfMember ms "bookshelves" (ListOf SpelledText) [] b.bookshelves
  subjects : Shape.OfMember ms "subjects" (ListOf SpelledText) [] b.subjects
  languages : Shape.OfMember ms "languages" (ListOf SpelledText) [] b.languages
  text : Shape.OfMember ms "text" SpelledText "" b.text

/-- **The book that members give** is what they tell. -/
theorem told_of_gives {ms : List (String × List Char)} {b : Book}
    (h : Shape.Gives shape Sets ms b) : Told ms b := by
  obtain ⟨hrequired, -, -⟩ := Shape.exists_gives_iff.1 ⟨b, h⟩
  have hmem : "id" ∈ ms.map Prod.fst := hrequired _ List.mem_cons_self rfl
  obtain ⟨given, hrun, -⟩ := h
  have hid : Shape.OfMember ms "id" Id.Given blank.id b.id :=
    hrun.part "id" Book.id (fun ⟨_, hv, heq⟩ => heq ▸ hv)
      (fun hne hsets => (keeps_of_sets hsets _).id hne) (by decide)
  refine ⟨?_, ?_, ?_, ?_, ?_, ?_, ?_, ?_, ?_⟩
  · rcases hid with ht | ⟨hnone, -⟩
    · exact ht
    · obtain ⟨⟨k, t⟩, hm, rfl⟩ := List.mem_map.1 hmem
      exact absurd hm (hnone t)
  · exact hrun.part "title" Book.title (fun ⟨_, hv, heq⟩ => heq ▸ hv)
      (fun hne hsets => (keeps_of_sets hsets _).title hne) (by decide)
  · exact hrun.part "image" Book.image (fun ⟨_, hv, heq⟩ => heq ▸ hv)
      (fun hne hsets => (keeps_of_sets hsets _).image hne) (by decide)
  · exact hrun.part "authors" Book.authors (fun ⟨_, hv, heq⟩ => heq ▸ hv)
      (fun hne hsets => (keeps_of_sets hsets _).authors hne) (by decide)
  · exact hrun.part "translators" Book.translators
      (fun ⟨_, hv, heq⟩ => heq ▸ hv)
      (fun hne hsets => (keeps_of_sets hsets _).translators hne) (by decide)
  · exact hrun.part "bookshelves" Book.bookshelves
      (fun ⟨_, hv, heq⟩ => heq ▸ hv)
      (fun hne hsets => (keeps_of_sets hsets _).bookshelves hne) (by decide)
  · exact hrun.part "subjects" Book.subjects (fun ⟨_, hv, heq⟩ => heq ▸ hv)
      (fun hne hsets => (keeps_of_sets hsets _).subjects hne) (by decide)
  · exact hrun.part "languages" Book.languages (fun ⟨_, hv, heq⟩ => heq ▸ hv)
      (fun hne hsets => (keeps_of_sets hsets _).languages hne) (by decide)
  · exact hrun.part "text" Book.text (fun ⟨_, hv, heq⟩ => heq ▸ hv)
      (fun hne hsets => (keeps_of_sets hsets _).text hne) (by decide)

theorem Told.unique {ms : List (String × List Char)} {b c : Book}
    (hcount : ∀ k ∈ shape.names, (ms.map Prod.fst).count k ≤ 1) (hb : Told ms b)
    (hc : Told ms c) : b = c := by
  have hvalue : ∀ {k : String} {t u : List Char}, k ∈ shape.names → (k, t) ∈ ms → (k, u) ∈ ms →
      t = u := fun hk ht hu => Shape.value_unique hcount hk ht hu
  have htext : ∀ {k : String} {v w : String}, k ∈ shape.names →
      Shape.OfMember ms k SpelledText "" v → Shape.OfMember ms k SpelledText "" w → v = w :=
    fun hk => Shape.OfMember.unique (hvalue hk) SpelledText.unique
  have htexts : ∀ {k : String} {v w : List String}, k ∈ shape.names →
      Shape.OfMember ms k (ListOf SpelledText) [] v →
      Shape.OfMember ms k (ListOf SpelledText) [] w → v = w :=
    fun hk => Shape.OfMember.unique (hvalue hk) (parses_texts 0).decides.unique
  have hpeople : ∀ {k : String} {v w : List Person}, k ∈ shape.names →
      Shape.OfMember ms k (ListOf Person.Given) [] v →
      Shape.OfMember ms k (ListOf Person.Given) [] w → v = w :=
    fun hk => Shape.OfMember.unique (hvalue hk) (parses_people 0).decides.unique
  have hid : b.id = c.id := by
    obtain ⟨t, ht, hbid⟩ := hb.id
    obtain ⟨u, hu, hcid⟩ := hc.id
    obtain rfl := hvalue (by decide) ht hu
    exact (Id.parses 0).decides.unique hbid hcid
  have htitle := htext (by decide) hb.title hc.title
  have himage := htext (by decide) hb.image hc.image
  have hauthors := hpeople (by decide) hb.authors hc.authors
  have htranslators := hpeople (by decide) hb.translators hc.translators
  have hbookshelves := htexts (by decide) hb.bookshelves hc.bookshelves
  have hsubjects := htexts (by decide) hb.subjects hc.subjects
  have hlanguages := htexts (by decide) hb.languages hc.languages
  have hcontent := htext (by decide) hb.text hc.text
  cases b
  cases c
  simp only at hid htitle himage hauthors htranslators hbookshelves hsubjects hlanguages hcontent
  subst hid htitle himage hauthors htranslators hbookshelves hsubjects hlanguages hcontent
  rfl

theorem Told.congr {ms ns : List (String × List Char)} {b : Book}
    (hperm : (shape.known ms).Perm (shape.known ns)) (h : Told ms b) : Told ns b := by
  have hmem : ∀ {k : String}, k ∈ shape.names → ∀ t, (k, t) ∈ ms ↔ (k, t) ∈ ns :=
    fun hk => Shape.mem_of_known_perm hperm hk
  refine ⟨?_, h.title.congr (hmem (by decide)), h.image.congr (hmem (by decide)),
    h.authors.congr (hmem (by decide)), h.translators.congr (hmem (by decide)),
    h.bookshelves.congr (hmem (by decide)), h.subjects.congr (hmem (by decide)),
    h.languages.congr (hmem (by decide)), h.text.congr (hmem (by decide))⟩
  obtain ⟨t, ht, hid⟩ := h.id
  exact ⟨t, (hmem (by decide) t).1 ht, hid⟩

/-- **The book that members give** depends on those of known names alone, in any order. -/
theorem gives_perm {ms ns : List (String × List Char)} {b : Book}
    (hperm : (shape.known ms).Perm (shape.known ns)) (h : Shape.Gives shape Sets ms b) :
    Shape.Gives shape Sets ns b := by
  obtain ⟨c, hc⟩ := Shape.exists_gives_perm hperm ⟨b, h⟩
  obtain ⟨-, hcount, -⟩ := Shape.exists_gives_iff.1 ⟨c, hc⟩
  have hbc : b = c := Told.unique hcount ((told_of_gives h).congr hperm) (told_of_gives hc)
  rw [hbc]
  exact hc

/-! ## Whole texts -/

/-- The texts of books, in both shapes. -/
abbrev Given : Book → List Char → Prop := Shape.Given shape Sets

/-- **The reader of books** takes the texts that give one. -/
theorem parses (levels : Nat) : Parses (Book.read (levels + 3)) Given :=
  Shape.parses (parsesFields levels)

/-- **An object** is decoded as the book that its members give. -/
theorem decode_object_iff {ms : List (String × List Char)} {text : String}
    (h : ObjectText ms text) {b : Book} :
    Book.decode text = .ok b ↔ Shape.Gives shape Sets ms b := by
  cases h with
  | mk hg ht hback =>
    rw [Book.decode, (parses 124).decides.decode_iff hg ht.isValue hback]
    exact Shape.given_object_iff ht

structure RecordSchema : Prop where
  /-- An object is read as a book exactly where the identifier is given once, no other field twice,
  and the value of each field is of its type. -/
  accepted : ∀ {ms : List (String × List Char)} {text : String}, ObjectText ms text →
    ((∃ b, Book.decode text = .ok b) ↔
      (ms.map Prod.fst).count "id" = 1 ∧ (∀ k ∈ shape.names, (ms.map Prod.fst).count k ≤ 1) ∧
      ∀ m ∈ ms, m.1 ∈ shape.names → ∃ change, Sets m.1 m.2 change)
  /-- The book is what the values of the fields mean; a missing text is empty, and so is a missing
  list. -/
  told : ∀ {ms : List (String × List Char)} {text : String}, ObjectText ms text →
    ∀ b, Book.decode text = .ok b → Told ms b
  /-- Members may come in any order, and others may stand anywhere among them. -/
  reordered : ∀ {ms ns : List (String × List Char)} {text text' : String}, ObjectText ms text →
    ObjectText ns text' → (shape.known ms).Perm (shape.known ns) →
    ∀ b, Book.decode text = .ok b ↔ Book.decode text' = .ok b
  /-- Nothing in place of a value is not the same as no member. -/
  null : ∀ {ms : List (String × List Char)} {text : String}, ObjectText ms text →
    ∀ k ∈ shape.names, (k, ['n', 'u', 'l', 'l']) ∈ ms → ∀ b, Book.decode text ≠ .ok b
  /-- An object is a person where it gives one name, a text. -/
  person : ∀ {ms : List (String × List Char)} {t : List Char}, IsObject ms t → ∀ p,
    Person.Given p t ↔ (ms.map Prod.fst).count "name" = 1 ∧
      ∃ u, ("name", u) ∈ ms ∧ SpelledText p.name u

theorem exists_decode_iff {ms : List (String × List Char)} {text : String}
    (h : ObjectText ms text) : (∃ b, Book.decode text = .ok b) ↔
      (ms.map Prod.fst).count "id" = 1 ∧ (∀ k ∈ shape.names, (ms.map Prod.fst).count k ≤ 1) ∧
      ∀ m ∈ ms, m.1 ∈ shape.names → ∃ change, Sets m.1 m.2 change := by
  have hrequired : (∀ f ∈ shape.fields, f.required = true → f.name ∈ ms.map Prod.fst) ↔
      "id" ∈ ms.map Prod.fst := by
    constructor
    · intro hall
      exact hall _ List.mem_cons_self rfl
    · intro hid f hf hf'
      simp only [shape, List.mem_cons, List.not_mem_nil, or_false] at hf
      rcases hf with rfl | rfl | rfl | rfl | rfl | rfl | rfl | rfl | rfl
      · exact hid
      all_goals
        cases hf'
  have hmeans : (∀ m ∈ shape.known ms, ∃ change, Sets m.1 m.2 change) ↔
      ∀ m ∈ ms, m.1 ∈ shape.names → ∃ change, Sets m.1 m.2 change := by
    simp only [Shape.known, List.mem_filter, decide_eq_true_eq, and_imp]
  simp only [decode_object_iff h]
  rw [Shape.exists_gives_iff, hrequired, hmeans, ← List.count_pos_iff]
  constructor
  · rintro ⟨hpos, hcount, hall⟩
    have hle := hcount "id" (by decide)
    exact ⟨by omega, hcount, hall⟩
  · rintro ⟨hone, hcount, hall⟩
    exact ⟨by omega, hcount, hall⟩

theorem not_sets_null {name : String} {change : Book → Book} :
    ¬ Sets name ['n', 'u', 'l', 'l'] change := by
  have htext : ∀ s, ¬ SpelledText s ['n', 'u', 'l', 'l'] := by
    intro s hs
    cases Spelled.unique .null (.text hs)
  have hlist : ∀ {α : Type} {R : α → List Char → Prop} (xs : List α),
      ¬ ListOf R xs ['n', 'u', 'l', 'l'] := by
    intro α R xs h
    generalize ht : ['n', 'u', 'l', 'l'] = t at h
    cases h
    cases (List.cons.inj ht).1
  have hid : ∀ id, ¬ Id.Given id ['n', 'u', 'l', 'l'] := by
    intro id h
    generalize ht : ['n', 'u', 'l', 'l'] = t at h
    cases h with
    | @number n _ =>
      have hnumber : Spelled (.number (Decimal.int n)) ['n', 'u', 'l', 'l'] := by
        rw [ht]
        exact .number (isNumeral_int n)
      cases Spelled.unique .null hnumber
    | text hs =>
      rw [← ht] at hs
      exact htext _ hs
  intro h
  unfold Sets at h
  split at h
  case h_10 => exact h
  all_goals
    obtain ⟨v, hv, -⟩ := h
    first
    | exact htext v hv
    | exact hlist v hv
    | exact hid v hv

/-- **Which objects are books**, and which books they are. -/
theorem recordSchema : RecordSchema where
  accepted := exists_decode_iff
  told := by
    intro ms text h b hread
    exact told_of_gives ((decode_object_iff h).1 hread)
  reordered := by
    intro ms ns text text' h h' hperm b
    rw [decode_object_iff h, decode_object_iff h']
    exact ⟨gives_perm hperm, gives_perm hperm.symm⟩
  null := by
    intro ms text h k hk hnull b hread
    obtain ⟨-, -, hmeans⟩ := (exists_decode_iff h).1 ⟨b, hread⟩
    obtain ⟨change, hsets⟩ := hmeans _ hnull hk
    exact not_sets_null hsets
  person := Person.given_object_iff

end Book

end BookCatalog
