import BookCatalog.Proofs.Catalog.Lookups

/-!
# Books that share an address

A look-up leaves tabs and line ends out of an identifier.  What is left becomes a segment behind the
address of all books, unless it is one dot or two: these move in the path instead, and name the
books as a whole or something above them.

* `Id.Moves` — the identifiers that move in the path;
* `Url.length_path_push_of_dots` — where they lead is written too short to lie below the books;
* `Client.bookUrl_shared_iff` — which books lie below the address of all books, and which of them
  share an address.
-/

namespace BookCatalog

/-! ## What is left of an identifier -/

namespace Id

/-- What is left of an identifier in an address: its text without tabs and line ends. -/
def left (id : Id) : List Char := Url.pushed id.text

/-- What is left of the identifier is one dot or two, which are no segment of a path. -/
def Moves (id : Id) : Prop := id.left = ['.'] ∨ id.left = ['.', '.']

instance (id : Id) : Decidable id.Moves := inferInstanceAs (Decidable (_ ∨ _))

theorem isBlank_of_isTabOrNewline {c : Char} (h : Url.isTabOrNewline c = true) :
    Text.isBlank c = true := by
  simp only [Url.isTabOrNewline, Bool.or_eq_true, decide_eq_true_eq] at h
  rcases h with (rfl | rfl) | rfl <;> decide

/-- Something is left of every identifier that is not empty: it does not start with blank space. -/
theorem left_ne_nil {id : Id} (h : id.text ≠ "") : id.left ≠ [] := by
  obtain ⟨-, -, -, -, -, hhead, -⟩ := Text.trim_eq_iff.1 id.trimmed
  cases htext : id.text.toList with
  | nil => exact absurd (String.toList_eq_nil_iff.1 htext) h
  | cons c cs =>
    have hkept : Url.isTabOrNewline c = false := by
      refine Bool.eq_false_iff.2 fun htab => ?_
      rw [htext] at hhead
      exact absurd (isBlank_of_isTabOrNewline htab) (by simp [hhead c rfl])
    rw [left, Url.pushed, htext, List.filter_cons_of_pos (by simp [hkept])]
    exact List.cons_ne_nil _ _

end Id

/-! ## Written paths -/

namespace Url

theorem length_writePath_concat (path : List (List Char)) (segment : List Char) :
    (writePath (path ++ [segment])).length = (writePath path).length + 1 + segment.length := by
  rw [writePath_append, List.length_append, List.length_cons]
  omega

theorem length_writePath_dropEmptyEnd (path : List (List Char)) :
    (writePath (dropEmptyEnd path)).length ≤ (writePath (ground path)).length + 1 := by
  unfold dropEmptyEnd ground stem
  -- a path of one or two empty segments keeps one of them
  match path with
  | [] => exact Nat.le_succ _
  | [s] => by_cases hs : s = [] <;> simp [hs, writePath]
  | [s, t] => by_cases hs : s = [] <;> by_cases ht : t = [] <;> simp [hs, ht, writePath]
  | s :: t :: u :: rest =>
    by_cases hlast : (u :: rest).getLast? = some [] <;> simp [hlast]

theorem length_writePath_above (path : List (List Char)) :
    (writePath (above path)).length ≤ (writePath path).length := by
  unfold above
  split
  · exact Nat.le_refl _
  · obtain rfl | ⟨front, last, rfl⟩ := List.eq_nil_or_concat' path
    · exact Nat.le_refl _
    · rw [List.dropLast_concat, length_writePath_concat]
      omega

/-- **What is pushed as one dot or two** leads to a path that is written no longer than with one
empty segment more. -/
theorem length_path_push_of_dots (url : Url) {text : String}
    (h : pushed text = ['.'] ∨ pushed text = ['.', '.']) :
    (writePath (url.push text).path).length ≤ (writePath (ground url.path)).length + 1 := by
  have hpath := path_push_of_dots url h
  simp only [List.mem_cons, List.not_mem_nil, or_false] at hpath
  rcases hpath with hpath | hpath | hpath
  · rw [hpath]
    exact length_writePath_dropEmptyEnd url.path
  · rw [hpath, length_writePath_concat]
    exact Nat.le_refl _
  · have habove := length_writePath_above (ground url.path)
    rw [hpath, length_writePath_concat]
    simpa using habove

theorem writePath_eq_of_write_eq (url : Url) {p q : List (List Char)}
    (h : { url with path := p }.write = { url with path := q }.write) :
    writePath p = writePath q := by
  simp only [write, writeUser] at h
  exact List.append_cancel_left (List.append_cancel_right (List.append_cancel_right h))

end Url

/-! ## Addresses of books -/

namespace Client

variable (client : Client) {id other : Id}

theorem requested_bookUrl (id : Id) : (client.bookUrl id).requested =
    { client.endpoint.requested with path := (client.endpoint.push id.text).path } := by
  obtain ⟨path, hpush⟩ := Url.push_eq_withPath client.endpoint id.text
  rw [bookUrl, hpush]
  rfl

theorem path_bookUrl (h : ¬ id.Moves) : (client.bookUrl id).requested.path =
    Url.ground client.endpoint.path ++ [Percent.encode Percent.keepInSegment id.left] := by
  obtain ⟨hone, htwo⟩ := not_or.1 h
  rw [requested_bookUrl, Url.push_of_pushed_ne client.endpoint hone htwo]
  rfl

theorem writePath_bookUrl_of_toText_eq
    (h : (client.bookUrl other).requested.toText = (client.bookUrl id).requested.toText) :
    Url.writePath (client.bookUrl other).requested.path =
      Url.writePath (client.bookUrl id).requested.path := by
  have hwrite : (client.bookUrl other).requested.write = (client.bookUrl id).requested.write :=
    String.ofList_inj.1 h
  rw [requested_bookUrl, requested_bookUrl] at hwrite ⊢
  exact Url.writePath_eq_of_write_eq client.endpoint.requested hwrite

theorem encode_left_ne_nil (h : id.text ≠ "") :
    Percent.encode Percent.keepInSegment id.left ≠ [] := by
  intro hnil
  exact Id.left_ne_nil h (Percent.encode_injective (by decide) hnil)

theorem length_path_bookUrl_of_moves (h : id.Moves) :
    (Url.writePath (client.bookUrl id).requested.path).length ≤
      (Url.writePath (Url.ground client.endpoint.path)).length + 1 := by
  rw [requested_bookUrl]
  exact Url.length_path_push_of_dots client.endpoint h

theorem toText_bookUrl_ne_of_moves (h : id.text ≠ "") (hstays : ¬ id.Moves) (hmoves : other.Moves) :
    (client.bookUrl other).requested.toText ≠ (client.bookUrl id).requested.toText := by
  intro htext
  have hshort := length_path_bookUrl_of_moves client hmoves
  have hpositive := List.length_pos_of_ne_nil (encode_left_ne_nil h)
  rw [writePath_bookUrl_of_toText_eq client htext, path_bookUrl client hstays,
    Url.length_writePath_concat] at hshort
  omega

theorem toText_bookUrl_eq_iff (hid : ¬ id.Moves) (hother : ¬ other.Moves) :
    (client.bookUrl other).requested.toText = (client.bookUrl id).requested.toText ↔
      other.left = id.left := by
  constructor
  · intro htext
    have hpath := writePath_bookUrl_of_toText_eq client htext
    rw [path_bookUrl client hid, path_bookUrl client hother, Url.writePath_append,
      Url.writePath_append] at hpath
    exact Percent.encode_injective (by decide) (List.cons.inj (List.append_cancel_left hpath)).2
  · intro hleft
    have hpath : (client.endpoint.push other.text).path = (client.endpoint.push id.text).path := by
      have hsame := path_bookUrl client hother
      rw [hleft, ← path_bookUrl client hid, requested_bookUrl, requested_bookUrl] at hsame
      exact hsame
    rw [requested_bookUrl, requested_bookUrl, hpath]

/-- **Which books share an address.**  The address that a look-up requests lies one segment below
that of all books exactly where the identifier does not move in the path; the segment stands for
what is left of it.  Of two identifiers that do not both move, the addresses are the same exactly
where the same is left of them without tabs and line ends. -/
theorem bookUrl_shared_iff (hid : id.text ≠ "") :
    (∀ catalog, Web.StartsAt (client.book catalog id) (client.bookUrl id).requested
      (catalog.Reaches (client.bookUrl id))) ∧
    (¬ id.Moves ↔ ∃ segment, segment ≠ [] ∧ Percent.decode segment = Utf8.encode id.left ∧
      (client.bookUrl id).requested.path = Url.ground client.endpoint.path ++ [segment]) ∧
    (id.Moves → (client.bookUrl id).requested.path ∈ [Url.dropEmptyEnd client.endpoint.path,
      Url.ground client.endpoint.path ++ [[]],
      Url.above (Url.ground client.endpoint.path) ++ [[]]]) ∧
    ∀ other : Id, other.text ≠ "" → ¬ (id.Moves ∧ other.Moves) →
      ((client.bookUrl other).requested.toText = (client.bookUrl id).requested.toText ↔
        other.left = id.left) := by
  refine ⟨fun catalog => client.book_startsAt_of_ne catalog hid, ⟨fun hstays => ?_, ?_⟩,
    fun hmoves => ?_, fun other hother hnot => ?_⟩
  · exact ⟨_, encode_left_ne_nil hid, Percent.decode_encode (by decide) id.left,
      path_bookUrl client hstays⟩
  · rintro ⟨segment, hne, -, hpath⟩ hmoves
    have hshort := length_path_bookUrl_of_moves client hmoves
    have hpositive := List.length_pos_of_ne_nil hne
    rw [hpath, Url.length_writePath_concat] at hshort
    omega
  · rw [requested_bookUrl]
    exact Url.path_push_of_dots client.endpoint hmoves
  · have hleft : ∀ {a b : Id}, a.Moves → ¬ b.Moves → a.left ≠ b.left := by
      rintro a b ha hb heq
      unfold Id.Moves at ha hb
      exact hb (heq ▸ ha)
    by_cases hmoves : id.Moves
    · have hstays : ¬ other.Moves := fun h => hnot ⟨hmoves, h⟩
      refine ⟨fun htext => ?_, fun heq => absurd heq.symm (hleft hmoves hstays)⟩
      exact absurd htext.symm (toText_bookUrl_ne_of_moves client hother hstays hmoves)
    · by_cases hmoves' : other.Moves
      · refine ⟨fun htext => ?_, fun heq => absurd heq (hleft hmoves' hmoves)⟩
        exact absurd htext (toText_bookUrl_ne_of_moves client hid hmoves hmoves')
      · exact toText_bookUrl_eq_iff client hmoves hmoves'

/-- A tab in an identifier makes no difference to where the book is looked up; a dot more does. -/
theorem bookUrl_shared_iff_tab :
    ∃ client : Client, ofConfig ⟨"http://[::1]/api", 30, none⟩ = .ok client ∧
      ¬ (Id.ofText "a\tb").Moves ∧
      (client.bookUrl (Id.ofText "ab")).requested.toText =
        (client.bookUrl (Id.ofText "a\tb")).requested.toText ∧
      (client.bookUrl (Id.ofText "a.b")).requested.toText ≠
        (client.bookUrl (Id.ofText "a\tb")).requested.toText := by
  let base : Url :=
    { secure := false, user := [], password := [], host := .ipv6 [0, 0, 0, 0, 0, 0, 0, 1]
      port := none, path := [['a', 'p', 'i']], query := none, fragment := none }
  let c : Config := ⟨"http://[::1]/api", 30, none⟩
  have hvalid : c.validate = .ok base := by decide +kernel
  have hendpoint : Url.parse c.endpointText = .ok (.page (base.push "books")) := by decide +kernel
  have hagent : c.agent = .ok Config.defaultUserAgent := by decide +kernel
  have hstays : ¬ (Id.ofText "a\tb").Moves := by decide
  have hid : (Id.ofText "a\tb").text ≠ "" := by decide
  obtain ⟨-, -, -, hshared⟩ :=
    bookUrl_shared_iff ⟨base.push "books", Config.defaultUserAgent⟩ hid
  refine ⟨_, ofConfig_of_parse hvalid hendpoint hagent, hstays, ?_, fun htext => ?_⟩
  · exact (hshared (Id.ofText "ab") (by decide) fun h => hstays h.1).2 (by decide)
  · have hleft := (hshared (Id.ofText "a.b") (by decide) fun h => hstays h.1).1 htext
    exact absurd hleft (by decide)

/-- Two identifiers that move are looked up at the address of all books itself, and two that differ
in a tab at one address below it. -/
theorem bookUrl_shared :
    ∃ client : Client, ofConfig ⟨"http://[::1]/api", 30, none⟩ = .ok client ∧
      Id.ofText "." ≠ Id.ofText ".." ∧
      (client.bookUrl (Id.ofText ".")).requested.toText =
        (client.bookUrl (Id.ofText "..")).requested.toText ∧
      (client.bookUrl (Id.ofText ".")).requested.path = client.endpoint.path ∧
      Id.ofText "a\tb" ≠ Id.ofText "ab" ∧
      (client.bookUrl (Id.ofText "a\tb")).requested.toText =
        (client.bookUrl (Id.ofText "ab")).requested.toText := by
  let base : Url :=
    { secure := false, user := [], password := [], host := .ipv6 [0, 0, 0, 0, 0, 0, 0, 1]
      port := none, path := [['a', 'p', 'i']], query := none, fragment := none }
  let c : Config := ⟨"http://[::1]/api", 30, none⟩
  have hvalid : c.validate = .ok base := by decide +kernel
  have hendpoint : Url.parse c.endpointText = .ok (.page (base.push "books")) := by decide +kernel
  have hagent : c.agent = .ok Config.defaultUserAgent := by decide +kernel
  refine ⟨_, ofConfig_of_parse hvalid hendpoint hagent, by decide, ?_, ?_, by decide, ?_⟩
  · decide +kernel
  · decide +kernel
  · decide +kernel

end Client

end BookCatalog
