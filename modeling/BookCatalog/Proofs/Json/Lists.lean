import BookCatalog.Proofs.Json.Spelling

/-!
# Reading lists back

A list is read item by item.  Where every item is taken off its text, the list is taken off its own,
whatever space stands between the items.

* `Reads` — a reader makes something of a value, however the value is written;
* `readItems_spread` — the loop over the items;
* `reads_list` — lists;
* `decode_of_takes` — whole texts, with space around the value.
-/

namespace BookCatalog.Json

variable {α : Type}

/-- A reader makes something of a value, however the value is written. -/
def Reads (read : Reader α) (v : Value) (x : α) : Prop := ∀ t, Written v t → Takes read x t

/-- A text that starts as values do: not with space, nor where a list ends. -/
def Starts (t : List Char) : Prop := ∃ c cs, t = c :: cs ∧ isSpace c = false ∧ c ≠ ']'

/-- What the loop over the items of a list or the members of an object has not read of the text
before the next of them. -/
inductive Lead : Bool → List Char → Prop
  | first : Lead true []
  | next {h : List Char} (hh : Gap h) : Lead false (h ++ [','])

theorem Written.starts {v : Value} {t : List Char} (h : Written v t) : Starts t := by
  cases h with
  | null => exact ⟨_, _, rfl, rfl, by decide⟩
  | yes => exact ⟨_, _, rfl, rfl, by decide⟩
  | no => exact ⟨_, _, rfl, rfl, by decide⟩
  | text s => exact ⟨_, _, rfl, rfl, by decide⟩
  | list => exact ⟨_, _, rfl, rfl, by decide⟩
  | object => exact ⟨_, _, rfl, rfl, by decide⟩
  | number n =>
    unfold Decimal.int
    split
    · exact ⟨_, _, rfl, rfl, by decide⟩
    · obtain ⟨d, ds, hd⟩ := List.exists_cons_of_ne_nil (Decimal.digits_ne_nil n.natAbs)
      have hdigit : d.isDigit = true := Decimal.isDigit_of_mem_digits (by rw [hd]; simp)
      exact ⟨d, ds, hd, isSpace_of_isDigit hdigit, Decimal.ne_of_isDigit hdigit rfl⟩

/-! ## Items -/

theorem nextItem_lead {first : Bool} {lead g t : List Char} (hlead : Lead first lead) (hg : Gap g)
    (ht : Starts t) (rest : List Char) :
    nextItem first (lead ++ (g ++ (t ++ rest))) = .ok (true, t ++ rest) := by
  obtain ⟨c, cs, rfl, hc, hne⟩ := ht
  have hskip := skipSpace_append hg hc (cs ++ rest)
  cases hlead with
  | first => simp [nextItem, hskip, hne]
  | @next h hh =>
    have hcomma := skipSpace_append (c := ',') hh rfl (g ++ c :: (cs ++ rest))
    simp [nextItem, hcomma, hskip, hne]

theorem nextItem_close (first : Bool) {g : List Char} (hg : Gap g) (rest : List Char) :
    nextItem first (g ++ ']' :: rest) = .ok (false, ']' :: rest) := by
  simp [nextItem, skipSpace_append (c := ']') hg rfl]

theorem readItems_close (item : Reader α) (first : Bool) {g : List Char} (hg : Gap g)
    (rest : List Char) : readItems item first (g ++ ']' :: rest) = .ok ([], ']' :: rest) := by
  rw [readItems, nextItem_close first hg]

/-- One round of the loop: an item, and the loop over those after it. -/
theorem readItems_lead {item : Reader α} {v : α} {vs : List α} {first : Bool}
    {lead g t more last : List Char} (hlead : Lead first lead) (hg : Gap g) (ht : Starts t)
    (htakes : Takes item v t) (hends : Ends more)
    (hmore : readItems item false more = .ok (vs, last)) :
    readItems item first (lead ++ (g ++ (t ++ more))) = .ok (v :: vs, last) := by
  have hlength : more.length < (lead ++ (g ++ (t ++ more))).length := by
    obtain ⟨c, cs, rfl, -, -⟩ := ht
    simp only [List.length_append, List.length_cons]
    omega
  have hitem : item (t ++ more) = .ok (v, more) := htakes [] more gap_nil hends
  rw [readItems, nextItem_lead hlead hg ht]
  simp only [hitem, if_pos hlength, hmore]

/-- **The loop over the items** of a list takes each off its text. -/
theorem readItems_spread {item : Reader α} {vs : List α} {ts : List (List Char)}
    {text lead : List Char} {first : Bool} (hspread : Spread ts text)
    (htakes : List.Forall₂ (Takes item) vs ts) (hstarts : ∀ t ∈ ts, Starts t) (hne : ts ≠ [])
    (hlead : Lead first lead) (rest : List Char) :
    readItems item first (lead ++ (text ++ ']' :: rest)) = .ok (vs, ']' :: rest) := by
  induction hspread generalizing vs first lead with
  | none => exact absurd rfl hne
  | @last g t h hg hh =>
    cases htakes with
    | cons hv hnil =>
      cases hnil
      have hends : Ends (h ++ ']' :: rest) := hh.ends (ends_cons (by simp) rest)
      simpa using readItems_lead hlead hg (hstarts t (by simp)) hv hends
        (readItems_close item false hh rest)
  | @more g t h s text ts hg hh _ ih =>
    cases htakes with
    | cons hv hvs =>
      have hends : Ends (h ++ [','] ++ (text ++ ']' :: rest)) := by
        rw [List.append_assoc]
        exact hh.ends (ends_cons (by simp) _)
      have hmore := ih hvs (fun t ht => hstarts t (by simp [ht])) (by simp) (Lead.next hh)
      simpa using readItems_lead hlead hg (hstarts t (by simp)) hv hends hmore

theorem readItems_all {item : Reader α} {vs : List α} {ts : List (List Char)} {text : List Char}
    (hspread : Spread ts text) (htakes : List.Forall₂ (Takes item) vs ts)
    (hstarts : ∀ t ∈ ts, Starts t) (rest : List Char) :
    readItems item true (text ++ ']' :: rest) = .ok (vs, ']' :: rest) := by
  cases ts with
  | nil =>
    cases hspread with
    | none hgap =>
      cases htakes
      exact readItems_close item true hgap rest
  | cons t ts => exact readItems_spread hspread htakes hstarts (by simp) .first rest

/-! ## Lists -/

theorem closeList_gap {g : List Char} (hg : Gap g) (rest : List Char) :
    closeList (g ++ ']' :: rest) = .ok rest := by
  unfold closeList
  rw [skipSpace_append hg rfl]
  rfl

theorem closeList_close (rest : List Char) : closeList (']' :: rest) = .ok rest :=
  closeList_gap gap_nil rest

theorem takes_readList {item : ValueReader α} {levels : Nat} {vs : List α} {ts : List (List Char)}
    {text : List Char} (hspread : Spread ts text)
    (htakes : List.Forall₂ (Takes (item levels)) vs ts) (hstarts : ∀ t ∈ ts, Starts t) :
    Takes (readList item (levels + 1)) vs ('[' :: text ++ [']']) := by
  intro g rest hg hrest
  have hitems := readItems_all hspread htakes hstarts rest
  have hskip := skipSpace_append (c := '[') hg rfl (text ++ ']' :: rest)
  simp only [List.cons_append, List.append_assoc, List.nil_append]
  rw [readList, hskip]
  simp only [hitems, leaveList, closeList_close, Except.map]

theorem reads_text (s : String) : Reads readText (.text s) s := by
  intro t ht
  cases ht
  exact takes_readText (spelledText_writeText s)

theorem starts_of_written {vs : List Value} {ts : List (List Char)}
    (h : List.Forall₂ Written vs ts) : ∀ t ∈ ts, Starts t := by
  induction h with
  | nil => simp
  | cons hv _ ih =>
    intro t ht
    rcases List.mem_cons.1 ht with rfl | ht
    · exact hv.starts
    · exact ih t ht

/-- **A list** is read where each of its items is. -/
theorem reads_list {item : ValueReader α} {levels : Nat} {write : α → Value}
    (h : ∀ x, Reads (item levels) (write x) x) (xs : List α) :
    Reads (readList item (levels + 1)) (.list (xs.map write)) xs := by
  intro t ht
  cases ht with
  | @list vs ts text hspread hitems =>
    have hwritten : List.Forall₂ (fun x t => Written (write x) t) xs ts :=
      List.forall₂_map_left_iff.1 hitems
    have htakes : List.Forall₂ (Takes (item levels)) xs ts := hwritten.imp h
    exact takes_readList hspread htakes (starts_of_written hitems)

/-! ## Whole texts -/

/-- **A text** that a reader takes is decoded, with space around it. -/
theorem decode_of_takes {read : ValueReader α} {x : α} {t : List Char}
    (h : Takes (read maxLevels) x t) {g back : List Char} (hg : Gap g) (hback : Gap back) :
    decode read (String.ofList (g ++ (t ++ back))) = .ok x := by
  have hskip : skipSpace back = [] := by
    have h : (back ++ []).dropWhile isSpace = [] := List.dropWhile_append_of_pos hback
    rwa [List.append_nil] at h
  rw [decode, String.toList_ofList, h g back hg hback.ends_self]
  simp only [hskip]

theorem decode_of_reads {read : ValueReader α} {v : Value} {x : α}
    (h : Reads (read maxLevels) v x) {g t back : List Char} (ht : Written v t) (hg : Gap g)
    (hback : Gap back) : decode read (String.ofList (g ++ (t ++ back))) = .ok x :=
  decode_of_takes (h t ht) hg hback

end BookCatalog.Json
