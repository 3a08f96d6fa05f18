import BookCatalog.Proofs.Toml.Quoting
import BookCatalog.Toml.Reader

/-!
# Reading lines back

A line of a key and a value, and a line of a header, are read as the statements that they were
written for.

* `Stands` — a text stands for a value in front of a line end;
* `stands_quotedText`, `stands_digits` — quoted texts and whole numbers of 64 bits;
* `lines?_keyLine`, `lines?_headerLine` — the statements of lines;
* `read_table` — the table of a header and the lines below it.
-/

namespace BookCatalog.Toml

/-- A text is read as a value in front of a line end, wherever a value may stand on a line. -/
def Stands (text : List Char) (v : Value) : Prop :=
  (∀ c, text.head? = some c → isSpace c = false) ∧
    ∀ rest, readValue (depthLimit - 1) (text ++ '\n' :: rest) = some (v, '\n' :: rest)

theorem readValue_scalar (depth : Nat) {c : Char} (hlist : c ≠ '[') (htable : c ≠ '\x7b')
    (cs : List Char) : readValue depth (c :: cs) = readScalar (c :: cs) := by
  cases depth with
  | zero => rfl
  | succ depth =>
    rw [readValue]
    · exact fun _ _ _ h => hlist (List.cons.inj h).1
    · exact fun _ _ _ h => htable (List.cons.inj h).1

/-! ## Quoted texts -/

theorem quotedText_cons (s : String) :
    ∃ quote cs, quotedText s = quote :: cs ∧ (quote = '"' ∨ quote = '\'') := by
  unfold quotedText
  dsimp only
  cases Quoting.choose s.toList with
  | basic => exact ⟨_, _, rfl, .inl rfl⟩
  | literal => exact ⟨_, _, rfl, .inr rfl⟩
  | longBasic => exact ⟨_, _, rfl, .inl rfl⟩
  | longLiteral => exact ⟨_, _, rfl, .inr rfl⟩

/-- **A quoted text** stands for the text. -/
theorem stands_quotedText (s : String) : Stands (quotedText s) (.text s) := by
  obtain ⟨quote, cs, hquoted, hquote⟩ := quotedText_cons s
  have hread : ∀ rest,
      readText (quote :: (cs ++ '\n' :: rest)) = some (s.toList, '\n' :: rest) := by
    intro rest
    have h : readText (quotedText s ++ '\n' :: rest) = some (s.toList, '\n' :: rest) :=
      readText_quotedText s (by simp) (by simp)
    rwa [hquoted, List.cons_append] at h
  rw [hquoted]
  rcases hquote with rfl | rfl
  · refine ⟨by simp [isSpace], fun rest => ?_⟩
    rw [List.cons_append, readValue_scalar _ (by decide) (by decide), readScalar, hread]
    simp
  · refine ⟨by simp [isSpace], fun rest => ?_⟩
    rw [List.cons_append, readValue_scalar _ (by decide) (by decide), readScalar, hread]
    simp

/-! ## Whole numbers -/

section Digits

variable {ds : List Char} (hds : ∀ c ∈ ds, c.isDigit = true) (rest : List Char)

include hds

theorem fixedNumber_digits {count n : Nat} {after : List Char}
    (h : fixedNumber count (ds ++ '\n' :: rest) = some (n, after)) :
    ∃ more, after = more ++ '\n' :: rest ∧ ∀ c ∈ more, c.isDigit = true := by
  simp only [fixedNumber] at h
  split at h
  · next hcount =>
    simp only [Bool.and_eq_true, decide_eq_true_eq, List.all_eq_true] at hcount
    obtain ⟨hlength, hall⟩ := hcount
    obtain ⟨-, rfl⟩ := Prod.mk.inj (Option.some.inj h)
    have hle : count ≤ ds.length := by
      refine Nat.le_of_not_lt fun hlt => absurd (hall '\n' ?_) (by decide)
      obtain ⟨k, rfl⟩ : ∃ k, count = ds.length + (k + 1) := ⟨count - ds.length - 1, by omega⟩
      rw [List.take_length_add_append]
      simp
    refine ⟨ds.drop count, List.drop_append_of_le_length hle, fun c hc => hds c ?_⟩
    exact List.mem_of_mem_drop hc
  · cases h

theorem after?_digits {c : Char} (hdigit : c.isDigit = false) (hline : c ≠ '\n') :
    after? c (ds ++ '\n' :: rest) = none := by
  cases ds with
  | nil => exact if_neg (Ne.symm hline)
  | cons d ds => exact if_neg (Decimal.ne_of_isDigit (hds d (by simp)) hdigit)

theorem moment?_digits : moment? (ds ++ '\n' :: rest) = none := by
  have hdate : date? (ds ++ '\n' :: rest) = none := by
    unfold date?
    cases hyear : fixedNumber 4 (ds ++ '\n' :: rest) with
    | none => rfl
    | some year =>
      obtain ⟨more, hafter, hmore⟩ := fixedNumber_digits hds rest hyear
      simp [hafter, after?_digits hmore rest (c := '-') rfl (by decide)]
  have htime : time? (ds ++ '\n' :: rest) = none := by
    unfold time? hourMinute?
    cases hhour : fixedNumber 2 (ds ++ '\n' :: rest) with
    | none => rfl
    | some hour =>
      obtain ⟨more, hafter, hmore⟩ := fixedNumber_digits hds rest hhour
      simp [hafter, after?_digits hmore rest (c := ':') rfl (by decide)]
  rw [moment?, hdate]
  exact htime

theorem digitRun_digits (hne : ds ≠ []) :
    digitRun isDecimal (ds ++ '\n' :: rest) = some (ds, '\n' :: rest) := by
  induction ds with
  | nil => exact absurd rfl hne
  | cons d ds ih =>
    have hd : isDecimal d = true := hds d (by simp)
    have hline : isDecimal '\n' = false := rfl
    cases ds with
    | nil => simp [digitRun, hd, hline]
    | cons e ds =>
      have he : isDecimal e = true := hds e (by simp)
      have hgroup : e ≠ '_' := Decimal.ne_of_isDigit he rfl
      have htail := ih (fun c hc => hds c (by simp [hc])) (by simp)
      rw [List.cons_append] at htail
      rw [List.cons_append, List.cons_append, digitRun]
      · simp [hd, he, htail]
      · exact fun h => absurd h hgroup

end Digits

section Number

variable (n : Nat) (rest : List Char)

theorem digits_cons :
    ∃ d ds, Decimal.digits n = d :: ds ∧ d.isDigit = true ∧ (d = '0' → ds = []) := by
  obtain ⟨d, ds, hd⟩ := List.exists_cons_of_ne_nil (Decimal.digits_ne_nil n)
  refine ⟨d, ds, hd, Decimal.isDigit_of_mem_digits (by rw [hd]; simp), fun hzero => ?_⟩
  rcases Nat.eq_zero_or_pos n with rfl | hpos
  · rw [Decimal.digits_zero] at hd
    exact (List.cons.inj hd).2.symm
  · exact absurd (by rw [hd, hzero]; rfl) (Decimal.head?_digits_ne_zero hpos)

theorem decimalRun_digits :
    decimalRun (Decimal.digits n ++ '\n' :: rest) = some (Decimal.digits n, '\n' :: rest) := by
  have hrun := digitRun_digits (fun c => Decimal.isDigit_of_mem_digits (n := n)) rest
    (Decimal.digits_ne_nil n)
  obtain ⟨d, ds, hd, -, hzero⟩ := digits_cons n
  rw [hd, List.cons_append] at hrun ⊢
  by_cases h : d = '0'
  · rw [h, hzero h]
    rfl
  · rw [decimalRun, hrun]
    exact fun _ hcons => h (List.cons.inj hcons).1

theorem sign_digits :
    sign (Decimal.digits n ++ '\n' :: rest) = (none, Decimal.digits n ++ '\n' :: rest) := by
  obtain ⟨d, ds, hd, hdigit, -⟩ := digits_cons n
  rw [hd, List.cons_append, sign]
  · exact fun _ h => Decimal.ne_of_isDigit hdigit (by decide) (List.cons.inj h).1
  · exact fun _ h => Decimal.ne_of_isDigit hdigit (by decide) (List.cons.inj h).1

theorem readReal_digits : readReal (Decimal.digits n ++ '\n' :: rest) = none := by
  have hreal : readDigits (Decimal.digits n ++ '\n' :: rest) = none := by
    simp [readDigits, sign_digits, decimalRun_digits, readFraction, readExponent]
  obtain ⟨d, ds, hd, hdigit, -⟩ := digits_cons n
  unfold readReal
  rw [sign_digits]
  rw [hd, List.cons_append] at hreal ⊢
  dsimp only
  split
  · next h => exact absurd (List.cons.inj h).1 (Decimal.ne_of_isDigit hdigit rfl)
  · next h => exact absurd (List.cons.inj h).1 (Decimal.ne_of_isDigit hdigit rfl)
  · exact hreal

theorem readInteger_digits (hword : Decimal.isWord n = true) :
    readInteger (Decimal.digits n ++ '\n' :: rest) = some ((n : Int), '\n' :: rest) := by
  have hbased : ∀ mark more, mark.isDigit = false → mark ≠ '\n' →
      Decimal.digits n ++ '\n' :: rest ≠ '0' :: mark :: more := by
    intro mark more hmark hline h
    obtain ⟨d, ds, hd, -, hzero⟩ := digits_cons n
    rw [hd, List.cons_append] at h
    obtain ⟨rfl, htail⟩ := List.cons.inj h
    rw [hzero rfl] at htail
    exact hline (List.cons.inj htail).1.symm
  have hsigned : signed none n = n := rfl
  rw [readInteger]
  · rw [sign_digits]
    dsimp only
    rw [decimalRun_digits, Option.bind_some]
    dsimp only
    rw [Decimal.value_digits, hsigned, if_pos hword]
  · exact fun _ => hbased _ _ rfl (by decide)
  · exact fun _ => hbased _ _ rfl (by decide)
  · exact fun _ => hbased _ _ rfl (by decide)

/-- **A whole number of 64 bits** stands for itself. -/
theorem stands_digits (hword : Decimal.isWord n = true) :
    Stands (Decimal.digits n) (.integer n) := by
  obtain ⟨d, ds, hd, hdigit, -⟩ := digits_cons n
  have hne : ∀ {c : Char}, c.isDigit = false → d ≠ c := Decimal.ne_of_isDigit hdigit
  refine ⟨fun c hc => ?_, fun rest => ?_⟩
  · obtain rfl : d = c := by simpa [hd] using hc
    simp [isSpace, hne]
  · have hmoment := moment?_digits (fun c => Decimal.isDigit_of_mem_digits (n := n)) rest
    have hreal := readReal_digits n rest
    have hinteger := readInteger_digits n rest hword
    rw [hd, List.cons_append] at hmoment hreal hinteger ⊢
    rw [readValue_scalar _ (hne rfl) (hne rfl), readScalar]
    · rw [hmoment, hreal, hinteger]
      rfl
    · exact fun _ h => hne rfl (List.cons.inj h).1
    · exact fun _ h => hne rfl (List.cons.inj h).1
    · exact fun _ h => hne rfl (List.cons.inj h).1
    · exact fun _ h => hne rfl (List.cons.inj h).1

end Number

/-! ## Keys -/

/-- A text can be a key without quotes. -/
def IsKey (key : String) : Prop := key.toList ≠ [] ∧ key.toList.all isBare = true

theorem ne_of_isBare {c d : Char} (hc : isBare c = true) (hd : isBare d = false) : c ≠ d := by
  rintro rfl
  rw [hc] at hd
  cases hd

section Key

variable {key : String} (hkey : IsKey key) {rest : List Char}

include hkey

theorem IsKey.of_mem : ∀ c ∈ key.toList, isBare c = true := List.all_eq_true.1 hkey.2

theorem IsKey.cons : ∃ c cs, key.toList = c :: cs ∧ isBare c = true := by
  obtain ⟨c, cs, hcs⟩ := List.exists_cons_of_ne_nil hkey.1
  exact ⟨c, cs, hcs, hkey.of_mem c (by rw [hcs]; simp)⟩

theorem skipSpace_key : skipSpace (key.toList ++ rest) = key.toList ++ rest := by
  obtain ⟨c, cs, hcs, hc⟩ := hkey.cons
  have hspace : ¬ isSpace c = true := by
    simp [isSpace, ne_of_isBare (d := ' ') hc rfl, ne_of_isBare (d := '\t') hc rfl]
  rw [hcs, List.cons_append, skipSpace, List.dropWhile_cons_of_neg hspace]

theorem readKey_key (hrest : ∀ c, rest.head? = some c → isBare c = false) :
    readKey (key.toList ++ rest) = some (key, rest) := by
  have htake : (key.toList ++ rest).takeWhile isBare = key.toList := by
    rw [List.takeWhile_append_of_pos hkey.of_mem]
    cases rest with
    | nil => simp
    | cons c rest => simp [hrest c rfl]
  have hdrop : (key.toList ++ rest).dropWhile isBare = rest := by
    rw [List.dropWhile_append_of_pos hkey.of_mem]
    cases rest with
    | nil => rfl
    | cons c rest => simp [hrest c rfl]
  obtain ⟨c, cs, hcs, hc⟩ := hkey.cons
  rw [hcs, List.cons_append] at htake hdrop ⊢
  rw [List.takeWhile_cons_of_pos hc] at htake
  rw [List.dropWhile_cons_of_pos hc] at hdrop
  rw [readKey, if_neg (ne_of_isBare hc rfl), if_neg (ne_of_isBare hc rfl), if_pos hc,
    htake, hdrop, ← hcs, String.ofList_toList]

theorem readPath_key {c : Char} (hdot : c ≠ '.') (hspace : isSpace c = false)
    {gap : List Char} (hgap : ∀ d ∈ gap, isSpace d = true) (hbare : isBare c = false) :
    readPath (key.toList ++ (gap ++ c :: rest)) = some (([], key), c :: rest) := by
  have hhead : ∀ d, (gap ++ c :: rest).head? = some d → isBare d = false := by
    intro d hd
    cases gap with
    | nil =>
      obtain rfl : c = d := Option.some.inj hd
      exact hbare
    | cons g gap =>
      obtain rfl : g = d := Option.some.inj hd
      have hg := hgap g (by simp)
      simp only [isSpace, Bool.or_eq_true, decide_eq_true_eq] at hg
      rcases hg with rfl | rfl <;> decide
  have hskip : skipSpace (gap ++ c :: rest) = c :: rest := by
    rw [skipSpace, List.dropWhile_append_of_pos hgap, List.dropWhile_cons_of_neg (by simp [hspace])]
  have hkeys : readKeys (key.toList ++ (gap ++ c :: rest)) = some ([key], c :: rest) := by
    rw [readKeys, skipSpace_key hkey, readKey_key hkey hhead, Option.bind_some]
    dsimp only
    rw [hskip]
    split
    · next h => exact absurd (List.cons.inj h).1 hdot
    · rfl
  rw [readPath, hkeys]
  rfl

end Key

/-! ## Lines -/

theorem endLine?_cons {c : Char} (hspace : isSpace c = false) (hcomment : c ≠ '#')
    (hline : c ≠ '\n' ∧ c ≠ '\r') (cs : List Char) : endLine? (c :: cs) = none := by
  have hskip : skipComment (skipSpace (c :: cs)) = c :: cs := by
    rw [skipSpace, List.dropWhile_cons_of_neg (by simp [hspace]), skipComment]
    exact fun _ h => hcomment (List.cons.inj h).1
  have hnone : newline? (c :: cs) = none := by
    unfold newline?
    split
    · next h => exact absurd (List.cons.inj h).1 hline.1
    · next h => exact absurd (List.cons.inj h).1 hline.2
    · rfl
  rw [endLine?, hskip]
  exact hnone

theorem lines?_of_readLine {cs rest : List Char} {s : Statement} (hne : cs ≠ [])
    (h : readLine cs = some (some s, rest)) (hlength : rest.length < cs.length) :
    lines? cs = (lines? rest).map (s :: ·) := by
  rw [lines?, if_neg hne, h, Option.bind_some]
  exact if_pos hlength

section Line

variable {key : String} (hkey : IsKey key) {text : List Char} {v : Value} (rest : List Char)

include hkey

/-- **The line of a key and its value** assigns the value to the key. -/
theorem lines?_keyLine (hvalue : Stands text v) :
    lines? (keyLine key text ++ rest) = (lines? rest).map (.assign [] key v :: ·) := by
  have hsplit : keyLine key text ++ rest =
      key.toList ++ ([' '] ++ '=' :: ' ' :: (text ++ '\n' :: rest)) := by
    simp [keyLine]
  have hskip : skipSpace (' ' :: (text ++ '\n' :: rest)) = text ++ '\n' :: rest := by
    rw [skipSpace, List.dropWhile_cons_of_pos rfl]
    cases text with
    | nil => rfl
    | cons c text =>
      rw [List.cons_append, List.dropWhile_cons_of_neg (by simp [hvalue.1 c rfl])]
  have hpair : readPair (readValue (depthLimit - 1)) (keyLine key text ++ rest) =
      some ((([], key), v), '\n' :: rest) := by
    have hpath : readPath (key.toList ++ ([' '] ++ '=' :: ' ' :: (text ++ '\n' :: rest))) =
        some (([], key), '=' :: ' ' :: (text ++ '\n' :: rest)) :=
      readPath_key hkey (by decide) rfl (by simp [isSpace]) rfl
    rw [hsplit, readPair, hpath]
    simp [after?, hskip, hvalue.2 rest]
  have hlength : rest.length < (keyLine key text ++ rest).length := by
    simp [keyLine]
    omega
  obtain ⟨c, cs, hcs, hc⟩ := hkey.cons
  have hstart : ∃ more, keyLine key text ++ rest = c :: more := by
    rw [hsplit, hcs]
    exact ⟨_, rfl⟩
  obtain ⟨more, hmore⟩ := hstart
  have hspace : isSpace c = false := by
    simp [isSpace, ne_of_isBare (d := ' ') hc rfl, ne_of_isBare (d := '\t') hc rfl]
  refine lines?_of_readLine (by rw [hmore]; simp) ?_ hlength
  have hstatement : readStatement (keyLine key text ++ rest) =
      some (.assign [] key v, '\n' :: rest) := by
    rw [hmore] at hpair ⊢
    rw [readStatement, hpair]
    · rfl
    · exact fun _ h => ne_of_isBare hc rfl (List.cons.inj h).1
    · exact fun _ h => ne_of_isBare hc rfl (List.cons.inj h).1
  rw [hmore] at hstatement ⊢
  rw [readLine,
    endLine?_cons hspace (ne_of_isBare hc rfl) ⟨ne_of_isBare hc rfl, ne_of_isBare hc rfl⟩,
    skipSpace, List.dropWhile_cons_of_neg (by simp [hspace]), hstatement]
  rfl

/-- **The line of a header** opens a table. -/
theorem lines?_headerLine :
    lines? (headerLine key ++ rest) = (lines? rest).map (.table [] key :: ·) := by
  have hsplit : headerLine key ++ rest = '[' :: (key.toList ++ ([] ++ ']' :: '\n' :: rest)) := by
    simp [headerLine]
  have hpath : readPath (key.toList ++ ([] ++ ']' :: '\n' :: rest)) =
      some (([], key), ']' :: '\n' :: rest) :=
    readPath_key hkey (by decide) rfl (by simp) rfl
  have hstatement : readStatement ('[' :: (key.toList ++ ([] ++ ']' :: '\n' :: rest))) =
      some (.table [] key, '\n' :: rest) := by
    obtain ⟨c, cs, hcs, hc⟩ := hkey.cons
    rw [hcs, List.cons_append] at hpath ⊢
    rw [readStatement]
    · rw [hpath]
      rfl
    · exact fun _ h => ne_of_isBare hc rfl (List.cons.inj h).1
  have hlength : rest.length < (headerLine key ++ rest).length := by
    simp [headerLine]
    omega
  refine lines?_of_readLine (by rw [hsplit]; simp) ?_ hlength
  rw [hsplit, readLine, endLine?_cons rfl (by decide) (by decide), skipSpace,
    List.dropWhile_cons_of_neg (by decide), hstatement]
  rfl

end Line

/-! ## Tables -/

/-- A key that the table opened last does not have yet is put at its end. -/
theorem follow_assign {name key : String} {entries : Entries} (v : Value)
    (hnew : key ∉ entries.map Prod.fst) :
    Draft.follow ⟨[(name, .table .header entries)], [name]⟩ (.assign [] key v) =
      some ⟨[(name, .table .header (entries ++ [(key, v)]))], [name]⟩ := by
  have hlookup : entries.lookup key = none := by
    rw [List.lookup_eq_none_iff]
    intro p hp
    have hne : key ≠ p.1 := fun h => hnew (List.mem_map.2 ⟨p, hp, h.symm⟩)
    simpa using hne
  simp [Draft.follow, Entries.within, Entries.assign, Walk.enters, Entries.set, hlookup]

theorem foldlM_assign (name : String) (entries more : Entries)
    (hdistinct : ((entries ++ more).map Prod.fst).Nodup) :
    (more.map fun p => Statement.assign [] p.1 p.2).foldlM Draft.follow
        ⟨[(name, .table .header entries)], [name]⟩ =
      some ⟨[(name, .table .header (entries ++ more))], [name]⟩ := by
  induction more generalizing entries with
  | nil => simp
  | cons p more ih =>
    have hnew : p.1 ∉ entries.map Prod.fst := by
      rw [List.map_append, List.map_cons] at hdistinct
      exact fun h => (List.nodup_append.1 hdistinct).2.2 p.1 h p.1 (by simp) rfl
    have happ : entries ++ p :: more = (entries ++ [p]) ++ more := by simp
    rw [List.map_cons, List.foldlM_cons, follow_assign p.2 hnew]
    rw [happ] at hdistinct ⊢
    exact ih (entries ++ [p]) hdistinct

section Table

variable {name : String} (hname : IsKey name) {fields : List (String × List Char × Value)}
  (hfields : ∀ f ∈ fields, IsKey f.1 ∧ Stands f.2.1 f.2.2)

include hfields

theorem lines?_fields :
    lines? (fields.flatMap fun f => keyLine f.1 f.2.1) =
      some (fields.map fun f => .assign [] f.1 f.2.2) := by
  induction fields with
  | nil => rw [List.flatMap_nil, lines?, if_pos rfl, List.map_nil]
  | cons f fields ih =>
    obtain ⟨hkey, hvalue⟩ := hfields f (by simp)
    rw [List.flatMap_cons, lines?_keyLine hkey _ hvalue, ih fun g hg => hfields g (by simp [hg])]
    rfl

include hname

/-- **A header and lines of keys with values below it** are read as the table of these. -/
theorem read_table (hdistinct : (fields.map Prod.fst).Nodup) :
    read (String.ofList (headerLine name ++ fields.flatMap fun f => keyLine f.1 f.2.1)) =
      some [(name, .table .header (fields.map fun f => (f.1, f.2.2)))] := by
  have hlines := lines?_headerLine hname (fields.flatMap fun f => keyLine f.1 f.2.1)
  rw [lines?_fields hfields] at hlines
  have hstatements : statements? (String.ofList
      (headerLine name ++ fields.flatMap fun f => keyLine f.1 f.2.1)) =
        some (.table [] name :: fields.map fun f => .assign [] f.1 f.2.2) := by
    rw [statements?, String.toList_ofList]
    rw [headerLine, List.cons_append] at hlines ⊢
    exact hlines
  have hopen : Draft.follow ⟨[], []⟩ (.table [] name) =
      some ⟨[(name, .table .header [])], [name]⟩ := rfl
  have hassign := foldlM_assign name [] (fields.map fun f => (f.1, f.2.2))
    (by simpa [Function.comp_def] using hdistinct)
  rw [List.map_map] at hassign
  rw [read, hstatements, Option.bind_some, build, List.foldlM_cons, hopen]
  exact congrArg (Option.map Draft.entries) hassign

end Table

end BookCatalog.Toml
