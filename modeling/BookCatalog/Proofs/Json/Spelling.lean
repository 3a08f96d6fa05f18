import BookCatalog.Proofs.Json.Scalars

/-!
# Spellings of a JSON value

Every way in which a JSON text may give a value: with any space between the parts, with any escapes
in its texts, and with numbers of any form.  A number is given by its numeral, since the forms of
one number are not taken for each other.

* `Tree` — values with numbers as they were given;
* `Spelled` — the spellings of a value, and `Document` of a whole text;
* `readChars_spelled` — every spelling of a text is read as that text.
-/

namespace BookCatalog.Json

/-! ## The grammar -/

/-- A JSON value as it was given: a number is kept as its numeral. -/
inductive Tree where
  | null
  | bool (b : Bool)
  | number (numeral : List Char)
  | text (s : String)
  | list (items : List Tree)
  | object (members : List (String × Tree))

def Digits (ds : List Char) : Prop := ds ≠ [] ∧ ∀ c ∈ ds, c.isDigit = true

/-- The part of a numeral before its point: a zero alone, or digits that start with another. -/
def WholePart (ds : List Char) : Prop := ds = ['0'] ∨ Digits ds ∧ ds.head? ≠ some '0'

def Fraction (cs : List Char) : Prop := cs = [] ∨ ∃ ds, cs = '.' :: ds ∧ Digits ds

def Exponent (cs : List Char) : Prop :=
  cs = [] ∨ ∃ letter ∈ ['e', 'E'], ∃ sign ∈ [[], ['+'], ['-']], ∃ ds,
    cs = letter :: (sign ++ ds) ∧ Digits ds

inductive IsNumeral : List Char → Prop
  | mk {sign whole fraction exponent : List Char} (hsign : sign = [] ∨ sign = ['-'])
      (hwhole : WholePart whole) (hfraction : Fraction fraction) (hexponent : Exponent exponent) :
      IsNumeral (sign ++ (whole ++ (fraction ++ exponent)))

/-- A number as four hexadecimal digits. -/
inductive Quad : Nat → List Char → Prop
  | mk {a b c d : Char} {w x y z : Nat} (ha : Text.hexValue? a = some w)
      (hb : Text.hexValue? b = some x) (hc : Text.hexValue? c = some y)
      (hd : Text.hexValue? d = some z) : Quad (((w * 16 + x) * 16 + y) * 16 + z) [a, b, c, d]

/-- The escapes of one letter, with the characters they stand for. -/
def letters : List (Char × Char) :=
  [('"', '"'), ('\\', '\\'), ('/', '/'), ('b', '\x08'), ('f', '\x0c'), ('n', '\n'), ('r', '\r'),
    ('t', '\t')]

/-- The spellings of a character in a quoted text: itself, an escape of one letter, its number, or
the numbers of the two surrogates that stand for it. -/
inductive SpelledChar : Char → List Char → Prop
  | plain {c : Char} (hquote : c ≠ '"') (hback : c ≠ '\\') (hcontrol : ¬ c.toNat < 0x20) :
      SpelledChar c [c]
  | letter {l c : Char} (h : (l, c) ∈ letters) : SpelledChar c ['\\', l]
  | number {c : Char} {q : List Char} (hq : Quad c.toNat q) : SpelledChar c ('\\' :: 'u' :: q)
  | pair {c : Char} {q r : List Char} (hc : 0x10000 ≤ c.toNat)
      (hq : Quad (0xD800 + (c.toNat - 0x10000) / 0x400) q)
      (hr : Quad (0xDC00 + (c.toNat - 0x10000) % 0x400) r) :
      SpelledChar c ('\\' :: 'u' :: q ++ '\\' :: 'u' :: r)

inductive SpelledChars : List Char → List Char → Prop
  | nil : SpelledChars [] []
  | cons {c : Char} {cs e t : List Char} (he : SpelledChar c e) (ht : SpelledChars cs t) :
      SpelledChars (c :: cs) (e ++ t)

inductive SpelledText : String → List Char → Prop
  | mk {s : String} {t : List Char} (h : SpelledChars s.toList t) :
      SpelledText s ('"' :: t ++ ['"'])

mutual

/-- The spellings of a value. -/
inductive Spelled : Tree → List Char → Prop
  | null : Spelled .null ['n', 'u', 'l', 'l']
  | yes : Spelled (.bool true) ['t', 'r', 'u', 'e']
  | no : Spelled (.bool false) ['f', 'a', 'l', 's', 'e']
  | number {numeral : List Char} (h : IsNumeral numeral) : Spelled (.number numeral) numeral
  | text {s : String} {t : List Char} (h : SpelledText s t) : Spelled (.text s) t
  | list {vs : List Tree} {ts : List (List Char)} {t : List Char} (hspread : Spread ts t)
      (hitems : List.Forall₂ Spelled vs ts) : Spelled (.list vs) ('[' :: t ++ [']'])
  | object {ms : List (String × Tree)} {ts : List (List Char)} {t : List Char}
      (hspread : Spread ts t) (hmembers : List.Forall₂ SpelledMember ms ts) :
      Spelled (.object ms) ('\x7b' :: t ++ ['\x7d'])

inductive SpelledMember : String × Tree → List Char → Prop
  | mk {k : String} {v : Tree} {key g h t : List Char} (hkey : SpelledText k key) (hg : Gap g)
      (hh : Gap h) (ht : Spelled v t) : SpelledMember (k, v) (key ++ g ++ ':' :: (h ++ t))

end

/-- A whole text gives a value: one of its spellings, with space around it. -/
inductive Document : Tree → String → Prop
  | mk {v : Tree} {g t back : List Char} (hg : Gap g) (ht : Spelled v t) (hback : Gap back) :
      Document v (String.ofList (g ++ (t ++ back)))

/-! ## Written forms -/

theorem digits_digits (n : Nat) : Digits (Decimal.digits n) :=
  ⟨Decimal.digits_ne_nil n, fun _ hc => Decimal.isDigit_of_mem_digits hc⟩

theorem wholePart_digits (n : Nat) : WholePart (Decimal.digits n) := by
  rcases Nat.eq_zero_or_pos n with rfl | hpos
  · rw [Decimal.digits_zero]
    exact .inl rfl
  · exact .inr ⟨digits_digits n, Decimal.head?_digits_ne_zero hpos⟩

theorem isNumeral_int (n : Int) : IsNumeral (Decimal.int n) := by
  have hwhole := wholePart_digits n.natAbs
  unfold Decimal.int
  split
  · have h := IsNumeral.mk (.inr rfl) hwhole (.inl rfl) (.inl rfl)
    rwa [List.append_nil, List.append_nil] at h
  · have h := IsNumeral.mk (.inl rfl) hwhole (.inl rfl) (.inl rfl)
    rwa [List.append_nil, List.append_nil] at h

theorem spelledChar_escaped (c : Char) : SpelledChar c (escaped c) := by
  unfold escaped
  -- the seven characters with an escape of one letter
  iterate 7
    split
    · next h =>
      rw [h]
      exact .letter (by decide)
  split
  · next h =>
    have hquad : Quad c.toNat ['0', '0', hexDigit (c.toNat / 16), hexDigit (c.toNat % 16)] := by
      have hsum : ((0 * 16 + 0) * 16 + c.toNat / 16) * 16 + c.toNat % 16 = c.toNat := by omega
      have hzero : Text.hexValue? '0' = some 0 := rfl
      have hmk : Quad _ ['0', '0', hexDigit (c.toNat / 16), hexDigit (c.toNat % 16)] :=
        .mk hzero hzero (hexValue?_hexDigit _ (by omega)) (hexValue?_hexDigit _ (by omega))
      rwa [hsum] at hmk
    exact .number hquad
  · next hquote hback _ _ _ _ _ hcontrol => exact .plain hquote hback hcontrol

theorem spelledChars_escaped (cs : List Char) : SpelledChars cs (cs.flatMap escaped) := by
  induction cs with
  | nil => exact .nil
  | cons c cs ih =>
    rw [List.flatMap_cons]
    exact .cons (spelledChar_escaped c) ih

theorem spelledText_writeText (s : String) : SpelledText s (writeText s) :=
  .mk (spelledChars_escaped s.toList)

/-! ## Texts -/

theorem hexQuad_append {n : Nat} {q : List Char} (h : Quad n q) (rest : List Char) :
    hexQuad (q ++ rest) = .ok n := by
  cases h with
  | @mk a b c d w x y z ha hb hc hd =>
    have hsize := length_le_size (a :: b :: c :: d :: rest)
    simp only [List.length_cons] at hsize
    simp only [List.cons_append, List.nil_append]
    rw [hexQuad, if_neg (by omega)]
    simp only [List.take_succ_cons, List.take_zero, List.map_cons, List.map_nil, ha, hb, hc, hd]

theorem Quad.length {n : Nat} {q : List Char} (h : Quad n q) : q.length = 4 := by
  cases h
  rfl

theorem SpelledChar.cases_read {c : Char} {e : List Char} (h : SpelledChar c e) :
    (e = [c] ∧ c ≠ '"' ∧ c ≠ '\\' ∧ ¬ c.toNat < 0x20) ∨
      ∃ body, e = '\\' :: body ∧ ∀ rest, readEscape (body ++ rest) = .ok (c, body.length) := by
  cases h with
  | plain hquote hback hcontrol => exact .inl ⟨rfl, hquote, hback, hcontrol⟩
  | @letter l _ h =>
    refine .inr ⟨[l], rfl, fun rest => ?_⟩
    simp only [letters, List.mem_cons, List.not_mem_nil, or_false, Prod.mk.injEq] at h
    rcases h with ⟨rfl, rfl⟩ | ⟨rfl, rfl⟩ | ⟨rfl, rfl⟩ | ⟨rfl, rfl⟩ | ⟨rfl, rfl⟩ | ⟨rfl, rfl⟩ |
      ⟨rfl, rfl⟩ | ⟨rfl, rfl⟩ <;> rfl
  | @number _ q hq =>
    refine .inr ⟨'u' :: q, rfl, fun rest => ?_⟩
    have hvalid : c.toNat < 0xD800 ∨ 0xDFFF < c.toNat ∧ c.toNat < 0x110000 := c.valid
    have hlow : (c.toNat < 0xD800 || 0xDBFF < c.toNat) = true := by simp; omega
    have hnot : (0xDC00 ≤ c.toNat && c.toNat ≤ 0xDFFF) = false := by simp; omega
    simp only [List.cons_append, readEscape, readUnicode, hexQuad_append hq, bind, Except.bind,
      hlow, hnot, Char.ofNat_toNat, List.length_cons, hq.length]
    rfl
  | @pair _ q r hc hq hr =>
    refine .inr ⟨'u' :: q ++ '\\' :: 'u' :: r, rfl, fun rest => ?_⟩
    have hvalid : c.toNat < 0xD800 ∨ 0xDFFF < c.toNat ∧ c.toNat < 0x110000 := c.valid
    generalize hhigh : 0xD800 + (c.toNat - 0x10000) / 0x400 = high at hq
    generalize hlow : 0xDC00 + (c.toNat - 0x10000) % 0x400 = low at hr
    have hnot : (0xDC00 ≤ high && high ≤ 0xDFFF) = false := by simp; omega
    have hlead : (high < 0xD800 || 0xDBFF < high) = false := by simp; omega
    have htrail : (low < 0xDC00 || 0xDFFF < low) = false := by simp; omega
    have hpaired : paired high low = c := by
      have hsum : (high - 0xD800) * 1024 + (low - 0xDC00) + 0x10000 = c.toNat := by omega
      rw [paired, hsum, Char.ofNat_toNat]
    simp only [List.cons_append, List.append_assoc, readEscape, readUnicode, hexQuad_append hq,
      bind, Except.bind, hnot, hlead, List.drop_left' hq.length, hexQuad_append hr, htrail,
      hpaired, Bool.false_eq_true, if_false, List.length_cons, List.length_append, hq.length,
      hr.length]

/-- **Every spelling of a text** is read as that text. -/
theorem readChars_spelled {cs t : List Char} (h : SpelledChars cs t) (rest : List Char) :
    readChars (t ++ '"' :: rest) = .ok (cs, rest) := by
  induction h with
  | nil => rw [List.nil_append, readChars, if_pos rfl]
  | @cons c cs e t he ht ih =>
    rw [List.append_assoc]
    rcases he.cases_read with ⟨rfl, hquote, hback, hcontrol⟩ | ⟨body, rfl, hread⟩
    · rw [List.singleton_append, readChars, if_neg hquote, if_neg hback, if_neg hcontrol, ih]
    · rw [List.cons_append, readChars, if_neg (by decide), if_pos rfl, hread]
      simp only [List.drop_left, ih]

theorem readQuoted_spelled {s : String} {t : List Char} (h : SpelledChars s.toList t)
    (rest : List Char) : readQuoted (t ++ '"' :: rest) = .ok (s, rest) := by
  rw [readQuoted, readChars_spelled h]
  simp [Except.map]

theorem takes_readText {s : String} {t : List Char} (h : SpelledText s t) :
    Takes readText s t := by
  intro g rest hg hrest
  cases h with
  | mk h =>
    have hread := readQuoted_spelled h rest
    rw [List.cons_append, List.cons_append, List.append_assoc, List.singleton_append, readText,
      skipSpace_append hg rfl]
    exact hread

theorem takes_readLoose_text (levels : Nat) {s : String} {t : List Char} (h : SpelledText s t) :
    Takes (readLoose levels) (.text s) t := by
  intro g rest hg hrest
  cases h with
  | mk h =>
    have hread := readQuoted_spelled h rest
    rw [List.cons_append, List.cons_append, List.append_assoc, List.singleton_append, readLoose,
      skipSpace_append hg rfl]
    simp [hread, Except.map]

/-! ## Numbers -/

/-- What follows a number does not go on with one. -/
def Stops (rest : List Char) : Prop :=
  ∀ c, rest.head? = some c → c.isDigit = false ∧ c ≠ '.' ∧ c ≠ 'e' ∧ c ≠ 'E'

theorem Ends.stops {rest : List Char} (h : Ends rest) : Stops rest := fun _ hc => h.head?_ne hc

theorem WholePart.starts {whole : List Char} (h : WholePart whole) :
    ∃ d ds, d.isDigit = true ∧ whole = d :: ds := by
  rcases h with rfl | ⟨⟨hne, hall⟩, -⟩
  · exact ⟨'0', [], rfl, rfl⟩
  · obtain ⟨d, ds, rfl⟩ := List.exists_cons_of_ne_nil hne
    exact ⟨d, ds, hall d (by simp), rfl⟩

theorem IsNumeral.starts {t : List Char} (h : IsNumeral t) :
    ∃ d ds, d.isDigit = true ∧ (t = '-' :: d :: ds ∨ t = d :: ds) := by
  cases h with
  | @mk sign whole fraction exponent hsign hwhole _ _ =>
    obtain ⟨d, ds, hd, rfl⟩ := hwhole.starts
    refine ⟨d, ds ++ (fraction ++ exponent), hd, ?_⟩
    rcases hsign with rfl | rfl
    · exact .inr rfl
    · exact .inl rfl

end BookCatalog.Json
