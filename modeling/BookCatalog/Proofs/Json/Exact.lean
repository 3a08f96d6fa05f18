import BookCatalog.Proofs.Json.Unique
import Mathlib.Tactic.SplitIfs

/-!
# What is read was given

What a reader takes off a text is a spelling of what it gives back, and the reader stops where that
ends.

* `eq_digits_of_readNumber` — a number is read as a whole one from the numeral of that alone;
* `spelled_of_readChars` — a quoted text is read from its spellings alone;
* `readLoose_other` — what words, lists and objects are read as where an identifier stands.
-/

namespace BookCatalog.Json

theorem exists_of_map {ε α β : Type} {f : α → β} {x : Except ε α} {y : β}
    (h : x.map f = .ok y) : ∃ a, x = .ok a ∧ f a = y := by
  cases x with
  | error e => cases h
  | ok a => exact ⟨a, rfl, Except.ok.inj h⟩

/-! ## Numbers -/

/-- A reader of numbers gives doubles alone. -/
def Inexact (read : Reader Numeral) : Prop := ∀ input n rest, read input ≠ .ok (.integer n, rest)

theorem inexact_readScaled (positive : Bool) (significand : Nat) (shift : Int) :
    Inexact (readScaled positive significand shift) := by
  intro input n rest h
  unfold readScaled at h
  split at h
  · cases h
  · cases h

theorem inexact_readExponent (positive : Bool) (significand : Nat) (shift : Int) :
    Inexact (readExponent positive significand shift) := by
  intro input n rest h
  unfold readExponent at h
  dsimp only at h
  split at h
  · cases h
  · split at h
    · split at h
      · exact inexact_readScaled _ _ _ _ _ _ h
      · split_ifs at h
        cases h
    · cases h

theorem inexact_readTail (positive : Bool) (significand : Nat) (shift : Int) :
    Inexact (readTail positive significand shift) := by
  intro input n rest h
  unfold readTail at h
  split at h
  · exact inexact_readExponent _ _ _ _ _ _ h
  · exact inexact_readExponent _ _ _ _ _ _ h
  · exact inexact_readScaled _ _ _ _ _ _ h

theorem inexact_readFraction (positive : Bool) (significand : Nat) (shift : Int) :
    Inexact (readFraction positive significand shift) := by
  intro input n rest h
  unfold readFraction at h
  split at h
  · cases h
  · split at h
    · exact inexact_readTail _ _ _ _ _ _ h
    · cases h

/-- A number is a whole one where nothing of it stands behind its whole part. -/
theorem readAfterWhole_eq_integer {positive : Bool} {m dropped : Nat} {input rest : List Char}
    {n : Int} (hdigit : ∀ c, input.head? = some c → c.isDigit = false)
    (h : readAfterWhole positive m dropped input = .ok (.integer n, rest)) :
    dropped = 0 ∧ rest = input ∧ Numeral.ofWhole positive m = .integer n ∧ Stops rest := by
  unfold readAfterWhole at h
  split at h
  · exact absurd h (inexact_readFraction _ _ _ _ _ _)
  · exact absurd h (inexact_readExponent _ _ _ _ _ _)
  · exact absurd h (inexact_readExponent _ _ _ _ _ _)
  · next hpoint he hE =>
    split at h
    · next hdropped =>
      simp only [Except.ok.injEq, Prod.mk.injEq] at h
      obtain ⟨hwhole, rfl⟩ := h
      refine ⟨hdropped, rfl, hwhole, fun c hc => ⟨hdigit c hc, ?_, ?_, ?_⟩⟩
      · rintro rfl
        obtain ⟨cs, rfl⟩ := List.head?_eq_some_iff.1 hc
        exact hpoint cs rfl
      · rintro rfl
        obtain ⟨cs, rfl⟩ := List.head?_eq_some_iff.1 hc
        exact he cs rfl
      · rintro rfl
        obtain ⟨cs, rfl⟩ := List.head?_eq_some_iff.1 hc
        exact hE cs rfl
    · exact absurd h (inexact_readScaled _ _ _ _ _ _)

theorem digitChar_digitValue {c : Char} (h : c.isDigit = true) :
    Nat.digitChar (digitValue c) = c ∧ digitValue c < 10 := by
  have hrange : 48 ≤ c.toNat ∧ c.toNat ≤ 57 := by
    simpa [Char.isDigit, UInt32.le_iff_toNat_le] using h
  have hvalue : digitValue c = c.toNat - 48 := rfl
  refine ⟨?_, by omega⟩
  apply Char.toNat_inj.1
  rw [Nat.toNat_digitChar_of_lt_ten (by omega)]
  omega

/-- **Digits that were all taken** are the numeral of what they add up to. -/
theorem digits_wholeDigits {m n : Nat} {cs rest : List Char} (hm : 0 < m)
    (h : wholeDigits m cs = (n, 0, rest)) :
    Decimal.digits m ++ cs = Decimal.digits n ++ rest := by
  -- each digit that is taken moves from the text to the numeral of the number so far
  induction cs generalizing m with
  | nil =>
    cases h
    rfl
  | cons c cs ih =>
    unfold wholeDigits at h
    split at h
    · next hdigit =>
      obtain ⟨hchar, hlt⟩ := digitChar_digitValue hdigit
      split at h
      · have hstep : Decimal.digits (m * 10 + digitValue c) = Decimal.digits m ++ [c] := by
          have happend := Nat.toDigits_append_toDigits (b := 10) (by decide) hm hlt
          rw [Nat.toDigits_of_lt_base hlt, hchar, Nat.mul_comm] at happend
          exact happend.symm
        have hrest := ih (by omega) h
        rwa [hstep, List.append_assoc, List.singleton_append] at hrest
      · rw [List.takeWhile_cons_of_pos hdigit] at h
        simp at h
    · cases h
      rfl

theorem isDigit_head?_wholeDigits (n : Nat) (cs : List Char) :
    ∀ c, (wholeDigits n cs).2.2.head? = some c → c.isDigit = false := by
  intro d hd
  induction cs generalizing n with
  | nil => cases hd
  | cons c cs ih =>
    unfold wholeDigits at hd
    split at hd
    · split at hd
      · exact ih _ hd
      · have hhead := List.head?_dropWhile_not Char.isDigit cs
        rw [hd] at hhead
        simpa using hhead
    · next hc =>
      cases hd
      simpa using hc

/-- **A number that is read as a whole one** was given by the numeral of that number, which does
not go on. -/
theorem eq_digits_of_readNumber {positive : Bool} {input rest : List Char} {n : Int}
    (h : readNumber positive input = .ok (.integer n, rest)) :
    ∃ m, input = Decimal.digits m ++ rest ∧ Numeral.ofWhole positive m = .integer n ∧
      Stops rest := by
  unfold readNumber at h
  split at h
  · cases h
  · next c cs =>
    split at h
    · next hzero =>
      have hread : readAfterWhole positive 0 0 cs = .ok (.integer n, rest) ∧
          ∀ d, cs.head? = some d → d.isDigit = false := by
        split at h
        · split at h
          · cases h
          · next hdigit => exact ⟨h, fun d hd => by cases hd; simpa using hdigit⟩
        · exact ⟨h, fun d hd => by cases hd⟩
      obtain ⟨-, rfl, hwhole, hstops⟩ := readAfterWhole_eq_integer hread.2 hread.1
      exact ⟨0, by rw [Decimal.digits_zero, hzero]; rfl, hwhole, hstops⟩
    · next hzero =>
      split at h
      · next hdigit =>
        obtain ⟨hchar, hlt⟩ := digitChar_digitValue hdigit
        obtain ⟨hdropped, hrest, hwhole, hstops⟩ :=
          readAfterWhole_eq_integer (isDigit_head?_wholeDigits _ cs) h
        have hpos : 0 < digitValue c := by
          refine Nat.pos_of_ne_zero fun hvalue => hzero ?_
          rw [← hchar, hvalue]
          rfl
        have hall : wholeDigits (digitValue c) cs =
            ((wholeDigits (digitValue c) cs).1, 0, rest) := by
          rw [← hdropped, hrest]
        have hdigits := digits_wholeDigits hpos hall
        rw [Decimal.digits, Nat.toDigits_of_lt_base hlt, hchar, List.singleton_append] at hdigits
        exact ⟨_, hdigits, hwhole, hstops⟩
      · cases h

theorem int_of_ofWhole {positive : Bool} {m : Nat} {n : Int}
    (h : Numeral.ofWhole positive m = .integer n) :
    Decimal.int n = (if positive then [] else ['-']) ++ Decimal.digits m := by
  unfold Numeral.ofWhole at h
  cases positive with
  | true =>
    simp only [if_true, Numeral.integer.injEq] at h
    have hneg : ¬ n < 0 := by omega
    rw [Decimal.int, if_neg hneg, ← h]
    rfl
  | false =>
    simp only [Bool.false_eq_true, if_false] at h
    split at h
    · cases h
    · next hm =>
      simp only [Bool.or_eq_true, decide_eq_true_eq, not_or] at hm
      rw [Numeral.integer.injEq] at h
      have hneg : n < 0 := by omega
      rw [Decimal.int, if_pos hneg, ← h, Int.natAbs_neg, Int.natAbs_natCast]
      rfl

/-! ## Texts -/

theorem exists_quad_of_hexQuad {cs : List Char} {n : Nat} (h : hexQuad cs = .ok n) :
    ∃ q rest, cs = q ++ rest ∧ Quad n q := by
  unfold hexQuad at h
  split at h
  · cases h
  · split at h
    · next a b c d hvalues =>
      cases h
      have hlength := congrArg List.length hvalues
      simp only [List.length_map, List.length_take, List.length_cons, List.length_nil] at hlength
      rcases cs with _ | ⟨w, _ | ⟨x, _ | ⟨y, _ | ⟨z, rest⟩⟩⟩⟩
      iterate 4 simp at hlength
      · simp only [List.take_succ_cons, List.take_zero, List.map_cons, List.map_nil,
          List.cons.injEq, and_true] at hvalues
        obtain ⟨hw, hx, hy, hz⟩ := hvalues
        exact ⟨[w, x, y, z], rest, rfl, .mk hw hx hy hz⟩
    · cases h

theorem hexValue?_lt {c : Char} {v : Nat} (h : Text.hexValue? c = some v) : v < 16 := by
  have hle : ∀ {x y : Char}, x ≤ y → x.toNat ≤ y.toNat := fun h => h
  have hvalues : '0'.toNat = 48 ∧ '9'.toNat = 57 ∧ 'A'.toNat = 65 ∧ 'F'.toNat = 70 ∧
      'a'.toNat = 97 ∧ 'f'.toNat = 102 := by decide
  unfold Text.hexValue? at h
  split_ifs at h with hdigit hupper hlower
  all_goals
    cases h
  · simp only [Bool.and_eq_true, decide_eq_true_eq] at hdigit
    have hc := hle hdigit.2
    omega
  · simp only [Bool.and_eq_true, decide_eq_true_eq] at hupper
    have hc := hle hupper.2
    omega
  · simp only [Bool.and_eq_true, decide_eq_true_eq] at hlower
    have hc := hle hlower.2
    omega

theorem Quad.lt {n : Nat} {q : List Char} (h : Quad n q) : n < 0x10000 := by
  cases h with
  | mk ha hb hc hd =>
    have ha := hexValue?_lt ha
    have hb := hexValue?_lt hb
    have hc := hexValue?_lt hc
    have hd := hexValue?_lt hd
    omega

theorem toNat_ofNat {n : Nat} (h : n < 0xD800 ∨ 0xDFFF < n ∧ n < 0x110000) :
    (Char.ofNat n).toNat = n := by
  have hvalid : n.isValidChar := h
  rw [Char.ofNat, dif_pos hvalid]
  rfl

/-- What an escape by number is read as, it spells, alone or with the number behind it. -/
theorem spelledChar_of_readUnicode {cs : List Char} {c : Char} {n : Nat}
    (h : readUnicode cs = .ok (c, n)) : SpelledChar c ('\\' :: 'u' :: cs.take n) := by
  unfold readUnicode at h
  cases hquad : hexQuad cs with
  | error e => simp [hquad, bind, Except.bind] at h
  | ok m =>
    obtain ⟨q, rest, rfl, hq⟩ := exists_quad_of_hexQuad hquad
    have hlt := hq.lt
    simp only [hquad, bind, Except.bind, List.drop_left' hq.length] at h
    split at h
    · cases h
    · next htrail =>
      simp only [Bool.and_eq_true, decide_eq_true_eq, not_and] at htrail
      split at h
      · next hsingle =>
        simp only [Bool.or_eq_true, decide_eq_true_eq] at hsingle
        cases h
        have hnumber : (Char.ofNat m).toNat = m := toNat_ofNat (by omega)
        rw [List.take_left' hq.length]
        rw [← hnumber] at hq
        exact .number hq
      · next hhigh =>
        simp only [Bool.or_eq_true, decide_eq_true_eq, not_or] at hhigh
        split at h
        · cases h
        · cases h
        · next after =>
          cases hquad' : hexQuad after with
          | error e => simp [hquad'] at h
          | ok l =>
            obtain ⟨r, rest', rfl, hr⟩ := exists_quad_of_hexQuad hquad'
            simp only [hquad'] at h
            split at h
            · cases h
            · next hlow =>
              simp only [Bool.or_eq_true, decide_eq_true_eq, not_or] at hlow
              simp only [Except.ok.injEq, Prod.mk.injEq] at h
              obtain ⟨rfl, rfl⟩ := h
              have hpaired : (paired m l).toNat = (m - 0xD800) * 1024 + (l - 0xDC00) + 0x10000 :=
                toNat_ofNat (by omega)
              have htake : (q ++ '\\' :: 'u' :: (r ++ rest')).take 10 = q ++ '\\' :: 'u' :: r := by
                rw [List.take_append, List.take_of_length_le (by rw [hq.length]; decide), hq.length]
                simp [List.take_left' hr.length]
              have hqm : 0xD800 + ((paired m l).toNat - 0x10000) / 0x400 = m := by omega
              have hrl : 0xDC00 + ((paired m l).toNat - 0x10000) % 0x400 = l := by omega
              rw [htake]
              rw [← hqm] at hq
              rw [← hrl] at hr
              exact .pair (by omega) hq hr
        · cases h
        · cases h

theorem mem_letters_of_shortEscape? {l c : Char} (h : shortEscape? l = some c) :
    (l, c) ∈ letters := by
  unfold shortEscape? at h
  split at h
  all_goals
    cases h
  all_goals
    decide

theorem spelledChar_of_readEscape {cs : List Char} {c : Char} {n : Nat}
    (h : readEscape cs = .ok (c, n)) : SpelledChar c ('\\' :: cs.take n) := by
  unfold readEscape at h
  split at h
  · cases h
  · next cs =>
    cases hunicode : readUnicode cs with
    | error e => simp [hunicode, bind, Except.bind] at h
    | ok found =>
      obtain ⟨d, m⟩ := found
      simp only [hunicode, bind, Except.bind, Except.ok.injEq, Prod.mk.injEq] at h
      obtain ⟨rfl, rfl⟩ := h
      exact spelledChar_of_readUnicode hunicode
  · next l cs _ =>
    split at h
    · next d hshort =>
      cases h
      exact .letter (mem_letters_of_shortEscape? hshort)
    · cases h

/-- **What a quoted text is read as**, it spells. -/
theorem spelled_of_readChars {input cs rest : List Char} (h : readChars input = .ok (cs, rest)) :
    ∃ t, input = t ++ '"' :: rest ∧ SpelledChars cs t := by
  fun_induction readChars input generalizing cs with
  | case1 => cases h
  | case2 =>
    cases h
    exact ⟨[], rfl, .nil⟩
  | case3 => cases h
  | case4 => cases h
  | case5 body d n hescape ds rest' hread _ ih =>
    cases h
    obtain ⟨t, ht, hspelled⟩ := ih hread
    refine ⟨'\\' :: body.take n ++ t, ?_, .cons (spelledChar_of_readEscape hescape) hspelled⟩
    rw [List.append_assoc, ← ht, List.cons_append, List.take_append_drop]
  | case6 => cases h
  | case7 => cases h
  | case8 c body hquote hback hcontrol ds rest' hread ih =>
    cases h
    obtain ⟨t, ht, hspelled⟩ := ih hread
    exact ⟨[c] ++ t, by rw [ht]; rfl, .cons (.plain hquote hback hcontrol) hspelled⟩

/-! ## Identifiers -/

theorem exists_of_leaveList {α : Type} {result : Result α} {v : α} {rest : List Char}
    (h : leaveList result = .ok (v, rest)) : ∃ inside, result = .ok (v, inside) := by
  unfold leaveList at h
  split at h
  · next w inside =>
    obtain ⟨after, -, heq⟩ := exists_of_map h
    cases heq
    exact ⟨inside, rfl⟩
  · cases h
  · cases h

theorem exists_of_leaveObject {α : Type} {result : Result α} {v : α} {rest : List Char}
    (h : leaveObject result = .ok (v, rest)) : ∃ inside, result = .ok (v, inside) := by
  unfold leaveObject at h
  split at h
  · next w inside =>
    obtain ⟨after, -, heq⟩ := exists_of_map h
    cases heq
    exact ⟨inside, rfl⟩
  · cases h
  · cases h

theorem readMembers_keeps {σ : Type} {member : String → σ → Reader σ} {P : σ → Prop}
    (hmember : ∀ key s input s' rest, P s → member key s input = .ok (s', rest) → P s')
    {first : Bool} {s s' : σ} {input rest : List Char} (hs : P s)
    (h : readMembers member first s input = .ok (s', rest)) : P s' := by
  fun_induction readMembers member first s input with
  | case2 =>
    cases h
    exact hs
  | case5 _ _ _ _ _ _ _ _ _ _ hread _ ih => exact ih (hmember _ _ _ _ _ hs hread) h
  | _ => cases h

theorem readLoose_other {levels : Nat} {g cs rest : List Char} {c : Char} {v : Loose} (hg : Gap g)
    (hc : c ∈ ['n', 't', 'f', '[', '\x7b'])
    (h : readLoose levels (g ++ c :: cs) = .ok (v, rest)) : v = .other := by
  have hspace : isSpace c = false := by
    simp only [List.mem_cons, List.not_mem_nil, or_false] at hc
    rcases hc with rfl | rfl | rfl | rfl | rfl <;> rfl
  have hword : ∀ word : List Char,
      (skipWord word cs).map (Loose.other, ·) = .ok (v, rest) → v = .other := by
    intro word hword
    obtain ⟨after, -, heq⟩ := exists_of_map hword
    cases heq
    rfl
  rw [readLoose, skipSpace_append hg hspace] at h
  simp only [List.mem_cons, List.not_mem_nil, or_false] at hc
  rcases hc with rfl | rfl | rfl | rfl | rfl
  · exact hword _ h
  · exact hword _ h
  · exact hword _ h
  · cases levels with
    | zero => cases h
    | succ below =>
      obtain ⟨inside, hinside⟩ := exists_of_leaveList h
      obtain ⟨items, -, heq⟩ := exists_of_map hinside
      cases heq
      rfl
  · cases levels with
    | zero => cases h
    | succ below =>
      obtain ⟨inside, hinside⟩ := exists_of_leaveObject h
      refine readMembers_keeps (P := (· = Loose.other)) ?_ rfl hinside
      intro key s input s' rest _ hmember
      dsimp only at hmember
      split at hmember
      · cases hmember
      · obtain ⟨found, -, heq⟩ := exists_of_map hmember
        cases heq
        rfl

end BookCatalog.Json
