import BookCatalog.Proofs.Json.Exact
import Mathlib.Data.List.TakeWhile

/-!
# What is skipped is a value

Skipping remembers no more of a text than the brackets that are open.  What these still ask of the
text behind a value is written down as `Closes`; so whatever text is given, a value stands where one
is skipped.

* `skipNumber_sound`, `skipChars_sound` — what is skipped as a number or as a quoted text;
* `Closes` — what stands behind a value inside open brackets;
* `closes_of_goOn`, `exists_value_of_skipOpen` — the two loops of skipping;
* `exists_value_of_skipValue` — what is skipped is a value.
-/

namespace BookCatalog.Json

/-! ## Space and words -/

theorem exists_gap (input : List Char) : ∃ g, Gap g ∧ input = g ++ skipSpace input :=
  ⟨input.takeWhile isSpace, fun _ hc => List.mem_takeWhile_imp hc,
    List.takeWhile_append_dropWhile.symm⟩

theorem exists_gap_of_skipSpace {input rest : List Char} (h : skipSpace input = rest) :
    ∃ g, Gap g ∧ input = g ++ rest := by
  subst h
  exact exists_gap input

theorem eq_append_of_skipWord {word input rest : List Char} (h : skipWord word input = .ok rest) :
    input = word ++ rest := by
  induction word generalizing input with
  | nil =>
    cases h
    rfl
  | cons w ws ih =>
    cases input with
    | nil => cases h
    | cons c cs =>
      rw [skipWord] at h
      split at h
      · next hc => rw [hc, ih h, List.cons_append]
      · cases h

/-! ## Numbers -/

theorem digits_takeWhile {c : Char} {cs : List Char} (hc : c.isDigit = true) :
    Digits (c :: cs.takeWhile Char.isDigit) := by
  refine ⟨List.cons_ne_nil _ _, fun d hd => ?_⟩
  rcases List.mem_cons.1 hd with rfl | hd
  · exact hc
  · exact List.mem_takeWhile_imp hd

theorem skipExponent_sound {input rest : List Char} (h : skipExponent input = .ok rest) :
    ∃ sign ∈ [[], ['+'], ['-']], ∃ ds, input = sign ++ (ds ++ rest) ∧ Digits ds := by
  unfold skipExponent at h
  dsimp only at h
  split at h
  · cases h
  · next c cs hbody =>
    have hsign : ∃ sign ∈ [[], ['+'], ['-']], input = sign ++ c :: cs := by
      split at hbody
      · exact ⟨['+'], by simp, by rw [hbody]; rfl⟩
      · exact ⟨['-'], by simp, by rw [hbody]; rfl⟩
      · exact ⟨[], by simp, by rw [hbody]; rfl⟩
    obtain ⟨sign, hsign, hinput⟩ := hsign
    split at h
    · next hc =>
      cases h
      refine ⟨sign, hsign, c :: cs.takeWhile Char.isDigit, ?_, digits_takeWhile hc⟩
      rw [hinput, List.cons_append, List.takeWhile_append_dropWhile]
    · cases h

theorem skipTail_sound {input rest : List Char} (h : skipTail input = .ok rest) :
    ∃ exponent, input = exponent ++ rest ∧ Exponent exponent := by
  have hletter : ∀ {letter : Char} {cs : List Char}, letter ∈ ['e', 'E'] →
      skipExponent cs = .ok rest → ∃ exponent, letter :: cs = exponent ++ rest ∧
        Exponent exponent := by
    intro letter cs hmem hskip
    obtain ⟨sign, hsign, ds, rfl, hds⟩ := skipExponent_sound hskip
    exact ⟨letter :: (sign ++ ds), by simp, .inr ⟨letter, hmem, sign, hsign, ds, rfl, hds⟩⟩
  unfold skipTail at h
  split at h
  · exact hletter (by simp) h
  · exact hletter (by simp) h
  · cases h
    exact ⟨[], rfl, .inl rfl⟩

theorem skipAfterWhole_sound {input rest : List Char} (h : skipAfterWhole input = .ok rest) :
    ∃ fraction exponent, input = fraction ++ (exponent ++ rest) ∧ Fraction fraction ∧
      Exponent exponent := by
  unfold skipAfterWhole at h
  split at h
  · next cs =>
    split at h
    · cases h
    · next hne =>
      obtain ⟨exponent, hrest, hexponent⟩ := skipTail_sound h
      refine ⟨'.' :: cs.takeWhile Char.isDigit, exponent, ?_, .inr ⟨_, rfl, hne, ?_⟩, hexponent⟩
      · rw [← hrest, List.cons_append, List.takeWhile_append_dropWhile]
      · exact fun _ hd => List.mem_takeWhile_imp hd
  · obtain ⟨exponent, rfl, hexponent⟩ := skipTail_sound h
    exact ⟨[], exponent, rfl, .inl rfl, hexponent⟩

/-- **What is skipped as a number**, behind its sign, is one without a sign. -/
theorem skipNumber_sound {input rest : List Char} (h : skipNumber input = .ok rest) :
    ∃ whole fraction exponent, input = whole ++ (fraction ++ (exponent ++ rest)) ∧
      WholePart whole ∧ Fraction fraction ∧ Exponent exponent := by
  have hafter : ∀ {whole behind : List Char}, WholePart whole →
      skipAfterWhole behind = .ok rest → ∃ w fraction exponent,
        whole ++ behind = w ++ (fraction ++ (exponent ++ rest)) ∧
          WholePart w ∧ Fraction fraction ∧ Exponent exponent := by
    intro whole behind hwhole hskip
    obtain ⟨fraction, exponent, rfl, hfraction, hexponent⟩ := skipAfterWhole_sound hskip
    exact ⟨whole, fraction, exponent, rfl, hwhole, hfraction, hexponent⟩
  unfold skipNumber at h
  split at h
  · cases h
  · next c cs =>
    split at h
    · next hzero =>
      subst hzero
      have hzero : WholePart ['0'] := .inl rfl
      split at h
      · split at h
        · cases h
        · exact hafter hzero h
      · cases h
        exact ⟨['0'], [], [], rfl, hzero, .inl rfl, .inl rfl⟩
    · next hzero =>
      split at h
      · next hc =>
        have hwhole : WholePart (c :: cs.takeWhile Char.isDigit) :=
          .inr ⟨digits_takeWhile hc, by simpa using hzero⟩
        have hfound := hafter hwhole h
        rwa [List.cons_append, List.takeWhile_append_dropWhile] at hfound
      · cases h

/-! ## Quoted texts -/

theorem rawChar_of_skipEscape {cs : List Char} {n : Nat} (h : skipEscape cs = .ok n) :
    RawChar ('\\' :: cs.take n) := by
  unfold skipEscape at h
  split at h
  · cases h
  · next cs =>
    obtain ⟨m, hquad, hn⟩ := exists_of_map h
    obtain ⟨q, rest, rfl, hq⟩ := exists_quad_of_hexQuad hquad
    rw [← hn, List.take_succ_cons, List.take_left' hq.length]
    exact .number hq
  · next c cs _ =>
    split at h
    · next hshort =>
      cases h
      exact .letter (mem_letters_of_shortEscape? hshort)
    · cases h

/-- **What is skipped as a quoted text** ends at its quote. -/
theorem skipChars_sound {input rest : List Char} (h : skipChars input = .ok rest) :
    ∃ t, input = t ++ '"' :: rest ∧ RawText t := by
  fun_induction skipChars input with
  | case1 => cases h
  | case2 =>
    cases h
    exact ⟨[], rfl, .nil⟩
  | case3 => cases h
  | case4 cs n hescape _ ih =>
    obtain ⟨t, ht, hraw⟩ := ih h
    refine ⟨'\\' :: cs.take n ++ t, ?_, .cons (rawChar_of_skipEscape hescape) hraw⟩
    rw [List.append_assoc, ← ht, List.cons_append, List.take_append_drop]
  | case5 => cases h
  | case6 c cs hquote hback hcontrol ih =>
    obtain ⟨t, ht, hraw⟩ := ih h
    refine ⟨[c] ++ t, ?_, .cons (.plain hquote hback hcontrol) hraw⟩
    rw [ht, List.append_assoc, List.singleton_append]

/-! ## Values and brackets that are entered -/

namespace Bracket

def opener : Bracket → Char
  | .square => '['
  | .curly => '\x7b'

/-- What stands between the commas inside a bracket: values, or members. -/
def Holds : Bracket → List Char → Prop
  | .square => IsValue
  | .curly => IsMember

theorem isValue (b : Bracket) {ts : List (List Char)} {t : List Char} (hspread : Spread ts t)
    (hts : ∀ u ∈ ts, b.Holds u) : IsValue (b.opener :: t ++ [b.closer]) := by
  cases b with
  | square => exact .list hspread hts
  | curly => exact .object_of_members hspread hts

end Bracket

/-- What is entered: a value that has ended, or one more bracket. -/
inductive Entered (opened : List Bracket) (input : List Char) :
    List Bracket × Bool × List Char → Prop
  | ended {g t rest : List Char} (hg : Gap g) (ht : IsValue t) (heq : input = g ++ (t ++ rest)) :
      Entered opened input (opened, true, rest)
  | opened (b : Bracket) {g rest : List Char} (hg : Gap g) (heq : input = g ++ b.opener :: rest) :
      Entered opened input (b :: opened, false, rest)

theorem entered_of_enter {opened : List Bracket} {input : List Char}
    {found : List Bracket × Bool × List Char} (h : enter opened input = .ok found) :
    Entered opened input found := by
  unfold enter at h
  split at h
  · cases h
  · next c cs hskip =>
    obtain ⟨g, hg, rfl⟩ := exists_gap_of_skipSpace hskip
    have hscalar : ∀ {skipped : Except Failure (List Char)},
        skipped.map (opened, true, ·) = .ok found →
        (∀ {rest}, skipped = .ok rest → ∃ t, IsValue t ∧ c :: cs = t ++ rest) →
        Entered opened (g ++ c :: cs) found := by
      intro skipped hmap hvalue
      obtain ⟨rest, hok, rfl⟩ := exists_of_map hmap
      obtain ⟨t, ht, heq⟩ := hvalue hok
      exact .ended hg ht (by rw [heq])
    have hword : ∀ {word : List Char}, IsValue (c :: word) →
        (skipWord word cs).map (opened, true, ·) = .ok found →
        Entered opened (g ++ c :: cs) found := by
      intro word hvalue hmap
      exact hscalar hmap fun hok => ⟨_, hvalue, by rw [eq_append_of_skipWord hok, List.cons_append]⟩
    split_ifs at h with hn ht hf hminus hdigit hquote hlist hobject
    · subst hn
      exact hword .null h
    · subst ht
      exact hword .yes h
    · subst hf
      exact hword .no h
    · subst hminus
      refine hscalar h fun hok => ?_
      obtain ⟨whole, fraction, exponent, rfl, hwhole, hfraction, hexponent⟩ := skipNumber_sound hok
      exact ⟨_, .number (.mk (.inr rfl) hwhole hfraction hexponent), by simp⟩
    · refine hscalar h fun hok => ?_
      obtain ⟨whole, fraction, exponent, heq, hwhole, hfraction, hexponent⟩ := skipNumber_sound hok
      exact ⟨_, .number (.mk (.inl rfl) hwhole hfraction hexponent), by simp [heq]⟩
    · subst hquote
      refine hscalar h fun hok => ?_
      obtain ⟨t, rfl, hraw⟩ := skipChars_sound hok
      exact ⟨_, .text hraw, by simp⟩
    · subst hlist
      cases h
      exact .opened .square hg rfl
    · subst hobject
      cases h
      exact .opened .curly hg rfl

theorem Entered.length_lt {opened left : List Bracket} {input rest : List Char} {ended : Bool}
    (h : Entered opened input (left, ended, rest)) : rest.length < input.length := by
  cases h with
  | ended hg ht heq =>
    obtain ⟨c, cs, rfl, -, -⟩ := ht.starts
    rw [heq]
    exact length_lt_behind _ c cs rest
  | opened b hg heq =>
    rw [heq]
    exact length_lt_behind _ b.opener [] rest

/-! ## Open brackets -/

/-- What stands behind a value inside open brackets: for each of them more items or members, and its
closer. -/
inductive Closes : List Bracket → List Char → List Char → Prop
  | nil (rest : List Char) : Closes [] rest rest
  | cons {b : Bracket} {bs : List Bracket} {ts : List (List Char)} {inside after rest : List Char}
      (hinside : Rest ts inside) (hts : ∀ t ∈ ts, b.Holds t) (hafter : Closes bs after rest) :
      Closes (b :: bs) (inside ++ b.closer :: after) rest

theorem Closes.more {b : Bracket} {bs : List Bracket} {g h t after rest : List Char} (hh : Gap h)
    (hg : Gap g) (ht : b.Holds t) (hcloses : Closes (b :: bs) after rest) :
    Closes (b :: bs) (h ++ ',' :: (g ++ (t ++ after))) rest := by
  cases hcloses with
  | @cons _ _ ts inside last _ hinside hts hafter =>
    have htext : h ++ ',' :: (g ++ (t ++ (inside ++ b.closer :: last))) =
        h ++ ',' :: (g ++ (t ++ inside)) ++ b.closer :: last := by
      simp
    rw [htext]
    exact .cons (.cons hh hg hinside) (List.forall_mem_cons.2 ⟨ht, hts⟩) hafter

theorem Rest.spread {g t more : List Char} {ts : List (List Char)} (hg : Gap g)
    (h : Rest ts more) : Spread (t :: ts) (g ++ (t ++ more)) := by
  induction h generalizing g t with
  | nil hgap =>
    rw [← List.append_assoc]
    exact .last hg hgap
  | @cons h g' s more ts hh hg' _ ih =>
    have htext : g ++ (t ++ (h ++ ',' :: (g' ++ (s ++ more)))) =
        g ++ t ++ h ++ ',' :: (g' ++ (s ++ more)) := by
      simp
    rw [htext]
    exact .more hg hh (ih hg')

theorem Closes.exists_spread {b : Bracket} {bs : List Bracket} {g t after rest : List Char}
    (hg : Gap g) (ht : b.Holds t) (h : Closes (b :: bs) after rest) :
    ∃ ts inside last, Spread ts inside ∧ (∀ u ∈ ts, b.Holds u) ∧
      g ++ (t ++ after) = inside ++ b.closer :: last ∧ Closes bs last rest := by
  cases h with
  | @cons _ _ ts inside last _ hinside hts hafter =>
    exact ⟨t :: ts, g ++ (t ++ inside), last, hinside.spread hg, List.forall_mem_cons.2 ⟨ht, hts⟩,
      by simp, hafter⟩

theorem exists_key_of_skipKey {input after : List Char} (h : skipKey input = .ok after) :
    ∃ g key front, Gap g ∧ RawText key ∧ Gap front ∧
      input = g ++ '"' :: (key ++ '"' :: (front ++ ':' :: after)) := by
  unfold skipKey at h
  split at h
  · cases h
  · next cs hskip =>
    obtain ⟨g, hg, rfl⟩ := exists_gap_of_skipSpace hskip
    cases hchars : skipChars cs with
    | error e => simp [hchars, bind, Except.bind] at h
    | ok inner =>
      obtain ⟨key, rfl, hkey⟩ := skipChars_sound hchars
      simp only [hchars, bind, Except.bind] at h
      split at h
      · cases h
      · next hcolon =>
        cases h
        obtain ⟨front, hfront, rfl⟩ := exists_gap_of_skipSpace hcolon
        exact ⟨g, key, front, hg, hkey, hfront, rfl⟩
      · cases h
  · cases h

/-- Where a text of some length is skipped, it starts with a value, and then the open brackets are
closed. -/
def ValuesUpTo (n : Nat) : Prop :=
  ∀ {opened : List Bracket} {input rest : List Char}, input.length ≤ n →
    skipOpen opened input = .ok rest →
    ∃ g t after, input = g ++ (t ++ after) ∧ Gap g ∧ IsValue t ∧ Closes opened after rest

theorem exists_item_of_passItem {n : Nat} (hvalues : ValuesUpTo n) {b : Bracket}
    {bs : List Bracket} {input rest : List Char} (hlength : input.length ≤ n)
    (h : passItem b bs input = .ok rest) :
    ∃ g t after, input = g ++ (t ++ after) ∧ Gap g ∧ b.Holds t ∧ Closes (b :: bs) after rest := by
  unfold passItem at h
  cases b with
  | square => exact hvalues hlength (by simpa using h)
  | curly =>
    rw [if_pos rfl] at h
    split at h
    · cases h
    · next after hkey =>
      have hafter := length_of_skipKey hkey
      obtain ⟨g, key, front, hg, hraw, hfront, rfl⟩ := exists_key_of_skipKey hkey
      obtain ⟨back, t, last, rfl, hback, ht, hcloses⟩ := hvalues (by omega) h
      refine ⟨g, RawMember.text ⟨key, front, back, t⟩, last, by simp [RawMember.text], hg, ?_,
        hcloses⟩
      exact ⟨_, rfl, ⟨hraw, hfront, hback⟩, ht⟩

/-- **Where a value has ended**, the open brackets are closed; by induction on them. -/
theorem closes_of_goOn {n : Nat} (hvalues : ValuesUpTo n) {opened : List Bracket}
    {input rest : List Char} (hlength : input.length ≤ n) (h : goOn true opened input = .ok rest) :
    Closes opened input rest := by
  induction opened generalizing input with
  | nil =>
    cases h
    exact .nil rest
  | cons b bs ih =>
    unfold goOn at h
    cases hskip : skipSpace input with
    | nil => simp [leave, hskip] at h
    | cons c cs =>
      obtain ⟨g, hg, rfl⟩ := exists_gap_of_skipSpace hskip
      have hcs : cs.length ≤ n := by
        simp only [List.length_append, List.length_cons] at hlength
        omega
      rw [leave, hskip] at h
      dsimp only at h
      by_cases hcomma : c = ','
      · subst hcomma
        simp only [decide_true, Bool.and_self, if_true] at h
        obtain ⟨front, t, after, rfl, hfront, ht, hcloses⟩ :=
          exists_item_of_passItem hvalues hcs h
        exact hcloses.more hg hfront ht
      · simp only [hcomma, decide_false, Bool.and_false, Bool.false_eq_true, if_false] at h
        by_cases hcloser : c = b.closer
        · subst hcloser
          rw [if_pos rfl] at h
          exact .cons (.nil hg) (by simp) (ih hcs h)
        · rw [if_neg hcloser] at h
          cases h

/-- Where a bracket has been opened, what it holds stands up to its closer. -/
theorem exists_inside_of_goOn {n : Nat} (hvalues : ValuesUpTo n) {b : Bracket}
    {bs : List Bracket} {input rest : List Char} (hlength : input.length ≤ n)
    (h : goOn false (b :: bs) input = .ok rest) :
    ∃ ts inside after, Spread ts inside ∧ (∀ t ∈ ts, b.Holds t) ∧
      input = inside ++ b.closer :: after ∧ Closes bs after rest := by
  unfold goOn at h
  cases hskip : skipSpace input with
  | nil => simp [leave, hskip] at h
  | cons c cs =>
    obtain ⟨g, hg, rfl⟩ := exists_gap_of_skipSpace hskip
    have hcs : (c :: cs).length ≤ n := by
      simp only [List.length_append] at hlength
      omega
    rw [leave, hskip] at h
    simp only [Bool.false_and, Bool.false_eq_true, if_false] at h
    by_cases hcloser : c = b.closer
    · subst hcloser
      rw [if_pos rfl] at h
      have hafter : cs.length ≤ n := by
        rw [List.length_cons] at hcs
        omega
      exact ⟨[], g, cs, .none hg, by simp, rfl, closes_of_goOn hvalues hafter h⟩
    · rw [if_neg hcloser] at h
      obtain ⟨front, t, after, heq, hfront, ht, hcloses⟩ := exists_item_of_passItem hvalues hcs h
      rw [heq, ← List.append_assoc]
      exact hcloses.exists_spread (hg.append hfront) ht

/-- **What is skipped inside open brackets** is a value, and then they are closed; by induction on
the length of the text. -/
theorem exists_value_of_skipOpen (n : Nat) : ValuesUpTo n := by
  induction n with
  | zero =>
    intro opened input rest hlength h
    obtain rfl : input = [] := List.length_eq_zero_iff.1 (Nat.le_zero.1 hlength)
    rw [skipOpen] at h
    cases h
  | succ n ih =>
    intro opened input rest hlength h
    cases henter : enter opened input with
    | error e =>
      rw [skipOpen, henter] at h
      cases h
    | ok found =>
      obtain ⟨left, ended, inner⟩ := found
      have hentered := entered_of_enter henter
      have hinner := hentered.length_lt
      rw [skipOpen_of_enter henter hinner] at h
      cases hentered with
      | @ended g t _ hg ht heq =>
        exact ⟨g, t, inner, heq, hg, ht, closes_of_goOn ih (by omega) h⟩
      | @opened b g _ hg heq =>
        obtain ⟨ts, inside, after, hspread, hts, rfl, hcloses⟩ :=
          exists_inside_of_goOn ih (by omega) h
        refine ⟨g, b.opener :: inside ++ [b.closer], after, ?_, hg, b.isValue hspread hts, hcloses⟩
        rw [heq]
        simp

/-- **What is skipped** is a value, with space in front of it. -/
theorem exists_value_of_skipValue {input rest : List Char} (h : skipValue input = .ok rest) :
    ∃ g t, input = g ++ (t ++ rest) ∧ Gap g ∧ IsValue t := by
  obtain ⟨g, t, after, rfl, hg, ht, hcloses⟩ := exists_value_of_skipOpen _ (Nat.le_refl _) h
  cases hcloses
  exact ⟨g, t, rfl, hg, ht⟩

end BookCatalog.Json
