import BookCatalog.Proofs.Json.Lists
import BookCatalog.Proofs.Json.Spelling

/-!
# Skipping a value

The texts of all JSON values, whatever may be made of them: an escape by number may name half a pair
of surrogates, and lists and objects may be nested to any depth.  Skipping passes each of them and
stops where it ends.

* `IsValue` — the texts of values;
* `skipOpen_value` — a value inside open brackets is passed;
* `skipValue_append` — so is a value that stands alone.
-/

namespace BookCatalog.Json

/-! ## The grammar -/

/-- What stands for one part of a quoted text: a character, or an escape. -/
inductive RawChar : List Char → Prop
  | plain {c : Char} (hquote : c ≠ '"') (hback : c ≠ '\\') (hcontrol : ¬ c.toNat < 0x20) :
      RawChar [c]
  | letter {l c : Char} (h : (l, c) ∈ letters) : RawChar ['\\', l]
  | number {n : Nat} {q : List Char} (hq : Quad n q) : RawChar ('\\' :: 'u' :: q)

/-- What may stand between the quotes of a text. -/
inductive RawText : List Char → Prop
  | nil : RawText []
  | cons {e t : List Char} (he : RawChar e) (ht : RawText t) : RawText (e ++ t)

/-- A member of an object as it was given: what stands between the quotes of its key, the space
around its colon, and the text of its value. -/
structure RawMember where
  key : List Char
  front : List Char
  back : List Char
  value : List Char

namespace RawMember

def text (m : RawMember) : List Char :=
  '"' :: (m.key ++ '"' :: (m.front ++ ':' :: (m.back ++ m.value)))

structure HasKey (m : RawMember) : Prop where
  key : RawText m.key
  front : Gap m.front
  back : Gap m.back

end RawMember

inductive IsValue : List Char → Prop
  | null : IsValue ['n', 'u', 'l', 'l']
  | yes : IsValue ['t', 'r', 'u', 'e']
  | no : IsValue ['f', 'a', 'l', 's', 'e']
  | number {numeral : List Char} (h : IsNumeral numeral) : IsValue numeral
  | text {t : List Char} (h : RawText t) : IsValue ('"' :: t ++ ['"'])
  | list {ts : List (List Char)} {t : List Char} (hspread : Spread ts t)
      (hitems : ∀ u ∈ ts, IsValue u) : IsValue ('[' :: t ++ [']'])
  | object {ms : List RawMember} {t : List Char} (hspread : Spread (ms.map RawMember.text) t)
      (hkeys : ∀ m ∈ ms, m.HasKey) (hvalues : ∀ m ∈ ms, IsValue m.value) :
      IsValue ('\x7b' :: t ++ ['\x7d'])

/-- What stands behind the first of several texts with commas between them. -/
inductive Rest : List (List Char) → List Char → Prop
  | nil {g : List Char} (hg : Gap g) : Rest [] g
  | cons {h g t more : List Char} {ts : List (List Char)} (hh : Gap h) (hg : Gap g)
      (hmore : Rest ts more) : Rest (t :: ts) (h ++ ',' :: (g ++ (t ++ more)))

theorem Spread.exists_rest {t text : List Char} {ts : List (List Char)}
    (h : Spread (t :: ts) text) :
    ∃ g more, text = g ++ (t ++ more) ∧ Gap g ∧ Rest ts more := by
  generalize hall : t :: ts = all at h
  induction h generalizing t ts with
  | none => cases hall
  | @last g _ h hg hh =>
    cases hall
    exact ⟨g, h, List.append_assoc g _ h, hg, .nil hh⟩
  | @more g _ h s text _ hg hh _ ih =>
    cases hall
    obtain ⟨g', more, rfl, hg', hmore⟩ := ih rfl
    exact ⟨g, h ++ ',' :: (g' ++ (s ++ more)), by simp, hg, .cons hh hg' hmore⟩

theorem Rest.ends {ts : List (List Char)} {more rest : List Char} (h : Rest ts more)
    (hrest : Ends rest) : Ends (more ++ rest) := by
  cases h with
  | nil hg => exact hg.ends hrest
  | cons hh =>
    rw [List.append_assoc, List.cons_append]
    exact hh.ends (ends_cons (.inr (.inl rfl)) _)

theorem Rest.ends_self {ts : List (List Char)} {more : List Char} (h : Rest ts more) :
    Ends more := by
  have hends := h.ends ends_nil
  rwa [List.append_nil] at hends

/-! ## Spelled texts -/

theorem RawText.append {t u : List Char} (ht : RawText t) (hu : RawText u) : RawText (t ++ u) := by
  induction ht with
  | nil => exact hu
  | cons he _ ih =>
    rw [List.append_assoc]
    exact .cons he ih

theorem SpelledChar.rawText {c : Char} {e : List Char} (h : SpelledChar c e) : RawText e := by
  have hone : ∀ {e : List Char}, RawChar e → RawText e := fun {e} he => by
    have hcons : RawText (e ++ []) := .cons he .nil
    rwa [List.append_nil] at hcons
  cases h with
  | plain hquote hback hcontrol => exact hone (.plain hquote hback hcontrol)
  | letter h => exact hone (.letter h)
  | number hq => exact hone (.number hq)
  | @pair _ q r _ hq hr =>
    exact .append (t := '\\' :: 'u' :: q) (hone (.number hq)) (hone (.number hr))

theorem SpelledChars.rawText {cs t : List Char} (h : SpelledChars cs t) : RawText t := by
  induction h with
  | nil => exact .nil
  | cons he _ ih => exact he.rawText.append ih

theorem SpelledText.isValue {s : String} {t : List Char} (h : SpelledText s t) : IsValue t := by
  cases h with
  | mk h => exact .text h.rawText

theorem SpelledText.exists_rawText {s : String} {t : List Char} (h : SpelledText s t) :
    ∃ u, t = '"' :: u ++ ['"'] ∧ SpelledChars s.toList u ∧ RawText u := by
  cases h with
  | @mk u h => exact ⟨u, rfl, h, h.rawText⟩

/-! ## Scalars -/

/-- **Skipping a quoted text** stops at the quote that closes it. -/
theorem skipChars_append {t : List Char} (h : RawText t) (rest : List Char) :
    skipChars (t ++ '"' :: rest) = .ok rest := by
  induction h with
  | nil => rw [List.nil_append, skipChars, if_pos rfl]
  | @cons e t he _ ih =>
    rw [List.append_assoc]
    cases he with
    | plain hquote hback hcontrol =>
      rw [List.singleton_append, skipChars, if_neg hquote, if_neg hback, if_neg hcontrol, ih]
    | @letter l c hl =>
      have hescape : ∀ more, skipEscape (l :: more) = .ok 1 := by
        intro more
        simp only [letters, List.mem_cons, List.not_mem_nil, or_false, Prod.mk.injEq] at hl
        rcases hl with ⟨rfl, rfl⟩ | ⟨rfl, rfl⟩ | ⟨rfl, rfl⟩ | ⟨rfl, rfl⟩ | ⟨rfl, rfl⟩ | ⟨rfl, rfl⟩ |
          ⟨rfl, rfl⟩ | ⟨rfl, rfl⟩ <;> rfl
      rw [List.cons_append, List.singleton_append, skipChars, if_neg (by decide), if_pos rfl,
        hescape]
      exact ih
    | @number n q hq =>
      have hescape : ∀ more, skipEscape ('u' :: (q ++ more)) = .ok 5 := by
        intro more
        simp only [skipEscape, hexQuad_append hq, Except.map]
      rw [List.cons_append, List.cons_append, skipChars, if_neg (by decide), if_pos rfl, hescape]
      have hdrop : ('u' :: (q ++ (t ++ '"' :: rest))).drop 5 = t ++ '"' :: rest := by
        rw [List.drop_succ_cons, List.drop_left' hq.length]
      simp only [hdrop, ih]

theorem dropWhile_digits {ds rest : List Char} (hds : ∀ c ∈ ds, c.isDigit = true)
    (hrest : ∀ c, rest.head? = some c → c.isDigit = false) :
    (ds ++ rest).takeWhile Char.isDigit = ds ∧ (ds ++ rest).dropWhile Char.isDigit = rest := by
  rw [List.takeWhile_append_of_pos hds, List.dropWhile_append_of_pos hds]
  cases rest with
  | nil => simp
  | cons c cs =>
    have hc : ¬ c.isDigit = true := by simp [hrest c rfl]
    rw [List.takeWhile_cons_of_neg hc, List.dropWhile_cons_of_neg hc, List.append_nil]
    exact ⟨rfl, rfl⟩

theorem skipExponent_append {sign ds rest : List Char} (hsign : sign ∈ [[], ['+'], ['-']])
    (hds : Digits ds) (hrest : Stops rest) : skipExponent (sign ++ (ds ++ rest)) = .ok rest := by
  obtain ⟨hne, hall⟩ := hds
  obtain ⟨d, ds, rfl⟩ := List.exists_cons_of_ne_nil hne
  have hd : d.isDigit = true := hall d List.mem_cons_self
  have hdrop := (dropWhile_digits (fun c hc => hall c (List.mem_cons_of_mem d hc))
    fun c hc => (hrest c hc).1).2
  simp only [List.mem_cons, List.not_mem_nil, or_false] at hsign
  rcases hsign with rfl | rfl | rfl
  · have hplus : d ≠ '+' := Decimal.ne_of_isDigit hd rfl
    have hminus : d ≠ '-' := Decimal.ne_of_isDigit hd rfl
    simp [skipExponent, hplus, hminus, hd, hdrop]
  · simp [skipExponent, hd, hdrop]
  · simp [skipExponent, hd, hdrop]

theorem skipTail_append {exponent rest : List Char} (h : Exponent exponent) (hrest : Stops rest) :
    skipTail (exponent ++ rest) = .ok rest := by
  rcases h with rfl | ⟨letter, hletter, sign, hsign, ds, rfl, hds⟩
  · cases rest with
    | nil => rfl
    | cons c cs =>
      obtain ⟨-, -, he, hE⟩ := hrest c rfl
      unfold skipTail
      split
      · next heq => exact absurd (List.cons.inj heq).1 he
      · next heq => exact absurd (List.cons.inj heq).1 hE
      · rfl
  · have hexponent := skipExponent_append hsign hds hrest
    have htext : letter :: (sign ++ ds) ++ rest = letter :: (sign ++ (ds ++ rest)) := by simp
    rw [htext]
    simp only [List.mem_cons, List.not_mem_nil, or_false] at hletter
    rcases hletter with rfl | rfl
    · exact hexponent
    · exact hexponent

theorem head?_fraction_append {fraction rest : List Char} (h : Fraction fraction)
    (hrest : ∀ c, rest.head? = some c → c.isDigit = false) :
    ∀ c, (fraction ++ rest).head? = some c → c.isDigit = false := by
  intro c hc
  rcases h with rfl | ⟨ds, rfl, -⟩
  · exact hrest c hc
  · cases hc
    decide

theorem head?_exponent_append {exponent rest : List Char} (h : Exponent exponent)
    (hrest : Stops rest) :
    ∀ c, (exponent ++ rest).head? = some c → c.isDigit = false ∧ c ≠ '.' := by
  intro c hc
  rcases h with rfl | ⟨letter, hletter, sign, -, ds, rfl, -⟩
  · obtain ⟨hdigit, hpoint, -⟩ := hrest c hc
    exact ⟨hdigit, hpoint⟩
  · cases hc
    simp only [List.mem_cons, List.not_mem_nil, or_false] at hletter
    rcases hletter with rfl | rfl <;> decide

theorem skipAfterWhole_append {fraction exponent rest : List Char} (hfraction : Fraction fraction)
    (hexponent : Exponent exponent) (hrest : Stops rest) :
    skipAfterWhole (fraction ++ (exponent ++ rest)) = .ok rest := by
  have htail := skipTail_append hexponent hrest
  have hhead := head?_exponent_append hexponent hrest
  rcases hfraction with rfl | ⟨ds, rfl, hne, hds⟩
  · rw [List.nil_append]
    generalize exponent ++ rest = input at htail hhead
    unfold skipAfterWhole
    split
    · exact absurd rfl (hhead '.' rfl).2
    · exact htail
  · obtain ⟨htake, hdrop⟩ := dropWhile_digits hds fun c hc => (hhead c hc).1
    rw [List.cons_append, skipAfterWhole, htake, if_neg hne, hdrop]
    exact htail

/-- **Skipping a number** stops behind it. -/
theorem skipNumber_append {whole fraction exponent rest : List Char} (hwhole : WholePart whole)
    (hfraction : Fraction fraction) (hexponent : Exponent exponent) (hrest : Stops rest) :
    skipNumber (whole ++ (fraction ++ (exponent ++ rest))) = .ok rest := by
  have hafter := skipAfterWhole_append hfraction hexponent hrest
  have hhead := head?_fraction_append hfraction fun c hc =>
    (head?_exponent_append hexponent hrest c hc).1
  rcases hwhole with rfl | ⟨⟨hne, hds⟩, hzero⟩
  · generalize fraction ++ (exponent ++ rest) = input at hafter hhead
    rw [List.singleton_append]
    unfold skipNumber
    dsimp only
    rw [if_pos rfl]
    cases input with
    | nil => exact hafter
    | cons c cs => simpa [hhead c rfl] using hafter
  · have hdrop := (dropWhile_digits hds hhead).2
    obtain ⟨d, ds, rfl⟩ := List.exists_cons_of_ne_nil hne
    have hd : d.isDigit = true := hds d List.mem_cons_self
    have hdzero : d ≠ '0' := fun heq => hzero (by rw [heq]; rfl)
    rw [List.cons_append, List.dropWhile_cons_of_pos hd] at hdrop
    rw [List.cons_append]
    unfold skipNumber
    dsimp only
    rw [if_neg hdzero, if_pos hd, hdrop]
    exact hafter

/-! ## Open brackets -/

theorem length_lt_behind (g : List Char) (c : Char) (cs rest : List Char) :
    rest.length < (g ++ c :: (cs ++ rest)).length := by
  simp only [List.length_append, List.length_cons]
  omega

theorem length_skipSpace_le (input : List Char) : (skipSpace input).length ≤ input.length :=
  (List.dropWhile_sublist _).length_le

theorem length_of_skipChars {input rest : List Char} (h : skipChars input = .ok rest) :
    rest.length < input.length := by
  fun_induction skipChars input with
  | case1 => cases h
  | case2 =>
    cases h
    simp
  | case3 => cases h
  | case4 cs _ n _ ih =>
    have hlength := ih h
    simp only [List.length_drop, List.length_cons] at hlength ⊢
    omega
  | case5 => cases h
  | case6 cs _ _ _ _ ih =>
    have hlength := ih h
    simp only [List.length_cons]
    omega

theorem length_of_leave {ended : Bool} {opened left : List Bracket} {input rest : List Char}
    (h : leave ended opened input = .ok (left, rest)) : rest.length ≤ input.length := by
  have hspace := length_skipSpace_le input
  induction opened generalizing ended input with
  | nil =>
    cases h
    exact Nat.le_refl _
  | cons b bs ih =>
    unfold leave at h
    split at h
    · cases h
    · next c cs hskip =>
      rw [hskip, List.length_cons] at hspace
      split at h
      · cases h
        omega
      · split at h
        · have hlength := ih h (length_skipSpace_le cs)
          omega
        · split at h
          · cases h
          · cases h
            simpa using hspace

theorem length_of_skipKey {input rest : List Char} (h : skipKey input = .ok rest) :
    rest.length ≤ input.length := by
  have hspace := length_skipSpace_le input
  unfold skipKey at h
  split at h
  · cases h
  · next cs hskip =>
    cases hchars : skipChars cs with
    | error e => simp [hchars, bind, Except.bind] at h
    | ok inner =>
      have hlength := length_of_skipChars hchars
      have hinner := length_skipSpace_le inner
      simp only [hchars, bind, Except.bind] at h
      rw [hskip, List.length_cons] at hspace
      split at h
      · cases h
      · next after hcolon =>
        cases h
        rw [hcolon, List.length_cons] at hinner
        omega
      · cases h
  · cases h

/-- How skipping goes on in front of the next item of a list or member of an object. -/
def passItem (b : Bracket) (opened : List Bracket) (input : List Char) :
    Except Failure (List Char) :=
  match if b = .curly then skipKey input else .ok input with
  | .error e => .error e
  | .ok rest => skipOpen (b :: opened) rest

/-- How skipping goes on inside open brackets where a value has been entered or has ended. -/
def goOn (ended : Bool) (opened : List Bracket) (input : List Char) :
    Except Failure (List Char) :=
  match leave ended opened input with
  | .error e => .error e
  | .ok ([], rest) => .ok rest
  | .ok (b :: bs, rest) => passItem b bs rest

/-- Every round reads something, so the test on lengths does not fail. -/
theorem skipOpen_of_enter {opened opened' : List Bracket} {ended : Bool} {input rest : List Char}
    (h : enter opened input = .ok (opened', ended, rest)) (hlength : rest.length < input.length) :
    skipOpen opened input = goOn ended opened' rest := by
  rw [skipOpen, h, goOn]
  dsimp only
  cases hleave : leave ended opened' rest with
  | error e => rfl
  | ok found =>
    obtain ⟨left, after⟩ := found
    have hafter := length_of_leave hleave
    cases left with
    | nil => rfl
    | cons b bs =>
      dsimp only [passItem]
      cases hkey : (if b = .curly then skipKey after else .ok after) with
      | error e => rfl
      | ok last =>
        have hlast : last.length ≤ after.length := by
          split at hkey
          · exact length_of_skipKey hkey
          · cases hkey
            exact Nat.le_refl _
        dsimp only
        rw [if_pos (by omega)]

/-! ## Items and members -/

theorem Bracket.closer_ne (b : Bracket) : isSpace b.closer = false ∧ b.closer ≠ ',' := by
  cases b <;> decide

theorem Bracket.ends_closer (b : Bracket) (rest : List Char) : Ends (b.closer :: rest) := by
  cases b with
  | square => exact ends_cons (.inr (.inr (.inl rfl))) rest
  | curly => exact ends_cons (.inr (.inr (.inr rfl))) rest

theorem goOn_closer (ended : Bool) (b : Bracket) (opened : List Bracket) {g : List Char}
    (hg : Gap g) (rest : List Char) :
    goOn ended (b :: opened) (g ++ b.closer :: rest) = goOn true opened rest := by
  obtain ⟨hspace, hcomma⟩ := b.closer_ne
  have hleave : leave ended (b :: opened) (g ++ b.closer :: rest) = leave true opened rest := by
    rw [leave, skipSpace_append hg hspace]
    simp [hcomma]
  rw [goOn, hleave, goOn]

theorem goOn_comma (b : Bracket) (opened : List Bracket) {g : List Char} (hg : Gap g)
    (rest : List Char) : goOn true (b :: opened) (g ++ ',' :: rest) = passItem b opened rest := by
  have hleave : leave true (b :: opened) (g ++ ',' :: rest) = .ok (b :: opened, rest) := by
    rw [leave, skipSpace_append hg rfl]
    rfl
  rw [goOn, hleave]

/-- Skipping passes an item of a list or a member of an object. -/
structure Passes (b : Bracket) (t : List Char) : Prop where
  starts : ∃ c cs, t = c :: cs ∧ isSpace c = false ∧ c ≠ b.closer
  passed : ∀ {opened : List Bracket} {g rest : List Char}, Gap g → Ends rest →
    passItem b opened (g ++ (t ++ rest)) = goOn true (b :: opened) rest

theorem goOn_first {b : Bracket} {opened : List Bracket} {g t : List Char} (hg : Gap g)
    (ht : Passes b t) (rest : List Char) :
    goOn false (b :: opened) (g ++ (t ++ rest)) = passItem b opened (t ++ rest) := by
  obtain ⟨c, cs, rfl, hspace, hcloser⟩ := ht.starts
  have hleave : leave false (b :: opened) (g ++ (c :: cs ++ rest)) =
      .ok (b :: opened, c :: cs ++ rest) := by
    rw [List.cons_append, leave, skipSpace_append hg hspace]
    simp [hcloser]
  rw [goOn, hleave]

theorem goOn_rest {b : Bracket} {opened : List Bracket} {ts : List (List Char)} {more : List Char}
    (h : Rest ts more) (hts : ∀ t ∈ ts, Passes b t) (rest : List Char) :
    goOn true (b :: opened) (more ++ b.closer :: rest) = goOn true opened rest := by
  induction h with
  | nil hg => exact goOn_closer true b opened hg rest
  | @cons h g t more ts hh hg hmore ih =>
    have ht : Passes b t := hts t List.mem_cons_self
    have hends : Ends (more ++ b.closer :: rest) := hmore.ends (b.ends_closer rest)
    have htext : h ++ ',' :: (g ++ (t ++ more)) ++ b.closer :: rest =
        h ++ ',' :: (g ++ (t ++ (more ++ b.closer :: rest))) := by
      simp
    rw [htext, goOn_comma b opened hh, ht.passed hg hends]
    exact ih fun u hu => hts u (List.mem_cons_of_mem t hu)

/-- **The inside of a list or an object** is passed with its closer. -/
theorem goOn_spread {b : Bracket} (opened : List Bracket) {ts : List (List Char)}
    {text : List Char} (h : Spread ts text) (hts : ∀ t ∈ ts, Passes b t) (rest : List Char) :
    goOn false (b :: opened) (text ++ b.closer :: rest) = goOn true opened rest := by
  cases ts with
  | nil =>
    cases h with
    | none hg => exact goOn_closer false b opened hg rest
  | cons t ts =>
    have ht : Passes b t := hts t List.mem_cons_self
    obtain ⟨g, more, rfl, hg, hmore⟩ := h.exists_rest
    have hends : Ends (more ++ b.closer :: rest) := hmore.ends (b.ends_closer rest)
    have htext : g ++ (t ++ more) ++ b.closer :: rest =
        g ++ (t ++ (more ++ b.closer :: rest)) := by
      simp
    have hpassed : passItem b opened (t ++ (more ++ b.closer :: rest)) =
        goOn true (b :: opened) (more ++ b.closer :: rest) := ht.passed gap_nil hends
    rw [htext, goOn_first hg ht, hpassed]
    exact goOn_rest hmore (fun u hu => hts u (List.mem_cons_of_mem t hu)) rest

/-! ## Values -/

theorem IsValue.starts {t : List Char} (h : IsValue t) : Starts t := by
  cases h with
  | null => exact ⟨_, _, rfl, rfl, by decide⟩
  | yes => exact ⟨_, _, rfl, rfl, by decide⟩
  | no => exact ⟨_, _, rfl, rfl, by decide⟩
  | text => exact ⟨_, _, rfl, rfl, by decide⟩
  | list => exact ⟨_, _, rfl, rfl, by decide⟩
  | object => exact ⟨_, _, rfl, rfl, by decide⟩
  | number hnumeral =>
    obtain ⟨d, ds, hd, rfl | rfl⟩ := hnumeral.starts
    · exact ⟨_, _, rfl, rfl, by decide⟩
    · exact ⟨_, _, rfl, isSpace_of_isDigit hd, Decimal.ne_of_isDigit hd rfl⟩

theorem enter_word (opened : List Bracket) {g : List Char} (hg : Gap g) {c : Char}
    {word : List Char}
    (hword : (c, word) ∈ [('n', ['u', 'l', 'l']), ('t', ['r', 'u', 'e']),
      ('f', ['a', 'l', 's', 'e'])]) (rest : List Char) :
    enter opened (g ++ (c :: word ++ rest)) = .ok (opened, true, rest) := by
  simp only [List.mem_cons, List.not_mem_nil, or_false, Prod.mk.injEq] at hword
  rcases hword with ⟨rfl, rfl⟩ | ⟨rfl, rfl⟩ | ⟨rfl, rfl⟩
  all_goals
    rw [List.cons_append, enter, skipSpace_append hg rfl]
    rfl

theorem enter_numeral (opened : List Bracket) {g t rest : List Char} (hg : Gap g)
    (ht : IsNumeral t) (hrest : Stops rest) :
    enter opened (g ++ (t ++ rest)) = .ok (opened, true, rest) := by
  cases ht with
  | @mk sign whole fraction exponent hsign hwhole hfraction hexponent =>
    have hskip := skipNumber_append hwhole hfraction hexponent hrest
    have htext : sign ++ (whole ++ (fraction ++ exponent)) ++ rest =
        sign ++ (whole ++ (fraction ++ (exponent ++ rest))) := by
      simp
    rw [htext]
    rcases hsign with rfl | rfl
    · obtain ⟨d, ds, hd, rfl⟩ := hwhole.starts
      have hne : d ≠ 'n' ∧ d ≠ 't' ∧ d ≠ 'f' ∧ d ≠ '-' :=
        ⟨Decimal.ne_of_isDigit hd rfl, Decimal.ne_of_isDigit hd rfl, Decimal.ne_of_isDigit hd rfl,
          Decimal.ne_of_isDigit hd rfl⟩
      rw [List.cons_append] at hskip
      rw [List.nil_append, List.cons_append, enter, skipSpace_append hg (isSpace_of_isDigit hd)]
      simp [hne, hd, hskip, Except.map]
    · rw [List.singleton_append, enter, skipSpace_append hg rfl]
      simp [hskip, Except.map]

theorem RawMember.HasKey.passes {m : RawMember} (h : m.HasKey)
    (hvalue : ∀ {opened : List Bracket} {g rest : List Char}, Gap g → Ends rest →
      skipOpen opened (g ++ (m.value ++ rest)) = goOn true opened rest) :
    Passes .curly m.text where
  starts := ⟨'"', _, rfl, rfl, by decide⟩
  passed := by
    intro opened g rest hg hrest
    have hchars := skipChars_append h.key (m.front ++ ':' :: (m.back ++ (m.value ++ rest)))
    have hcolon := skipSpace_append (c := ':') h.front rfl (m.back ++ (m.value ++ rest))
    have htext : g ++ (m.text ++ rest) =
        g ++ '"' :: (m.key ++ '"' :: (m.front ++ ':' :: (m.back ++ (m.value ++ rest)))) := by
      simp [RawMember.text]
    have hkey : skipKey (g ++ (m.text ++ rest)) = .ok (m.back ++ (m.value ++ rest)) := by
      rw [htext, skipKey, skipSpace_append hg rfl]
      simp only [hchars, bind, Except.bind, hcolon]
    rw [passItem, if_pos rfl, hkey]
    exact hvalue h.back hrest

/-- A value has ended in front of a text: unless it is a numeral, it shows itself where it ends. -/
def Ended (t rest : List Char) : Prop := IsNumeral t → Stops rest

theorem Ends.ended {rest : List Char} (h : Ends rest) (t : List Char) : Ended t rest :=
  fun _ => h.stops

theorem ended_cons {c : Char} (hsign : c ≠ '-') (hdigit : c.isDigit = false) (cs rest : List Char) :
    Ended (c :: cs) rest := by
  intro hnumeral
  obtain ⟨d, ds, hd, heq | heq⟩ := hnumeral.starts
  · exact absurd (List.cons.inj heq).1 hsign
  · obtain rfl := (List.cons.inj heq).1
    rw [hdigit] at hd
    cases hd

/-- **A value** is passed, whatever brackets are open around it. -/
theorem skipOpen_value {t : List Char} (h : IsValue t) :
    ∀ {opened : List Bracket} {g rest : List Char}, Gap g → Ended t rest →
      skipOpen opened (g ++ (t ++ rest)) = goOn true opened rest := by
  induction h with
  | null =>
    intro opened g rest hg _
    exact skipOpen_of_enter (enter_word opened hg (by decide) rest) (length_lt_behind g _ _ rest)
  | yes =>
    intro opened g rest hg _
    exact skipOpen_of_enter (enter_word opened hg (by decide) rest) (length_lt_behind g _ _ rest)
  | no =>
    intro opened g rest hg _
    exact skipOpen_of_enter (enter_word opened hg (by decide) rest) (length_lt_behind g _ _ rest)
  | number hnumeral =>
    intro opened g rest hg hrest
    have henter := enter_numeral opened hg hnumeral (hrest hnumeral)
    obtain ⟨d, ds, -, rfl | rfl⟩ := hnumeral.starts
    · exact skipOpen_of_enter henter (length_lt_behind g '-' (d :: ds) rest)
    · exact skipOpen_of_enter henter (length_lt_behind g d ds rest)
  | @text t ht =>
    intro opened g rest hg _
    have hchars := skipChars_append ht rest
    have htext : g ++ ('"' :: t ++ ['"'] ++ rest) = g ++ '"' :: (t ++ '"' :: rest) := by simp
    have henter : enter opened (g ++ ('"' :: t ++ ['"'] ++ rest)) = .ok (opened, true, rest) := by
      rw [htext, enter, skipSpace_append hg rfl]
      simp [hchars, Except.map]
    exact skipOpen_of_enter henter (length_lt_behind g '"' (t ++ ['"']) rest)
  | @list ts t hspread hvalues ih =>
    intro opened g rest hg _
    have hitems : ∀ u ∈ ts, Passes .square u := fun u hu =>
      ⟨(hvalues u hu).starts, fun hg hrest => ih u hu hg (hrest.ended u)⟩
    have hinside := goOn_spread opened hspread hitems rest
    have htext : g ++ ('[' :: t ++ [']'] ++ rest) = g ++ '[' :: (t ++ ']' :: rest) := by simp
    have henter : enter opened (g ++ '[' :: (t ++ ']' :: rest)) =
        .ok (.square :: opened, false, t ++ ']' :: rest) := by
      rw [enter, skipSpace_append hg rfl]
      rfl
    rw [htext, skipOpen_of_enter henter (length_lt_behind g '[' [] _)]
    exact hinside
  | @object ms t hspread hkeys _ ih =>
    intro opened g rest hg _
    have hmembers : ∀ u ∈ ms.map RawMember.text, Passes .curly u := by
      intro u hu
      obtain ⟨m, hm, rfl⟩ := List.mem_map.1 hu
      exact (hkeys m hm).passes fun hg hrest => ih m hm hg (hrest.ended m.value)
    have hinside := goOn_spread opened hspread hmembers rest
    have htext : g ++ ('\x7b' :: t ++ ['\x7d'] ++ rest) = g ++ '\x7b' :: (t ++ '\x7d' :: rest) := by
      simp
    have henter : enter opened (g ++ '\x7b' :: (t ++ '\x7d' :: rest)) =
        .ok (.curly :: opened, false, t ++ '\x7d' :: rest) := by
      rw [enter, skipSpace_append hg rfl]
      rfl
    rw [htext, skipOpen_of_enter henter (length_lt_behind g '\x7b' [] _)]
    exact hinside

/-- **Skipping a value** that stands alone stops behind it. -/
theorem skipValue_append {t : List Char} (h : IsValue t) {g rest : List Char} (hg : Gap g)
    (hrest : Ended t rest) : skipValue (g ++ (t ++ rest)) = .ok rest := by
  rw [skipValue, skipOpen_value h hg hrest]
  rfl

end BookCatalog.Json
