import BookCatalog.Toml.Printer

/-!
# Reading quoted texts back

Whichever of the four ways a text is written in, its quotes and escapes are undone when it is read,
whatever follows it but a quote.

* `readBasic_escapedText`, `readLiteral_append` — the two ways on one line;
* `readLongBasic_escapedText`, `readLongLiteral_append` — the two ways over several lines, where
  the quotes at the end of a text run into those that close it;
* `readText_quotedText` — the way that is chosen.
-/

namespace BookCatalog.Toml

/-! ## Characters -/

theorem numbered?_control : ∀ n < 128,
    numbered? ['0', '0', hexDigit (n / 16), hexDigit (n % 16)] = some (Char.ofNat n) := by
  decide

/-- A character that is no double quote stands for itself, or an escape stands for it that is read
back and folds no line. -/
theorem escapedChar_cases (long : Bool) (c : Char) :
    (escapedChar long c = [c] ∧ c ≠ '\\' ∧ (isPlain c = true ∨ long = true ∧ c = '\n')) ∨
      ∃ e, escapedChar long c = '\\' :: e ∧
        ∀ rest, foldedLine? (e ++ rest) = none ∧ escape? (e ++ rest) = some (c, e.length) := by
  unfold escapedChar
  split
  · next h => exact .inr ⟨_, rfl, fun rest => by rw [h]; exact ⟨rfl, rfl⟩⟩
  split
  · next h => exact .inr ⟨_, rfl, fun rest => by rw [h]; exact ⟨rfl, rfl⟩⟩
  split
  · next h =>
    rw [h]
    cases long with
    | true => exact .inl ⟨rfl, by decide, .inr ⟨rfl, rfl⟩⟩
    | false => exact .inr ⟨_, rfl, fun rest => ⟨rfl, rfl⟩⟩
  iterate 3
    split
    · next h => exact .inr ⟨_, rfl, fun rest => by rw [h]; exact ⟨rfl, rfl⟩⟩
  split
  · next hback hplain => exact .inl ⟨rfl, hback, .inl hplain⟩
  · next hplain =>
    have hcode : c.toNat < 128 := by
      simp only [isPlain, Bool.or_eq_true, Bool.and_eq_true, decide_eq_true_eq, not_or] at hplain
      omega
    have hread := numbered?_control c.toNat hcode
    rw [Char.ofNat_toNat] at hread
    refine .inr ⟨_, rfl, fun rest => ⟨rfl, ?_⟩⟩
    simp [escape?, hread]

/-! ## One line -/

theorem readBasic_escapedText (cs rest : List Char) (run : Nat) :
    readBasic (escapedText false run cs ++ '"' :: rest) = some (cs, rest) := by
  induction cs generalizing run with
  | nil => rw [escapedText, List.nil_append, readBasic, if_pos rfl]
  | cons c cs ih =>
    rw [escapedText]
    split
    · next h =>
      rw [if_neg (by simp), h, List.cons_append, List.cons_append, readBasic,
        if_neg (by decide), if_pos rfl]
      simp [escape?, ih]
    · next hquote =>
      rw [List.append_assoc]
      rcases escapedChar_cases false c with ⟨heq, hback, hplain⟩ | ⟨e, heq, hread⟩
      · have hplain : isPlain c = true := by simpa using hplain
        rw [heq, List.singleton_append, readBasic, if_neg hquote, if_neg hback, if_pos hplain, ih]
        rfl
      · rw [heq, List.cons_append, readBasic, if_neg (by decide), if_pos rfl, (hread _).2]
        simp only [List.drop_left, ih]
        rfl

theorem readLiteral_append {cs : List Char} (h : ∀ c ∈ cs, isPlain c = true ∧ c ≠ '\'')
    (rest : List Char) : readLiteral (cs ++ '\'' :: rest) = some (cs, rest) := by
  induction cs with
  | nil => rfl
  | cons c cs ih =>
    obtain ⟨hplain, hquote⟩ := h c (by simp)
    rw [List.cons_append, readLiteral, if_neg hquote, if_pos hplain,
      ih fun d hd => h d (by simp [hd])]
    rfl

/-! ## Closing quotes -/

section Closing

variable {quote : Char} {cs rest : List Char}

/-- Up to two quotes at the end of a text are told apart from the three that close it. -/
theorem closing?_replicate {n : Nat} (hn : n ≤ 2) (hrest : rest.head? ≠ some quote) :
    closing? quote (List.replicate n quote ++ quote :: quote :: quote :: rest) =
      some (List.replicate n quote, rest) := by
  have hall : List.replicate n quote ++ quote :: quote :: quote :: rest =
      List.replicate (n + 3) quote ++ rest := by
    rw [← List.replicate_append_replicate, List.append_assoc]
    rfl
  have hstop : rest.takeWhile (· = quote) = [] := by
    cases rest with
    | nil => rfl
    | cons d rest =>
      have hd : d ≠ quote := by simpa using hrest
      simp [hd]
  have htake : (List.replicate (n + 3) quote ++ rest).takeWhile (· = quote) =
      List.replicate (n + 3) quote := by
    rw [List.takeWhile_append_of_pos (by simp), hstop, List.append_nil]
  have hcount : min 5 (n + 3) = n + 3 := by omega
  have hdrop : (List.replicate (n + 3) quote ++ rest).drop (n + 3) = rest :=
    List.drop_left' List.length_replicate
  rw [hall]
  simp only [closing?, htake, List.length_replicate, hcount, hdrop]
  rw [if_pos (by omega), Nat.add_sub_cancel]

theorem closing?_eq_none (h : (cs.takeWhile (· = quote)).length ≤ 2) :
    closing? quote cs = none := by
  have hcount : ¬ 3 ≤ min 5 (cs.takeWhile (· = quote)).length := by omega
  simp only [closing?, if_neg hcount]

theorem closing?_cons {c : Char} (hc : c ≠ quote) : closing? quote (c :: cs) = none :=
  closing?_eq_none (by simp [hc])

end Closing

/-! ## Several lines in double quotes -/

section LongBasic

variable {c : Char} {cs rest : List Char}

theorem readLongBasic_closed {ds : List Char} (h : closing? '"' cs = some (ds, rest)) :
    readLongBasic cs = some (ds, rest) := by
  rw [readLongBasic.eq_def, h]

theorem readLongBasic_plain (hclosing : closing? '"' (c :: cs) = none) (hback : c ≠ '\\')
    (hplain : isPlain c = true ∨ c = '\n') :
    readLongBasic (c :: cs) = (readLongBasic cs).map fun (ds, after) => (c :: ds, after) := by
  have hreturn : c ≠ '\r' := by
    rintro rfl
    exact absurd hplain (by decide)
  have hkept : (c = '\n' || isPlain c) = true := by
    simpa [or_comm] using hplain
  rw [readLongBasic, hclosing]
  · simp only [if_neg hback, if_pos hkept]
  · exact fun _ h _ => hreturn h

theorem readLongBasic_escape {e : List Char} (hfold : foldedLine? (e ++ rest) = none)
    (hescape : escape? (e ++ rest) = some (c, e.length)) :
    readLongBasic ('\\' :: (e ++ rest)) =
      (readLongBasic rest).map fun (ds, after) => (c :: ds, after) := by
  rw [readLongBasic, closing?_cons (by decide)]
  · simp only [if_pos, hfold, hescape, List.drop_left]
  · exact fun _ h _ => absurd h (by decide)

/-- A text of which `run` double quotes were passed is two of them in all, or more than three
double quotes never stand in front of it, whatever follows it. -/
theorem quotes_escapedText (cs : List Char) {run : Nat} (hrun : run ≤ 2) :
    (∃ n, n + run ≤ 2 ∧ cs = List.replicate n '"' ∧
        escapedText true run cs = List.replicate n '"') ∨
      ∀ tail, ((escapedText true run cs ++ tail).takeWhile (· = '"')).length + run ≤ 2 := by
  induction cs generalizing run with
  | nil => exact .inl ⟨0, by omega, rfl, rfl⟩
  | cons c cs ih =>
    rw [escapedText]
    split
    · next h =>
      split
      · next hlong =>
        have hle : run + 1 ≤ 2 := by simpa [Nat.lt_succ_iff] using hlong
        rcases ih hle with ⟨n, hn, hcs, hout⟩ | hfew
        · exact .inl ⟨n + 1, by omega, by rw [h, hcs]; rfl, by rw [hout]; rfl⟩
        · refine .inr fun tail => ?_
          have htail := hfew tail
          simp only [List.cons_append, List.takeWhile_cons, decide_true, if_true,
            List.length_cons]
          omega
      · exact .inr fun tail => by simpa using hrun
    · next hquote =>
      refine .inr fun tail => ?_
      rcases escapedChar_cases true c with ⟨heq, -, -⟩ | ⟨e, heq, -⟩
      · simpa [heq, hquote] using hrun
      · simpa [heq] using hrun

/-- **Over several lines in double quotes** a text is read back, of which `run` double quotes were
passed. -/
theorem readLongBasic_escapedText (cs : List Char) {run : Nat} (hrun : run ≤ 2)
    (hrest : rest.head? ≠ some '"') :
    readLongBasic (escapedText true run cs ++ '"' :: '"' :: '"' :: rest) = some (cs, rest) := by
  induction cs generalizing run with
  | nil => exact readLongBasic_closed (closing?_replicate (n := 0) (by omega) hrest)
  | cons c cs ih =>
    rcases quotes_escapedText (c :: cs) hrun with ⟨n, hn, hcs, hout⟩ | hfew
    · rw [hout, hcs]
      exact readLongBasic_closed (closing?_replicate (by omega) hrest)
    have hfew := hfew ('"' :: '"' :: '"' :: rest)
    rw [escapedText] at hfew ⊢
    split at hfew
    · next h =>
      split at hfew
      · next hlong =>
        have hlt : run < 2 := by simpa using hlong
        rw [if_pos h, if_pos hlong, h]
        rw [List.cons_append] at hfew ⊢
        rw [readLongBasic_plain (closing?_eq_none (by omega)) (by decide) (.inl rfl),
          ih (by omega)]
        rfl
      · next hlong =>
        have hstep := @readLongBasic_escape '"'
          (escapedText true 0 cs ++ '"' :: '"' :: '"' :: rest) ['"'] rfl rfl
        rw [List.singleton_append] at hstep
        rw [if_pos h, if_neg hlong, h, List.cons_append, List.cons_append, hstep, ih (by omega)]
        rfl
    · next hquote =>
      rw [if_neg hquote, List.append_assoc]
      rcases escapedChar_cases true c with ⟨heq, hback, hplain⟩ | ⟨e, heq, hread⟩
      · have hplain : isPlain c = true ∨ c = '\n' := by simpa using hplain
        rw [heq, List.singleton_append, readLongBasic_plain (closing?_cons hquote) hback hplain,
          ih (by omega)]
        rfl
      · obtain ⟨hfold, hescape⟩ := hread (escapedText true 0 cs ++ '"' :: '"' :: '"' :: rest)
        rw [heq, List.cons_append, readLongBasic_escape hfold hescape, ih (by omega)]
        rfl

end LongBasic

/-! ## Several lines in single quotes -/

section LongLiteral

variable {c : Char} {cs rest : List Char}

theorem readLongLiteral_closed {ds : List Char} (h : closing? '\'' cs = some (ds, rest)) :
    readLongLiteral cs = some (ds, rest) := by
  rw [readLongLiteral.eq_def, h]

theorem readLongLiteral_plain (hclosing : closing? '\'' (c :: cs) = none)
    (hplain : isPlain c = true ∨ c = '\n') :
    readLongLiteral (c :: cs) = (readLongLiteral cs).map fun (ds, after) => (c :: ds, after) := by
  have hreturn : c ≠ '\r' := by
    rintro rfl
    exact absurd hplain (by decide)
  have hkept : (c = '\n' || isPlain c) = true := by
    simpa [or_comm] using hplain
  rw [readLongLiteral, hclosing]
  · simp only [if_pos hkept]
  · exact fun _ h _ => hreturn h

/-- A text without long runs of a quote, of which `run` quotes were passed, is two of them in all,
or more than three quotes never stand in front of it, whatever follows it. -/
theorem quotes_of_longestRun {quote : Char} {run : Nat} (h : longestRun quote run cs ≤ 2) :
    (∃ n, n + run ≤ 2 ∧ cs = List.replicate n quote) ∨
      ∀ tail, ((cs ++ tail).takeWhile (· = quote)).length + run ≤ 2 := by
  induction cs generalizing run with
  | nil => exact .inl ⟨0, by rwa [Nat.zero_add], rfl⟩
  | cons d ds ih =>
    rw [longestRun] at h
    split at h
    · next hd =>
      rcases ih h with ⟨n, hn, hds⟩ | hfew
      · exact .inl ⟨n + 1, by omega, by rw [hd, hds]; rfl⟩
      · refine .inr fun tail => ?_
        have htail := hfew tail
        simp only [List.cons_append, List.takeWhile_cons, hd, decide_true, if_true,
          List.length_cons]
        omega
    · next hd =>
      refine .inr fun tail => ?_
      have hrun : run ≤ 2 := Nat.le_trans (Nat.le_max_left run _) h
      simpa [hd] using hrun

/-- **Over several lines in single quotes** a text without long runs of them is read back, of which
`run` single quotes were passed. -/
theorem readLongLiteral_append {run : Nat} (hplain : ∀ c ∈ cs, isPlain c = true ∨ c = '\n')
    (hruns : longestRun '\'' run cs ≤ 2) (hrest : rest.head? ≠ some '\'') :
    readLongLiteral (cs ++ '\'' :: '\'' :: '\'' :: rest) = some (cs, rest) := by
  induction cs generalizing run with
  | nil => exact readLongLiteral_closed (closing?_replicate (n := 0) (by omega) hrest)
  | cons c cs ih =>
    rcases quotes_of_longestRun hruns with ⟨n, hn, hcs⟩ | hfew
    · rw [hcs]
      exact readLongLiteral_closed (closing?_replicate (by omega) hrest)
    have hfew := hfew ('\'' :: '\'' :: '\'' :: rest)
    have htail : readLongLiteral (cs ++ '\'' :: '\'' :: '\'' :: rest) = some (cs, rest) := by
      have hcs : ∀ d ∈ cs, isPlain d = true ∨ d = '\n' := fun d hd => hplain d (by simp [hd])
      rw [longestRun] at hruns
      split at hruns
      · exact ih hcs hruns
      · exact ih hcs (Nat.le_trans (Nat.le_max_right run _) hruns)
    rw [List.cons_append] at hfew ⊢
    rw [readLongLiteral_plain (closing?_eq_none (by omega)) (hplain c (by simp)), htail]
    rfl

end LongLiteral

/-! ## The chosen way -/

section Chosen

variable {cs text rest : List Char}

/-- What is read of a text on one line in double quotes does not start with three of them. -/
theorem readText_of_readBasic (h : readBasic cs = some (text, rest))
    (hrest : rest.head? ≠ some '"') : readText ('"' :: cs) = some (text, rest) := by
  have hlong : ∀ more, cs ≠ '"' :: '"' :: more := by
    rintro more rfl
    rw [readBasic, if_pos rfl] at h
    obtain ⟨-, rfl⟩ := Prod.mk.inj (Option.some.inj h)
    exact hrest rfl
  rw [readText, h]
  exact fun more hcs => hlong more hcs

theorem readText_of_readLiteral (h : readLiteral cs = some (text, rest))
    (hrest : rest.head? ≠ some '\'') : readText ('\'' :: cs) = some (text, rest) := by
  have hlong : ∀ more, cs ≠ '\'' :: '\'' :: more := by
    rintro more rfl
    rw [readLiteral, if_pos rfl] at h
    obtain ⟨-, rfl⟩ := Prod.mk.inj (Option.some.inj h)
    exact hrest rfl
  rw [readText, h]
  exact fun more hcs => hlong more hcs

theorem dropNewline_of_head (h : ∀ c, cs.head? = some c → c ≠ '\n' ∧ c ≠ '\r') :
    dropNewline cs = cs := by
  have hnone : newline? cs = none := by
    unfold newline?
    split
    · exact absurd rfl (h '\n' rfl).1
    · exact absurd rfl (h '\r' rfl).2
    · rfl
  rw [dropNewline, hnone]
  rfl

theorem ne_of_isPlain {c : Char} (h : isPlain c = true) : c ≠ '\n' ∧ c ≠ '\r' :=
  ⟨by rintro rfl; exact absurd h (by decide), by rintro rfl; exact absurd h (by decide)⟩

theorem head?_escapedText (hline : '\n' ∉ text) (tail : List Char) :
    ∀ c, (escapedText true 0 text ++ '"' :: tail).head? = some c → c ≠ '\n' ∧ c ≠ '\r' := by
  intro c hc
  cases text with
  | nil =>
    obtain rfl : '"' = c := Option.some.inj hc
    decide
  | cons d ds =>
    rw [escapedText] at hc
    split at hc
    · obtain rfl : '"' = c := Option.some.inj hc
      decide
    · rcases escapedChar_cases true d with ⟨heq, -, hplain⟩ | ⟨e, heq, -⟩
      · have hd : d ≠ '\n' := fun h => hline (by simp [h])
        obtain rfl : d = c := by simpa [heq] using hc
        exact ne_of_isPlain (by simpa [hd] using hplain)
      · obtain rfl : '\\' = c := by simpa [heq] using hc
        decide

theorem not_mem_of_longestRun {quote : Char} {run : Nat} (h : longestRun quote run cs = 0) :
    quote ∉ cs := by
  have hle : ∀ (run : Nat) (ds : List Char), run ≤ longestRun quote run ds := by
    intro run ds
    induction ds generalizing run with
    | nil => exact Nat.le_refl run
    | cons d ds ih =>
      rw [longestRun]
      split
      · exact Nat.le_trans (Nat.le_succ run) (ih (run + 1))
      · exact Nat.le_max_left run _
  induction cs generalizing run with
  | nil => exact List.not_mem_nil
  | cons c cs ih =>
    rw [longestRun] at h
    split at h
    · have := hle (run + 1) cs
      omega
    · next hc =>
      rw [List.mem_cons, not_or]
      have hzero : longestRun quote 0 cs = 0 := by omega
      exact ⟨Ne.symm hc, ih hzero⟩

theorem isPlain_of_codes (h : cs.any needsCode = false) :
    ∀ c ∈ cs, isPlain c = true ∨ c = '\n' := by
  intro c hc
  have hcode := List.any_eq_false.1 h c hc
  by_cases hline : c = '\n'
  · exact .inr hline
  · exact .inl (by simpa [needsCode, hline] using hcode)

theorem plain_of_choose (text : List Char) :
    (Quoting.choose text = .literal → ∀ c ∈ text, isPlain c = true ∧ c ≠ '\'') ∧
    (Quoting.choose text = .longLiteral →
      (∀ c ∈ text, isPlain c = true ∨ c = '\n') ∧ longestRun '\'' 0 text ≤ 2) := by
  unfold Quoting.choose
  dsimp only
  split
  · exact ⟨nofun, nofun⟩
  split
  · next h =>
    refine ⟨fun _ c hc => ?_, nofun⟩
    simp only [Bool.not_eq_true', Bool.or_eq_false_iff, decide_eq_false_iff_not] at h
    obtain ⟨⟨hcodes, hquotes⟩, hline⟩ := h
    have hquote : '\'' ∉ text := not_mem_of_longestRun (Nat.eq_zero_of_not_pos hquotes)
    have hline : '\n' ∉ text := by simpa using hline
    refine ⟨(isPlain_of_codes hcodes c hc).resolve_right ?_, ?_⟩
    · rintro rfl
      exact hline hc
    · rintro rfl
      exact hquote hc
  split
  · exact ⟨nofun, nofun⟩
  split
  · next h =>
    refine ⟨nofun, fun _ => ?_⟩
    simp only [Bool.not_eq_true', Bool.or_eq_false_iff, decide_eq_false_iff_not] at h
    exact ⟨isPlain_of_codes h.1, by omega⟩
  split <;> exact ⟨nofun, nofun⟩

/-- **A quoted text** is read back in front of everything but a quote. -/
theorem readText_quotedText (s : String) (hdouble : rest.head? ≠ some '"')
    (hsingle : rest.head? ≠ some '\'') :
    readText (quotedText s ++ rest) = some (s.toList, rest) := by
  obtain ⟨hliteral, hlong⟩ := plain_of_choose s.toList
  unfold quotedText
  generalize s.toList = text at *
  dsimp only
  cases hchoose : Quoting.choose text with
  | basic =>
    have hread := readBasic_escapedText text rest 0
    simpa [Quoting.quotes, Quoting.isLong] using readText_of_readBasic hread hdouble
  | literal =>
    have hread := readLiteral_append (hliteral hchoose) rest
    simpa [Quoting.quotes, Quoting.isLong] using readText_of_readLiteral hread hsingle
  | longBasic =>
    have hread := readLongBasic_escapedText text (Nat.zero_le 2) hdouble
    by_cases hline : '\n' ∈ text
    · simpa [Quoting.quotes, Quoting.isLong, hline, readText, dropNewline, newline?] using hread
    · have hdrop := dropNewline_of_head (head?_escapedText hline ('"' :: '"' :: rest))
      simpa [Quoting.quotes, Quoting.isLong, hline, readText, hdrop] using hread
  | longLiteral =>
    obtain ⟨hplain, hruns⟩ := hlong hchoose
    have hread := readLongLiteral_append hplain hruns hsingle
    by_cases hline : '\n' ∈ text
    · simpa [Quoting.quotes, Quoting.isLong, hline, readText, dropNewline, newline?] using hread
    · have hdrop : dropNewline (text ++ '\'' :: '\'' :: '\'' :: rest) =
          text ++ '\'' :: '\'' :: '\'' :: rest := by
        refine dropNewline_of_head fun c hc => ?_
        cases text with
        | nil =>
          obtain rfl : '\'' = c := Option.some.inj hc
          decide
        | cons d ds =>
          obtain rfl : d = c := Option.some.inj hc
          have hd : d ≠ '\n' := fun h => hline (by simp [h])
          exact ne_of_isPlain ((hplain d (by simp)).resolve_right hd)
      simpa [Quoting.quotes, Quoting.isLong, hline, readText, hdrop] using hread

end Chosen

end BookCatalog.Toml
