import BookCatalog.Text.Pieces
import Mathlib.Data.List.Basic

/-!
# First occurrences of a word

A word is exchanged where it occurs first.  The new word need not occur first where it was put: with
what stands before, an earlier occurrence may come about, if an end of a word is also its start.

* `FirstAt`, `replaceFirst_of_firstAt` — the first occurrence, and the text with it exchanged;
* `restarts`, `firstAt_append_iff` — where a word that was put into a text occurs first;
* `replaceFirst_replaceFirst_eq_iff` — when exchanging back gives the text again;
* `infix_iff_exists_part`, `splitOnP_replaceFirst` — texts in parts between marks.
-/

namespace BookCatalog.Text

variable {word old new cs before after : List Char}

/-! ## The first occurrence -/

/-- A word occurs first between what stands before and what stands after. -/
structure FirstAt (word cs before after : List Char) : Prop where
  eq : cs = before ++ word ++ after
  first : ∀ front back, cs = front ++ word ++ back → before.length ≤ front.length

theorem FirstAt.unique {before' after' : List Char} (h : FirstAt word cs before after)
    (h' : FirstAt word cs before' after') : before = before' ∧ after = after' := by
  have hle := h.first _ _ h'.eq
  have hge := h'.first _ _ h.eq
  have heq : before ++ (word ++ after) = before' ++ (word ++ after') := by
    rw [← List.append_assoc, ← List.append_assoc, ← h.eq, ← h'.eq]
  obtain ⟨rfl, hrest⟩ := List.append_inj heq (by omega)
  exact ⟨rfl, List.append_cancel_left hrest⟩

/-- A word that does not occur at once occurs first where it does in the rest of the text. -/
theorem FirstAt.exists_of_cons {c : Char} (h : FirstAt word cs (c :: before) after) :
    ∃ rest, cs = c :: rest ∧ ¬ word <+: cs ∧ FirstAt word rest before after := by
  obtain ⟨rfl, hfirst⟩ := h
  refine ⟨before ++ word ++ after, rfl, ?_, rfl, fun front back heq => ?_⟩
  · rintro ⟨back, hback⟩
    exact absurd (hfirst [] back hback.symm) (by simp)
  · exact Nat.le_of_succ_le_succ (hfirst (c :: front) back (congrArg (c :: ·) heq))

theorem FirstAt.isInfix (h : FirstAt word cs before after) : word <:+: cs :=
  ⟨before, after, h.eq.symm⟩

theorem exists_firstAt (h : word <:+: cs) : ∃ before after, FirstAt word cs before after := by
  have hstart : ∀ {cs}, word <+: cs → ∃ before after, FirstAt word cs before after := by
    rintro cs ⟨after, rfl⟩
    exact ⟨[], after, rfl, fun _ _ _ => Nat.zero_le _⟩
  induction cs with
  | nil =>
    obtain rfl := List.infix_nil.1 h
    exact hstart List.nil_prefix
  | cons c cs ih =>
    by_cases hprefix : word <+: c :: cs
    · exact hstart hprefix
    · obtain ⟨before, after, hfirst⟩ := ih ((List.infix_cons_iff.1 h).resolve_left hprefix)
      refine ⟨c :: before, after, congrArg (c :: ·) hfirst.eq, fun front back heq => ?_⟩
      cases front with
      | nil => exact absurd ⟨back, heq.symm⟩ hprefix
      | cons d front => exact Nat.succ_le_succ (hfirst.first _ _ (List.cons.inj heq).2)

theorem FirstAt.append (h : FirstAt word cs before after) (rest : List Char) :
    FirstAt word (cs ++ rest) before (after ++ rest) := by
  refine ⟨by rw [h.eq, List.append_assoc], fun front back heq => Nat.le_of_not_lt fun hlt => ?_⟩
  have hshort : (front ++ word).length ≤ cs.length := by
    rw [h.eq]
    simp only [List.length_append]
    omega
  obtain ⟨back', hback⟩ := List.prefix_of_prefix_length_le ⟨back, heq.symm⟩ ⟨rest, rfl⟩ hshort
  have hle := h.first front back' hback.symm
  omega

/-! ## Exchanging -/

theorem replaceFirst_append (old new after : List Char) :
    replaceFirst old new (old ++ after) = new ++ after := by
  have hprefix := List.isPrefixOf?_eq_some_iff_append_eq.2 (rfl : old ++ after = old ++ after)
  cases h : old ++ after with
  | nil =>
    obtain ⟨rfl, rfl⟩ := List.append_eq_nil_iff.1 h
    exact (if_pos rfl).trans (List.append_nil new).symm
  | cons c cs =>
    rw [h] at hprefix
    rw [replaceFirst, hprefix]

theorem replaceFirst_cons {c : Char} (h : ¬ old <+: c :: cs) :
    replaceFirst old new (c :: cs) = c :: replaceFirst old new cs := by
  have hnone : old.isPrefixOf? (c :: cs) = none := by
    refine Option.eq_none_iff_forall_ne_some.2 fun rest hrest => h ?_
    exact ⟨rest, List.isPrefixOf?_eq_some_iff_append_eq.1 hrest⟩
  rw [replaceFirst, hnone]

/-- **Exchanging a word** exchanges its first occurrence. -/
theorem replaceFirst_of_firstAt (h : FirstAt old cs before after) (new : List Char) :
    replaceFirst old new cs = before ++ new ++ after := by
  induction before generalizing cs with
  | nil =>
    obtain rfl := h.eq
    exact replaceFirst_append old new after
  | cons c before ih =>
    obtain ⟨rest, rfl, hprefix, hrest⟩ := h.exists_of_cons
    exact (replaceFirst_cons hprefix).trans (congrArg (c :: ·) (ih hrest))

theorem replaceFirst_of_absent (h : ¬ old <:+: cs) (new : List Char) :
    replaceFirst old new cs = cs := by
  induction cs with
  | nil =>
    refine if_neg ?_
    rintro rfl
    exact h List.infix_rfl
  | cons c cs ih =>
    rw [replaceFirst_cons fun hprefix => h hprefix.isInfix,
      ih fun hoccurs => h (List.infix_cons hoccurs)]

theorem replaceFirst_eq_self_iff (hne : old ≠ new) :
    replaceFirst old new cs = cs ↔ ¬ old <:+: cs := by
  constructor
  · intro hself hoccurs
    obtain ⟨before, after, hfirst⟩ := exists_firstAt hoccurs
    rw [replaceFirst_of_firstAt hfirst, hfirst.eq] at hself
    exact hne (List.append_cancel_left (List.append_cancel_right hself)).symm
  · exact fun h => replaceFirst_of_absent h new

/-! ## Where a new word occurs first -/

/-- The beginnings of a word after which it may start again: what is left of it is a beginning of
it, too. -/
def restarts (word : List Char) : List (List Char) :=
  ((List.range word.length).filter fun n => 0 < n ∧ word.drop n <+: word).map word.take

theorem mem_restarts_iff {start : List Char} :
    start ∈ restarts word ↔
      start ≠ [] ∧ ∃ rest, rest ≠ [] ∧ word = start ++ rest ∧ rest <+: word := by
  simp only [restarts, List.mem_map, List.mem_filter, List.mem_range, decide_eq_true_eq]
  constructor
  · rintro ⟨n, ⟨hlt, hpos, hprefix⟩, rfl⟩
    refine ⟨?_, word.drop n, ?_, (List.take_append_drop n word).symm, hprefix⟩
    · exact List.ne_nil_of_length_pos (by rw [List.length_take]; omega)
    · exact List.ne_nil_of_length_pos (by rw [List.length_drop]; omega)
  · rintro ⟨hstart, rest, hrest, hword, hprefix⟩
    have hpos := List.length_pos_of_ne_nil hstart
    have hlt := List.length_pos_of_ne_nil hrest
    refine ⟨start.length, ⟨?_, hpos, ?_⟩, ?_⟩
    · rw [hword, List.length_append]
      omega
    · rw [hword, List.drop_left, ← hword]
      exact hprefix
    · rw [hword, List.take_left]

/-- **A word that was put into a text** occurs first where it was put, unless it occurs before or
what stands before ends where it may start again. -/
theorem firstAt_append_iff (hword : word ≠ []) :
    FirstAt word (before ++ word ++ after) before after ↔
      ¬ word <:+: before ∧ ∀ start ∈ restarts word, ¬ start <:+ before := by
  have hpos := List.length_pos_of_ne_nil hword
  constructor
  · rintro ⟨-, hfirst⟩
    refine ⟨?_, fun start hstart => ?_⟩
    · rintro ⟨front, back, rfl⟩
      have hle := hfirst front (back ++ word ++ after) (by simp)
      simp only [List.length_append] at hle
      omega
    · rintro ⟨front, rfl⟩
      obtain ⟨hne, rest, -, hsplit, again, hagain⟩ := mem_restarts_iff.1 hstart
      have hmore := List.length_pos_of_ne_nil hne
      have heq : front ++ start ++ word ++ after = front ++ word ++ (again ++ after) := by
        calc front ++ start ++ word ++ after
            = front ++ start ++ (rest ++ again) ++ after := by rw [hagain]
          _ = front ++ (start ++ rest) ++ (again ++ after) := by simp only [List.append_assoc]
          _ = front ++ word ++ (again ++ after) := by rw [← hsplit]
      have hle := hfirst front (again ++ after) heq
      rw [List.length_append] at hle
      omega
  · rintro ⟨hbefore, hstarts⟩
    refine ⟨rfl, fun front back heq => Nat.le_of_not_lt fun hlt => ?_⟩
    rw [List.append_assoc, List.append_assoc] at heq
    obtain ⟨more, rfl, -⟩ | ⟨mid, rfl, hrest⟩ := List.append_eq_append_iff.1 heq
    · rw [List.length_append] at hlt
      omega
    · -- the earlier occurrence starts in front of `mid`, and ends in `mid` or in the new word
      obtain ⟨more, rfl, -⟩ | ⟨left, hleft, hafter⟩ := List.append_eq_append_iff.1 hrest
      · exact hbefore ⟨front, more, List.append_assoc front word more⟩
      · cases left with
        | nil =>
          rw [List.append_nil] at hleft
          exact hbefore ⟨front, [], by rw [hleft, List.append_nil]⟩
        | cons c left =>
          have hmid : mid ≠ [] := by
            rintro rfl
            simp at hlt
          have hshort : (c :: left).length ≤ word.length := by
            rw [hleft, List.length_append]
            omega
          have hprefix : c :: left <+: word :=
            List.prefix_of_prefix_length_le ⟨back, hafter.symm⟩ ⟨after, rfl⟩ hshort
          exact hstarts mid (mem_restarts_iff.2 ⟨hmid, _, List.cons_ne_nil c left, hleft, hprefix⟩)
            ⟨front, rfl⟩

/-! ## Exchanging back -/

/-- **Exchanging back** a word that a text did not hold gives the text again exactly where the new
word does not come about earlier: what stands before it does not end where the word may start
again. -/
theorem replaceFirst_replaceFirst_eq_iff (hnew : ¬ new <:+: cs) :
    replaceFirst new old (replaceFirst old new cs) = cs ↔
      ∀ before after, FirstAt old cs before after → ∀ start ∈ restarts new, ¬ start <:+ before := by
  have hne : new ≠ [] := by
    rintro rfl
    exact hnew List.nil_infix
  by_cases hold : old <:+: cs
  · obtain ⟨before, after, hfirst⟩ := exists_firstAt hold
    have hbefore : ¬ new <:+: before := by
      intro hoccurs
      refine hnew (hoccurs.trans ?_)
      exact ⟨[], old ++ after, by rw [hfirst.eq, List.nil_append, List.append_assoc]⟩
    have hput : FirstAt new (before ++ new ++ after) before after ↔
        ∀ start ∈ restarts new, ¬ start <:+ before := by
      rw [firstAt_append_iff hne, and_iff_right hbefore]
    rw [replaceFirst_of_firstAt hfirst]
    constructor
    · intro hback before' after' hfirst'
      obtain ⟨rfl, rfl⟩ := hfirst.unique hfirst'
      obtain ⟨front, back, hagain⟩ := exists_firstAt (List.infix_append before new after)
      -- the old word is put back where it stood first, not earlier
      rw [replaceFirst_of_firstAt hagain] at hback
      have hle := hfirst.first front back hback.symm
      have hge := hagain.first before after rfl
      have heq : before ++ (new ++ after) = front ++ (new ++ back) := by
        rw [← List.append_assoc, ← List.append_assoc, hagain.eq]
      obtain ⟨rfl, hrest⟩ := List.append_inj heq (by omega)
      obtain rfl := List.append_cancel_left hrest
      exact hput.1 hagain
    · intro hstarts
      rw [replaceFirst_of_firstAt (hput.2 (hstarts before after hfirst)), hfirst.eq]
  · rw [replaceFirst_of_absent hold, replaceFirst_of_absent hnew]
    exact iff_of_true rfl fun before after hfirst => absurd hfirst.isInfix hold

/-! ## Parts between marks -/

theorem prefix_of_prefix_append_cons (cs : List Char) {sep : Char} {rest : List Char}
    (hsep : sep ∉ word) (h : word <+: cs ++ sep :: rest) : word <+: cs := by
  obtain ⟨more, hmore⟩ := h
  obtain ⟨left, rfl, -⟩ | ⟨left, rfl, hleft⟩ := List.append_eq_append_iff.1 hmore
  · exact ⟨left, rfl⟩
  · cases left with
    | nil => exact ⟨[], by simp⟩
    | cons c left =>
      obtain ⟨rfl, -⟩ := List.cons.inj hleft
      exact absurd (List.mem_append_right cs List.mem_cons_self) hsep

theorem infix_append_cons_iff {sep : Char} {rest : List Char} (hsep : sep ∉ word) :
    word <:+: cs ++ sep :: rest ↔ word <:+: cs ∨ word <:+: rest := by
  constructor
  · intro h
    induction cs with
    | nil =>
      refine (List.infix_cons_iff.1 h).imp_left fun hprefix => ?_
      exact (prefix_of_prefix_append_cons [] hsep hprefix).isInfix
    | cons c cs ih =>
      rcases List.infix_cons_iff.1 h with hprefix | hoccurs
      · exact .inl (prefix_of_prefix_append_cons (c :: cs) hsep hprefix).isInfix
      · exact (ih hoccurs).imp_left List.infix_cons
  · rintro (h | h)
    · exact List.infix_append_of_infix_left h
    · exact List.infix_append_of_infix_right (List.infix_cons h)

theorem replaceFirst_append_cons {sep : Char} (hsep : sep ∉ old) (h : ¬ old <:+: cs)
    (new rest : List Char) :
    replaceFirst old new (cs ++ sep :: rest) = cs ++ sep :: replaceFirst old new rest := by
  induction cs with
  | nil =>
    refine replaceFirst_cons fun hprefix => h ?_
    exact (prefix_of_prefix_append_cons [] hsep hprefix).isInfix
  | cons c cs ih =>
    have hprefix : ¬ old <+: c :: (cs ++ sep :: rest) := fun hprefix =>
      h (prefix_of_prefix_append_cons (c :: cs) hsep hprefix).isInfix
    rw [List.cons_append, replaceFirst_cons hprefix, ih fun hoccurs => h (List.infix_cons hoccurs),
      List.cons_append]

section Parts

variable {isMark : Char → Bool}

/-- A text is one part, or a part in front of a mark and what is behind it. -/
theorem parts_induction (isMark : Char → Bool) {motive : List Char → Prop}
    (last : ∀ part, (∀ c ∈ part, isMark c = false) → motive part)
    (mark : ∀ part sep rest, (∀ c ∈ part, isMark c = false) → isMark sep = true → motive rest →
      motive (part ++ sep :: rest)) (cs : List Char) : motive cs := by
  suffices h : ∀ part, (∀ c ∈ part, isMark c = false) → motive (part ++ cs) from h [] (by simp)
  induction cs with
  | nil =>
    intro part hpart
    rw [List.append_nil]
    exact last part hpart
  | cons c cs ih =>
    intro part hpart
    cases hc : isMark c with
    | true => exact mark part c cs hpart hc (ih [] (by simp))
    | false =>
      rw [List.append_cons]
      refine ih (part ++ [c]) fun d hd => ?_
      rcases List.mem_append.1 hd with hd | hd
      · exact hpart d hd
      · rw [List.mem_singleton.1 hd, hc]

theorem not_mem_of_isMark {sep : Char} (hword : ∀ c ∈ word, isMark c = false)
    (hsep : isMark sep = true) : sep ∉ word := by
  intro hmem
  rw [hword sep hmem] at hsep
  cases hsep

/-- **A word without marks** occurs in a text where it occurs in one of its parts. -/
theorem infix_iff_exists_part (hword : ∀ c ∈ word, isMark c = false) :
    word <:+: cs ↔ ∃ part ∈ cs.splitOnP isMark, word <:+: part := by
  induction cs using parts_induction isMark with
  | last part hpart => simp [List.splitOnP_eq_singleton hpart]
  | mark part sep rest hpart hsep ih =>
    rw [infix_append_cons_iff (not_mem_of_isMark hword hsep), ih,
      List.splitOnP_append_cons_of_forall_mem hpart sep hsep]
    simp

/-- **Exchanging a word** that occurs as a whole part only exchanges the first such part. -/
theorem splitOnP_replaceFirst (hold : ∀ c ∈ old, isMark c = false)
    (hnew : ∀ c ∈ new, isMark c = false)
    (h : ∀ part ∈ cs.splitOnP isMark, old <:+: part → part = old) :
    (replaceFirst old new cs).splitOnP isMark = (cs.splitOnP isMark).replace old new := by
  induction cs using parts_induction isMark with
  | last part hpart =>
    rw [List.splitOnP_eq_singleton hpart] at h ⊢
    by_cases hpartOld : part = old
    · subst hpartOld
      have hself := replaceFirst_append part new []
      rw [List.append_nil, List.append_nil] at hself
      rw [hself, List.splitOnP_eq_singleton hnew]
      simp
    · have hoccurs : ¬ old <:+: part := fun hoccurs =>
        hpartOld (h part (List.mem_singleton_self part) hoccurs)
      have hother : (old == part) = false := beq_eq_false_iff_ne.2 (Ne.symm hpartOld)
      rw [replaceFirst_of_absent hoccurs, List.splitOnP_eq_singleton hpart]
      simp [List.replace_cons, hother]
  | mark part sep rest hpart hsep ih =>
    rw [List.splitOnP_append_cons_of_forall_mem hpart sep hsep] at h ⊢
    by_cases hpartOld : part = old
    · subst hpartOld
      rw [replaceFirst_append, List.splitOnP_append_cons_of_forall_mem hnew sep hsep]
      simp
    · have hoccurs : ¬ old <:+: part := fun hoccurs =>
        hpartOld (h part List.mem_cons_self hoccurs)
      have hother : (old == part) = false := beq_eq_false_iff_ne.2 (Ne.symm hpartOld)
      rw [replaceFirst_append_cons (not_mem_of_isMark hold hsep) hoccurs,
        List.splitOnP_append_cons_of_forall_mem hpart sep hsep,
        ih fun other hmem => h other (List.mem_cons_of_mem part hmem)]
      simp [List.replace_cons, hother]

theorem filter_replaceFirst (hold : ∀ c ∈ old, isMark c = false)
    (hnew : ∀ c ∈ new, isMark c = false) :
    (replaceFirst old new cs).filter isMark = cs.filter isMark := by
  by_cases hoccurs : old <:+: cs
  · obtain ⟨before, after, hfirst⟩ := exists_firstAt hoccurs
    have hnone : old.filter isMark = new.filter isMark := by
      rw [List.filter_eq_nil_iff.2 fun c hc => by simp [hold c hc],
        List.filter_eq_nil_iff.2 fun c hc => by simp [hnew c hc]]
    rw [replaceFirst_of_firstAt hfirst, hfirst.eq]
    simp only [List.filter_append, hnone]
  · rw [replaceFirst_of_absent hoccurs]

end Parts

end BookCatalog.Text
