import BookCatalog.Proofs.Text.Occurrences
import Mathlib.Data.List.Infix

/-!
# Texts split at a word

A text is split at every occurrence of a word, each looked for behind the one before.  Where the
word cannot start again within itself, no occurrence reaches from a piece into the word behind it,
so pieces that the word joins are got back whatever their ends are.

* `split_of_firstAt`, `split_of_absent` — the first piece, and a text of one piece;
* `split_joined_iff` — pieces that are got back from the text that joins them;
* `occurrences_of_firstAt`, `absent_replaceFirst_iff` — exchanging the first occurrence leaves none
  exactly where the word occurs once at most.
-/

namespace BookCatalog.Text

variable {word old cs before after : List Char}

/-! ## Splitting -/

/-- The pieces of a text in front of which some characters are still to be passed over. -/
def splitBehind (word : List Char) : Nat → List Char → List (List Char)
  | _, [] => [[]]
  | n + 1, _ :: cs => splitBehind word n cs
  | 0, c :: cs =>
    if word <+: c :: cs then [] :: splitBehind word (word.length - 1) cs
    else (splitBehind word 0 cs).modifyHead (c :: ·)

/-- The pieces of a text between the occurrences of a word, which is not empty. -/
def split (word cs : List Char) : List (List Char) := splitBehind word 0 cs

theorem splitBehind_eq_split_drop (word : List Char) (n : Nat) (cs : List Char) :
    splitBehind word n cs = split word (cs.drop n) := by
  induction n generalizing cs with
  | zero => rfl
  | succ n ih =>
    cases cs with
    | nil => rfl
    | cons c cs => exact ih cs

theorem split_append (hword : word ≠ []) (after : List Char) :
    split word (word ++ after) = [] :: split word after := by
  obtain ⟨w, ws, rfl⟩ := List.exists_cons_of_ne_nil hword
  have hprefix : w :: ws <+: w :: (ws ++ after) := ⟨after, rfl⟩
  rw [List.cons_append, split, splitBehind, if_pos hprefix, splitBehind_eq_split_drop,
    List.length_cons, Nat.add_sub_cancel, List.drop_left]

theorem split_cons {c : Char} (h : ¬ word <+: c :: cs) :
    split word (c :: cs) = (split word cs).modifyHead (c :: ·) :=
  if_neg h

/-- The first piece ends where the word occurs first, and the others are those behind it. -/
theorem split_of_firstAt (hword : word ≠ []) (h : FirstAt word cs before after) :
    split word cs = before :: split word after := by
  induction before generalizing cs with
  | nil =>
    obtain rfl := h.eq
    exact split_append hword after
  | cons c before ih =>
    obtain ⟨rest, rfl, hprefix, hrest⟩ := h.exists_of_cons
    rw [split_cons hprefix, ih hrest, List.modifyHead_cons]

theorem split_of_absent (h : ¬ word <:+: cs) : split word cs = [cs] := by
  induction cs with
  | nil => rfl
  | cons c cs ih =>
    rw [split_cons fun hprefix => h hprefix.isInfix, ih fun hoccurs => h (List.infix_cons hoccurs),
      List.modifyHead_cons]

theorem FirstAt.absent_before (hword : word ≠ []) (h : FirstAt word cs before after) :
    ¬ word <:+: before := by
  obtain rfl := h.eq
  exact ((firstAt_append_iff hword).1 h).1

theorem FirstAt.length_lt (hword : word ≠ []) (h : FirstAt word cs before after) :
    after.length < cs.length := by
  have hpos := List.length_pos_of_ne_nil hword
  rw [h.eq]
  simp only [List.length_append]
  omega

theorem split_ne_nil (hword : word ≠ []) (cs : List Char) : split word cs ≠ [] := by
  by_cases hoccurs : word <:+: cs
  · obtain ⟨before, after, hfirst⟩ := exists_firstAt hoccurs
    rw [split_of_firstAt hword hfirst]
    exact List.cons_ne_nil _ _
  · rw [split_of_absent hoccurs]
    exact List.cons_ne_nil _ _

theorem absent_of_mem_split (hword : word ≠ []) {cs piece : List Char}
    (h : piece ∈ split word cs) : ¬ word <:+: piece := by
  by_cases hoccurs : word <:+: cs
  · obtain ⟨before, after, hfirst⟩ := exists_firstAt hoccurs
    have hshorter := hfirst.length_lt hword
    rw [split_of_firstAt hword hfirst, List.mem_cons] at h
    rcases h with rfl | h
    · exact hfirst.absent_before hword
    · exact absent_of_mem_split hword h
  · rw [split_of_absent hoccurs, List.mem_singleton] at h
    rwa [h]
termination_by cs.length

/-- **Pieces are got back** from the text in which a word joins them exactly if there are any and
none of them holds the word. -/
theorem split_joined_iff (hword : word ≠ []) (hrestarts : restarts word = [])
    {pieces : List (List Char)} :
    split word (joined word pieces) = pieces ↔ pieces ≠ [] ∧ ∀ p ∈ pieces, ¬ word <:+: p := by
  constructor
  · intro h
    rw [← h]
    exact ⟨split_ne_nil hword _, fun p hp => absent_of_mem_split hword hp⟩
  · rintro ⟨hne, habsent⟩
    obtain ⟨p, ps, rfl⟩ := List.exists_cons_of_ne_nil hne
    induction ps generalizing p with
    | nil => simpa [joined] using split_of_absent (habsent p List.mem_cons_self)
    | cons q qs ih =>
      have hrest := ih q (List.cons_ne_nil q qs) fun r hr =>
        habsent r (List.mem_cons_of_mem p hr)
      -- `p` may end in characters of the word, but the word starts nowhere within itself
      have hfirst : FirstAt word (p ++ word ++ joined word (q :: qs)) p (joined word (q :: qs)) :=
        (firstAt_append_iff hword).2 ⟨habsent p List.mem_cons_self, by simp [hrestarts]⟩
      calc split word (joined word (p :: q :: qs))
          = split word (p ++ word ++ joined word (q :: qs)) := by
            rw [joined, List.intercalate_cons_cons, joined]
        _ = p :: q :: qs := by rw [split_of_firstAt hword hfirst, hrest]

/-! ## Counting -/

/-- The number of places where a word occurs in a text. -/
def occurrences (word cs : List Char) : Nat := cs.tails.countP fun rest => word <+: rest

theorem occurrences_eq_zero_iff : occurrences word cs = 0 ↔ ¬ word <:+: cs := by
  simp only [occurrences, List.countP_eq_zero, List.mem_tails, decide_eq_true_eq,
    List.infix_iff_prefix_suffix, not_exists, not_and']

theorem occurrences_cons (word : List Char) (c : Char) (cs : List Char) :
    occurrences word (c :: cs) = occurrences word cs + if word <+: c :: cs then 1 else 0 := by
  simp [occurrences, List.countP_cons]

theorem occurrences_append {front : List Char}
    (h : ∀ start rest, rest ≠ [] → front = start ++ rest → ¬ word <+: rest ++ after) :
    occurrences word (front ++ after) = occurrences word after := by
  induction front with
  | nil => rfl
  | cons c front ih =>
    have hhere : ¬ word <+: c :: (front ++ after) := h [] (c :: front) (List.cons_ne_nil _ _) rfl
    rw [List.cons_append, occurrences_cons, if_neg hhere]
    exact ih fun start rest hne heq => h (c :: start) rest hne (congrArg (c :: ·) heq)

theorem occurrences_word_append (hword : word ≠ []) (hrestarts : restarts word = [])
    (after : List Char) : occurrences word (word ++ after) = occurrences word after + 1 := by
  obtain ⟨w, ws, rfl⟩ := List.exists_cons_of_ne_nil hword
  have hwithin : occurrences (w :: ws) (ws ++ after) = occurrences (w :: ws) after := by
    refine occurrences_append ?_
    rintro start rest hne rfl hprefix
    have hshort : rest.length ≤ (w :: (start ++ rest)).length := by
      simp only [List.length_cons, List.length_append]
      omega
    have hagain : w :: start ∈ restarts (w :: (start ++ rest)) :=
      mem_restarts_iff.2 ⟨List.cons_ne_nil _ _, rest, hne, rfl,
        List.prefix_of_prefix_length_le ⟨after, rfl⟩ hprefix hshort⟩
    rw [hrestarts] at hagain
    exact absurd hagain List.not_mem_nil
  have hhere : w :: ws <+: w :: (ws ++ after) := ⟨after, rfl⟩
  rw [List.cons_append, occurrences_cons, if_pos hhere, hwithin]

/-- Behind the first occurrence of a word that cannot start again within itself are all others. -/
theorem occurrences_of_firstAt (hword : word ≠ []) (hrestarts : restarts word = [])
    (h : FirstAt word cs before after) : occurrences word cs = occurrences word after + 1 := by
  induction before generalizing cs with
  | nil =>
    obtain rfl := h.eq
    exact occurrences_word_append hword hrestarts after
  | cons c before ih =>
    obtain ⟨rest, rfl, hprefix, hrest⟩ := h.exists_of_cons
    rw [occurrences_cons, if_neg hprefix, Nat.add_zero, ih hrest]

/-- **Exchanging the first occurrence** of a word for a character that it does not hold leaves no
occurrence exactly where there was one at most. -/
theorem absent_replaceFirst_iff (hold : old ≠ []) (hrestarts : restarts old = []) {sep : Char}
    (hsep : sep ∉ old) : ¬ old <:+: replaceFirst old [sep] cs ↔ occurrences old cs ≤ 1 := by
  by_cases hoccurs : old <:+: cs
  · obtain ⟨before, after, hfirst⟩ := exists_firstAt hoccurs
    have hput : old <:+: replaceFirst old [sep] cs ↔ old <:+: after := by
      rw [replaceFirst_of_firstAt hfirst, ← List.append_cons, infix_append_cons_iff hsep]
      exact or_iff_right (hfirst.absent_before hold)
    rw [hput, ← occurrences_eq_zero_iff, occurrences_of_firstAt hold hrestarts hfirst]
    omega
  · rw [replaceFirst_of_absent hoccurs, occurrences_eq_zero_iff.2 hoccurs]
    exact iff_of_true hoccurs (Nat.zero_le 1)

end BookCatalog.Text
