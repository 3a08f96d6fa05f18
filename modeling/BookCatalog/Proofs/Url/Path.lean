import BookCatalog.Proofs.Url.Push
import BookCatalog.Url.Parser
import Mathlib.Data.List.Basic

/-!
# Paths that are read

What the reader of addresses makes of the text of a path: its segments, which hold no slash, and how
they move in the path.

* `Text.cut_concat`, `Url.segments_concat` — the last piece of a text and its last segment;
* `Url.mem_follow` — no segment comes from elsewhere;
* `Url.follow_concat` — one segment more stands where the empty one would stand at the end;
* `Url.writePath_stem` — so it is written behind one slash.
-/

namespace BookCatalog

/-! ## Pieces -/

namespace Text

variable {sep : Char}

theorem not_mem_of_mem_cut {cs piece : List Char} (h : piece ∈ cut sep cs) : sep ∉ piece := by
  induction cs generalizing piece with
  | nil =>
    obtain rfl := List.mem_singleton.1 h
    exact List.not_mem_nil
  | cons c cs ih =>
    unfold cut at h
    split at h
    · rcases List.mem_cons.1 h with rfl | h
      · exact List.not_mem_nil
      · exact ih h
    · next hc =>
      obtain ⟨p, ps, hcut⟩ := List.exists_cons_of_ne_nil (cut_ne_nil sep cs)
      rw [hcut] at h ih
      rcases List.mem_cons.1 h with rfl | h
      · rw [List.mem_cons, not_or]
        exact ⟨fun heq => hc heq.symm, ih List.mem_cons_self⟩
      · exact ih (List.mem_cons_of_mem p h)

theorem cut_concat {c : Char} (hc : c ≠ sep) (cs : List Char) :
    ∃ front piece, cut sep (cs ++ [c]) = front ++ [piece ++ [c]] := by
  induction cs with
  | nil => exact ⟨[], [], by simp [cut, hc]⟩
  | cons d cs ih =>
    obtain ⟨front, piece, hcut⟩ := ih
    rw [List.cons_append, cut, hcut]
    split
    · exact ⟨[] :: front, piece, rfl⟩
    · cases front with
      | nil => exact ⟨[], d :: piece, rfl⟩
      | cons p front => exact ⟨(d :: p) :: front, piece, rfl⟩

end Text

/-! ## Percent-encoding -/

namespace Percent

variable {keep : Char → Bool} {cs : List Char} {x : Char}

/-- A mark that plays no part in percent-encoding is in an encoded text only where it was kept. -/
theorem mem_of_mem_encode (hpercent : x ≠ '%') (halnum : x.isAlphanum = false)
    (h : x ∈ encode keep cs) : x ∈ cs ∧ keep x = true := by
  obtain ⟨c, hc, hx⟩ := List.mem_flatMap.1 h
  split at hx
  · next hkeep =>
    obtain rfl := List.mem_singleton.1 hx
    exact ⟨hc, hkeep⟩
  · rcases of_mem_escape hx with hx | hx
    · exact absurd hx hpercent
    · rw [halnum] at hx
      cases hx

theorem encode_ne_nil (keep : Char → Bool) (h : cs ≠ []) : encode keep cs ≠ [] := by
  obtain ⟨c, cs, rfl⟩ := List.exists_cons_of_ne_nil h
  rw [encode, List.flatMap_cons]
  split
  · exact List.cons_ne_nil c _
  · exact fun hnil => escape_ne_nil c (List.append_eq_nil_iff.1 hnil).1

end Percent

namespace Url

/-! ## Segments -/

theorem slash_not_mem_segments {cs segment : List Char} (h : segment ∈ segments cs) :
    '/' ∉ segment := by
  obtain ⟨piece, hpiece, rfl⟩ := List.mem_map.1 h
  intro hmem
  exact Text.not_mem_of_mem_cut hpiece (Percent.mem_of_mem_encode (by decide) (by decide) hmem).1

theorem segments_ne_nil (cs : List Char) : segments cs ≠ [] := by
  intro h
  exact Text.cut_ne_nil '/' _ (List.map_eq_nil_iff.1 h)

theorem segments_append (cs ds : List Char) :
    segments (cs ++ '/' :: ds) = segments cs ++ segments ds := by
  unfold segments
  rw [List.map_append, List.map_cons, if_neg (by decide), Text.cut_append_cons, List.map_append]

theorem segments_concat {c : Char} (hc : isSlash c = false) (cs : List Char) :
    ∃ front last, segments (cs ++ [c]) = front ++ [last] ∧ last ≠ [] := by
  obtain ⟨hslash, hback⟩ : c ≠ '/' ∧ c ≠ '\\' := by simpa [isSlash] using hc
  obtain ⟨front, piece, hcut⟩ :=
    Text.cut_concat hslash (cs.map fun c => if c = '\\' then '/' else c)
  refine ⟨front.map (Percent.encode Percent.keepInPath),
    Percent.encode Percent.keepInPath (piece ++ [c]), ?_, Percent.encode_ne_nil _ (by simp)⟩
  rw [segments, List.map_append, List.map_singleton, if_neg hback, hcut, List.map_append,
    List.map_singleton]

/-! ## Moves in a path -/

theorem mem_of_mem_above {path : List (List Char)} {s : List Char} (h : s ∈ above path) :
    s ∈ path := by
  unfold above at h
  split at h
  · exact h
  · exact List.dropLast_subset path h

/-- The segments of a path that is followed stood in it or were to come, but for the empty one. -/
theorem mem_follow {path ss : List (List Char)} {s : List Char} (h : s ∈ follow path ss) :
    s = [] ∨ s ∈ path ∨ s ∈ ss := by
  have habove : ∀ path, s ∈ above path → s ∈ path := fun path => mem_of_mem_above
  fun_induction follow path ss <;> grind

theorem slash_not_mem_follow {cs s : List Char} (h : s ∈ follow [] (segments cs)) : '/' ∉ s := by
  rcases mem_follow h with rfl | h | h
  · exact List.not_mem_nil
  · cases h
  · exact slash_not_mem_segments h

theorem follow_cons_ne_nil (path : List (List Char)) (s : List Char) (ss : List (List Char)) :
    follow path (s :: ss) ≠ [] := by
  induction ss generalizing path s with
  | nil =>
    unfold follow
    split
    · simp
    · split <;> simp
  | cons t ss ih =>
    unfold follow
    split
    · exact ih _ t
    · split
      · exact ih _ t
      · exact ih _ t

theorem follow_segments_ne_nil (cs : List Char) : follow [] (segments cs) ≠ [] := by
  obtain ⟨s, ss, hss⟩ := List.exists_cons_of_ne_nil (segments_ne_nil cs)
  rw [hss]
  exact follow_cons_ne_nil [] s ss

/-- **One segment more** behind one that is not empty: it stands where the empty segment would stand
that dots leave at the end. -/
theorem follow_concat (path : List (List Char)) {front : List (List Char)} {last s : List Char}
    (hlast : last ≠ []) (hdot : isDot s = false) (hdots : isDoubleDot s = false) :
    follow path (front ++ [last, s]) = stem (follow path (front ++ [last])) ++ [s] := by
  induction front generalizing path with
  | nil =>
    simp only [List.nil_append, follow, hdot, hdots, Bool.false_eq_true, if_false]
    split
    · simp [stem]
    · split
      · simp [stem]
      · simp [stem, hlast]
  | cons t front ih =>
    -- what is to come does not run out at `t`, so `t` moves in the path alike on both sides
    obtain ⟨u, more, hmore⟩ : ∃ u more, front ++ [last] = u :: more :=
      List.exists_cons_of_ne_nil (by simp)
    have hlonger : front ++ [last, s] = u :: (more ++ [s]) := by
      rw [← List.cons_append, ← hmore, List.append_assoc, List.singleton_append]
    rw [hlonger, hmore] at ih
    rw [List.cons_append, List.cons_append, hlonger, hmore, follow, follow]
    split
    · exact ih _
    · split
      · exact ih _
      · exact ih _

/-! ## Written paths -/

/-- A path is written with a slash at its end where its last segment is empty. -/
theorem getLast?_writePath_concat (front : List (List Char)) {last : List Char}
    (h : '/' ∉ last) : (writePath (front ++ [last])).getLast? = some '/' ↔ last = [] := by
  rw [writePath_append, List.getLast?_append_of_ne_nil _ (List.cons_ne_nil _ _), List.getLast?_cons]
  cases hlast : last.getLast? with
  | none => simpa using hlast
  | some c =>
    have hmem : c ∈ last := List.mem_of_getLast? hlast
    constructor
    · rintro heq
      obtain rfl := Option.some.inj heq
      exact absurd hmem h
    · rintro rfl
      cases hmem

/-- **A segment behind the stem of a path** is written behind the path itself, with a slash between
them unless the path ends with one. -/
theorem writePath_stem_concat {path : List (List Char)} (hpath : path ≠ [])
    (hslash : ∀ segment ∈ path, '/' ∉ segment) (s : List Char) :
    writePath (stem path ++ [s]) = writePath path ++
      (if (writePath path).getLast? = some '/' then [] else ['/']) ++ s := by
  obtain ⟨front, last, rfl⟩ : ∃ front last, path = front ++ [last] :=
    ⟨path.dropLast, path.getLast hpath, (List.dropLast_append_getLast hpath).symm⟩
  have hends := getLast?_writePath_concat front (hslash last (by simp))
  by_cases hlast : last = []
  · rw [if_pos (hends.2 hlast), writePath_append, List.append_nil]
    simp [stem, hlast, writePath_append]
  · rw [if_neg fun h => hlast (hends.1 h), writePath_append]
    simp [stem, hlast]

end Url

end BookCatalog
