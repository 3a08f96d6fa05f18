import BookCatalog.Proofs.Url.Encoding

/-!
# Texts pushed to a path

A text that is pushed to the path of an address becomes one segment of it, from which the text can
be read, unless it is one dot or two.

* `Percent.encode_injective` — different texts are encoded differently;
* `Url.push_eq` — what a push leaves of the path, and what it puts behind that;
* `Url.write_append_injective` — addresses that differ in their last segment are written
  differently.
-/

namespace BookCatalog

/-! ## Encoded texts -/

namespace Utf8

theorem encode_injective {cs ds : List Char} (h : encode cs = encode ds) : cs = ds := by
  rw [← decodeLenient_encode cs, h, decodeLenient_encode]

end Utf8

namespace Percent

/-- **Different texts** are encoded differently, where the percent sign is not kept. -/
theorem encode_injective {keep : Char → Bool} (hkeep : keep '%' = false) {cs ds : List Char}
    (h : encode keep cs = encode keep ds) : cs = ds := by
  apply Utf8.encode_injective
  rw [← decode_encode hkeep cs, h, decode_encode hkeep]

theorem not_mem_segment {mark : Char} (h : mark ∈ ['/', '?', '#', '\\']) (cs : List Char) :
    mark ∉ encode keepInSegment cs := by
  have hmark : keepInSegment mark = false ∧ mark ≠ '%' ∧ mark.isAlphanum = false := by
    simp only [List.mem_cons, List.not_mem_nil, or_false] at h
    rcases h with rfl | rfl | rfl | rfl <;> decide
  intro hmem
  rcases of_mem_encode hmem with hkeep | hpercent | halpha
  · simp [hmark.1] at hkeep
  · exact hmark.2.1 hpercent
  · simp [hmark.2.2] at halpha

end Percent

/-! ## Segments of dots -/

namespace Url

theorem toLower_cases (c : Char) :
    c.toLower = c ∨ c.toLower.toNat = c.toNat + 32 ∧ 65 ≤ c.toNat ∧ c.toNat ≤ 90 := by
  unfold Char.toLower
  split
  · next h =>
    have hlow : 65 ≤ c.toNat := h.1
    have hhigh : c.toNat ≤ 90 := h.2
    refine .inr ⟨?_, hlow, hhigh⟩
    have hstep : ('a'.val - 'A'.val).toNat = 32 := by decide
    change (c.val + ('a'.val - 'A'.val)).toNat = c.toNat + 32
    rw [UInt32.toNat_add, hstep]
    exact Nat.mod_eq_of_lt (by change c.toNat + 32 < _; omega)
  · exact .inl rfl

theorem eq_of_toLower {c d : Char} (h : c.toLower = d) (hd : d.toNat < 97) : c = d := by
  rcases toLower_cases c with hself | ⟨hsum, hlow, -⟩
  · rw [← h, hself]
  · rw [h] at hsum
    omega

theorem hexValue?_of_toLower {c : Char} (h : c.toLower = 'e') : Text.hexValue? c = some 14 := by
  rcases toLower_cases c with hself | ⟨hsum, -⟩
  · rw [← hself, h]
    rfl
  · rw [h] at hsum
    rw [Char.toNat_inj.1 (Nat.add_right_cancel hsum.symm : c.toNat = 'E'.toNat)]
    rfl

theorem decode_dot {a : Char} (ha : a.toLower = '.') (rest : List Char) :
    Percent.decode (a :: rest) = 0x2E :: Percent.decode rest := by
  obtain rfl := eq_of_toLower ha (by decide)
  exact Percent.decode_cons (by decide) rest

/-- A dot may be written as its byte, with the letter in either case. -/
theorem decode_encodedDot {a b c : Char} (ha : a.toLower = '%') (hb : b.toLower = '2')
    (hc : c.toLower = 'e') (rest : List Char) :
    Percent.decode (a :: b :: c :: rest) = 0x2E :: Percent.decode rest := by
  obtain rfl := eq_of_toLower ha (by decide)
  obtain rfl := eq_of_toLower hb (by decide)
  have htwo : Text.hexValue? '2' = some 2 := by decide
  simp only [Percent.decode, htwo, hexValue?_of_toLower hc]
  rfl

theorem decode_of_isDot {segment : List Char} (h : isDot segment = true) :
    Percent.decode segment = Utf8.encode ['.'] := by
  simp only [isDot, Bool.or_eq_true, decide_eq_true_eq, List.map_eq_cons_iff,
    List.map_eq_nil_iff] at h
  obtain rfl | ⟨a, -, rfl, ha, b, -, rfl, hb, c, -, rfl, hc, rfl⟩ := h
  · rfl
  · exact decode_encodedDot ha hb hc []

theorem decode_of_isDoubleDot {segment : List Char} (h : isDoubleDot segment = true) :
    Percent.decode segment = Utf8.encode ['.', '.'] := by
  simp only [isDoubleDot, decide_eq_true_eq, List.mem_cons, List.not_mem_nil, or_false,
    List.map_eq_cons_iff, List.map_eq_nil_iff] at h
  obtain ⟨a, -, rfl, ha, b, -, rfl, hb, rfl⟩ | ⟨a, -, rfl, ha, b, -, rfl, hb, c, -, rfl, hc, d, -,
      rfl, hd, rfl⟩ | ⟨a, -, rfl, ha, b, -, rfl, hb, c, -, rfl, hc, d, -, rfl, hd, rfl⟩ |
    ⟨a, -, rfl, ha, b, -, rfl, hb, c, -, rfl, hc, d, -, rfl, hd, e, -, rfl, he, f, -, rfl, hf,
      rfl⟩ := h
  · rw [decode_dot ha, decode_dot hb]
    rfl
  · rw [decode_dot ha, decode_encodedDot hb hc hd]
    rfl
  · rw [decode_encodedDot ha hb hc, decode_dot hd]
    rfl
  · rw [decode_encodedDot ha hb hc, decode_encodedDot hd he hf]
    rfl

theorem encode_not_dots {cs : List Char} (hone : cs ≠ ['.']) (htwo : cs ≠ ['.', '.']) :
    isDot (Percent.encode Percent.keepInSegment cs) = false ∧
      isDoubleDot (Percent.encode Percent.keepInSegment cs) = false := by
  have hback : Percent.decode (Percent.encode Percent.keepInSegment cs) = Utf8.encode cs :=
    Percent.decode_encode (by decide) cs
  constructor
  · refine eq_false_of_ne_true fun h => hone (Utf8.encode_injective ?_)
    rw [← hback, decode_of_isDot h]
  · refine eq_false_of_ne_true fun h => htwo (Utf8.encode_injective ?_)
    rw [← hback, decode_of_isDoubleDot h]

/-! ## Pushing -/

theorem push_eq_withPath (url : Url) (text : String) :
    ∃ path, url.push text = { url with path := path } := by
  unfold push
  dsimp only
  split
  · exact ⟨_, rfl⟩
  · exact ⟨_, rfl⟩

/-- A path without an empty segment at its end. -/
def stem (path : List (List Char)) : List (List Char) :=
  if path.getLast? = some [] then path.dropLast else path

/-- The segments behind which a pushed text stands: those of a path without an empty one at its end,
and none of a path of two empty segments. -/
def ground (path : List (List Char)) : List (List Char) :=
  if path = [[], []] then [] else stem path

/-- **What a push leaves of a path**: the root left by a path of two empty segments gives way
too. -/
theorem append_dropEmptyEnd (path : List (List Char)) (segment : List Char) :
    append (dropEmptyEnd path) segment = follow (ground path) [segment] := by
  have hleft : (if dropEmptyEnd path = [[]] then [] else dropEmptyEnd path) = ground path := by
    unfold dropEmptyEnd ground stem
    -- of one segment the append drops the empty end, of two it drops the root that is left
    match path with
    | [] => rfl
    | [s] => by_cases hs : s = [] <;> simp [hs]
    | [s, t] => by_cases hs : s = [] <;> by_cases ht : t = [] <;> simp [hs, ht]
    | s :: t :: u :: rest =>
      by_cases hlast : (u :: rest).getLast? = some [] <;> simp [hlast]
  rw [append, hleft]

/-- A text as it is pushed: tabs and line ends are left out. -/
def pushed (text : String) : List Char := text.toList.filter (!isTabOrNewline ·)

/-- **A text that is pushed** becomes one segment behind what is left of the path, unless it is
pushed as one dot or two. -/
theorem push_of_pushed_ne (url : Url) {text : String} (hone : pushed text ≠ ['.'])
    (htwo : pushed text ≠ ['.', '.']) :
    url.push text = { url with
      path := ground url.path ++ [Percent.encode Percent.keepInSegment (pushed text)] } := by
  have hdot : text ≠ "." := by
    rintro rfl
    exact hone rfl
  have hdots : text ≠ ".." := by
    rintro rfl
    exact htwo rfl
  obtain ⟨hisDot, hisDouble⟩ := encode_not_dots hone htwo
  unfold pushed at hisDot hisDouble ⊢
  simp only [push, hdot, hdots, decide_false, Bool.or_self, Bool.false_eq_true, if_false,
    append_dropEmptyEnd, follow, hisDot, hisDouble]

/-- **A pushed text** other than one or two dots, without tabs and line ends, becomes one segment
behind what is left of the path. -/
theorem push_eq (url : Url) {text : String} (hone : text ≠ ".") (htwo : text ≠ "..")
    (hchars : ∀ c ∈ text.toList, isTabOrNewline c = false) :
    url.push text = { url with
      path := ground url.path ++ [Percent.encode Percent.keepInSegment text.toList] } := by
  have hall : pushed text = text.toList := List.filter_eq_self.2 fun c hc => by simp [hchars c hc]
  have hone' : pushed text ≠ ['.'] := fun h => hone (String.toList_inj.1 (hall ▸ h))
  have htwo' : pushed text ≠ ['.', '.'] := fun h => htwo (String.toList_inj.1 (hall ▸ h))
  rw [push_of_pushed_ne url hone' htwo', hall]

/-- What is pushed as one dot or two is no segment: the path keeps its place, gets an empty end, or
moves up. -/
theorem path_push_of_dots (url : Url) {text : String}
    (h : pushed text = ['.'] ∨ pushed text = ['.', '.']) :
    (url.push text).path ∈
      [dropEmptyEnd url.path, ground url.path ++ [[]], above (ground url.path) ++ [[]]] := by
  by_cases hplain : text = "." ∨ text = ".."
  · have hpush : url.push text = { url with path := dropEmptyEnd url.path } :=
      if_pos (by simpa using hplain)
    rw [hpush]
    exact List.mem_cons_self
  · obtain ⟨hdot, hdots⟩ := not_or.1 hplain
    have hpath : (url.push text).path =
        follow (ground url.path) [Percent.encode Percent.keepInSegment (pushed text)] := by
      simp only [push, hdot, hdots, decide_false, Bool.or_self, Bool.false_eq_true, if_false,
        append_dropEmptyEnd, pushed]
    rw [hpath]
    rcases h with h | h
    · have hencoded : Percent.encode Percent.keepInSegment ['.'] = ['.'] := by decide
      simp [h, hencoded, follow, isDoubleDot, isDot]
    · have hencoded : Percent.encode Percent.keepInSegment ['.', '.'] = ['.', '.'] := by decide
      simp [h, hencoded, follow, isDoubleDot]

/-! ## Written addresses -/

theorem writePath_append (path : List (List Char)) (segment : List Char) :
    writePath (path ++ [segment]) = writePath path ++ '/' :: segment := by
  simp [writePath]

/-- **Addresses that differ in the last segment** only are written differently. -/
theorem write_append_injective (url : Url) {path : List (List Char)} {s t : List Char}
    (h : { url with path := path ++ [s] }.write = { url with path := path ++ [t] }.write) :
    s = t := by
  simp only [write, writeUser, writePath_append] at h
  -- the query and the fragment go first, then what stands in front of the last segment
  have hpath := List.append_cancel_left (List.append_cancel_right (List.append_cancel_right h))
  simpa using hpath

end Url

end BookCatalog
