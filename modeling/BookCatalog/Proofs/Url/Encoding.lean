import BookCatalog.Proofs.Text.Utf8
import BookCatalog.Url.Basic
import Mathlib.Data.List.TakeDrop

/-!
# Encoded texts are read back

Percent-encoding and form encoding are undone by their readers, and what they put in the place of a
character holds no mark of the syntax of addresses.

* `Percent.decode_encode` — the bytes of a text that was percent-encoded;
* `Form.decode_encode` — named values;
* `Url.pairs_addPairs` — pairs added to a query stand behind those it has and change none of them.
-/

namespace BookCatalog

/-! ## Pieces -/

namespace Text

theorem cut_append_cons (sep : Char) (xs ys : List Char) :
    cut sep (xs ++ sep :: ys) = cut sep xs ++ cut sep ys := by
  induction xs with
  | nil => simp [cut]
  | cons c xs ih =>
    by_cases h : c = sep
    · simp [cut, h, ih]
    · obtain ⟨p, ps, hp⟩ := List.exists_cons_of_ne_nil (cut_ne_nil sep xs)
      simp [cut, h, ih, hp]

theorem cutFirst_append {sep : Char} {before : List Char} (h : sep ∉ before) (after : List Char) :
    cutFirst sep (before ++ sep :: after) = (before, some after) := by
  have hbefore : ∀ c ∈ before, (c != sep) = true := by
    intro c hc
    rw [bne_iff_ne]
    rintro rfl
    exact h hc
  rw [cutFirst, List.span_eq_takeWhile_dropWhile, List.takeWhile_append_of_pos hbefore,
    List.dropWhile_append_of_pos hbefore, List.takeWhile_cons_of_neg (by simp),
    List.dropWhile_cons_of_neg (by simp), List.append_nil]

end Text

/-! ## Percent-encoding -/

namespace Percent

theorem hexValue?_hexDigit : ∀ n < 16, Text.hexValue? (hexDigit n) = some n := by
  decide

theorem isAlphanum_hexDigit : ∀ n < 16, (hexDigit n).isAlphanum = true := by
  decide

theorem decode_byte (b : UInt8) (rest : List Char) :
    decode (byte b ++ rest) = b :: decode rest := by
  have hb : b.toNat < 256 := b.toNat_lt
  have hhigh := hexValue?_hexDigit (b.toNat / 16) (by omega)
  have hlow := hexValue?_hexDigit (b.toNat % 16) (by omega)
  have hsum : b.toNat / 16 * 16 + b.toNat % 16 = b.toNat := by omega
  simp only [byte, List.cons_append, List.nil_append, decode, hhigh, hlow, hsum, UInt8.ofNat_toNat]

theorem decode_bytes (bytes : List UInt8) (rest : List Char) :
    decode (bytes.flatMap byte ++ rest) = bytes ++ decode rest := by
  induction bytes with
  | nil => rfl
  | cons b bytes ih =>
    rw [List.flatMap_cons, List.append_assoc, decode_byte, ih, List.cons_append]

theorem decode_cons {c : Char} (h : c ≠ '%') (rest : List Char) :
    decode (c :: rest) = String.utf8EncodeChar c ++ decode rest := by
  rw [decode]
  rintro a b cs rfl
  exact absurd rfl h

/-- **A text that was percent-encoded** stands for its bytes, where the percent sign is not kept. -/
theorem decode_encode {keep : Char → Bool} (h : keep '%' = false) (cs : List Char) :
    decode (encode keep cs) = Utf8.encode cs := by
  induction cs with
  | nil => rfl
  | cons c cs ih =>
    rw [encode, List.flatMap_cons, Utf8.encode, List.flatMap_cons]
    split
    · next hc =>
      have hne : c ≠ '%' := by
        rintro rfl
        rw [h] at hc
        cases hc
      rw [List.singleton_append, decode_cons hne]
      exact congrArg (String.utf8EncodeChar c ++ ·) ih
    · rw [escape, decode_bytes]
      exact congrArg (String.utf8EncodeChar c ++ ·) ih

theorem of_mem_escape {c x : Char} (h : x ∈ escape c) : x = '%' ∨ x.isAlphanum = true := by
  obtain ⟨b, -, hx⟩ := List.mem_flatMap.1 h
  have hb : b.toNat < 256 := b.toNat_lt
  simp only [byte, List.mem_cons, List.not_mem_nil, or_false] at hx
  rcases hx with rfl | rfl | rfl
  · exact .inl rfl
  · exact .inr (isAlphanum_hexDigit _ (by omega))
  · exact .inr (isAlphanum_hexDigit _ (by omega))

theorem escape_ne_nil (c : Char) : escape c ≠ [] := by
  have hbytes : 0 < (String.utf8EncodeChar c).length := by
    rw [String.length_utf8EncodeChar]
    exact c.utf8Size_pos
  obtain ⟨b, bytes, hb⟩ := List.exists_cons_of_length_pos hbytes
  simp [escape, hb, byte]

theorem encode_of_keep {keep : Char → Bool} {cs : List Char} (h : ∀ c ∈ cs, keep c = true) :
    encode keep cs = cs := by
  induction cs with
  | nil => rfl
  | cons c cs ih =>
    rw [encode, List.flatMap_cons, if_pos (h c (by simp))]
    exact congrArg (c :: ·) (ih fun d hd => h d (by simp [hd]))

theorem of_mem_encode {keep : Char → Bool} {cs : List Char} {x : Char} (h : x ∈ encode keep cs) :
    keep x = true ∨ x = '%' ∨ x.isAlphanum = true := by
  obtain ⟨c, -, hx⟩ := List.mem_flatMap.1 h
  split at hx
  · next hc =>
    obtain rfl := List.mem_singleton.1 hx
    exact .inl hc
  · exact .inr (of_mem_escape hx)

end Percent

/-! ## Form encoding -/

namespace Form

/-- The marks that separate names, values and pairs are in no encoded word. -/
theorem of_mem_encodeWord {cs : List Char} {x : Char} (h : x ∈ encodeWord cs) :
    keep x = true ∨ x = '+' ∨ x = '%' := by
  obtain ⟨c, -, hx⟩ := List.mem_flatMap.1 h
  split at hx
  · exact .inr (.inl (List.mem_singleton.1 hx))
  · split at hx
    · next hc =>
      obtain rfl := List.mem_singleton.1 hx
      exact .inl hc
    · rcases Percent.of_mem_escape hx with hx | hx
      · exact .inr (.inr hx)
      · exact .inl (by simp [keep, hx])

theorem not_mem_encodeWord {x : Char} (hkeep : keep x = false) (hplus : x ≠ '+')
    (hpercent : x ≠ '%') (cs : List Char) : x ∉ encodeWord cs := by
  intro h
  rcases of_mem_encodeWord h with hx | hx | hx
  · rw [hkeep] at hx
    cases hx
  · exact hplus hx
  · exact hpercent hx

theorem map_encodeWord (cs : List Char) :
    (encodeWord cs).map (fun c => if c = '+' then ' ' else c) =
      Percent.encode (fun c => c = ' ' || keep c) cs := by
  have hself : ∀ ds : List Char, '+' ∉ ds → ds.map (fun c => if c = '+' then ' ' else c) = ds := by
    intro ds hds
    refine (List.map_congr_left fun c hc => ?_).trans (List.map_id ds)
    refine if_neg ?_
    rintro rfl
    exact hds hc
  rw [encodeWord, List.map_flatMap, Percent.encode]
  congr 1
  funext c
  by_cases hspace : c = ' '
  · simp [hspace]
  · by_cases hkeep : keep c = true
    · have hplus : '+' ∉ [c] := by
        intro h
        rw [← List.mem_singleton.1 h] at hkeep
        exact absurd hkeep (by decide)
      simp only [hspace, hkeep, if_false, if_true, decide_false, Bool.or_true, hself _ hplus]
    · have hplus : '+' ∉ Percent.escape c := by
        intro h
        exact absurd (Percent.of_mem_escape h) (by decide)
      simp only [hspace, hkeep, if_false, decide_false, Bool.or_false, Bool.false_eq_true,
        hself _ hplus]

theorem decodeWord_encodeWord (cs : List Char) : decodeWord (encodeWord cs) = String.ofList cs := by
  rw [decodeWord, map_encodeWord, Percent.decode_encode (by decide), Utf8.decodeLenient_encode]

theorem decodePair_encodePair (p : String × String) : decodePair (encodePair p) = p := by
  have hname : '=' ∉ encodeWord p.1.toList := not_mem_encodeWord rfl (by decide) (by decide) _
  rw [encodePair, decodePair, Text.cutFirst_append hname]
  simp only [Option.getD_some, decodeWord_encodeWord, String.ofList_toList]

theorem amp_not_mem_encodePair (p : String × String) : '&' ∉ encodePair p := by
  have hword := not_mem_encodeWord (x := '&') rfl (by decide) (by decide)
  rw [encodePair, List.mem_append, List.mem_cons]
  rintro (h | h | h)
  · exact hword _ h
  · exact absurd h (by decide)
  · exact hword _ h

/-- **Named values** are read back in their order. -/
theorem decode_encode (pairs : List (String × String)) : decode (encode pairs) = pairs := by
  have hsome : ∀ p ∈ pairs.map encodePair, p ≠ [] ∧ '&' ∉ p := by
    intro p hp
    obtain ⟨pair, -, rfl⟩ := List.mem_map.1 hp
    exact ⟨by simp [encodePair], amp_not_mem_encodePair pair⟩
  have hback : (pairs.map encodePair).map decodePair = pairs := by
    rw [List.map_map]
    exact (List.map_congr_left fun p _ => decodePair_encodePair p).trans (List.map_id pairs)
  rw [decode, encode]
  generalize pairs.map encodePair = words at hsome hback ⊢
  cases words with
  | nil => exact hback
  | cons p ps =>
    have hfilter : (p :: ps).filter (· ≠ []) = p :: ps :=
      List.filter_eq_self.2 fun q hq => by simpa using (hsome q hq).1
    rw [Text.cut_joined fun q hq => (hsome q hq).2, hfilter]
    exact hback

theorem decode_append (xs ys : List Char) : decode (xs ++ '&' :: ys) = decode xs ++ decode ys := by
  rw [decode, Text.cut_append_cons, List.filter_append, List.map_append]
  rfl

end Form

/-! ## Lengths -/

theorem Text.length_le_joined (sep : List Char) {p : List Char} {ps : List (List Char)}
    (h : p ∈ ps) : p.length ≤ (joined sep ps).length := by
  induction ps with
  | nil => cases h
  | cons q ps ih =>
    cases ps with
    | nil => simp [joined, List.intercalate, List.mem_singleton.1 h]
    | cons r ps =>
      have hjoined : joined sep (q :: r :: ps) = q ++ (sep ++ joined sep (r :: ps)) := by
        simp [joined, List.intercalate]
      rw [hjoined, List.length_append, List.length_append]
      rcases List.mem_cons.1 h with rfl | h
      · exact Nat.le_add_right _ _
      · have := ih h
        omega

theorem Form.length_le_encodeWord (cs : List Char) : cs.length ≤ (encodeWord cs).length := by
  induction cs with
  | nil => exact Nat.zero_le 0
  | cons c cs ih =>
    have hcons : encodeWord (c :: cs) = encodeWord [c] ++ encodeWord cs := by simp [encodeWord]
    have hpositive : 0 < (encodeWord [c]).length := by
      rw [encodeWord, List.flatMap_singleton]
      split
      · exact Nat.one_pos
      split
      · exact Nat.one_pos
      · exact List.length_pos_iff.2 (Percent.escape_ne_nil c)
    rw [List.length_cons, hcons, List.length_append]
    omega

theorem Form.length_le_encode {pairs : List (String × String)} {p : String × String}
    (h : p ∈ pairs) : p.2.toList.length ≤ (encode pairs).length := by
  have hpair : p.2.toList.length ≤ (encodePair p).length := by
    have hword := length_le_encodeWord p.2.toList
    rw [encodePair, List.length_append, List.length_cons]
    omega
  exact Nat.le_trans hpair (Text.length_le_joined ['&'] (List.mem_map_of_mem h))

/-! ## Queries -/

namespace Url

/-- **Pairs added to a query** are read back behind the pairs that the query has. -/
theorem pairs_addPairs (url : Url) (added : List (String × String)) :
    (url.addPairs added).pairs = url.pairs ++ added := by
  unfold pairs addPairs
  cases url.query with
  | none => exact Form.decode_encode added
  | some query =>
    cases query with
    | nil => exact Form.decode_encode added
    | cons c cs => exact (Form.decode_append _ _).trans (by rw [Form.decode_encode]; rfl)

end Url

end BookCatalog
