import BookCatalog.Text.Utf8

/-!
# Bytes of a text

The bytes of a text are cut into its characters again, so the text is read back from them.

* `chunks_encode` — the chunks of the bytes of a text are its characters;
* `decodeLenient_encode`, `decode?_encode` — no piece of these bytes is broken;
* `mem_of_decode?` — a byte of ASCII is a chunk by itself, so its character is in the text that a
  strict reader makes of the bytes.
-/

namespace BookCatalog.Utf8

/-! ## One character -/

theorem chunks_ascii {a : UInt8} (h : a.toNat < 0x80) (rest : List UInt8) :
    chunks (a :: rest) = some (Char.ofNat a.toNat) :: chunks rest := by
  rw [chunks.eq_def]
  simp only [if_pos h]

theorem payload_eq {b : UInt8} {n : Nat} (h : b.toNat = n + 0x80) : payload b = n := by
  unfold payload
  omega

theorem chunks_two {a b : UInt8} (ha : 0xC2 ≤ a.toNat ∧ a.toNat ≤ 0xDF)
    (hb : 0x80 ≤ b.toNat ∧ b.toNat ≤ 0xBF) (rest : List UInt8) :
    chunks (a :: b :: rest) =
      some (Char.ofNat ((a.toNat - 0xC0) * 64 + payload b)) :: chunks rest := by
  have hascii : ¬ a.toNat < 0x80 := by omega
  rw [chunks, if_neg hascii, if_pos (by simpa using ha)]
  simp only [continues, hb, decide_true, Bool.and_self, if_true]

theorem chunks_three {a b c : UInt8} (ha : 0xE0 ≤ a.toNat ∧ a.toNat ≤ 0xEF)
    (hb : secondLow a ≤ b.toNat ∧ b.toNat ≤ secondHigh a)
    (hc : 0x80 ≤ c.toNat ∧ c.toNat ≤ 0xBF) (rest : List UInt8) :
    chunks (a :: b :: c :: rest) =
      some (Char.ofNat ((a.toNat - 0xE0) * 4096 + payload b * 64 + payload c)) :: chunks rest := by
  have hascii : ¬ a.toNat < 0x80 := by omega
  have htwo : ¬ (0xC2 ≤ a.toNat && a.toNat ≤ 0xDF) = true := by simp; omega
  rw [chunks, if_neg hascii, if_neg htwo, if_pos (by simpa using ha)]
  simp only [continues, hb, hc, decide_true, Bool.and_self, if_true]

theorem chunks_four {a b c d : UInt8} (ha : 0xF0 ≤ a.toNat ∧ a.toNat ≤ 0xF4)
    (hb : secondLow a ≤ b.toNat ∧ b.toNat ≤ secondHigh a)
    (hc : 0x80 ≤ c.toNat ∧ c.toNat ≤ 0xBF) (hd : 0x80 ≤ d.toNat ∧ d.toNat ≤ 0xBF)
    (rest : List UInt8) :
    chunks (a :: b :: c :: d :: rest) =
      some (Char.ofNat ((a.toNat - 0xF0) * 262144 + payload b * 4096 + payload c * 64 +
        payload d)) :: chunks rest := by
  have hascii : ¬ a.toNat < 0x80 := by omega
  have htwo : ¬ (0xC2 ≤ a.toNat && a.toNat ≤ 0xDF) = true := by simp; omega
  have hthree : ¬ (0xE0 ≤ a.toNat && a.toNat ≤ 0xEF) = true := by simp; omega
  rw [chunks, if_neg hascii, if_neg htwo, if_neg hthree, if_pos (by simpa using ha)]
  simp only [continues, hb, hc, hd, decide_true, Bool.and_self, if_true]

/-- What the second byte may be leaves out the characters that take fewer bytes, the surrogates and
what is above all characters. -/
theorem second_fits {a b : UInt8} (hlow : 0x80 ≤ b.toNat) (hhigh : b.toNat ≤ 0xBF)
    (hE0 : a.toNat = 0xE0 → 0xA0 ≤ b.toNat) (hED : a.toNat = 0xED → b.toNat ≤ 0x9F)
    (hF0 : a.toNat = 0xF0 → 0x90 ≤ b.toNat) (hF4 : a.toNat = 0xF4 → b.toNat ≤ 0x8F) :
    secondLow a ≤ b.toNat ∧ b.toNat ≤ secondHigh a := by
  have hnumber : ∀ x : UInt8, a = x ↔ a.toNat = x.toNat := fun x => UInt8.toNat_inj.symm
  simp only [secondLow, secondHigh, hnumber]
  constructor
  · split
    · next h => exact hE0 h
    · split
      · next h => exact hF0 h
      · exact hlow
  · split
    · next h => exact hED h
    · split
      · next h => exact hF4 h
      · exact hhigh

/-- **The bytes of a character** are one chunk, whatever follows them. -/
theorem chunks_encodeChar (c : Char) (rest : List UInt8) :
    chunks (String.utf8EncodeChar c ++ rest) = some c :: chunks rest := by
  have hvalid : c.val.toNat < 0xD800 ∨ 0xDFFF < c.val.toNat ∧ c.val.toNat < 0x110000 := c.valid
  have hback : Char.ofNat c.val.toNat = c := Char.ofNat_toNat c
  have hbyte : ∀ m < 256, (UInt8.ofNat m).toNat = m := fun m hm => UInt8.toNat_ofNat_of_lt' hm
  unfold String.utf8EncodeChar
  generalize c.val.toNat = n at hvalid hback
  dsimp only
  -- one case for each number of bytes
  by_cases hone : n ≤ 0x7f
  · have ha : (UInt8.ofNat n).toNat = n := hbyte _ (by omega)
    rw [if_pos hone, List.singleton_append, chunks_ascii (by omega), ha, hback]
  rw [if_neg hone]
  have hlast : (UInt8.ofNat (n % 64 + 128)).toNat = n % 64 + 0x80 := hbyte _ (by omega)
  generalize UInt8.ofNat (n % 64 + 128) = last at hlast ⊢
  by_cases htwo : n ≤ 0x7ff
  · have ha : (UInt8.ofNat (n / 64 % 32 + 192)).toNat = n / 64 + 0xC0 := by
      rw [hbyte _ (by omega)]
      omega
    generalize UInt8.ofNat (n / 64 % 32 + 192) = a at ha ⊢
    have hsum : (a.toNat - 0xC0) * 64 + n % 64 = n := by omega
    rw [if_pos htwo, List.cons_append, List.singleton_append, chunks_two (by omega) (by omega),
      payload_eq hlast, hsum, hback]
  rw [if_neg htwo]
  have hmiddle : (UInt8.ofNat (n / 64 % 64 + 128)).toNat = n / 64 % 64 + 0x80 := hbyte _ (by omega)
  generalize UInt8.ofNat (n / 64 % 64 + 128) = middle at hmiddle ⊢
  by_cases hthree : n ≤ 0xffff
  · have ha : (UInt8.ofNat (n / 4096 % 16 + 224)).toNat = n / 4096 + 0xE0 := by
      rw [hbyte _ (by omega)]
      omega
    generalize UInt8.ofNat (n / 4096 % 16 + 224) = a at ha ⊢
    have hsecond : secondLow a ≤ middle.toNat ∧ middle.toNat ≤ secondHigh a :=
      second_fits (by omega) (by omega) (by omega) (by omega) (by omega) (by omega)
    have hsum : (a.toNat - 0xE0) * 4096 + n / 64 % 64 * 64 + n % 64 = n := by omega
    rw [if_pos hthree, List.cons_append, List.cons_append, List.singleton_append,
      chunks_three (by omega) hsecond (by omega), payload_eq hmiddle, payload_eq hlast, hsum, hback]
  rw [if_neg hthree]
  have ha : (UInt8.ofNat (n / 262144 % 8 + 240)).toNat = n / 262144 + 0xF0 := by
    rw [hbyte _ (by omega)]
    omega
  have hb : (UInt8.ofNat (n / 4096 % 64 + 128)).toNat = n / 4096 % 64 + 0x80 := hbyte _ (by omega)
  generalize UInt8.ofNat (n / 262144 % 8 + 240) = a at ha ⊢
  generalize UInt8.ofNat (n / 4096 % 64 + 128) = b at hb ⊢
  have hsecond : secondLow a ≤ b.toNat ∧ b.toNat ≤ secondHigh a :=
    second_fits (by omega) (by omega) (by omega) (by omega) (by omega) (by omega)
  have hsum : (a.toNat - 0xF0) * 262144 + n / 4096 % 64 * 4096 + n / 64 % 64 * 64 + n % 64 = n := by
    omega
  rw [List.cons_append, List.cons_append, List.cons_append, List.singleton_append,
    chunks_four (by omega) hsecond (by omega) (by omega), payload_eq hb, payload_eq hmiddle,
    payload_eq hlast, hsum, hback]

/-! ## Texts -/

/-- **The bytes of a text** are cut into its characters. -/
theorem chunks_encode (cs : List Char) : chunks (encode cs) = cs.map some := by
  induction cs with
  | nil => rfl
  | cons c cs ih =>
    rw [encode, List.flatMap_cons, chunks_encodeChar, List.map_cons]
    exact congrArg (some c :: ·) ih

theorem decodeLenient_encode (cs : List Char) : decodeLenient (encode cs) = cs := by
  rw [decodeLenient, chunks_encode, List.map_map]
  exact List.map_id cs

theorem decode?_encode (cs : List Char) : decode? (encode cs) = some cs := by
  rw [decode?, chunks_encode]
  induction cs with
  | nil => rfl
  | cons c cs ih =>
    rw [List.map_cons, List.mapM_cons, ih]
    rfl

/-! ## Bytes of ASCII -/

theorem ne_of_continues {b x : UInt8} {low high : Nat} (hb : b.toNat < 0x80) (hlow : 0x80 ≤ low)
    (hx : continues x low high = true) : b ≠ x := by
  rintro rfl
  simp only [continues, Bool.and_eq_true, decide_eq_true_eq] at hx
  omega

theorem le_secondLow (a : UInt8) : 0x80 ≤ secondLow a := by
  unfold secondLow
  grind

theorem some_mem_chunks {b : UInt8} (hb : b.toNat < 0x80) {bytes : List UInt8} (h : b ∈ bytes) :
    some (Char.ofNat b.toNat) ∈ chunks bytes := by
  have hfirst : ∀ a : UInt8, ¬ a.toNat < 0x80 → b ≠ a := by
    rintro a ha rfl
    exact ha hb
  have hsecond : ∀ a x, continues x (secondLow a) (secondHigh a) = true → b ≠ x :=
    fun a x => ne_of_continues hb (le_secondLow a)
  have hnext : ∀ x, continues x = true → b ≠ x := fun x => ne_of_continues hb (by omega)
  -- in every case the byte is the chunk in front, or it is not among the bytes of that chunk
  fun_induction chunks bytes <;> grind

theorem exists_mem_of_mapM {α β : Type} {f : α → Option β} {xs : List α} {ys : List β}
    (h : xs.mapM f = some ys) {x : α} (hx : x ∈ xs) : ∃ y ∈ ys, f x = some y := by
  induction xs generalizing ys with
  | nil => cases hx
  | cons a xs ih =>
    rw [List.mapM_cons] at h
    obtain ⟨b, hb, hrest⟩ := Option.bind_eq_some_iff.1 h
    obtain ⟨more, hmore, hys⟩ := Option.bind_eq_some_iff.1 hrest
    cases hys
    rcases List.mem_cons.1 hx with rfl | hx
    · exact ⟨b, List.mem_cons_self, hb⟩
    · obtain ⟨y, hy, hfy⟩ := ih hmore hx
      exact ⟨y, List.mem_cons_of_mem b hy, hfy⟩

theorem exists_of_mem_mapM {α β : Type} {f : α → Option β} {xs : List α} {ys : List β}
    (h : xs.mapM f = some ys) {y : β} (hy : y ∈ ys) : ∃ x ∈ xs, f x = some y := by
  induction xs generalizing ys with
  | nil =>
    cases h
    cases hy
  | cons a xs ih =>
    rw [List.mapM_cons] at h
    obtain ⟨b, hb, hrest⟩ := Option.bind_eq_some_iff.1 h
    obtain ⟨more, hmore, hys⟩ := Option.bind_eq_some_iff.1 hrest
    cases hys
    rcases List.mem_cons.1 hy with rfl | hy
    · exact ⟨a, List.mem_cons_self, hb⟩
    · obtain ⟨x, hx, hfx⟩ := ih hmore hy
      exact ⟨x, List.mem_cons_of_mem a hx, hfx⟩

/-- **A byte of ASCII** stands for its character in what a strict reader makes of the bytes. -/
theorem mem_of_decode? {b : UInt8} (hb : b.toNat < 0x80) {bytes : List UInt8} (h : b ∈ bytes)
    {cs : List Char} (hcs : decode? bytes = some cs) : Char.ofNat b.toNat ∈ cs := by
  obtain ⟨c, hc, heq⟩ := exists_mem_of_mapM hcs (some_mem_chunks hb h)
  cases heq
  exact hc

end BookCatalog.Utf8
