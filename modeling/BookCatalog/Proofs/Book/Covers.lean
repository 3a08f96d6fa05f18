import BookCatalog.Book.Image
import BookCatalog.Proofs.Text.Occurrences
import Mathlib.Data.List.Infix

/-!
# Sizes in the addresses of covers

An address names a size in a part of its path, between slashes and dots.  Another size is put in by
exchanging the word for the size that is named, and the word is looked for in the whole address: it
is also found in the name of a host, and in longer parts.

* `ImageSize.exchanges_address` — what is exchanged in an address, and what is not;
* `ImageSize.apply_elsewhere` — an address whose server is exchanged, and one with a longer part;
* `ImageSize.switched_back` — exchanging the size and exchanging it back.
-/

namespace BookCatalog.ImageSize

variable {size : ImageSize} {front path image : String}

/-! ## Names of sizes -/

/-- A text names a size where the word for it occurs. -/
def NamedIn (size : ImageSize) (cs : List Char) : Prop := size.word.toList <:+: cs

instance (size : ImageSize) (cs : List Char) : Decidable (size.NamedIn cs) :=
  inferInstanceAs (Decidable (_ <:+: _))

/-- A mark between two parts of a path. -/
def isMark (c : Char) : Bool := c = '/' || c = '.'

def parts (path : String) : List (List Char) := path.toList.splitOnP isMark

theorem isMark_of_mem_word (size : ImageSize) : ∀ c ∈ size.word.toList, isMark c = false := by
  cases size <;> simp [word, isMark]

theorem not_prefix_word_append (size : ImageSize) (xs ys : List Char) :
    ¬ size.other.word.toList ++ xs <+: size.word.toList ++ ys := by
  cases size <;> rintro ⟨zs, h⟩ <;> simp [other, word] at h

theorem other_word_ne (size : ImageSize) : size.other.word.toList ≠ size.word.toList := by
  cases size <;> decide

theorem toList_apply (size : ImageSize) (image : String) : (size.apply image).toList =
    Text.replaceFirst size.other.word.toList size.word.toList image.toList := by
  rw [apply, Text.exchange, String.toList_ofList]

theorem apply_eq_self_iff : size.apply image = image ↔ ¬ size.other.NamedIn image.toList := by
  rw [← String.toList_inj, toList_apply]
  exact Text.replaceFirst_eq_self_iff size.other_word_ne

/-! ## Addresses -/

theorem toList_address (front path : String) :
    (front ++ "/" ++ path).toList = front.toList ++ '/' :: path.toList := by
  simp

theorem namedIn_address_iff : size.NamedIn (front ++ "/" ++ path).toList ↔
    size.NamedIn front.toList ∨ ∃ part ∈ parts path, size.NamedIn part := by
  have hslash : '/' ∉ size.word.toList :=
    Text.not_mem_of_isMark size.isMark_of_mem_word (by decide)
  rw [toList_address]
  exact (Text.infix_append_cons_iff hslash).trans
    (or_congr_right (Text.infix_iff_exists_part size.isMark_of_mem_word))

theorem toList_apply_address (h : ¬ size.other.NamedIn front.toList) (path : String) :
    (size.apply (front ++ "/" ++ path)).toList =
      front.toList ++ '/' :: (size.apply path).toList := by
  have hslash : '/' ∉ size.other.word.toList :=
    Text.not_mem_of_isMark size.other.isMark_of_mem_word (by decide)
  rw [toList_apply, toList_address, Text.replaceFirst_append_cons hslash h, toList_apply]

theorem not_prefix_apply_address (h : size.other.NamedIn front.toList) (path : String) :
    ¬ front.toList <+: (size.apply (front ++ "/" ++ path)).toList := by
  obtain ⟨before, after, hfirst⟩ := Text.exists_firstAt h
  intro hprefix
  rw [toList_apply, toList_address, Text.replaceFirst_of_firstAt (hfirst.append _), hfirst.eq,
    List.append_assoc, List.append_assoc, List.prefix_append_right_inj] at hprefix
  exact not_prefix_word_append size _ _ hprefix

/-- What becomes of an address, text in front and path, when its size is exchanged. -/
structure Exchanges (size : ImageSize) (front path : String) : Prop where
  /-- The text in front of the path is kept, unless it names the other size. -/
  front_iff : front.toList <+: (size.apply (front ++ "/" ++ path)).toList ↔
    ¬ size.other.NamedIn front.toList
  /-- All of the address is kept, unless the text in front or a part of the path names the other
  size, as a whole or somewhere in it. -/
  kept_iff : size.apply (front ++ "/" ++ path) = front ++ "/" ++ path ↔
    ¬ size.other.NamedIn front.toList ∧ ∀ part ∈ parts path, ¬ size.other.NamedIn part
  /-- If the other size is named in whole parts of the path only, the first of them is exchanged,
  and all other parts and the marks between them are kept. -/
  part : ¬ size.other.NamedIn front.toList →
    (∀ part ∈ parts path, size.other.NamedIn part → part = size.other.word.toList) →
      ∃ path', size.apply (front ++ "/" ++ path) = front ++ "/" ++ path' ∧
        parts path' = (parts path).replace size.other.word.toList size.word.toList ∧
        path'.toList.filter isMark = path.toList.filter isMark

/-- **Exchanging the size** keeps what stands in front of the path, and exchanges one part of the
path, exactly where the other size is not named elsewhere. -/
theorem exchanges_address (size : ImageSize) (scheme authority path : String) :
    size.Exchanges (scheme ++ "://" ++ authority) path := by
  generalize scheme ++ "://" ++ authority = front
  refine ⟨?_, ?_, ?_⟩
  · constructor
    · intro hprefix hnamed
      exact not_prefix_apply_address hnamed path hprefix
    · intro h
      rw [toList_apply_address h]
      exact List.prefix_append _ _
  · rw [apply_eq_self_iff, namedIn_address_iff]
    simp
  · intro hfront hparts
    refine ⟨size.apply path, ?_, ?_, ?_⟩
    · rw [← String.toList_inj, toList_apply_address hfront, toList_address]
    · rw [parts, toList_apply]
      exact Text.splitOnP_replaceFirst size.other.isMark_of_mem_word size.isMark_of_mem_word hparts
    · rw [toList_apply]
      exact Text.filter_replaceFirst size.other.isMark_of_mem_word size.isMark_of_mem_word

/-- The word for a size is exchanged in the name of a host, and in a part of the path that is
longer, though no part of the path is the word. -/
theorem apply_elsewhere :
    ImageSize.medium.word.toList ∉ parts "cover.jpg" ∧
      small.apply "https://medium.example/cover.jpg" = "https://small.example/cover.jpg" ∧
      ¬ "https://medium.example".toList <+:
        (small.apply "https://medium.example/cover.jpg").toList ∧
      ImageSize.medium.word.toList ∉ parts "mediumship/cover.jpg" ∧
      small.apply "https://covers.example/mediumship/cover.jpg" =
        "https://covers.example/smallship/cover.jpg" := by
  refine ⟨?_, ?_, ?_, ?_, ?_⟩
  · decide +kernel
  · decide +kernel
  · decide +kernel
  · decide +kernel
  · decide +kernel

/-! ## There and back -/

theorem other_apply_apply_iff (h : ¬ size.NamedIn image.toList) :
    size.other.apply (size.apply image) = image ↔
      ∀ before after, Text.FirstAt size.other.word.toList image.toList before after →
        ∀ start ∈ Text.restarts size.word.toList, ¬ start <:+ before := by
  have hother : size.other.other = size := by cases size <;> rfl
  rw [← String.toList_inj, toList_apply, toList_apply, hother]
  exact Text.replaceFirst_replaceFirst_eq_iff h

/-- **There and back**: a text that does not name the small size is got back from it; one that does
not name the medium size is got back from that exactly where the first `small` does not stand behind
`mediu`, with which the word put in its place would be found too early. -/
theorem switched_back :
    (∀ image : String, ¬ small.NamedIn image.toList →
      medium.apply (small.apply image) = image) ∧
    ∀ image : String, ¬ medium.NamedIn image.toList →
      (small.apply (medium.apply image) = image ↔
        ∀ before after, Text.FirstAt "small".toList image.toList before after →
          ¬ "mediu".toList <:+ before) := by
  have hsmall : Text.restarts small.word.toList = [] := by decide
  have hmedium : Text.restarts medium.word.toList = ["mediu".toList] := by decide
  refine ⟨fun image h => ?_, fun image h => ?_⟩
  · refine (@other_apply_apply_iff small image h).2 fun before after _ => ?_
    simp [hsmall]
  · have hback := other_apply_apply_iff h
    simp only [hmedium, List.mem_singleton, forall_eq] at hback
    exact hback

/-- Behind `mediu` the word is found where it was not put: `mediusmall` is not got back.  A `mediu`
behind the first `small` does no harm. -/
theorem switched_back_behind :
    (¬ small.NamedIn "covers/medium/mediumedium.jpg".toList ∧
      medium.apply (small.apply "covers/medium/mediumedium.jpg") =
        "covers/medium/mediumedium.jpg") ∧
    (¬ medium.NamedIn "covers/small/mediusmall".toList ∧
      small.apply (medium.apply "covers/small/mediusmall") = "covers/small/mediusmall") ∧
    ¬ medium.NamedIn "mediusmall".toList ∧
      small.apply (medium.apply "mediusmall") ≠ "mediusmall" := by
  have hcovers := (@Text.firstAt_append_iff "small".toList "covers/".toList "/mediusmall".toList
    (by decide)).2 (by decide +kernel)
  have hmediu := (@Text.firstAt_append_iff "small".toList "mediu".toList [] (by decide)).2
    (by decide +kernel)
  refine ⟨⟨by decide +kernel, ?_⟩, ⟨by decide +kernel, ?_⟩, by decide +kernel, ?_⟩
  · exact switched_back.1 _ (by decide +kernel)
  · refine (switched_back.2 _ (by decide +kernel)).2 fun before after hfirst => ?_
    obtain ⟨rfl, -⟩ := hfirst.unique hcovers
    decide
  · intro hback
    exact (switched_back.2 _ (by decide +kernel)).1 hback _ _ hmediu (List.suffix_refl _)

end BookCatalog.ImageSize
