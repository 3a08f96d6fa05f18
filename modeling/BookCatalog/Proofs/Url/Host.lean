import BookCatalog.Proofs.Text.Control
import BookCatalog.Proofs.Text.Utf8
import BookCatalog.Url.Parser

/-!
# Hosts with control characters

The space and the control characters of ASCII are in no host that is read.  In a name they survive
all that is done with it, percent-decoding, mapping and composition, until the check of its labels
refuses them.

* `Percent.mem_decode` — a character that plays no part in percent-encoding is among the bytes;
* `Url.Domain.toAscii?_of_control` — a name with one of these characters is not sent;
* `Url.parseHost_of_control` — and no host ends with one.
-/

namespace BookCatalog

/-! ## Percent-encoding -/

namespace Percent

/-- A character that plays no part in percent-encoding is among the bytes that a text stands for. -/
theorem mem_decode {c : Char} (hpercent : c ≠ '%') (hdigit : Text.hexValue? c = none)
    {cs : List Char} (h : c ∈ cs) {b : UInt8} (hb : b ∈ String.utf8EncodeChar c) :
    b ∈ decode cs := by
  fun_induction decode cs with
  | case1 x y cs m n hx hy ih =>
    have hne : ∀ {d : Char} {k : Nat}, Text.hexValue? d = some k → c ≠ d := by
      rintro d k hd rfl
      rw [hdigit] at hd
      cases hd
    have hcs : c ∈ cs := by
      simpa [hpercent, hne hx, hne hy] using h
    exact List.mem_cons_of_mem _ (ih hcs)
  | case2 x y cs hother ih =>
    have hcs : c ∈ x :: y :: cs := by
      rcases List.mem_cons.1 h with heq | hcs
      · exact absurd heq hpercent
      · exact hcs
    exact List.mem_append_right _ (ih hcs)
  | case3 x cs hother ih =>
    rcases List.mem_cons.1 h with rfl | hcs
    · exact List.mem_append_left _ hb
    · exact List.mem_append_right _ (ih hcs)
  | case4 => cases h

end Percent

/-! ## Names -/

namespace Url.Domain

section Control

variable {c : Char} (hc : c.toNat ≤ 0x20)

include hc

theorem exchanged?_of_control : exchanged? c = none := by
  rw [exchanged?, Array.findSome?_eq_none_iff]
  intro x _
  have hvisible := x.visible
  exact if_neg (by simp; omega)

theorem omittedRuns_of_control : omittedRuns.contains c = false := by
  have hall : ∀ edge ∈ omittedRuns.edges, 0x20 < edge := by
    decide +kernel
  exact Text.Runs.contains_of_lt fun edge hedge => Nat.lt_of_le_of_lt hc (hall edge hedge)

theorem mapChar?_of_control : mapChar? c = none ∨ mapChar? c = some [c] := by
  have hplain : ('a' ≤ c && c ≤ 'z' || c.isDigit || c = '-' || c = '.') = false :=
    of_control (P := fun c => ('a' ≤ c && c ≤ 'z' || c.isDigit || c = '-' || c = '.') = false)
      (by decide) hc
  rw [mapChar?, hplain, omittedRuns_of_control hc, exchanged?_of_control hc]
  cases refusedRuns.contains c with
  | true => exact .inl rfl
  | false => exact .inr rfl

theorem mem_of_map? {cs mapped : List Char} (hmapped : map? cs = some mapped) (h : c ∈ cs) :
    c ∈ mapped := by
  obtain ⟨images, himages, rfl⟩ := Option.map_eq_some_iff.1 hmapped
  obtain ⟨image, hmem, himage⟩ := Utf8.exists_mem_of_mapM himages h
  rcases mapChar?_of_control hc with hnone | hsome
  · rw [hnone] at himage
    cases himage
  · rw [hsome] at himage
    cases himage
    exact List.mem_flatten_of_mem hmem (List.mem_singleton_self c)

theorem label_of_control {label : List Char} (h : c ∈ label) : Label.of? label = none := by
  refine if_pos (List.any_eq_true.2 ⟨c, h, ?_⟩)
  simp [isForbidden, hc]

/-- **A name with a control character** is not sent. -/
theorem toAscii?_of_control {name : List Char} (h : c ∈ name) : toAscii? name = none := by
  refine Option.eq_none_iff_forall_ne_some.2 fun sent hsent => ?_
  obtain ⟨mapped, hmapped, hsent⟩ := Option.bind_eq_some_iff.1 hsent
  obtain ⟨labels, hlabels, -⟩ := Option.bind_eq_some_iff.1 hsent
  have hnormal : c ∈ if mapped.all isAscii then mapped else Text.Canonical.normalize mapped := by
    split
    · exact mem_of_map? hc hmapped h
    · exact Text.Canonical.mem_normalize hc (mem_of_map? hc hmapped h)
  have hdot : c ≠ '.' := of_control (P := fun c => c ≠ '.') (by decide) hc
  obtain ⟨label, hlabel, hmem⟩ := Text.exists_mem_cut hnormal hdot
  obtain ⟨read, -, hread⟩ := Utf8.exists_mem_of_mapM hlabels hlabel
  rw [label_of_control hc hmem] at hread
  cases hread

end Control

end Url.Domain

/-! ## Hosts -/

namespace Url

theorem mem_of_decode?_decode {cs name : List Char} {c : Char} (hc : c.toNat ≤ 0x20) (h : c ∈ cs)
    (hname : Utf8.decode? (Percent.decode cs) = some name) : c ∈ name := by
  have hpercent : c ≠ '%' := of_control (P := fun c => c ≠ '%') (by decide) hc
  have hdigit : Text.hexValue? c = none :=
    of_control (P := fun c => Text.hexValue? c = none) (by decide) hc
  have hbyte : (UInt8.ofNat c.toNat).toNat = c.toNat :=
    UInt8.toNat_ofNat_of_lt' (by rw [UInt8.size]; omega)
  have hbytes : UInt8.ofNat c.toNat ∈ String.utf8EncodeChar c := by
    have hascii : c.toNat ≤ 0x7f := by omega
    simp [String.utf8EncodeChar, hascii]
  have hmem := Utf8.mem_of_decode? (by omega) (Percent.mem_decode hpercent hdigit h hbytes) hname
  rwa [hbyte, Char.ofNat_toNat] at hmem

/-- **No host** ends with the space or with a control character. -/
theorem parseHost_of_control (cs : List Char) {c : Char} (hc : c.toNat ≤ 0x20) :
    ∃ e, parseHost (cs ++ [c]) = .error e := by
  unfold parseHost
  split
  · have hlast : (cs ++ [c]).getLast? ≠ some ']' := by
      rw [List.getLast?_concat]
      rintro ⟨⟩
      exact absurd hc (by decide)
    exact ⟨_, if_pos hlast⟩
  · have hname : (Utf8.decode? (Percent.decode (cs ++ [c]))).bind Domain.toAscii? = none :=
      Option.bind_eq_none_iff.2 fun name hname =>
        Domain.toAscii?_of_control hc (mem_of_decode?_decode hc (by simp) hname)
    rw [hname]
    exact ⟨_, rfl⟩

end Url

end BookCatalog
