import BookCatalog.Proofs.Url.Authority
import BookCatalog.Proofs.Url.Encoding
import Mathlib.Data.List.Basic

/-!
# Hosts of small letters

A host of small letters of ASCII is a name, and it is sent as it is: nothing in it is decoded,
mapped or exchanged, it is written from left to right, and it is no number.

* `Url.Domain.toAscii?_of_lower`, `Url.parseHost_of_lower` — the name that is sent;
* `Url.parseAuthority_of_host`, `Url.parse_of_parseAuthority` — from the host to the page.
-/

namespace BookCatalog

theorem of_lower {P : Char → Prop} (h : ∀ n < 26, P (Char.ofNat (97 + n))) {c : Char}
    (hc : c.isLower = true) : P c := by
  obtain ⟨hlow, hhigh⟩ := Bool.and_eq_true_iff.1 hc
  have hlow : 97 ≤ c.toNat := of_decide_eq_true hlow
  have hhigh : c.toNat ≤ 122 := of_decide_eq_true hhigh
  have hat := h (c.toNat - 97) (by omega)
  rwa [show 97 + (c.toNat - 97) = c.toNat by omega, Char.ofNat_toNat] at hat

section Lower

variable {cs : List Char} (h : ∀ c ∈ cs, c.isLower = true)
include h

theorem not_mem_of_lower {c : Char} (hc : c.isLower = false) : c ∉ cs := by
  intro hmem
  rw [h c hmem] at hc
  cases hc

theorem Percent.decode_of_lower : decode cs = Utf8.encode cs := by
  have hencode := @decode_encode Char.isLower (by decide) cs
  rwa [encode_of_keep h] at hencode

/-! ## Names -/

namespace Url.Domain

theorem map?_of_lower : map? cs = some cs := by
  have hmapM : cs.mapM mapChar? = some (cs.map ([·])) := by
    induction cs with
    | nil => rfl
    | cons c cs ih =>
      obtain ⟨hc, hcs⟩ := List.forall_mem_cons.1 h
      have hchar : mapChar? c = some [c] := if_pos
        (of_lower (P := fun c => ('a' ≤ c && c ≤ 'z' || c.isDigit || c = '-' || c = '.') = true)
          (by decide) hc)
      rw [List.mapM_cons, hchar, ih hcs]
      rfl
  rw [map?, hmapM, Option.map_some, ← List.flatMap_def, List.flatMap_singleton']

theorem isAscii_of_lower : cs.all isAscii = true :=
  List.all_eq_true.2 fun c hc => of_lower (P := fun c => isAscii c = true) (by decide) (h c hc)

theorem label_of_lower : Label.of? cs = some ⟨cs, cs⟩ := by
  have hallowed : cs.any isForbidden = false := List.any_eq_false.2 fun c hc =>
    of_lower (P := fun c => ¬ isForbidden c = true) (by decide) (h c hc)
  have hform : (['x', 'n', '-', '-'] : List Char).isPrefixOf? cs = none := by
    refine Option.eq_none_iff_forall_ne_some.2 fun form hform => ?_
    have hcs := List.isPrefixOf?_eq_some_iff_append_eq.1 hform
    exact not_mem_of_lower h (by decide : Char.isLower '-' = false) (by simp [← hcs])
  simp only [Label.of?, hallowed, hform, isAscii_of_lower h, Bool.false_eq_true, if_false,
    if_true]

theorem isRightToLeft_of_lower : isRightToLeft [cs] = false := by
  have hletters : ∀ edge ∈ rightToLeftRuns.edges.toList, 0x80 ≤ edge := by decide +kernel
  have hdigits : ∀ edge ∈ arabicDigitRuns.edges.toList, 0x80 ≤ edge := by decide +kernel
  rw [isRightToLeft, List.any_cons, List.any_nil, Bool.or_false, List.any_eq_false]
  intro c hc
  have hcode : c.toNat < 0x80 := of_lower (P := fun c => c.toNat < 0x80) (by decide) (h c hc)
  have hletter : rightToLeftRuns.contains c = false :=
    Text.Runs.contains_of_lt fun edge hedge =>
      Nat.lt_of_lt_of_le hcode (hletters edge (Array.mem_toList_iff.2 hedge))
  have hdigit : arabicDigitRuns.contains c = false :=
    Text.Runs.contains_of_lt fun edge hedge =>
      Nat.lt_of_lt_of_le hcode (hdigits edge (Array.mem_toList_iff.2 hedge))
  rw [direction, if_neg (by simp [hletter]), if_neg (by simp [hdigit])]
  split_ifs <;> decide

/-- **A name of small letters** is sent as it is. -/
theorem toAscii?_of_lower : toAscii? cs = some cs := by
  have hcut : Text.cut '.' cs = [cs] := Text.cut_of_not_mem (not_mem_of_lower h (by decide))
  have hlabels : [cs].mapM Label.of? = some [⟨cs, cs⟩] := by
    rw [List.mapM_cons, label_of_lower h]
    rfl
  rw [toAscii?, map?_of_lower h, Option.bind_eq_bind, Option.bind_some, if_pos (isAscii_of_lower h)]
  dsimp only
  rw [hcut, hlabels, Option.bind_eq_bind, Option.bind_some]
  simp [isRightToLeft_of_lower h, Text.joined]

end Url.Domain

/-! ## Hosts -/

namespace Url

theorem partNumber?_of_lower (hne : cs ≠ []) : partNumber? cs = none := by
  obtain ⟨c, cs, rfl⟩ := List.exists_cons_of_ne_nil hne
  have hc := h c List.mem_cons_self
  have hzero : c ≠ '0' := of_lower (P := fun c => c ≠ '0') (by decide) hc
  have hdigit : areDigits 10 [c] = false :=
    of_lower (P := fun c => areDigits 10 [c] = false) (by decide) hc
  have hdigits : areDigits 10 (c :: cs) = false := by
    rw [areDigits, List.all_cons, List.all_nil, Bool.and_true] at hdigit
    rw [areDigits, List.all_cons, hdigit, Bool.false_and]
  rw [partNumber?]
  · simp [hdigits]
  · intro hnil
    cases hnil
  · rintro ds ⟨⟩
    exact hzero rfl
  · rintro ds ⟨⟩
    exact hzero rfl
  · rintro d ds ⟨⟩
    exact hzero rfl

theorem endsInNumber_of_lower (hne : cs ≠ []) : endsInNumber cs = false := by
  have hcut : Text.cut '.' cs = [cs] := Text.cut_of_not_mem (not_mem_of_lower h (by decide))
  have hparts : hostParts cs = [cs] := by
    rw [hostParts, hcut]
    exact if_neg (by simpa using hne)
  have hdigits : cs.all Char.isDigit = false := by
    obtain ⟨c, cs, rfl⟩ := List.exists_cons_of_ne_nil hne
    rw [List.all_cons, of_lower (P := fun c => c.isDigit = false) (by decide) (h c (by simp)),
      Bool.false_and]
  rw [endsInNumber, hparts]
  simp [hdigits, partNumber?_of_lower h hne]

/-- **A host of small letters** is a name, sent as it is. -/
theorem parseHost_of_lower (hne : cs ≠ []) : parseHost cs = .ok (.name cs) := by
  have hbracket : cs.head? ≠ some '[' := fun hhead =>
    not_mem_of_lower h (by decide) (List.mem_of_head? hhead)
  have hname : (Utf8.decode? (Percent.decode cs)).bind Domain.toAscii? = some cs := by
    rw [Percent.decode_of_lower h, Utf8.decode?_encode, Option.bind_some,
      Domain.toAscii?_of_lower h]
  rw [parseHost, if_neg hbracket, hname]
  obtain ⟨c, cs, rfl⟩ := List.exists_cons_of_ne_nil hne
  exact if_neg (by rw [endsInNumber_of_lower h hne]; exact Bool.false_ne_true)

end Url

end Lower

/-! ## Pages -/

namespace Url

theorem parseAuthority_of_host {cs text behind after : List Char} {host : Host}
    {port : Option Nat} (huser : cutUser true cs = (none, cs))
    (hcut : cutHost true false cs = (text, behind)) (hne : text ≠ [])
    (hhost : parseHost text = .ok host) (hport : cutPort behind = .ok (port, after)) :
    parseAuthority cs = .ok ([], [], host, port, after) := by
  rw [parseAuthority, huser]
  dsimp only
  rw [hcut]
  dsimp only
  rw [if_neg hne, hhost, hport]
  rfl

theorem parse_of_parseAuthority {text : String} {scheme rest : List Char} {secure : Bool}
    {parts : List Char × List Char × Host × Option Nat × List Char}
    (hscheme : scheme? (relevant text.toList) = some (scheme, rest))
    (hstyle : style scheme = .web secure)
    (hparts : parseAuthority (rest.dropWhile isSlash) = .ok parts) :
    parse text = .ok (.page ((ofParts secure parts).withPath [] (dropSlash parts.2.2.2.2))) := by
  rw [parse, hscheme]
  show parseAfterScheme scheme rest = _
  unfold parseAfterScheme
  rw [hstyle]
  dsimp only
  rw [parsePage_eq, hparts]
  rfl

end Url

end BookCatalog
