import BookCatalog.Proofs.Json.Deciding
import BookCatalog.Proofs.Json.Records
import Mathlib.Data.List.Nodup

/-!
# Objects as records

An object is taken as a record member by member: a member of a known name changes the record, one of
another name leaves it alone, and a name that comes a second time is refused.  So the members alone
decide whether there is a record, and which.

* `IsObject` — the texts of an object with given members;
* `Shape.Step`, `Shape.Run` — what one member does, and what all of them do;
* `Shape.Run.part` — what the members make of one part of a record;
* `Shape.takes_of_gives` — the record that the members give is read of an object;
* `Shape.exists_gives_iff` — the members of which there is a record.
-/

namespace BookCatalog.Json

/-- The texts of an object with given members: their names, and the texts of their values. -/
inductive IsObject (ms : List (String × List Char)) : List Char → Prop
  | mk {ts : List (List Char)} {t : List Char} (hspread : Spread ts t)
      (hmembers : List.Forall₂ GivenMember ms ts) (hvalues : ∀ m ∈ ms, IsValue m.2) :
      IsObject ms ('\x7b' :: t ++ ['\x7d'])

/-- A whole text is an object with given members, with space around it. -/
inductive ObjectText (ms : List (String × List Char)) : String → Prop
  | mk {g t back : List Char} (hg : Gap g) (ht : IsObject ms t) (hback : Gap back) :
      ObjectText ms (String.ofList (g ++ (t ++ back)))

theorem isMember_of_given {ms : List (String × List Char)} {ts : List (List Char)}
    (hmembers : List.Forall₂ GivenMember ms ts) (hvalues : ∀ m ∈ ms, IsValue m.2) :
    ∀ t ∈ ts, IsMember t := by
  induction hmembers with
  | nil => simp
  | cons hm _ ih =>
    intro t ht
    rcases List.mem_cons.1 ht with rfl | ht
    · exact hm.isMember (hvalues _ List.mem_cons_self)
    · exact ih (fun m hm => hvalues m (List.mem_cons_of_mem _ hm)) t ht

theorem IsObject.isValue {ms : List (String × List Char)} {t : List Char} (h : IsObject ms t) :
    IsValue t := by
  cases h with
  | mk hspread hmembers hvalues =>
    exact .object_of_members hspread (isMember_of_given hmembers hvalues)

/-- **The text of an object** tells its members. -/
theorem IsObject.unique {ms ns : List (String × List Char)} {t : List Char} (hm : IsObject ms t)
    (hn : IsObject ns t) : ms = ns := by
  have hall : ∀ {ms ns : List (String × List Char)} {ts : List (List Char)},
      List.Forall₂ GivenMember ms ts → List.Forall₂ GivenMember ns ts →
      (∀ m ∈ ms, IsValue m.2) → (∀ n ∈ ns, IsValue n.2) → ms = ns := by
    intro ms ns ts hms hns
    induction hms generalizing ns with
    | nil =>
      cases hns
      exact fun _ _ => rfl
    | @cons m t ms ts hm _ ih =>
      cases hns with
      | @cons n _ ns _ hn hns =>
        intro hmvalues hnvalues
        have hhead : m = n := hm.unique hn (hmvalues m (by simp)) (hnvalues n (by simp))
        have htail : ms = ns := ih hns (fun x hx => hmvalues x (by simp [hx])) fun x hx =>
          hnvalues x (by simp [hx])
        rw [hhead, htail]
  generalize ht : t = text at hn
  cases hm with
  | mk hspread hmembers hvalues =>
    cases hn with
    | mk hspread' hmembers' hvalues' =>
      cases spread_of_brackets ht
      have hts := hspread.unique bounded_isMember hspread' (isMember_of_given hmembers hvalues)
        (isMember_of_given hmembers' hvalues')
      rw [← hts] at hmembers'
      exact hall hmembers hmembers' hvalues hvalues'

namespace Shape

variable {ρ : Type}

def names (shape : Shape ρ) : List String := shape.fields.map Field.name

/-- What the texts of values mean for the fields of a record, each under its name: the change that
they make to the record. -/
abbrev Meaning (ρ : Type) := String → List Char → (ρ → ρ) → Prop

/-- The readers of the fields take what the values mean. -/
structure Agrees (shape : Shape ρ) (levels : Nat) (E : Meaning ρ) : Prop where
  nodup : shape.names.Nodup
  decides : ∀ f ∈ shape.fields, Decides (f.read levels) fun change t => E f.name t change

/-- What one member does to a record and the names that were given so far. -/
inductive Step (shape : Shape ρ) (E : Meaning ρ) :
    String × List Char → List String × ρ → List String × ρ → Prop
  | known {k : String} {t : List Char} {given : List String} {r : ρ} {change : ρ → ρ}
      (hk : k ∈ shape.names) (hnew : k ∉ given) (hchange : E k t change) :
      Step shape E (k, t) (given, r) (k :: given, change r)
  | unknown {k : String} {t : List Char} {s : List String × ρ} (hk : k ∉ shape.names) :
      Step shape E (k, t) s s

/-- What members do to a record, one after the other. -/
inductive Run (shape : Shape ρ) (E : Meaning ρ) :
    List (String × List Char) → List String × ρ → List String × ρ → Prop
  | nil (s : List String × ρ) : Run shape E [] s s
  | cons {m : String × List Char} {ms : List (String × List Char)} {s s' s'' : List String × ρ}
      (hstep : Step shape E m s s') (hrun : Run shape E ms s' s'') : Run shape E (m :: ms) s s''

variable {shape : Shape ρ} {levels : Nat} {E : Meaning ρ}

/-! ## Reading members -/

theorem find?_of_mem_names (hnodup : shape.names.Nodup) {k : String} (hk : k ∈ shape.names) :
    ∃ f ∈ shape.fields, f.name = k ∧ shape.fields.find? (fun g => g.name = k) = some f := by
  obtain ⟨f, hf, rfl⟩ := List.mem_map.1 hk
  exact ⟨f, hf, rfl, find?_of_mem_fields hnodup hf⟩

theorem find?_of_not_mem_names {k : String} (hk : k ∉ shape.names) :
    shape.fields.find? (fun g => g.name = k) = none := by
  rw [List.find?_eq_none]
  intro f hf
  simpa using fun hname : f.name = k => hk (hname ▸ List.mem_map_of_mem hf)

/-- **What a member does** is read of it. -/
theorem takes_of_step (h : Agrees shape levels E) {k : String} {g b t : List Char}
    {s s' : List String × ρ} (hstep : Step shape E (k, t) s s') (hg : Gap g) (hb : Gap b)
    (ht : IsValue t) : Takes (shape.member levels k s) s' (g ++ ':' :: (b ++ t)) := by
  cases hstep with
  | known hk hnew hchange =>
    obtain ⟨f, hf, rfl, hfind⟩ := find?_of_mem_names h.nodup hk
    exact takes_member hfind hnew ((h.decides f hf).takes hchange) hg hb
  | unknown hk =>
    intro front rest hfront hrest
    have hcolon := skipColon_append (hfront.append hg) (b ++ (t ++ rest))
    have htext : front ++ (g ++ ':' :: (b ++ t) ++ rest) =
        front ++ g ++ ':' :: (b ++ (t ++ rest)) := by
      simp
    rw [htext]
    unfold Shape.member
    simp only [find?_of_not_mem_names hk, hcolon, skipValue_append ht hb (hrest.ended t),
      Except.map]

theorem steps_of_run (h : Agrees shape levels E) {ms : List (String × List Char)}
    {ts : List (List Char)} {s s' : List String × ρ} (hrun : Run shape E ms s s')
    (hmembers : List.Forall₂ GivenMember ms ts) (hvalues : ∀ m ∈ ms, IsValue m.2) :
    Steps (shape.member levels) ts s s' := by
  induction hrun generalizing ts with
  | nil s =>
    cases hmembers
    exact .nil s
  | @cons m ms s s' s'' hstep _ ih =>
    cases hmembers with
    | cons hm hms =>
      cases hm with
      | @mk k key g b t hkey hg hb =>
        have htakes := takes_of_step h hstep hg hb (hvalues (k, t) (by simp))
        exact .spelled hkey htakes (ih hms fun m hm => hvalues m (by simp [hm]))

/-! ## Reading objects -/

/-- The members of an object give a record, and all that has to be given. -/
def Gives (shape : Shape ρ) (E : Meaning ρ) (ms : List (String × List Char)) (r : ρ) : Prop :=
  ∃ given, Run shape E ms ([], shape.blank) (given, r) ∧
    ∀ f ∈ shape.fields, f.required = true → f.name ∈ given

/-- **The record that the members give** is read of an object. -/
theorem takes_of_gives (h : Agrees shape levels E) {ms : List (String × List Char)}
    {t : List Char} {r : ρ} (ht : IsObject ms t) (hr : Gives shape E ms r) :
    Takes (shape.read (levels + 1)) r t := by
  obtain ⟨given, hrun, hgiven⟩ := hr
  cases ht with
  | mk hspread hmembers hvalues =>
    exact takes_object hspread (steps_of_run h hrun hmembers hvalues) hgiven

/-! ## What the members give -/

def known (shape : Shape ρ) (ms : List (String × List Char)) : List (String × List Char) :=
  ms.filter fun m => m.1 ∈ shape.names

/-- A value is what the member of a name means, or the one for no such member if there is none. -/
def OfMember {α : Type} (ms : List (String × List Char)) (name : String)
    (R : α → List Char → Prop) (absent v : α) : Prop :=
  (∃ t, (name, t) ∈ ms ∧ R v t) ∨ (∀ t, (name, t) ∉ ms) ∧ v = absent

section OfMember

variable {α : Type} {ms ns : List (String × List Char)} {name : String}
  {R : α → List Char → Prop} {absent v w : α}

theorem OfMember.unique (hvalue : ∀ {t u : List Char}, (name, t) ∈ ms → (name, u) ∈ ms → t = u)
    (hR : ∀ {t : List Char} {v w : α}, R v t → R w t → v = w)
    (hv : OfMember ms name R absent v) (hw : OfMember ms name R absent w) : v = w := by
  rcases hv with ⟨t, ht, hv⟩ | ⟨hnone, hv⟩
  · rcases hw with ⟨u, hu, hw⟩ | ⟨hnone, -⟩
    · obtain rfl := hvalue ht hu
      exact hR hv hw
    · exact absurd ht (hnone t)
  · rcases hw with ⟨u, hu, -⟩ | ⟨-, hw⟩
    · exact absurd hu (hnone u)
    · rw [hv, hw]

theorem OfMember.congr (hmem : ∀ t, (name, t) ∈ ms ↔ (name, t) ∈ ns)
    (h : OfMember ms name R absent v) : OfMember ns name R absent v := by
  rcases h with ⟨t, ht, hR⟩ | ⟨hnone, hv⟩
  · exact .inl ⟨t, (hmem t).1 ht, hR⟩
  · exact .inr ⟨fun t ht => hnone t ((hmem t).2 ht), hv⟩

end OfMember

namespace Run

variable {ms : List (String × List Char)} {s s' : List String × ρ}

theorem given_eq (h : Run shape E ms s s') :
    s'.1 = ((shape.known ms).map Prod.fst).reverse ++ s.1 := by
  induction h with
  | nil s => rfl
  | @cons m ms s s' s'' hstep _ ih =>
    rw [ih]
    cases hstep with
    | known hk => simp [known, hk]
    | unknown hk => simp [known, hk]

theorem nodup (h : Run shape E ms s s') (hs : s.1.Nodup) : s'.1.Nodup := by
  induction h with
  | nil s => exact hs
  | cons hstep _ ih =>
    apply ih
    cases hstep with
    | known _ hnew => exact List.nodup_cons.2 ⟨hnew, hs⟩
    | unknown => exact hs

theorem exists_change (h : Run shape E ms s s') :
    ∀ m ∈ shape.known ms, ∃ change, E m.1 m.2 change := by
  induction h with
  | nil s => simp [known]
  | @cons m ms s s' s'' hstep _ ih =>
    intro n hn
    cases hstep with
    | @known k t given r change hk hnew hchange =>
      rw [known, List.filter_cons_of_pos (by simpa using hk)] at hn
      rcases List.mem_cons.1 hn with rfl | hn
      · exact ⟨change, hchange⟩
      · exact ih n hn
    | unknown hk =>
      rw [known, List.filter_cons_of_neg (by simpa using hk)] at hn
      exact ih n hn

variable {α : Type} {R : α → List Char → Prop}

theorem part_of_given {name : String} {get : ρ → α}
    (hothers : ∀ {k : String} {t : List Char} {change : ρ → ρ} {r : ρ},
      k ≠ name → E k t change → get (change r) = get r)
    (h : Run shape E ms s s') (hgiven : name ∈ s.1) : get s'.2 = get s.2 := by
  induction h with
  | nil s => rfl
  | cons hstep _ ih =>
    cases hstep with
    | @known k t given r change hk hnew hchange =>
      have hne : k ≠ name := fun heq => hnew (heq ▸ hgiven)
      rw [ih (List.mem_cons_of_mem k hgiven), hothers hne hchange]
    | unknown => exact ih hgiven

/-- **One part of the record** is what the member of its name makes of it, and is left as it was if
there is none. -/
theorem part (name : String) (get : ρ → α)
    (hown : ∀ {t : List Char} {change : ρ → ρ} {r : ρ},
      E name t change → R (get (change r)) t)
    (hothers : ∀ {k : String} {t : List Char} {change : ρ → ρ} {r : ρ},
      k ≠ name → E k t change → get (change r) = get r)
    (hname : name ∈ shape.names) (h : Run shape E ms s s') :
    OfMember ms name R (get s.2) (get s'.2) := by
  induction h with
  | nil s => exact .inr ⟨by simp, rfl⟩
  | @cons m ms s s₁ s' hstep hrun ih =>
    obtain ⟨k, t⟩ := m
    have hskip : k ≠ name → get s₁.2 = get s.2 →
        OfMember ((k, t) :: ms) name R (get s.2) (get s'.2) := by
      intro hne hkept
      rw [hkept] at ih
      rcases ih with ⟨u, hu, hR⟩ | ⟨hnone, heq⟩
      · exact .inl ⟨u, List.mem_cons_of_mem _ hu, hR⟩
      · refine .inr ⟨fun u hu => ?_, heq⟩
        rcases List.mem_cons.1 hu with heq | hu
        · exact hne (Prod.mk.inj heq).1.symm
        · exact hnone u hu
    cases hstep with
    | @known _ _ given r change hk hnew hchange =>
      by_cases hkname : k = name
      · cases hkname
        have hkept := part_of_given hothers hrun List.mem_cons_self
        refine .inl ⟨t, List.mem_cons_self, ?_⟩
        rw [hkept]
        exact hown hchange
      · exact hskip hkname (hothers hkname hchange)
    | unknown hk =>
      exact hskip (fun heq => hk (heq ▸ hname)) rfl

end Run

/-- Members of which no known name comes twice, and all of known names have a meaning, lead
somewhere. -/
theorem exists_run {ms : List (String × List Char)} {given : List String} {r : ρ}
    (hnodup : ((shape.known ms).map Prod.fst).Nodup) (hnew : ∀ m ∈ shape.known ms, m.1 ∉ given)
    (hmeans : ∀ m ∈ shape.known ms, ∃ change, E m.1 m.2 change) :
    ∃ s', Run shape E ms (given, r) s' := by
  induction ms generalizing given r with
  | nil => exact ⟨_, .nil _⟩
  | cons m ms ih =>
    obtain ⟨k, t⟩ := m
    by_cases hk : k ∈ shape.names
    · have hcons : shape.known ((k, t) :: ms) = (k, t) :: shape.known ms :=
        List.filter_cons_of_pos (by simpa using hk)
      rw [hcons] at hnodup hnew hmeans
      rw [List.map_cons, List.nodup_cons] at hnodup
      obtain ⟨change, hchange⟩ := hmeans (k, t) (by simp)
      have hnew' : ∀ m ∈ shape.known ms, m.1 ∉ k :: given := by
        intro m hm hmem
        rcases List.mem_cons.1 hmem with heq | hmem
        · have hmap : m.1 ∈ (shape.known ms).map Prod.fst := List.mem_map_of_mem hm
          rw [heq] at hmap
          exact hnodup.1 hmap
        · exact hnew m (by simp [hm]) hmem
      obtain ⟨s', hrun⟩ := ih (r := change r) hnodup.2 hnew' fun m hm => hmeans m (by simp [hm])
      exact ⟨s', .cons (.known hk (hnew (k, t) (by simp)) hchange) hrun⟩
    · have hcons : shape.known ((k, t) :: ms) = shape.known ms :=
        List.filter_cons_of_neg (by simpa using hk)
      rw [hcons] at hnodup hnew hmeans
      obtain ⟨s', hrun⟩ := ih (r := r) hnodup hnew hmeans
      exact ⟨s', .cons (.unknown hk) hrun⟩

theorem mem_map_known_iff {ms : List (String × List Char)} {k : String} (hk : k ∈ shape.names) :
    k ∈ (shape.known ms).map Prod.fst ↔ k ∈ ms.map Prod.fst := by
  simp only [known, List.mem_map, List.mem_filter, decide_eq_true_eq]
  constructor
  · rintro ⟨m, ⟨hm, -⟩, heq⟩
    exact ⟨m, hm, heq⟩
  · rintro ⟨m, hm, heq⟩
    exact ⟨m, ⟨hm, heq ▸ hk⟩, heq⟩

theorem nodup_known_iff {ms : List (String × List Char)} :
    ((shape.known ms).map Prod.fst).Nodup ↔
      ∀ k ∈ shape.names, (ms.map Prod.fst).count k ≤ 1 := by
  have hfilter : (shape.known ms).map Prod.fst = (ms.map Prod.fst).filter (· ∈ shape.names) := by
    rw [List.filter_map]
    rfl
  rw [hfilter, List.nodup_iff_count_le_one]
  constructor
  · intro h k hk
    have hcount := h k
    rwa [List.count_filter (by simpa using hk)] at hcount
  · intro h k
    by_cases hk : k ∈ shape.names
    · rw [List.count_filter (by simpa using hk)]
      exact h k hk
    · have hnot : k ∉ (ms.map Prod.fst).filter (· ∈ shape.names) := by simp [hk]
      rw [List.count_eq_zero.2 hnot]
      exact Nat.zero_le 1

theorem value_unique {ms : List (String × List Char)} {k : String} {t u : List Char}
    (hcount : ∀ k ∈ shape.names, (ms.map Prod.fst).count k ≤ 1) (hk : k ∈ shape.names)
    (ht : (k, t) ∈ ms) (hu : (k, u) ∈ ms) : t = u := by
  have hknown : ∀ {t : List Char}, (k, t) ∈ ms → (k, t) ∈ shape.known ms := fun ht =>
    List.mem_filter.2 ⟨ht, by simpa using hk⟩
  have heq := List.inj_on_of_nodup_map (nodup_known_iff.2 hcount) (hknown ht) (hknown hu) rfl
  exact (Prod.mk.inj heq).2

/-- **The members of which there is a record**: no known name comes twice, no name is missing that
has to be given, and every value under a known name has a meaning. -/
theorem exists_gives_iff {ms : List (String × List Char)} : (∃ r, Gives shape E ms r) ↔
    (∀ f ∈ shape.fields, f.required = true → f.name ∈ ms.map Prod.fst) ∧
    (∀ k ∈ shape.names, (ms.map Prod.fst).count k ≤ 1) ∧
    ∀ m ∈ shape.known ms, ∃ change, E m.1 m.2 change := by
  have hmem : ∀ f ∈ shape.fields, f.name ∈ (shape.known ms).map Prod.fst ↔
      f.name ∈ ms.map Prod.fst := fun f hf => mem_map_known_iff (List.mem_map_of_mem hf)
  rw [← nodup_known_iff]
  constructor
  · rintro ⟨r, given, hrun, hgiven⟩
    have heq := hrun.given_eq
    have hnodup := hrun.nodup List.nodup_nil
    rw [List.append_nil] at heq
    dsimp only at heq hnodup
    rw [heq] at hnodup hgiven
    refine ⟨fun f hf hrequired => ?_, (List.reverse_perm _).nodup_iff.1 hnodup,
      hrun.exists_change⟩
    exact (hmem f hf).1 (List.mem_reverse.1 (hgiven f hf hrequired))
  · rintro ⟨hrequired, hnodup, hmeans⟩
    obtain ⟨⟨given, r⟩, hrun⟩ := exists_run (r := shape.blank) hnodup
      (fun m _ => List.not_mem_nil (a := m.1)) hmeans
    have heq := hrun.given_eq
    rw [List.append_nil] at heq
    dsimp only at heq
    refine ⟨r, given, hrun, fun f hf hf' => ?_⟩
    rw [heq]
    exact List.mem_reverse.2 ((hmem f hf).2 (hrequired f hf hf'))

/-- Neither the order of members nor those of other names matter to whether there is a record. -/
theorem exists_gives_perm {ms ns : List (String × List Char)}
    (hperm : (shape.known ms).Perm (shape.known ns)) (h : ∃ r, Gives shape E ms r) :
    ∃ r, Gives shape E ns r := by
  obtain ⟨hrequired, hcount, hmeans⟩ := exists_gives_iff.1 h
  refine exists_gives_iff.2 ⟨fun f hf hf' => ?_, ?_, fun m hm => hmeans m (hperm.mem_iff.2 hm)⟩
  · have hname : f.name ∈ shape.names := List.mem_map_of_mem hf
    have hmem := hrequired f hf hf'
    rw [← mem_map_known_iff hname] at hmem ⊢
    exact (hperm.map Prod.fst).mem_iff.1 hmem
  · rw [← nodup_known_iff] at hcount ⊢
    exact (hperm.map Prod.fst).nodup_iff.1 hcount

theorem mem_of_known_perm {ms ns : List (String × List Char)}
    (hperm : (shape.known ms).Perm (shape.known ns)) {k : String} (hk : k ∈ shape.names)
    (t : List Char) : (k, t) ∈ ms ↔ (k, t) ∈ ns := by
  have hknown : ∀ {ms : List (String × List Char)}, (k, t) ∈ shape.known ms ↔ (k, t) ∈ ms := by
    simp [known, hk]
  rw [← hknown, hperm.mem_iff, hknown]

end Shape

end BookCatalog.Json
