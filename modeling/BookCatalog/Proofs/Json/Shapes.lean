import BookCatalog.Proofs.Json.Members
import BookCatalog.Proofs.Json.Sound

/-!
# Both shapes of a record

A record is given by an object with its fields as members, or by a list of its first fields in their
order.  The list is read field by field, by another loop than the members; it gives the record that
an object with the same values under the names of those fields gives.

* `IsList` — the texts of a list with given items;
* `Shape.Fills` — what items make of a record, field by field;
* `Shape.fills_iff_gives` — items make the record that members of their names give;
* `Shape.Given` — the texts of records, in both shapes;
* `Shape.parses` — the reader of records takes these and no others.
-/

namespace BookCatalog.Json

/-- The texts of a list with given items. -/
inductive IsList (ts : List (List Char)) : List Char → Prop
  | mk {t : List Char} (hspread : Spread ts t) (hvalues : ∀ u ∈ ts, IsValue u) :
      IsList ts ('[' :: t ++ [']'])

/-- A whole text is a list with given items, with space around it. -/
inductive ListText (ts : List (List Char)) : String → Prop
  | mk {g t back : List Char} (hg : Gap g) (ht : IsList ts t) (hback : Gap back) :
      ListText ts (String.ofList (g ++ (t ++ back)))

theorem IsList.isValue {ts : List (List Char)} {t : List Char} (h : IsList ts t) : IsValue t := by
  cases h with
  | mk hspread hvalues => exact .list hspread hvalues

theorem IsList.items {ts : List (List Char)} {t : List Char} (h : IsList ts t) :
    ∀ u ∈ ts, IsValue u := by
  cases h with
  | mk _ hvalues => exact hvalues

theorem IsList.ended {ts : List (List Char)} {t : List Char} (h : IsList ts t)
    (rest : List Char) : Ended t rest := by
  cases h
  exact ended_cons (by decide) rfl _ rest

theorem IsObject.ended {ms : List (String × List Char)} {t : List Char} (h : IsObject ms t)
    (rest : List Char) : Ended t rest := by
  cases h
  exact ended_cons (by decide) rfl _ rest

/-- **The text of a list** tells its items. -/
theorem IsList.unique {ts us : List (List Char)} {t : List Char} (ht : IsList ts t)
    (hu : IsList us t) : ts = us := by
  generalize heq : t = text at hu
  cases ht with
  | mk hspread hvalues =>
    cases hu with
    | mk hspread' hvalues' =>
      cases spread_of_brackets heq
      exact hspread.unique bounded_isValue hspread' hvalues hvalues'

/-- **The text of a list** means what its items mean. -/
theorem IsList.listOf_iff {α : Type} {read : Reader α} {R : α → List Char → Prop}
    (h : Decides read R) {ts : List (List Char)} {t : List Char} (ht : IsList ts t)
    {xs : List α} : ListOf R xs t ↔ List.Forall₂ R xs ts := by
  constructor
  · rintro ⟨hspread, hitems⟩
    rw [ht.unique (.mk hspread (h.isValue_of_forall₂ hitems))]
    exact hitems
  · intro hitems
    cases ht with
    | mk hspread _ => exact .mk hspread hitems

namespace Shape

variable {ρ : Type} {shape : Shape ρ} {levels : Nat} {E : Meaning ρ}

/-! ## Lists of fields -/

/-- What items make of a record: each gives the next field, and what is left of the fields where
there are no more items need not be given. -/
inductive Fills (E : Meaning ρ) : List (Field ρ) → List (List Char) → ρ → ρ → Prop
  | done {fs : List (Field ρ)} {r : ρ} (h : ∀ f ∈ fs, f.required = false) : Fills E fs [] r r
  | next {f : Field ρ} {fs : List (Field ρ)} {t : List Char} {ts : List (List Char)}
      {change : ρ → ρ} {r r' : ρ} (hchange : E f.name t change)
      (hmore : Fills E fs ts (change r) r') : Fills E (f :: fs) (t :: ts) r r'

/-- Items, each under the name of its field, as members. -/
def named (fs : List (Field ρ)) (ts : List (List Char)) : List (String × List Char) :=
  (fs.map Field.name).zip ts

theorem Run.mem_of_mem {ms : List (String × List Char)} {s s' : List String × ρ}
    (h : Run shape E ms s s') {k : String} (hk : k ∈ s.1) : k ∈ s'.1 := by
  rw [h.given_eq]
  exact List.mem_append_right _ hk

theorem new_of_nodup {f : Field ρ} {fs : List (Field ρ)} {given : List String}
    (hnodup : ((f :: fs).map Field.name).Nodup) (hnew : ∀ f' ∈ f :: fs, f'.name ∉ given) :
    ∀ f' ∈ fs, f'.name ∉ f.name :: given := by
  rw [List.map_cons, List.nodup_cons] at hnodup
  intro f' hf' hmem
  rcases List.mem_cons.1 hmem with heq | hmem
  · exact hnodup.1 (heq ▸ List.mem_map_of_mem hf')
  · exact hnew f' (List.mem_cons_of_mem f hf') hmem

/-- What fills some fields, the members of their names do. -/
theorem Fills.run {fs : List (Field ρ)} {ts : List (List Char)} {r r' : ρ}
    (h : Fills E fs ts r r') {given : List String} (hknown : ∀ f ∈ fs, f.name ∈ shape.names)
    (hnodup : (fs.map Field.name).Nodup) (hnew : ∀ f ∈ fs, f.name ∉ given) :
    ts.length ≤ fs.length ∧ ∃ given', Run shape E (named fs ts) (given, r) (given', r') ∧
      ∀ f ∈ fs, f.required = true → f.name ∈ given' := by
  induction h generalizing given with
  | @done fs r hmissing =>
    refine ⟨Nat.zero_le _, given, ?_, fun f hf hrequired => ?_⟩
    · rw [named, List.zip_nil_right]
      exact .nil _
    · rw [hmissing f hf] at hrequired
      cases hrequired
  | @next f fs t ts change r r' hchange _ ih =>
    obtain ⟨hlength, given', hrun, hgiven⟩ :=
      ih (fun f' hf' => hknown f' (List.mem_cons_of_mem _ hf')) (List.nodup_cons.1 hnodup).2
        (new_of_nodup hnodup hnew)
    refine ⟨Nat.succ_le_succ hlength, given', ?_, fun f' hf' hrequired => ?_⟩
    · exact .cons (.known (hknown f (by simp)) (hnew f (by simp)) hchange) hrun
    · rcases List.mem_cons.1 hf' with rfl | hf'
      · exact hrun.mem_of_mem List.mem_cons_self
      · exact hgiven f' hf' hrequired

/-- What members of the names of some fields do, the values of these fill. -/
theorem fills_of_run {fs : List (Field ρ)} {ts : List (List Char)} {given given' : List String}
    {r r' : ρ} (hknown : ∀ f ∈ fs, f.name ∈ shape.names) (hnew : ∀ f ∈ fs, f.name ∉ given)
    (hnodup : (fs.map Field.name).Nodup) (hlength : ts.length ≤ fs.length)
    (hrun : Run shape E (named fs ts) (given, r) (given', r'))
    (hgiven : ∀ f ∈ fs, f.required = true → f.name ∈ given') : Fills E fs ts r r' := by
  induction fs generalizing ts given r with
  | nil =>
    obtain rfl : ts = [] := List.length_eq_zero_iff.1 (Nat.le_zero.1 hlength)
    cases hrun
    exact .done (by simp)
  | cons f fs ih =>
    cases ts with
    | nil =>
      cases hrun
      refine .done fun f' hf' => ?_
      cases hrequired : f'.required with
      | false => rfl
      | true => exact absurd (hgiven f' hf' hrequired) (hnew f' hf')
    | cons t ts =>
      cases hrun with
      | cons hstep hrun =>
        cases hstep with
        | unknown hk => exact absurd (hknown f List.mem_cons_self) hk
        | known hk hnew' hchange =>
          exact .next hchange (ih (fun f' hf' => hknown f' (List.mem_cons_of_mem _ hf'))
            (new_of_nodup hnodup hnew) (List.nodup_cons.1 hnodup).2
            (Nat.le_of_succ_le_succ hlength) hrun
            fun f' hf' => hgiven f' (List.mem_cons_of_mem _ hf'))

theorem Run.congr {ms ns : List (String × List Char)} {s s' : List String × ρ}
    (hsame : List.Forall₂ (fun m n => m.1 = n.1 ∧ ∀ change, E m.1 m.2 change → E m.1 n.2 change)
      ms ns) (h : Run shape E ms s s') : Run shape E ns s s' := by
  induction h generalizing ns with
  | nil s =>
    cases hsame
    exact .nil s
  | @cons m ms s s₁ s' hstep _ ih =>
    cases hsame with
    | @cons _ n _ ns hmn hsame =>
      refine .cons ?_ (ih hsame)
      obtain ⟨k, u⟩ := n
      obtain ⟨hname, hmeans⟩ := hmn
      cases hstep with
      | known hk hnew hchange =>
        cases hname
        exact .known hk hnew (hmeans _ hchange)
      | unknown hk =>
        cases hname
        exact .unknown hk

theorem Gives.congr {ms ns : List (String × List Char)} {r : ρ}
    (hsame : List.Forall₂ (fun m n => m.1 = n.1 ∧ ∀ change, E m.1 m.2 change → E m.1 n.2 change)
      ms ns) (h : Gives shape E ms r) : Gives shape E ns r := by
  obtain ⟨given, hrun, hgiven⟩ := h
  exact ⟨given, hrun.congr hsame, hgiven⟩

/-- **Items make the record** that members of the names of their fields give, if there are not more
of them than fields. -/
theorem fills_iff_gives (hnodup : shape.names.Nodup) {ts : List (List Char)} {r : ρ} :
    Fills E shape.fields ts shape.blank r ↔
      ts.length ≤ shape.fields.length ∧ Gives shape E (named shape.fields ts) r := by
  have hknown : ∀ f ∈ shape.fields, f.name ∈ shape.names := fun f hf => List.mem_map_of_mem hf
  have hnew : ∀ f ∈ shape.fields, f.name ∉ ([] : List String) := fun f _ => List.not_mem_nil
  constructor
  · intro h
    exact h.run hknown hnodup hnew
  · rintro ⟨hlength, given, hrun, hgiven⟩
    exact fills_of_run hknown hnew hnodup hlength hrun hgiven

/-! ## Reading lists of fields -/

theorem Fills.isValue {fs : List (Field ρ)} {ts : List (List Char)} {r r' : ρ}
    (h : Fills E fs ts r r')
    (hfields : ∀ f ∈ fs, Parses (f.read levels) fun change t => E f.name t change) :
    ∀ t ∈ ts, IsValue t := by
  induction h with
  | done => simp
  | @next f fs t ts change r r' hchange _ ih =>
    have hmore := ih fun f' hf' => hfields f' (List.mem_cons_of_mem f hf')
    exact List.forall_mem_cons.2 ⟨(hfields f List.mem_cons_self).isValue hchange, hmore⟩

theorem readItems_close {fs : List (Field ρ)} (hmissing : ∀ f ∈ fs, f.required = false)
    (place : Nat) (r : ρ) {g : List Char} (hg : Gap g) (rest : List Char) :
    leaveList (shape.readItems levels fs place r (g ++ ']' :: rest)) = .ok (r, rest) := by
  induction fs generalizing place g with
  | nil =>
    rw [Shape.readItems, leaveList, closeList_gap hg]
    rfl
  | cons f fs ih =>
    have hrequired : f.required = false := hmissing f List.mem_cons_self
    rw [Shape.readItems, nextItem_close _ hg]
    simp only [hrequired, Bool.false_eq_true, if_false]
    exact ih (fun f' hf' => hmissing f' (List.mem_cons_of_mem _ hf')) (place + 1) gap_nil

/-- **What items make of a record** is read of them. -/
theorem readItems_of_fills {fs : List (Field ρ)} {ts : List (List Char)} {r r' : ρ}
    (h : Fills E fs ts r r')
    (hfields : ∀ f ∈ fs, Parses (f.read levels) fun change t => E f.name t change)
    (place : Nat) {inside : List Char} (hinside : Inside (place = 0) ts inside)
    (rest : List Char) :
    leaveList (shape.readItems levels fs place r (inside ++ ']' :: rest)) = .ok (r', rest) := by
  induction h generalizing place inside with
  | done hmissing => exact readItems_close hmissing place _ hinside.gap rest
  | @next f fs t ts change r r' hchange _ ih =>
    obtain ⟨lead, g, more, rfl, hlead, hg, hmore⟩ := hinside.exists_lead
    have hparses := hfields f List.mem_cons_self
    have hends : Ends (more ++ ']' :: rest) := hmore.ends (ends_cons (by simp) rest)
    have hvalue : f.read levels (t ++ (more ++ ']' :: rest)) =
        .ok (change, more ++ ']' :: rest) := hparses.takes hchange [] _ gap_nil hends
    have htext : lead ++ (g ++ (t ++ more)) ++ ']' :: rest =
        lead ++ (g ++ (t ++ (more ++ ']' :: rest))) := by
      simp
    rw [htext, Shape.readItems, nextItem_lead hlead hg (hparses.isValue hchange).starts]
    simp only [hvalue]
    exact ih (fun f' hf' => hfields f' (List.mem_cons_of_mem _ hf')) (place + 1)
      (by simpa [Inside] using hmore)

/-- **What is read of a list** is what its items make of the record, up to the closing bracket. -/
theorem fills_of_readItems {fs : List (Field ρ)}
    (hfields : ∀ f ∈ fs, Parses (f.read levels) fun change t => E f.name t change)
    {place : Nat} {r r' : ρ} {input rest : List Char}
    (hread : leaveList (shape.readItems levels fs place r input) = .ok (r', rest)) :
    ∃ ts inside, input = inside ++ ']' :: rest ∧ Inside (place = 0) ts inside ∧
      Fills E fs ts r r' := by
  induction fs generalizing place r input with
  | nil =>
    obtain ⟨last, hitems, hclose⟩ := leaveList_eq_ok_iff.1 hread
    cases hitems
    obtain ⟨g, hg, rfl⟩ := exists_gap_of_closeList hclose
    exact ⟨[], g, rfl, .of_gap _ hg, .done (by simp)⟩
  | cons f fs ih =>
    have hothers : ∀ f' ∈ fs, Parses (f'.read levels) fun change t => E f'.name t change :=
      fun f' hf' => hfields f' (List.mem_cons_of_mem f hf')
    rw [Shape.readItems] at hread
    split at hread
    · exact absurd hread (leaveList_error_ne _ _ _)
    · next after hnext =>
      split at hread
      · cases hread
      · next hrequired =>
        cases atItem_of_nextItem hnext with
        | @none g cs hg heq =>
          obtain ⟨ts, inside, hclosed, hinside, hfills⟩ := ih hothers hread
          -- nothing stands in front of the bracket that closes the list
          have hnil : ts = [] ∧ inside = [] := by
            have hrest : Rest ts inside := by simpa [Inside] using hinside
            cases hrest with
            | nil hgap =>
              obtain ⟨rfl, -⟩ := gap_nil.cut hgap (c := ']') (d := ']') rfl rfl hclosed
              exact ⟨rfl, rfl⟩
            | cons hh =>
              rw [List.append_assoc, List.cons_append] at hclosed
              obtain ⟨-, hcomma⟩ := gap_nil.cut hh (c := ']') (d := ',') rfl rfl hclosed
              cases hcomma
          obtain ⟨rfl, rfl⟩ := hnil
          cases hclosed
          refine ⟨[], g, heq, .of_gap _ hg, ?_⟩
          cases hfills with
          | done hmissing =>
            exact .done (List.forall_mem_cons.2 ⟨by simpa using hrequired, hmissing⟩)
    · next after hnext =>
      split at hread
      · exact absurd hread (leaveList_error_ne _ _ _)
      · next change last hvalue =>
        obtain ⟨ts, inside, rfl, hinside, hfills⟩ := ih hothers hread
        obtain ⟨g', t, rfl, hg', -, ht⟩ := (hfields f List.mem_cons_self).sound hvalue
        cases atItem_of_nextItem hnext with
        | some hlead hg heq =>
          refine ⟨t :: ts, _, ?_, .cons hlead (hg.append hg') (by simpa [Inside] using hinside),
            .next ht hfills⟩
          rw [heq]
          simp

/-! ## Reading any objects -/

/-- What the search for the next key finds: none, in front of the closing brace, or one behind what
leads up to it. -/
inductive AtKey (first : Bool) (input : List Char) : Bool × List Char → Prop
  | none {g cs : List Char} (hg : Gap g) (heq : input = g ++ '\x7d' :: cs) :
      AtKey first input (false, '\x7d' :: cs)
  | some {lead g rest : List Char} (hlead : Lead first lead) (hg : Gap g)
      (heq : input = lead ++ (g ++ '"' :: rest)) : AtKey first input (true, rest)

theorem atKey_of_nextKey {first : Bool} {input : List Char} {found : Bool × List Char}
    (h : nextKey first input = .ok found) : AtKey first input found := by
  unfold nextKey at h
  dsimp only at h
  split at h
  · cases h
  · next c cs hskip =>
    obtain ⟨g, hg, rfl⟩ := exists_gap_of_skipSpace hskip
    split at h
    · next hc =>
      subst hc
      cases h
      exact .none hg rfl
    · split at h
      · next hfirst =>
        subst hfirst
        split at h
        · next hquote =>
          subst hquote
          cases h
          exact .some .first hg rfl
        · cases h
      · next hfirst =>
        obtain rfl : first = false := by simpa using hfirst
        split at h
        · next hcomma =>
          subst hcomma
          split at h
          · cases h
          · next d ds hkey =>
            obtain ⟨g', hg', rfl⟩ := exists_gap_of_skipSpace hkey
            split at h
            · next hquote =>
              subst hquote
              cases h
              exact .some (.next hg) hg' (by simp)
            · split at h
              · cases h
              · cases h
        · cases h

theorem exists_gap_of_skipColon {input rest : List Char} (h : skipColon input = .ok rest) :
    ∃ g, Gap g ∧ input = g ++ ':' :: rest := by
  unfold skipColon at h
  split at h
  · cases h
  · next hskip =>
    cases h
    exact exists_gap_of_skipSpace hskip
  · cases h

theorem leaveObject_eq_ok_iff {α : Type} {result : Result α} {v : α} {rest : List Char} :
    leaveObject result = .ok (v, rest) ↔
      ∃ inside, result = .ok (v, inside) ∧ closeObject inside = .ok rest := by
  constructor
  · intro h
    obtain ⟨inside, rfl⟩ := exists_of_leaveObject h
    obtain ⟨after, hclose, heq⟩ := exists_of_map h
    cases heq
    exact ⟨inside, rfl, hclose⟩
  · rintro ⟨inside, rfl, hclose⟩
    simp only [leaveObject, hclose, Except.map]

/-- The readers of the fields parse what the values mean. -/
structure ParsesFields (shape : Shape ρ) (levels : Nat) (E : Meaning ρ) : Prop where
  nodup : shape.names.Nodup
  parses : ∀ f ∈ shape.fields, Parses (f.read levels) fun change t => E f.name t change

theorem ParsesFields.agrees (h : ParsesFields shape levels E) : Agrees shape levels E where
  nodup := h.nodup
  decides := fun f hf => (h.parses f hf).decides

/-- **What is read as a member** is a value behind a colon, and does what its key says. -/
theorem exists_step_of_member (h : ParsesFields shape levels E) {k : String}
    {s s' : List String × ρ} {input rest : List Char}
    (hread : shape.member levels k s input = .ok (s', rest)) :
    ∃ g b t, input = g ++ ':' :: (b ++ (t ++ rest)) ∧ Gap g ∧ Gap b ∧ IsValue t ∧
      Step shape E (k, t) s s' := by
  unfold Shape.member at hread
  by_cases hk : k ∈ shape.names
  · obtain ⟨f, hf, rfl, hfind⟩ := find?_of_mem_names h.nodup hk
    simp only [hfind] at hread
    split at hread
    · cases hread
    · next hnew =>
      split at hread
      · cases hread
      · next atValue hcolon =>
        obtain ⟨g, hg, rfl⟩ := exists_gap_of_skipColon hcolon
        split at hread
        · cases hread
        · next change after hvalue =>
          cases hread
          obtain ⟨b, t, rfl, hb, -, hchange⟩ := (h.parses f hf).sound hvalue
          exact ⟨g, b, t, rfl, hg, hb, (h.parses f hf).isValue hchange, .known hk hnew hchange⟩
  · simp only [find?_of_not_mem_names hk] at hread
    split at hread
    · cases hread
    · next atValue hcolon =>
      obtain ⟨g, hg, rfl⟩ := exists_gap_of_skipColon hcolon
      obtain ⟨after, hskip, heq⟩ := exists_of_map hread
      cases heq
      obtain ⟨b, t, rfl, hb, ht⟩ := exists_value_of_skipValue hskip
      exact ⟨g, b, t, rfl, hg, hb, ht, .unknown hk⟩

/-- **What the loop over the members reads** are members, up to the closing brace. -/
theorem exists_run_of_readMembers (h : ParsesFields shape levels E) {first : Bool}
    {s s' : List String × ρ} {input last : List Char}
    (hread : readMembers (shape.member levels) first s input = .ok (s', last)) :
    ∃ ms ts inside after, input = inside ++ last ∧ last = '\x7d' :: after ∧
      Inside first ts inside ∧ List.Forall₂ GivenMember ms ts ∧ (∀ m ∈ ms, IsValue m.2) ∧
      Run shape E ms s s' := by
  fun_induction readMembers (shape.member levels) first s input with
  | case2 first s input rest hnext =>
    cases hread
    cases atKey_of_nextKey hnext with
    | @none g cs hg heq =>
      exact ⟨[], [], g, cs, heq, rfl, .of_gap first hg, .nil, by simp, .nil _⟩
  | case5 first s input rest hnext k atColon hkey s₁ after hmember _ ih =>
    obtain ⟨ms, ts, inside, closed, rfl, hlast, hinside, hms, hvalues, hrun⟩ := ih hread
    obtain ⟨⟨chars, after⟩, hchars, heq⟩ := exists_of_map hkey
    cases heq
    obtain ⟨key, rfl, hspelled⟩ := spelled_of_readChars hchars
    obtain ⟨g, b, t, rfl, hg, hb, ht, hstep⟩ := exists_step_of_member h hmember
    have hname : SpelledText (String.ofList chars) ('"' :: key ++ ['"']) := by
      refine .mk ?_
      rwa [String.toList_ofList]
    cases atKey_of_nextKey hnext with
    | some hlead hfront heq =>
      refine ⟨(String.ofList chars, t) :: ms, _ :: ts, _, closed, ?_, hlast,
        .cons hlead hfront hinside, .cons (.mk hname hg hb) hms,
        List.forall_mem_cons.2 ⟨ht, hvalues⟩, .cons hstep hrun⟩
      rw [heq]
      simp
  | _ => cases hread

/-- **What is read as an object** is one, and its members give the record. -/
theorem exists_gives_of_readObject (h : ParsesFields shape levels E) {r : ρ} {cs rest : List Char}
    (hread : leaveObject (shape.readObject levels cs) = .ok (r, rest)) :
    ∃ ms t, '\x7b' :: cs = t ++ rest ∧ IsObject ms t ∧ Gives shape E ms r := by
  obtain ⟨last, hobject, hclose⟩ := leaveObject_eq_ok_iff.1 hread
  unfold Shape.readObject at hobject
  split at hobject
  · cases hobject
  · next given r' after hmembers =>
    split at hobject
    · cases hobject
    · next hnone =>
      cases hobject
      obtain ⟨ms, ts, inside, closed, rfl, rfl, hspread, hms, hvalues, hrun⟩ :=
        exists_run_of_readMembers h hmembers
      rw [closeObject_close] at hclose
      cases hclose
      refine ⟨ms, '\x7b' :: inside ++ ['\x7d'], by simp, .mk hspread hms hvalues, given, hrun,
        fun f hf hrequired => ?_⟩
      have hfound := List.find?_eq_none.1 hnone f hf
      simpa [hrequired] using hfound

/-! ## Records -/

/-- The texts of records: an object whose members give the record, or a list of the first fields,
whose items give it under their names. -/
inductive Given (shape : Shape ρ) (E : Meaning ρ) : ρ → List Char → Prop
  | object {ms : List (String × List Char)} {t : List Char} {r : ρ} (ht : IsObject ms t)
      (hr : Gives shape E ms r) : Given shape E r t
  | list {ts : List (List Char)} {t : List Char} {r : ρ} (ht : IsList ts t)
      (hlength : ts.length ≤ shape.fields.length)
      (hr : Gives shape E (named shape.fields ts) r) : Given shape E r t

namespace Given

variable {r : ρ} {t : List Char}

theorem isValue (h : Given shape E r t) : IsValue t := by
  cases h with
  | object ht => exact ht.isValue
  | list ht => exact ht.isValue

theorem ended (h : Given shape E r t) (rest : List Char) : Ended t rest := by
  cases h with
  | object ht => exact ht.ended rest
  | list ht => exact ht.ended rest

end Given

theorem given_object_iff {ms : List (String × List Char)} {t : List Char} (ht : IsObject ms t)
    {r : ρ} : Given shape E r t ↔ Gives shape E ms r := by
  constructor
  · intro h
    cases h with
    | object ht' hr =>
      rw [ht.unique ht']
      exact hr
    | list ht' =>
      generalize hu : t = u at ht'
      cases ht
      cases ht'
      cases (List.cons.inj hu).1
  · exact .object ht

/-- A list is a record where there are not more items than fields, and these give one. -/
theorem given_list_iff {ts : List (List Char)} {t : List Char} (ht : IsList ts t) {r : ρ} :
    Given shape E r t ↔
      ts.length ≤ shape.fields.length ∧ Gives shape E (named shape.fields ts) r := by
  constructor
  · intro h
    cases h with
    | object ht' =>
      generalize hu : t = u at ht'
      cases ht
      cases ht'
      cases (List.cons.inj hu).1
    | list ht' hlength hr =>
      rw [ht.unique ht']
      exact ⟨hlength, hr⟩
  · rintro ⟨hlength, hr⟩
    exact .list ht hlength hr

/-- **A list and an object** with the same values for the first fields are one record. -/
theorem given_list_iff_given_object (shape : Shape ρ) {ts : List (List Char)} {t u : List Char}
    (ht : IsList ts t) (hu : IsObject (named shape.fields ts) u)
    (hlength : ts.length ≤ shape.fields.length) {r : ρ} :
    Given shape E r t ↔ Given shape E r u := by
  rw [given_list_iff ht, given_object_iff hu]
  exact ⟨And.right, fun hr => ⟨hlength, hr⟩⟩

theorem takes_of_given (h : ParsesFields shape levels E) {r : ρ} {t : List Char}
    (hr : Given shape E r t) : Takes (shape.read (levels + 1)) r t := by
  cases hr with
  | object ht hr => exact takes_of_gives h.agrees ht hr
  | list ht hlength hr =>
    intro g rest hg _
    cases ht with
    | @mk inside hspread hvalues =>
      have hfills : Fills E shape.fields _ shape.blank r :=
        (fills_iff_gives h.nodup).2 ⟨hlength, hr⟩
      have hread : leaveList (shape.readItems levels shape.fields 0 shape.blank
          (inside ++ ']' :: rest)) = .ok (r, rest) :=
        readItems_of_fills hfills h.parses 0 hspread rest
      have htext : g ++ ('[' :: inside ++ [']'] ++ rest) = g ++ '[' :: (inside ++ ']' :: rest) := by
        simp
      rw [htext, Shape.read, skipSpace_append hg rfl]
      exact hread

/-- **The reader of records** is sound where those of the fields are. -/
theorem sound (h : ParsesFields shape levels E) :
    Sound (shape.read (levels + 1)) (Given shape E) := by
  intro input rest r hread
  unfold Shape.read at hread
  split at hread
  · cases hread
  · next c cs hskip =>
    obtain ⟨g, hg, rfl⟩ := exists_gap_of_skipSpace hskip
    split at hread
    · next hbracket =>
      dsimp only at hread
      split at hread
      · next hc =>
        subst hc
        obtain ⟨ts, inside, rfl, hspread, hfills⟩ := fills_of_readItems h.parses hread
        obtain ⟨hlength, hr⟩ := (fills_iff_gives h.nodup).1 hfills
        have hlist : IsList ts ('[' :: inside ++ [']']) := .mk hspread (hfills.isValue h.parses)
        exact ⟨g, '[' :: inside ++ [']'], by simp, hg, hlist.ended rest, .list hlist hlength hr⟩
      · next hc =>
        obtain rfl : c = '\x7b' := by simpa [hc] using hbracket
        obtain ⟨ms, t, heq, ht, hr⟩ := exists_gives_of_readObject h hread
        exact ⟨g, t, by rw [heq], hg, ht.ended rest, .object ht hr⟩
    · cases hread

/-- **The reader of records** takes the texts of records, in both shapes. -/
theorem parses (h : ParsesFields shape levels E) :
    Parses (shape.read (levels + 1)) (Given shape E) where
  isValue := Given.isValue
  takes := takes_of_given h
  sound := sound h

end Shape

end BookCatalog.Json
