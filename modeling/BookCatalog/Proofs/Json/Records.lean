import BookCatalog.Proofs.Json.Lists

/-!
# Reading records back

An object is read member by member into a state.  A record that is written with all its fields, in
their order, is read back field by field.

* `Steps` — the states that the members of an object lead through;
* `readMembers_spread` — the loop over the members;
* `Filled` — the members that give all fields of a record, and the change that they make;
* `reads_shape` — records.
-/

namespace BookCatalog.Json

variable {σ ρ : Type}

/-! ## Members -/

/-- The texts of members, taken one after the other, lead from one state to another. -/
inductive Steps (member : String → σ → Reader σ) : List (List Char) → σ → σ → Prop
  | nil (s : σ) : Steps member [] s s
  | cons {k : String} {q t : List Char} {ts : List (List Char)} {s s' s'' : σ}
      (hkey : ∀ rest, readQuoted (q ++ rest) = .ok (k, rest)) (htakes : Takes (member k s) s' t)
      (hsteps : Steps member ts s' s'') : Steps member (('"' :: (q ++ t)) :: ts) s s''

theorem Steps.spelled {member : String → σ → Reader σ} {k : String} {key t : List Char}
    {g : List Char} {ts : List (List Char)} {s s' s'' : σ} (hkey : SpelledText k key)
    (htakes : Takes (member k s) s' (g ++ ':' :: t)) (hsteps : Steps member ts s' s'') :
    Steps member ((key ++ g ++ ':' :: t) :: ts) s s'' := by
  cases hkey with
  | @mk inside hchars =>
    have hname : ∀ rest, readQuoted (inside ++ ['"'] ++ rest) = .ok (k, rest) := by
      intro rest
      rw [List.append_assoc]
      exact readQuoted_spelled hchars rest
    have htext : '"' :: inside ++ ['"'] ++ g ++ ':' :: t =
        '"' :: (inside ++ ['"'] ++ (g ++ ':' :: t)) := by
      simp
    rw [htext]
    exact .cons hname htakes hsteps

theorem nextKey_lead {first : Bool} {lead g : List Char} (hlead : Lead first lead) (hg : Gap g)
    (rest : List Char) : nextKey first (lead ++ (g ++ '"' :: rest)) = .ok (true, rest) := by
  have hskip := skipSpace_append (c := '"') hg rfl rest
  cases hlead with
  | first => simp [nextKey, hskip]
  | @next h hh =>
    have hcomma := skipSpace_append (c := ',') hh rfl (g ++ '"' :: rest)
    simp [nextKey, hcomma, hskip]

theorem nextKey_close (first : Bool) {g : List Char} (hg : Gap g) (rest : List Char) :
    nextKey first (g ++ '\x7d' :: rest) = .ok (false, '\x7d' :: rest) := by
  simp [nextKey, skipSpace_append (c := '\x7d') hg rfl]

theorem readMembers_close (member : String → σ → Reader σ) (first : Bool) (s : σ) {g : List Char}
    (hg : Gap g) (rest : List Char) :
    readMembers member first s (g ++ '\x7d' :: rest) = .ok (s, '\x7d' :: rest) := by
  rw [readMembers, nextKey_close first hg]

/-- One round of the loop: a member, and the loop over those after it. -/
theorem readMembers_lead {member : String → σ → Reader σ} {k : String} {first : Bool}
    {lead g q t more last : List Char} {s s' s'' : σ} (hlead : Lead first lead) (hg : Gap g)
    (hkey : ∀ rest, readQuoted (q ++ rest) = .ok (k, rest)) (htakes : Takes (member k s) s' t)
    (hends : Ends more) (hmore : readMembers member false s' more = .ok (s'', last)) :
    readMembers member first s (lead ++ (g ++ ('"' :: (q ++ (t ++ more))))) = .ok (s'', last) := by
  have hlength : more.length < (lead ++ (g ++ ('"' :: (q ++ (t ++ more))))).length := by
    simp only [List.length_append, List.length_cons]
    omega
  have hmember : member k s (t ++ more) = .ok (s', more) := htakes [] more gap_nil hends
  rw [readMembers, nextKey_lead hlead hg]
  simp only [hkey, hmember, if_pos hlength, hmore]

/-- **The loop over the members** of an object takes each off its text. -/
theorem readMembers_spread {member : String → σ → Reader σ} {ts : List (List Char)}
    {text lead : List Char} {first : Bool} {s s' : σ} (hspread : Spread ts text)
    (hsteps : Steps member ts s s') (hne : ts ≠ []) (hlead : Lead first lead)
    (rest : List Char) :
    readMembers member first s (lead ++ (text ++ '\x7d' :: rest)) = .ok (s', '\x7d' :: rest) := by
  induction hspread generalizing s first lead with
  | none => exact absurd rfl hne
  | @last g t h hg hh =>
    cases hsteps with
    | cons hkey htakes hnil =>
      cases hnil
      have hends : Ends (h ++ '\x7d' :: rest) := hh.ends (ends_cons (by simp) rest)
      simpa using readMembers_lead hlead hg hkey htakes hends
        (readMembers_close member false _ hh rest)
  | @more g t h u text ts hg hh _ ih =>
    cases hsteps with
    | cons hkey htakes hsteps =>
      have hends : Ends (h ++ [','] ++ (text ++ '\x7d' :: rest)) := by
        rw [List.append_assoc]
        exact hh.ends (ends_cons (by simp) _)
      have hmore := ih hsteps (by simp) (Lead.next hh)
      simpa using readMembers_lead hlead hg hkey htakes hends hmore

theorem readMembers_all {member : String → σ → Reader σ} {ts : List (List Char)} {text : List Char}
    {s s' : σ} (hspread : Spread ts text) (hsteps : Steps member ts s s') (rest : List Char) :
    readMembers member true s (text ++ '\x7d' :: rest) = .ok (s', '\x7d' :: rest) := by
  cases ts with
  | nil =>
    cases hspread with
    | none hgap =>
      cases hsteps
      exact readMembers_close member true s hgap rest
  | cons t ts => exact readMembers_spread hspread hsteps (by simp) .first rest

/-! ## Fields -/

/-- Members that give all of some fields, in their order, and the change that they make. -/
inductive Filled (levels : Nat) : List (Field ρ) → List (String × Value) → (ρ → ρ) → Prop
  | nil : Filled levels [] [] id
  | cons {f : Field ρ} {fs : List (Field ρ)} {v : Value} {ms : List (String × Value)}
      {change more : ρ → ρ} (hread : Reads (f.read levels) v change)
      (hmore : Filled levels fs ms more) :
      Filled levels (f :: fs) ((f.name, v) :: ms) (more ∘ change)

theorem find?_of_mem_fields {fields : List (Field ρ)} (hnodup : (fields.map Field.name).Nodup)
    {f : Field ρ} (hf : f ∈ fields) : fields.find? (fun g => g.name = f.name) = some f := by
  induction fields with
  | nil => cases hf
  | cons g gs ih =>
    rw [List.map_cons, List.nodup_cons] at hnodup
    rcases List.mem_cons.1 hf with rfl | hf
    · simp
    · have hne : g.name ≠ f.name := fun h => hnodup.1 (h ▸ List.mem_map_of_mem hf)
      rw [List.find?_cons_of_neg (by simpa using hne)]
      exact ih hnodup.2 hf

theorem skipColon_append {g : List Char} (hg : Gap g) (rest : List Char) :
    skipColon (g ++ ':' :: rest) = .ok rest := by
  unfold skipColon
  rw [skipSpace_append hg rfl]
  rfl

theorem takes_member {shape : Shape ρ} {levels : Nat} {f : Field ρ} {given : List String} {r : ρ}
    {change : ρ → ρ} {g h t : List Char}
    (hfind : shape.fields.find? (fun g => g.name = f.name) = some f) (hnew : f.name ∉ given)
    (hread : Takes (f.read levels) change t) (hg : Gap g) (hh : Gap h) :
    Takes (shape.member levels f.name (given, r)) (f.name :: given, change r)
      (g ++ ':' :: (h ++ t)) := by
  intro front rest hfront hrest
  have hcolon := skipColon_append (hfront.append hg) (h ++ (t ++ rest))
  have htext : front ++ (g ++ ':' :: (h ++ t) ++ rest) =
      front ++ g ++ ':' :: (h ++ (t ++ rest)) := by
    simp
  rw [htext]
  unfold Shape.member
  simp only [hfind, if_neg hnew, hcolon, hread h rest hh hrest]

theorem steps_of_filled {shape : Shape ρ} {levels : Nat} {fs : List (Field ρ)}
    {ms : List (String × Value)} {change : ρ → ρ} {ts : List (List Char)} {given : List String}
    {r : ρ} (hfilled : Filled levels fs ms change)
    (hfind : ∀ f ∈ fs, shape.fields.find? (fun g => g.name = f.name) = some f)
    (hnodup : (fs.map Field.name).Nodup) (hnew : ∀ f ∈ fs, f.name ∉ given)
    (hmembers : List.Forall₂ WrittenMember ms ts) :
    Steps (shape.member levels) ts (given, r) ((fs.map Field.name).reverse ++ given, change r) := by
  induction hfilled generalizing given r ts with
  | nil =>
    cases hmembers
    exact .nil _
  | @cons f fs v ms change more hread hmore ih =>
    rw [List.map_cons, List.nodup_cons] at hnodup
    cases hmembers with
    | cons hmember hmembers =>
      cases hmember with
      | @mk _ _ g h t hg hh ht =>
        have htakes := takes_member (hfind f (by simp)) (hnew f (by simp)) (r := r) (hread t ht)
          hg hh
        have hnew' : ∀ f' ∈ fs, f'.name ∉ f.name :: given := by
          intro f' hf' hmem
          rcases List.mem_cons.1 hmem with heq | hmem
          · exact hnodup.1 (heq ▸ List.mem_map_of_mem hf')
          · exact hnew f' (by simp [hf']) hmem
        have hsteps := ih (r := change r) (fun f hf => hfind f (by simp [hf])) hnodup.2 hnew'
          hmembers
        have hgiven : ((f :: fs).map Field.name).reverse ++ given =
            (fs.map Field.name).reverse ++ f.name :: given := by
          simp
        rw [hgiven]
        exact .spelled (spelledText_writeText f.name) htakes hsteps

/-! ## Records -/

theorem closeObject_close (rest : List Char) : closeObject ('\x7d' :: rest) = .ok rest := by
  simp [closeObject, skipSpace, isSpace]

/-- A record is taken off the text of an object whose members lead to it, if they give all that
has to be given. -/
theorem takes_object {shape : Shape ρ} {levels : Nat} {ts : List (List Char)} {text : List Char}
    {given : List String} {r : ρ} (hspread : Spread ts text)
    (hsteps : Steps (shape.member levels) ts ([], shape.blank) (given, r))
    (hgiven : ∀ f ∈ shape.fields, f.required = true → f.name ∈ given) :
    Takes (shape.read (levels + 1)) r ('\x7b' :: text ++ ['\x7d']) := by
  intro g rest hg hrest
  have hloop := readMembers_all hspread hsteps rest
  have hnone : (shape.fields.find? fun f => f.required && f.name ∉ given) = none := by
    rw [List.find?_eq_none]
    intro f hf
    simpa using hgiven f hf
  have hobject : shape.readObject levels (text ++ '\x7d' :: rest) = .ok (r, '\x7d' :: rest) := by
    simp only [Shape.readObject, hloop, hnone]
  have hskip := skipSpace_append (c := '\x7b') hg rfl (text ++ '\x7d' :: rest)
  have htext : g ++ ('\x7b' :: text ++ ['\x7d'] ++ rest) =
      g ++ '\x7b' :: (text ++ '\x7d' :: rest) := by
    simp
  rw [htext, Shape.read, hskip]
  simp [hobject, leaveObject, closeObject_close, Except.map]

/-- **A record** that is written with all its fields, in their order, is read as what the fields
make of the blank one. -/
theorem reads_shape {shape : Shape ρ} {levels : Nat} {ms : List (String × Value)} {change : ρ → ρ}
    (hnodup : (shape.fields.map Field.name).Nodup)
    (hfilled : Filled levels shape.fields ms change) :
    Reads (shape.read (levels + 1)) (.object ms) (change shape.blank) := by
  intro t ht
  cases ht with
  | @object _ ts text hspread hmembers =>
    have hsteps : Steps (shape.member levels) ts ([], shape.blank)
        ((shape.fields.map Field.name).reverse ++ [], change shape.blank) :=
      steps_of_filled hfilled (fun f hf => find?_of_mem_fields hnodup hf) hnodup (by simp) hmembers
    refine takes_object hspread hsteps fun f hf _ => ?_
    have hmem : f.name ∈ shape.fields.map Field.name := List.mem_map_of_mem hf
    simp [hmem]

end BookCatalog.Json
