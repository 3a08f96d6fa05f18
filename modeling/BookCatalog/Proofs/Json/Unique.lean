import BookCatalog.Proofs.Json.Skipping

/-!
# One reading

Where a part of a JSON text ends is settled by the text itself, so a text spells one value at most,
however its parts are spaced and its characters escaped.

* `Bounded` — texts that are told from what follows them: values, and members of objects;
* `Spread.unique` — the texts between which commas stand are told apart;
* `Spelled.unique` — a text spells one value at most;
* `Document.unique` — so does a whole text, with space around the value.
-/

namespace BookCatalog.Json

/-! ## Where the parts end -/

theorem Gap.cut {g h cs ds : List Char} {c d : Char} (hg : Gap g) (hh : Gap h)
    (hc : isSpace c = false) (hd : isSpace d = false) (heq : g ++ c :: cs = h ++ d :: ds) :
    g = h ∧ c :: cs = d :: ds := by
  have hrest : c :: cs = d :: ds := by
    rw [← skipSpace_append hg hc cs, heq, skipSpace_append hh hd ds]
  rw [hrest] at heq
  exact ⟨List.append_cancel_right heq, hrest⟩

/-- The inside of a quoted text ends at the first quote that nothing escapes. -/
theorem RawText.cut {t u rest rest' : List Char} (ht : RawText t) (hu : RawText u)
    (heq : t ++ '"' :: rest = u ++ '"' :: rest') : t = u ∧ rest = rest' := by
  have hskip := skipChars_append ht rest
  rw [heq, skipChars_append hu rest', Except.ok.injEq] at hskip
  rw [hskip] at heq
  exact ⟨List.append_cancel_right heq, hskip.symm⟩

/-- Texts that are told from what follows them: none of them goes on where another ends. -/
structure Bounded (P : List Char → Prop) : Prop where
  starts : ∀ {t : List Char}, P t → Starts t
  cut : ∀ {t u rest rest' : List Char}, P t → P u → Ends rest → Ends rest' →
    t ++ rest = u ++ rest' → t = u ∧ rest = rest'

/-- A value behind space is told from what follows it, where it has ended. -/
theorem IsValue.cut {g h t u rest rest' : List Char} (ht : IsValue t) (hu : IsValue u) (hg : Gap g)
    (hh : Gap h) (hrest : Ended t rest) (hrest' : Ended u rest')
    (heq : g ++ (t ++ rest) = h ++ (u ++ rest')) : g = h ∧ t = u ∧ rest = rest' := by
  have hskip := skipValue_append ht hg hrest
  rw [heq, skipValue_append hu hh hrest', Except.ok.injEq] at hskip
  subst hskip
  obtain ⟨c, cs, rfl, hc, -⟩ := ht.starts
  obtain ⟨d, ds, rfl, hd, -⟩ := hu.starts
  obtain ⟨hgap, htail⟩ := hg.cut hh hc hd heq
  exact ⟨hgap, List.append_cancel_right htail, rfl⟩

/-- **Values** are told from what follows them. -/
theorem bounded_isValue : Bounded IsValue where
  starts := IsValue.starts
  cut := by
    intro t u rest rest' ht hu hrest hrest' heq
    exact (ht.cut hu gap_nil gap_nil (hrest.ended t) (hrest'.ended u) heq).2

namespace Bounded

variable {P : List Char → Prop}

theorem cut_gap (hP : Bounded P) {g h t u rest rest' : List Char} (hg : Gap g) (hh : Gap h)
    (ht : P t) (hu : P u) (hrest : Ends rest) (hrest' : Ends rest')
    (heq : g ++ (t ++ rest) = h ++ (u ++ rest')) : g = h ∧ t = u ∧ rest = rest' := by
  obtain ⟨c, cs, htext, hc, -⟩ := hP.starts ht
  obtain ⟨d, ds, hutext, hd, -⟩ := hP.starts hu
  obtain ⟨hgap, htail⟩ : g = h ∧ c :: (cs ++ rest) = d :: (ds ++ rest') := by
    rw [htext, hutext] at heq
    exact hg.cut hh hc hd heq
  refine ⟨hgap, hP.cut ht hu hrest hrest' ?_⟩
  rw [htext, hutext]
  exact htail

theorem not_gap (hP : Bounded P) {g t more : List Char} (ht : P t) : ¬ Gap (g ++ (t ++ more)) := by
  obtain ⟨c, cs, rfl, hc, -⟩ := hP.starts ht
  intro hgap
  have hspace : isSpace c = true := hgap c (by simp)
  rw [hc] at hspace
  cases hspace

end Bounded

/-! ## Texts with commas between them -/

theorem Rest.unique {P : List Char → Prop} (hP : Bounded P) {ts us : List (List Char)}
    {more : List Char} (hts : Rest ts more) (hus : Rest us more) (ht : ∀ t ∈ ts, P t)
    (hu : ∀ u ∈ us, P u) : ts = us := by
  have hcomma : ∀ {h after : List Char}, ¬ Gap (h ++ ',' :: after) := by
    intro h after hgap
    have hspace : isSpace ',' = true := hgap ',' (by simp)
    cases hspace
  induction hts generalizing us with
  | nil hg =>
    cases hus with
    | nil => rfl
    | cons => exact absurd hg hcomma
  | @cons h g t more ts hh hg hmore ih =>
    generalize hall : h ++ ',' :: (g ++ (t ++ more)) = all at hus
    cases hus with
    | nil hgap =>
      rw [← hall] at hgap
      exact absurd hgap hcomma
    | @cons h' g' u more' us hh' hg' hmore' =>
      have hcut := hh.cut hh' (c := ',') (d := ',') rfl rfl hall
      obtain ⟨-, rfl, rfl⟩ := hP.cut_gap hg hg' (ht t (by simp)) (hu u (by simp)) hmore.ends_self
        hmore'.ends_self (List.cons.inj hcut.2).2
      rw [ih hmore' (fun x hx => ht x (by simp [hx])) fun x hx => hu x (by simp [hx])]

/-- **Texts with commas between them** are told apart. -/
theorem Spread.unique {P : List Char → Prop} (hP : Bounded P) {ts us : List (List Char)}
    {text : List Char} (hts : Spread ts text) (hus : Spread us text) (ht : ∀ t ∈ ts, P t)
    (hu : ∀ u ∈ us, P u) : ts = us := by
  have hgap : ∀ {t : List Char} {ts : List (List Char)}, P t → Spread (t :: ts) text →
      ¬ Gap text := by
    intro t ts htP hspread
    obtain ⟨g, more, rfl, -, -⟩ := hspread.exists_rest
    exact hP.not_gap htP
  cases ts with
  | nil =>
    cases us with
    | nil => rfl
    | cons u us =>
      cases hts with
      | none hg => exact absurd hg (hgap (hu u (by simp)) hus)
  | cons t ts =>
    cases us with
    | nil =>
      cases hus with
      | none hg => exact absurd hg (hgap (ht t (by simp)) hts)
    | cons u us =>
      obtain ⟨g, more, rfl, hg, hmore⟩ := hts.exists_rest
      obtain ⟨g', more', heq, hg', hmore'⟩ := hus.exists_rest
      obtain ⟨-, rfl, rfl⟩ := hP.cut_gap hg hg' (ht t (by simp)) (hu u (by simp)) hmore.ends_self
        hmore'.ends_self heq
      rw [Rest.unique hP hmore hmore' (fun x hx => ht x (by simp [hx]))
        fun x hx => hu x (by simp [hx])]

/-! ## Members of objects -/

/-- **A member** is told from what follows it, with its key and its value. -/
theorem RawMember.cut {m n : RawMember} {rest rest' : List Char} (hm : m.HasKey) (hn : n.HasKey)
    (hmvalue : IsValue m.value) (hnvalue : IsValue n.value) (hrest : Ends rest)
    (hrest' : Ends rest') (heq : m.text ++ rest = n.text ++ rest') : m = n ∧ rest = rest' := by
  obtain ⟨key, front, back, value⟩ := m
  obtain ⟨key', front', back', value'⟩ := n
  have htext : key ++ '"' :: (front ++ ':' :: (back ++ (value ++ rest))) =
      key' ++ '"' :: (front' ++ ':' :: (back' ++ (value' ++ rest'))) := by
    simpa [RawMember.text] using heq
  obtain ⟨hkey, hafter⟩ := hm.key.cut hn.key htext
  obtain ⟨hfront, hcolon⟩ := hm.front.cut hn.front (c := ':') (d := ':') rfl rfl hafter
  obtain ⟨hback, hvalue, hend⟩ := bounded_isValue.cut_gap hm.back hn.back hmvalue hnvalue hrest
    hrest' (List.cons.inj hcolon).2
  dsimp only at hkey hfront hback hvalue
  rw [hkey, hfront, hback, hvalue]
  exact ⟨rfl, hend⟩

def IsMember (t : List Char) : Prop := ∃ m : RawMember, t = m.text ∧ m.HasKey ∧ IsValue m.value

theorem bounded_isMember : Bounded IsMember where
  starts := by
    rintro _ ⟨m, rfl, -, -⟩
    exact ⟨'"', _, rfl, rfl, by decide⟩
  cut := by
    rintro _ _ rest rest' ⟨m, rfl, hm, hmvalue⟩ ⟨n, rfl, hn, hnvalue⟩ hrest hrest' heq
    obtain ⟨rfl, hend⟩ := RawMember.cut hm hn hmvalue hnvalue hrest hrest' heq
    exact ⟨rfl, hend⟩

theorem IsValue.object_of_members {ts : List (List Char)} {t : List Char} (hspread : Spread ts t)
    (hmembers : ∀ u ∈ ts, IsMember u) : IsValue ('\x7b' :: t ++ ['\x7d']) := by
  obtain ⟨ms, rfl, hms⟩ : ∃ ms : List RawMember, ts = ms.map RawMember.text ∧
      ∀ m ∈ ms, m.HasKey ∧ IsValue m.value := by
    clear hspread
    induction ts with
    | nil => exact ⟨[], rfl, by simp⟩
    | cons u ts ih =>
      obtain ⟨m, rfl, hkey, hvalue⟩ := hmembers u List.mem_cons_self
      obtain ⟨ms, rfl, hms⟩ := ih fun v hv => hmembers v (List.mem_cons_of_mem _ hv)
      refine ⟨m :: ms, rfl, fun n hn => ?_⟩
      rcases List.mem_cons.1 hn with rfl | hn
      · exact ⟨hkey, hvalue⟩
      · exact hms n hn
  exact .object hspread (fun m hm => (hms m hm).1) fun m hm => (hms m hm).2

/-- The text of a member whose key spells a name, with the text of its value. -/
inductive GivenMember : String × List Char → List Char → Prop
  | mk {k : String} {key g h t : List Char} (hkey : SpelledText k key) (hg : Gap g) (hh : Gap h) :
      GivenMember (k, t) (key ++ g ++ ':' :: (h ++ t))

theorem GivenMember.exists_raw {m : String × List Char} {t : List Char} (h : GivenMember m t) :
    ∃ raw : RawMember, t = raw.text ∧ raw.HasKey ∧ SpelledChars m.1.toList raw.key ∧
      raw.value = m.2 := by
  cases h with
  | @mk k key g h u hkey hg hh =>
    obtain ⟨inside, rfl, hchars, hraw⟩ := hkey.exists_rawText
    exact ⟨⟨inside, g, h, u⟩, by simp [RawMember.text], ⟨hraw, hg, hh⟩, hchars, rfl⟩

theorem GivenMember.isMember {m : String × List Char} {t : List Char} (h : GivenMember m t)
    (hvalue : IsValue m.2) : IsMember t := by
  obtain ⟨raw, htext, hkey, -, heq⟩ := h.exists_raw
  rw [← heq] at hvalue
  exact ⟨raw, htext, hkey, hvalue⟩

theorem SpelledChars.unique {cs ds t : List Char} (hc : SpelledChars cs t)
    (hd : SpelledChars ds t) : cs = ds := by
  have hread := readChars_spelled hc []
  rw [readChars_spelled hd []] at hread
  cases hread
  rfl

theorem GivenMember.unique {m n : String × List Char} {t : List Char} (hm : GivenMember m t)
    (hn : GivenMember n t) (hmvalue : IsValue m.2) (hnvalue : IsValue n.2) : m = n := by
  obtain ⟨k, u⟩ := m
  obtain ⟨l, v⟩ := n
  obtain ⟨a, rfl, hakey, hk, rfl⟩ := hm.exists_raw
  obtain ⟨b, heq, hbkey, hl, rfl⟩ := hn.exists_raw
  have hab : a.text ++ [] = b.text ++ [] := by rw [heq]
  obtain ⟨rfl, -⟩ := RawMember.cut hakey hbkey hmvalue hnvalue ends_nil ends_nil hab
  have hname : k = l := String.toList_inj.1 (hk.unique hl)
  rw [hname]

theorem SpelledMember.exists_given {k : String} {v : Tree} {t : List Char}
    (h : SpelledMember (k, v) t) : ∃ u, GivenMember (k, u) t ∧ Spelled v u := by
  cases h with
  | @mk _ _ key g h u hkey hg hh hu => exact ⟨u, .mk hkey hg hh, hu⟩

/-! ## Spellings are texts of values -/

mutual

/-- **Every spelling** of a value is the text of a value. -/
theorem Spelled.isValue : ∀ {v : Tree} {t : List Char}, Spelled v t → IsValue t
  | .null, _, h => by
    cases h
    exact .null
  | .bool true, _, h => by
    cases h
    exact .yes
  | .bool false, _, h => by
    cases h
    exact .no
  | .number _, _, h => by
    cases h with
    | number h => exact .number h
  | .text _, _, h => by
    cases h with
    | text h => exact h.isValue
  | .list vs, _, h => by
    cases h with
    | list hspread hitems => exact .list hspread (isValue_of_items vs hitems)
  | .object ms, _, h => by
    cases h with
    | object hspread hmembers => exact .object_of_members hspread (isMember_of_members ms hmembers)

theorem isValue_of_items : ∀ (vs : List Tree) {ts : List (List Char)},
    List.Forall₂ Spelled vs ts → ∀ t ∈ ts, IsValue t
  | [], _, h => by
    cases h
    simp
  | v :: vs, _, h => by
    cases h with
    | cons hv hvs =>
      intro t ht
      rcases List.mem_cons.1 ht with rfl | ht
      · exact Spelled.isValue hv
      · exact isValue_of_items vs hvs t ht

theorem isMember_of_members : ∀ (ms : List (String × Tree)) {ts : List (List Char)},
    List.Forall₂ SpelledMember ms ts → ∀ t ∈ ts, IsMember t
  | [], _, h => by
    cases h
    simp
  | (k, v) :: ms, _, h => by
    cases h with
    | cons hm hms =>
      intro t ht
      rcases List.mem_cons.1 ht with rfl | ht
      · obtain ⟨u, hgiven, hvalue⟩ := hm.exists_given
        exact hgiven.isMember (Spelled.isValue hvalue)
      · exact isMember_of_members ms hms t ht

end

/-! ## One value for each text -/

/-- What the first character of a text tells about the value. -/
inductive Leading where
  | null
  | yes
  | no
  | number
  | text
  | list
  | object

/-- What a character in front tells. -/
def leading (c : Char) : Leading :=
  if c = 'n' then .null
  else if c = 't' then .yes
  else if c = 'f' then .no
  else if c = '"' then .text
  else if c = '[' then .list
  else if c = '\x7b' then .object
  else .number

def Tree.leading : Tree → Leading
  | .null => .null
  | .bool true => .yes
  | .bool false => .no
  | .number _ => .number
  | .text _ => .text
  | .list _ => .list
  | .object _ => .object

theorem Spelled.leading_eq {v : Tree} {t : List Char} (h : Spelled v t) :
    ∃ c cs, t = c :: cs ∧ leading c = v.leading := by
  cases h with
  | null => exact ⟨'n', _, rfl, rfl⟩
  | yes => exact ⟨'t', _, rfl, rfl⟩
  | no => exact ⟨'f', _, rfl, rfl⟩
  | text h =>
    obtain ⟨u, rfl, -, -⟩ := h.exists_rawText
    exact ⟨'"', _, rfl, rfl⟩
  | list => exact ⟨'[', _, rfl, rfl⟩
  | object => exact ⟨'\x7b', _, rfl, rfl⟩
  | number h =>
    obtain ⟨d, ds, hd, rfl | rfl⟩ := h.starts
    · exact ⟨'-', _, rfl, rfl⟩
    · refine ⟨d, _, rfl, ?_⟩
      simp [leading, Tree.leading, Decimal.ne_of_isDigit hd]

theorem Spelled.same_leading {v w : Tree} {t : List Char} (hv : Spelled v t) (hw : Spelled w t) :
    v.leading = w.leading := by
  obtain ⟨c, cs, rfl, hc⟩ := hv.leading_eq
  obtain ⟨d, ds, heq, hd⟩ := hw.leading_eq
  cases heq
  rw [← hc, hd]

theorem SpelledText.unique {s s' : String} {t : List Char} (h : SpelledText s t)
    (h' : SpelledText s' t) : s = s' := by
  obtain ⟨u, rfl, hs, hraw⟩ := h.exists_rawText
  obtain ⟨u', heq, hs', hraw'⟩ := h'.exists_rawText
  obtain ⟨rfl, -⟩ := hraw.cut hraw' (List.cons.inj heq).2
  exact String.toList_inj.1 (hs.unique hs')

theorem spread_of_brackets {a b : Char} {t u : List Char} (h : a :: t ++ [b] = a :: u ++ [b]) :
    t = u := List.append_cancel_right (List.cons.inj h).2

mutual

/-- **A text** spells one value at most. -/
theorem Spelled.unique : ∀ {v w : Tree} {t : List Char}, Spelled v t → Spelled w t → v = w
  | .null, w, _, hv, hw => by
    have hleading := hv.same_leading hw
    rcases w with _ | (_ | _) | _ | _ | _ | _ <;> first | rfl | cases hleading
  | .bool true, w, _, hv, hw => by
    have hleading := hv.same_leading hw
    rcases w with _ | (_ | _) | _ | _ | _ | _ <;> first | rfl | cases hleading
  | .bool false, w, _, hv, hw => by
    have hleading := hv.same_leading hw
    rcases w with _ | (_ | _) | _ | _ | _ | _ <;> first | rfl | cases hleading
  | .number numeral, w, _, hv, hw => by
    have hleading := hv.same_leading hw
    rcases w with _ | (_ | _) | _ | _ | _ | _ <;> try cases hleading
    cases hv
    cases hw
    rfl
  | .text s, w, _, hv, hw => by
    have hleading := hv.same_leading hw
    rcases w with _ | (_ | _) | _ | _ | _ | _ <;> try cases hleading
    cases hv with
    | text hs =>
      cases hw with
      | text hs' => rw [hs.unique hs']
  | .list vs, w, t, hv, hw => by
    have hleading := hv.same_leading hw
    rcases w with _ | (_ | _) | _ | _ | ws | _ <;> try cases hleading
    generalize ht : t = text at hw
    cases hv with
    | list hspread hitems =>
      cases hw with
      | list hspread' hitems' =>
        cases spread_of_brackets ht
        have hts := hspread.unique bounded_isValue hspread' (isValue_of_items vs hitems)
          (isValue_of_items ws hitems')
        rw [← hts] at hitems'
        rw [items_unique vs hitems hitems']
  | .object ms, w, t, hv, hw => by
    have hleading := hv.same_leading hw
    rcases w with _ | (_ | _) | _ | _ | _ | ns <;> try cases hleading
    generalize ht : t = text at hw
    cases hv with
    | object hspread hmembers =>
      cases hw with
      | object hspread' hmembers' =>
        cases spread_of_brackets ht
        have hts := hspread.unique bounded_isMember hspread' (isMember_of_members ms hmembers)
          (isMember_of_members ns hmembers')
        rw [← hts] at hmembers'
        rw [members_unique ms hmembers hmembers']

theorem items_unique : ∀ (vs : List Tree) {ws : List Tree} {ts : List (List Char)},
    List.Forall₂ Spelled vs ts → List.Forall₂ Spelled ws ts → vs = ws
  | [], _, _, hv, hw => by
    cases hv
    cases hw
    rfl
  | v :: vs, _, _, hv, hw => by
    cases hv with
    | cons hv hvs =>
      cases hw with
      | cons hw hws => rw [Spelled.unique hv hw, items_unique vs hvs hws]

theorem members_unique : ∀ (ms : List (String × Tree)) {ns : List (String × Tree)}
    {ts : List (List Char)},
    List.Forall₂ SpelledMember ms ts → List.Forall₂ SpelledMember ns ts → ms = ns
  | [], _, _, hm, hn => by
    cases hm
    cases hn
    rfl
  | (k, v) :: ms, _, _, hm, hn => by
    cases hm with
    | cons hm hms =>
      cases hn with
      | @cons n _ ns _ hn hns =>
        obtain ⟨l, w⟩ := n
        obtain ⟨t, hgiven, hv⟩ := hm.exists_given
        obtain ⟨u, hgiven', hw⟩ := hn.exists_given
        cases hgiven.unique hgiven' hv.isValue hw.isValue
        rw [Spelled.unique hv hw, members_unique ms hms hns]

end

/-- **A whole text** gives one value at most. -/
theorem Document.unique {v w : Tree} {text : String} (hv : Document v text)
    (hw : Document w text) : v = w := by
  generalize heq : text = text' at hw
  cases hv with
  | @mk g t back hg ht hback =>
    cases hw with
    | @mk g' t' back' hg' ht' hback' =>
      obtain ⟨-, rfl, -⟩ := bounded_isValue.cut_gap hg hg' ht.isValue ht'.isValue
        hback.ends_self hback'.ends_self (String.ofList_inj.1 heq)
      exact ht.unique ht'

/-! ## Written values -/

mutual

/-- A value with its numbers as they are written. -/
def Value.tree : Value → Tree
  | .null => .null
  | .bool b => .bool b
  | .number n => .number (Decimal.int n)
  | .text s => .text s
  | .list items => .list (Value.trees items)
  | .object members => .object (Value.memberTrees members)

def Value.trees : List Value → List Tree
  | [] => []
  | v :: vs => v.tree :: Value.trees vs

def Value.memberTrees : List (String × Value) → List (String × Tree)
  | [] => []
  | (k, v) :: ms => (k, v.tree) :: Value.memberTrees ms

end

mutual

theorem Value.tree_inj : ∀ {v w : Value}, v.tree = w.tree → v = w
  | .null, w, h => by
    cases w <;> simp only [Value.tree, reduceCtorEq] at h
    rfl
  | .bool b, w, h => by
    cases w <;> simp only [Value.tree, reduceCtorEq, Tree.bool.injEq] at h
    rw [h]
  | .number n, w, h => by
    cases w <;> simp only [Value.tree, reduceCtorEq, Tree.number.injEq] at h
    next m =>
    have hint := Decimal.int?_int n
    rw [h, Decimal.int?_int, Option.some.injEq] at hint
    rw [hint]
  | .text s, w, h => by
    cases w <;> simp only [Value.tree, reduceCtorEq, Tree.text.injEq] at h
    rw [h]
  | .list vs, w, h => by
    cases w <;> simp only [Value.tree, reduceCtorEq, Tree.list.injEq] at h
    rw [Value.trees_inj h]
  | .object ms, w, h => by
    cases w <;> simp only [Value.tree, reduceCtorEq, Tree.object.injEq] at h
    rw [Value.memberTrees_inj h]

theorem Value.trees_inj : ∀ {vs ws : List Value}, Value.trees vs = Value.trees ws → vs = ws
  | [], ws, h => by
    cases ws <;> simp only [Value.trees, reduceCtorEq] at h
    rfl
  | v :: vs, ws, h => by
    cases ws <;> simp only [Value.trees, reduceCtorEq, List.cons.injEq] at h
    rw [Value.tree_inj h.1, Value.trees_inj h.2]

theorem Value.memberTrees_inj : ∀ {ms ns : List (String × Value)},
    Value.memberTrees ms = Value.memberTrees ns → ms = ns
  | [], ns, h => by
    cases ns <;> simp only [Value.memberTrees, reduceCtorEq] at h
    rfl
  | (k, v) :: ms, ns, h => by
    cases ns <;> simp only [Value.memberTrees, reduceCtorEq, List.cons.injEq, Prod.mk.injEq] at h
    next n ns =>
    obtain ⟨⟨hk, hv⟩, hms⟩ := h
    rw [hk, Value.tree_inj hv, Value.memberTrees_inj hms]

end

mutual

/-- **What is written of a value** spells it. -/
theorem Written.spelled : ∀ {v : Value} {t : List Char}, Written v t → Spelled v.tree t
  | .null, _, h => by
    cases h
    exact .null
  | .bool true, _, h => by
    cases h
    exact .yes
  | .bool false, _, h => by
    cases h
    exact .no
  | .number n, _, h => by
    cases h
    exact .number (isNumeral_int n)
  | .text s, _, h => by
    cases h
    exact .text (spelledText_writeText s)
  | .list vs, _, h => by
    cases h with
    | list hspread hitems => exact .list hspread (spelled_items vs hitems)
  | .object ms, _, h => by
    cases h with
    | object hspread hmembers => exact .object hspread (spelled_members ms hmembers)

theorem spelled_items : ∀ (vs : List Value) {ts : List (List Char)},
    List.Forall₂ Written vs ts → List.Forall₂ Spelled (Value.trees vs) ts
  | [], _, h => by
    cases h
    exact .nil
  | v :: vs, _, h => by
    cases h with
    | cons hv hvs => exact .cons (Written.spelled hv) (spelled_items vs hvs)

theorem spelled_members : ∀ (ms : List (String × Value)) {ts : List (List Char)},
    List.Forall₂ WrittenMember ms ts →
    List.Forall₂ SpelledMember (Value.memberTrees ms) ts
  | [], _, h => by
    cases h
    exact .nil
  | (k, v) :: ms, _, h => by
    cases h with
    | cons hm hms =>
      cases hm with
      | mk hg hh ht =>
        exact .cons (.mk (spelledText_writeText k) hg hh (Written.spelled ht))
          (spelled_members ms hms)

end

theorem document_toCompact (v : Value) : Document v.tree v.toCompact := by
  have h : Document v.tree (String.ofList ([] ++ (v.compact ++ []))) :=
    .mk gap_nil (Written.compact v).spelled gap_nil
  rwa [List.nil_append, List.append_nil] at h

theorem document_toIndented (v : Value) : Document v.tree v.toIndented := by
  have h : Document v.tree (String.ofList ([] ++ (v.indented 0 ++ []))) :=
    .mk gap_nil (Written.indented 0 v).spelled gap_nil
  rwa [List.nil_append, List.append_nil] at h

end BookCatalog.Json
