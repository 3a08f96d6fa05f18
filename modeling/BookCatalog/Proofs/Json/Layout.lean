import BookCatalog.Json.Token
import BookCatalog.Json.Value
import Mathlib.Data.List.Forall2

/-!
# Layouts of a JSON value

A value is written in many ways, which differ in the space between their parts.  The compact and the
indented form are two of them, so what holds of every written form holds of both.

* `Spread` — texts with commas between them and space around them;
* `Written` — the written forms of a value;
* `Written.compact`, `Written.indented` — the two forms that are put out.
-/

namespace BookCatalog.Json

/-- Space between the parts of a text. -/
def Gap (g : List Char) : Prop := ∀ c ∈ g, isSpace c = true

/-- Texts with a comma between each two, and space around each. -/
inductive Spread : List (List Char) → List Char → Prop
  | none {g : List Char} (hg : Gap g) : Spread [] g
  | last {g t h : List Char} (hg : Gap g) (hh : Gap h) : Spread [t] (g ++ t ++ h)
  | more {g t h s text : List Char} {ts : List (List Char)} (hg : Gap g) (hh : Gap h)
      (hspread : Spread (s :: ts) text) : Spread (t :: s :: ts) (g ++ t ++ h ++ ',' :: text)

mutual

/-- The written forms of a value. -/
inductive Written : Value → List Char → Prop
  | null : Written .null ['n', 'u', 'l', 'l']
  | yes : Written (.bool true) ['t', 'r', 'u', 'e']
  | no : Written (.bool false) ['f', 'a', 'l', 's', 'e']
  | number (n : Int) : Written (.number n) (Decimal.int n)
  | text (s : String) : Written (.text s) (writeText s)
  | list {vs : List Value} {ts : List (List Char)} {t : List Char} (hspread : Spread ts t)
      (hitems : List.Forall₂ Written vs ts) : Written (.list vs) ('[' :: t ++ [']'])
  | object {ms : List (String × Value)} {ts : List (List Char)} {t : List Char}
      (hspread : Spread ts t) (hmembers : List.Forall₂ WrittenMember ms ts) :
      Written (.object ms) ('\x7b' :: t ++ ['\x7d'])

inductive WrittenMember : String × Value → List Char → Prop
  | mk {k : String} {v : Value} {g h t : List Char} (hg : Gap g) (hh : Gap h) (ht : Written v t) :
      WrittenMember (k, v) (writeText k ++ g ++ ':' :: (h ++ t))

end

/-! ## Gaps -/

theorem gap_nil : Gap [] := by
  intro c hc
  cases hc

theorem gap_space : Gap [' '] := by
  intro c hc
  rw [List.mem_singleton.1 hc]
  rfl

theorem gap_newLine (level : Nat) : Gap (newLine level) := by
  intro c hc
  rcases List.mem_cons.1 hc with rfl | hc
  · rfl
  · rw [List.eq_of_mem_replicate hc]
    rfl

theorem Gap.append {g h : List Char} (hg : Gap g) (hh : Gap h) : Gap (g ++ h) := by
  intro c hc
  rcases List.mem_append.1 hc with hc | hc
  · exact hg c hc
  · exact hh c hc

theorem Spread.append_gap {ts : List (List Char)} {text g : List Char} (h : Spread ts text)
    (hg : Gap g) : Spread ts (text ++ g) := by
  induction h with
  | none hgap => exact .none (hgap.append hg)
  | @last front t back hfront hback =>
    rw [List.append_assoc (front ++ t)]
    exact .last hfront (hback.append hg)
  | @more front t back s text ts hfront hback hspread ih =>
    rw [List.append_assoc (front ++ t ++ back), List.cons_append]
    exact .more hfront hback ih

theorem spread_single {g : List Char} (hg : Gap g) (t : List Char) : Spread [t] (g ++ t) := by
  have h : Spread [t] (g ++ t ++ []) := .last hg gap_nil
  rwa [List.append_nil] at h

theorem Spread.cons {g s text : List Char} {ts : List (List Char)} (hg : Gap g) (t : List Char)
    (h : Spread (s :: ts) text) : Spread (t :: s :: ts) (g ++ t ++ ',' :: text) := by
  have hmore : Spread (t :: s :: ts) (g ++ t ++ [] ++ ',' :: text) := .more hg gap_nil h
  rwa [List.append_nil] at hmore

theorem WrittenMember.of_value {g t : List Char} {v : Value} (k : String) (hg : Gap g)
    (h : Written v t) : WrittenMember (k, v) (writeText k ++ ':' :: (g ++ t)) := by
  have hmember : WrittenMember (k, v) (writeText k ++ [] ++ ':' :: (g ++ t)) := .mk gap_nil hg h
  rwa [List.append_nil] at hmember

/-! ## The compact form -/

mutual

/-- **The compact form** is a written form. -/
theorem Written.compact : ∀ v : Value, Written v v.compact
  | .null => by
    rw [Value.compact]
    exact .null
  | .bool true => by
    rw [Value.compact]
    exact .yes
  | .bool false => by
    rw [Value.compact]
    exact .no
  | .number n => by
    rw [Value.compact]
    exact .number n
  | .text s => by
    rw [Value.compact]
    exact .text s
  | .list items => by
    obtain ⟨ts, hspread, hitems⟩ := spread_compactItems items
    rw [Value.compact]
    exact .list hspread hitems
  | .object members => by
    obtain ⟨ts, hspread, hmembers⟩ := spread_compactMembers members
    rw [Value.compact]
    exact .object hspread hmembers

theorem spread_compactItems : ∀ vs : List Value,
    ∃ ts, Spread ts (Value.compactItems vs) ∧ List.Forall₂ Written vs ts
  | [] => ⟨[], .none gap_nil, .nil⟩
  | [v] => by
    rw [Value.compactItems]
    exact ⟨[v.compact], spread_single gap_nil v.compact, .cons (Written.compact v) .nil⟩
  | v :: w :: vs => by
    obtain ⟨ts, hspread, hitems⟩ := spread_compactItems (w :: vs)
    cases hitems with
    | cons hw hvs =>
      rw [Value.compactItems]
      exact ⟨_, hspread.cons gap_nil v.compact, .cons (Written.compact v) (.cons hw hvs)⟩

theorem spread_compactMembers : ∀ ms : List (String × Value),
    ∃ ts, Spread ts (Value.compactMembers ms) ∧ List.Forall₂ WrittenMember ms ts
  | [] => ⟨[], .none gap_nil, .nil⟩
  | [(k, v)] => by
    have hmember := WrittenMember.of_value k gap_nil (Written.compact v)
    rw [Value.compactMembers]
    exact ⟨_, spread_single gap_nil _, .cons hmember .nil⟩
  | (k, v) :: m :: ms => by
    have hmember := WrittenMember.of_value k gap_nil (Written.compact v)
    obtain ⟨ts, hspread, hmembers⟩ := spread_compactMembers (m :: ms)
    cases hmembers with
    | cons hm hms =>
      rw [Value.compactMembers]
      exact ⟨_, hspread.cons gap_nil _, .cons hmember (.cons hm hms)⟩

end

/-! ## The indented form -/

mutual

/-- **The indented form** is a written form, at whatever level it stands. -/
theorem Written.indented : ∀ (level : Nat) (v : Value), Written v (v.indented level)
  | _, .null => by
    rw [Value.indented]
    exact .null
  | _, .bool true => by
    rw [Value.indented]
    exact .yes
  | _, .bool false => by
    rw [Value.indented]
    exact .no
  | _, .number n => by
    rw [Value.indented]
    exact .number n
  | _, .text s => by
    rw [Value.indented]
    exact .text s
  | _, .list [] => by
    rw [Value.indented]
    exact .list (.none gap_nil) .nil
  | level, .list (v :: vs) => by
    obtain ⟨ts, hspread, hitems⟩ := spread_indentedItems (level + 1) (v :: vs)
    rw [Value.indented]
    exact .list (hspread.append_gap (gap_newLine level)) hitems
  | _, .object [] => by
    rw [Value.indented]
    exact .object (.none gap_nil) .nil
  | level, .object (m :: ms) => by
    obtain ⟨ts, hspread, hmembers⟩ := spread_indentedMembers (level + 1) (m :: ms)
    rw [Value.indented]
    exact .object (hspread.append_gap (gap_newLine level)) hmembers

theorem spread_indentedItems : ∀ (level : Nat) (vs : List Value),
    ∃ ts, Spread ts (Value.indentedItems level vs) ∧ List.Forall₂ Written vs ts
  | _, [] => ⟨[], .none gap_nil, .nil⟩
  | level, [v] => by
    rw [Value.indentedItems]
    exact ⟨_, spread_single (gap_newLine level) _, .cons (Written.indented level v) .nil⟩
  | level, v :: w :: vs => by
    obtain ⟨ts, hspread, hitems⟩ := spread_indentedItems level (w :: vs)
    cases hitems with
    | cons hw hvs =>
      rw [Value.indentedItems]
      exact ⟨_, hspread.cons (gap_newLine level) _, .cons (Written.indented level v) (.cons hw hvs)⟩

theorem spread_indentedMembers : ∀ (level : Nat) (ms : List (String × Value)),
    ∃ ts, Spread ts (Value.indentedMembers level ms) ∧ List.Forall₂ WrittenMember ms ts
  | _, [] => ⟨[], .none gap_nil, .nil⟩
  | level, [(k, v)] => by
    have hmember := WrittenMember.of_value k gap_space (Written.indented level v)
    rw [Value.indentedMembers, List.append_assoc]
    exact ⟨_, spread_single (gap_newLine level) _, .cons hmember .nil⟩
  | level, (k, v) :: m :: ms => by
    have hmember := WrittenMember.of_value k gap_space (Written.indented level v)
    obtain ⟨ts, hspread, hmembers⟩ := spread_indentedMembers level (m :: ms)
    cases hmembers with
    | cons hm hms =>
      rw [Value.indentedMembers, List.append_assoc (newLine level)]
      exact ⟨_, hspread.cons (gap_newLine level) _, .cons hmember (.cons hm hms)⟩

end

end BookCatalog.Json
