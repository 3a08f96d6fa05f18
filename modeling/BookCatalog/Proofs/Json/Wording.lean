import BookCatalog.Book.Basic
import BookCatalog.Proofs.Text.OneLine

/-!
# The wording of faults

What is said to be wrong with a JSON text is said in one line, whatever the text holds: what is
quoted of it is escaped, and all else is named by the reader.

* `Json.Cause.isOneLine_message` — the words for a cause, if the names in it are of one line;
* `Json.Plainly` — a reader that fails for such a cause, and `Json.Shape.plainly_read`;
* `Book.isOneLine_of_decodeAll` — the words for what is wrong with a list of books.
-/

namespace BookCatalog.Json

open Text

/-! ## Causes -/

/-- The names that a cause tells are of one line. -/
@[simp] def Cause.IsPlain : Cause → Prop
  | .wrongKind _ expected => IsOneLine expected
  | .wrongLength _ expected => IsOneLine expected
  | .missingField name => IsOneLine name
  | .repeatedField name => IsOneLine name
  | .noVariant type => IsOneLine type
  | _ => True

theorem Found.isOneLine_message (found : Found) : IsOneLine found.message := by
  cases found with
  | null => decide
  | bool b => cases b <;> decide
  | integer n =>
    exact (IsOneLine.append (by decide) (isOneLine_integer n)).append (by decide)
  | real x =>
    exact (IsOneLine.append (by decide) (Real.isOneLine_write realLayout x)).append (by decide)
  | text s => exact IsOneLine.append (by decide) (isOneLine_quoted s)
  | list => decide
  | object => decide

/-- **The words for a cause** are one line. -/
theorem Cause.isOneLine_message {cause : Cause} (h : cause.IsPlain) : IsOneLine cause.message := by
  have hnamed : ∀ {front name back : String}, IsOneLine front → IsOneLine name → IsOneLine back →
      IsOneLine (front ++ name ++ back) := fun hfront hname hback =>
    (hfront.append hname).append hback
  cases cause with
  | wrongKind found expected =>
    exact (hnamed (by decide) found.isOneLine_message (by decide)).append h
  | wrongLength n expected =>
    exact (hnamed (by decide) (isOneLine_natural n) (by decide)).append h
  | missingField name => exact hnamed (by decide) h (by decide)
  | repeatedField name => exact hnamed (by decide) h (by decide)
  | noVariant type => exact IsOneLine.append (by decide) h
  | _ => decide

theorem Error.isOneLine_message {e : Error} (h : e.cause.IsPlain) : IsOneLine e.message := by
  have hcause := Cause.isOneLine_message h
  unfold Error.message
  split
  · exact hcause
  · next p _ =>
    have hline : IsOneLine (e.cause.message ++ " at line " ++ Decimal.natural p.line) :=
      (hcause.append (by decide)).append (isOneLine_natural p.line)
    exact (hline.append (by decide)).append (isOneLine_natural p.column)

/-! ## Failures -/

def Failure.cause : Failure → Cause
  | .placed cause _ => cause
  | .floating cause _ => cause

@[simp] theorem Failure.cause_placed (cause : Cause) (left : Nat) :
    (Failure.placed cause left).cause = cause := rfl

@[simp] theorem Failure.cause_floating (cause : Cause) (rest : List Char) :
    (Failure.floating cause rest).cause = cause := rfl

@[simp] theorem Failure.cause_here (cause : Cause) (rest : List Char) :
    (Failure.here cause rest).cause = cause := rfl

@[simp] theorem Failure.cause_next (cause : Cause) (rest : List Char) :
    (Failure.next cause rest).cause = cause := rfl

theorem Failure.cause_inText (f : Failure) (text : List Char) : (f.inText text).cause = f.cause := by
  cases f <;> rfl

/-- What fails, fails for a cause whose names are of one line. -/
def Plainly {α : Type} (x : Except Failure α) : Prop := ∀ f, x = .error f → f.cause.IsPlain

section Plainly

variable {α β : Type}

@[simp] theorem plainly_ok (v : α) : Plainly (.ok v) := fun _ h => nomatch h

@[simp] theorem plainly_error_iff {f : Failure} :
    Plainly (.error f : Except Failure α) ↔ f.cause.IsPlain :=
  ⟨fun h => h f rfl, fun h _ heq => Except.error.inj heq ▸ h⟩

theorem Plainly.error {x : Except Failure α} {f : Failure} (hx : Plainly x) (h : x = .error f) :
    Plainly (.error f : Except Failure β) :=
  plainly_error_iff.2 (hx f h)

theorem Plainly.ite {p : Prop} [Decidable p] {x y : Except Failure α} (hx : Plainly x)
    (hy : Plainly y) : Plainly (if p then x else y) := by
  split
  · exact hx
  · exact hy

theorem Plainly.map {x : Except Failure α} (hx : Plainly x) (f : α → β) : Plainly (x.map f) := by
  cases x with
  | ok v => exact plainly_ok _
  | error e => exact hx.error rfl

theorem Plainly.bind {x : Except Failure α} {f : α → Except Failure β} (hx : Plainly x)
    (hf : ∀ v, Plainly (f v)) : Plainly (x >>= f) := by
  cases x with
  | ok v => exact hf v
  | error e => exact hx.error rfl

end Plainly

/-! ## Words and numbers -/

theorem plainly_skipWord (word input : List Char) : Plainly (skipWord word input) := by
  induction word generalizing input with
  | nil => exact plainly_ok input
  | cons w ws ih =>
    cases input with
    | nil => simp [skipWord]
    | cons c cs =>
      unfold skipWord
      split
      · exact ih cs
      · simp

theorem plainly_readScaled (positive : Bool) (significand : Nat) (shift : Int) (input : List Char) :
    Plainly (readScaled positive significand shift input) := by
  unfold readScaled
  split <;> simp

theorem plainly_readExponent (positive : Bool) (significand : Nat) (shift : Int)
    (input : List Char) : Plainly (readExponent positive significand shift input) := by
  unfold readExponent
  dsimp only
  split
  · simp
  · split
    · split
      · exact plainly_readScaled _ _ _ _
      · exact .ite (by simp) (by simp)
    · simp

theorem plainly_readTail (positive : Bool) (significand : Nat) (shift : Int) (input : List Char) :
    Plainly (readTail positive significand shift input) := by
  unfold readTail
  split
  · exact plainly_readExponent _ _ _ _
  · exact plainly_readExponent _ _ _ _
  · exact plainly_readScaled _ _ _ _

theorem plainly_readFraction (positive : Bool) (significand : Nat) (shift : Int)
    (input : List Char) : Plainly (readFraction positive significand shift input) := by
  unfold readFraction
  split
  · simp
  · split
    · exact plainly_readTail _ _ _ _
    · simp

theorem plainly_readAfterWhole (positive : Bool) (n dropped : Nat) (input : List Char) :
    Plainly (readAfterWhole positive n dropped input) := by
  unfold readAfterWhole
  split
  · exact plainly_readFraction _ _ _ _
  · exact plainly_readExponent _ _ _ _
  · exact plainly_readExponent _ _ _ _
  · split
    · exact plainly_ok _
    · exact plainly_readScaled _ _ _ _

theorem plainly_readNumber (positive : Bool) (input : List Char) :
    Plainly (readNumber positive input) := by
  unfold readNumber
  split
  · simp
  · split
    · split
      · split
        · simp
        · exact plainly_readAfterWhole _ _ _ _
      · exact plainly_readAfterWhole _ _ _ _
    · split
      · exact plainly_readAfterWhole _ _ _ _
      · simp

/-! ## Quoted texts -/

theorem plainly_hexQuad (cs : List Char) : Plainly (hexQuad cs) := by
  unfold hexQuad
  split
  · simp
  · split <;> simp

theorem plainly_readUnicode (cs : List Char) : Plainly (readUnicode cs) := by
  unfold readUnicode
  refine (plainly_hexQuad cs).bind fun n => ?_
  dsimp only
  split
  · simp
  · split
    · simp
    · split
      · simp
      · simp
      · refine (plainly_hexQuad _).bind fun m => ?_
        split <;> simp
      · simp
      · simp

theorem plainly_readEscape (cs : List Char) : Plainly (readEscape cs) := by
  unfold readEscape
  split
  · simp
  · exact (plainly_readUnicode _).bind fun _ => plainly_ok _
  · split <;> simp

theorem plainly_readChars (input : List Char) : Plainly (readChars input) := by
  fun_induction readChars input with
  | case1 => simp
  | case2 => simp
  | case3 cs e h => exact (plainly_readEscape _).error h
  | case4 cs d n _ e hrest _ ih => exact ih.error hrest
  | case5 => simp
  | case6 => simp
  | case7 c cs _ _ _ e hrest ih => exact ih.error hrest
  | case8 => simp

theorem plainly_readQuoted (input : List Char) : Plainly (readQuoted input) :=
  (plainly_readChars input).map _

/-- **A value of the wrong kind** is told with what was expected. -/
theorem isPlain_wrongKind {expected : String} (h : IsOneLine expected) (input : List Char) :
    (wrongKind expected input).cause.IsPlain := by
  unfold wrongKind
  dsimp only
  split
  · simp
  · split
    · split
      · exact h
      · next e he => exact plainly_skipWord _ _ e he
    split
    · split
      · exact h
      · next e he => exact plainly_skipWord _ _ e he
    split
    · split
      · exact h
      · next e he => exact plainly_skipWord _ _ e he
    split
    · split
      · exact h
      · exact h
      · next e he => exact plainly_readNumber _ _ e he
    split
    · split
      · exact h
      · next e he => exact plainly_readQuoted _ e he
    split
    · exact h
    split
    · exact h
    · simp

theorem plainly_readText (input : List Char) : Plainly (readText input) := by
  unfold readText
  split
  · simp
  · exact plainly_readQuoted _
  · exact plainly_error_iff.2 (isPlain_wrongKind (by decide) _)

/-! ## Lists -/

theorem plainly_nextItem (first : Bool) (input : List Char) : Plainly (nextItem first input) := by
  unfold nextItem
  split
  · simp
  · refine .ite (by simp) (.ite (by simp) (.ite ?_ (by simp)))
    split
    · simp
    · exact .ite (by simp) (by simp)

theorem plainly_readItems {α : Type} {item : Reader α} (hitem : ∀ input, Plainly (item input))
    (first : Bool) (input : List Char) : Plainly (readItems item first input) := by
  fun_induction readItems item first input with
  | case1 first input e h => exact (plainly_nextItem first input).error h
  | case2 => simp
  | case3 first input rest _ e h => exact (hitem rest).error h
  | case4 first input rest _ v after _ _ e h ih => exact ih.error h
  | case5 => simp
  | case6 => simp

theorem plainly_closeList (input : List Char) : Plainly (closeList input) := by
  unfold closeList
  split
  · simp
  · simp
  · split <;> simp
  · simp

theorem plainly_leaveList {α : Type} {x : Result α} (hx : Plainly x) : Plainly (leaveList x) := by
  unfold leaveList
  split
  · exact (plainly_closeList _).map _
  · next cause rest => exact plainly_error_iff.2 (hx (.floating cause rest) rfl)
  · exact hx

theorem plainly_readList {α : Type} {item : ValueReader α}
    (hitem : ∀ levels input, Plainly (item levels input)) (levels : Nat) (input : List Char) :
    Plainly (readList item levels input) := by
  unfold readList
  split
  · simp
  · split
    · simp
    · next below => exact plainly_leaveList (plainly_readItems (hitem below) _ _)
  · exact plainly_error_iff.2 (isPlain_wrongKind (by decide) _)

/-! ## Objects -/

theorem plainly_nextKey (first : Bool) (input : List Char) : Plainly (nextKey first input) := by
  unfold nextKey
  dsimp only
  split
  · simp
  · refine .ite (by simp) (.ite (.ite (by simp) (.ite (by simp) (by simp))) (.ite ?_ (by simp)))
    split
    · simp
    · exact .ite (by simp) (.ite (by simp) (by simp))

theorem plainly_skipColon (input : List Char) : Plainly (skipColon input) := by
  unfold skipColon
  split <;> simp

theorem plainly_readMembers {σ : Type} {member : String → σ → Reader σ}
    (hmember : ∀ key state input, Plainly (member key state input)) (first : Bool) (state : σ)
    (input : List Char) : Plainly (readMembers member first state input) := by
  fun_induction readMembers member first state input with
  | case1 first state input e h => exact (plainly_nextKey first input).error h
  | case2 => simp
  | case3 first state input rest _ e h => exact (plainly_readQuoted rest).error h
  | case4 first state input rest _ key atColon _ e h => exact (hmember key state atColon).error h
  | case5 first state input rest _ key atColon _ v after _ _ ih => exact ih
  | case6 => simp

theorem plainly_closeObject (input : List Char) : Plainly (closeObject input) := by
  unfold closeObject
  split
  · simp
  · exact .ite (by simp) (.ite (by simp) (by simp))

theorem plainly_leaveObject {α : Type} {x : Result α} (hx : Plainly x) :
    Plainly (leaveObject x) := by
  unfold leaveObject
  split
  · exact (plainly_closeObject _).map _
  · next cause rest => exact plainly_error_iff.2 (hx (.floating cause rest) rfl)
  · exact hx

/-! ## Skipped values -/

theorem plainly_skipExponent (input : List Char) : Plainly (skipExponent input) := by
  unfold skipExponent
  extract_lets body
  clear_value body
  split
  · simp
  · exact .ite (by simp) (by simp)

theorem plainly_skipTail (input : List Char) : Plainly (skipTail input) := by
  unfold skipTail
  split
  · exact plainly_skipExponent _
  · exact plainly_skipExponent _
  · simp

theorem plainly_skipAfterWhole (input : List Char) : Plainly (skipAfterWhole input) := by
  unfold skipAfterWhole
  split
  · exact .ite (by simp) (plainly_skipTail _)
  · exact plainly_skipTail _

theorem plainly_skipNumber (input : List Char) : Plainly (skipNumber input) := by
  unfold skipNumber
  split
  · simp
  · refine .ite ?_ (.ite (plainly_skipAfterWhole _) (by simp))
    split
    · exact .ite (by simp) (plainly_skipAfterWhole _)
    · simp

theorem plainly_skipEscape (input : List Char) : Plainly (skipEscape input) := by
  unfold skipEscape
  split
  · simp
  · exact (plainly_hexQuad _).map _
  · split <;> simp

theorem plainly_skipChars (input : List Char) : Plainly (skipChars input) := by
  fun_induction skipChars input with
  | case1 => simp
  | case2 => simp
  | case3 cs e h => exact (plainly_skipEscape cs).error h
  | case4 cs n _ _ ih => exact ih
  | case5 => simp
  | case6 c cs _ _ _ ih => exact ih

theorem plainly_leave (valueEnded : Bool) (opened : List Bracket) (input : List Char) :
    Plainly (leave valueEnded opened input) := by
  have hend : ∀ b : Bracket, b.atEnd.IsPlain ∧ b.unclosed.IsPlain := by
    intro b
    cases b <;> exact ⟨trivial, trivial⟩
  induction opened generalizing valueEnded input with
  | nil => exact plainly_ok _
  | cons b bs ih =>
    unfold leave
    split
    · exact plainly_error_iff.2 (hend b).1
    · exact .ite (by simp)
        (.ite (ih _ _) (.ite (plainly_error_iff.2 (hend b).2) (by simp)))

theorem plainly_skipKey (input : List Char) : Plainly (skipKey input) := by
  unfold skipKey
  split
  · simp
  · refine (plainly_skipChars _).bind fun rest => ?_
    split <;> simp
  · simp

theorem plainly_enter (opened : List Bracket) (input : List Char) :
    Plainly (enter opened input) := by
  unfold enter
  split
  · simp
  · refine .ite ((plainly_skipWord _ _).map _) (.ite ((plainly_skipWord _ _).map _)
      (.ite ((plainly_skipWord _ _).map _) (.ite ((plainly_skipNumber _).map _)
      (.ite ((plainly_skipNumber _).map _) (.ite ((plainly_skipChars _).map _)
      (.ite ?_ (.ite ?_ ?_)))))))
    · exact plainly_ok _
    · exact plainly_ok _
    · simp

theorem plainly_skipOpen (opened : List Bracket) (input : List Char) :
    Plainly (skipOpen opened input) := by
  fun_induction skipOpen opened input with
  | case1 opened input e h => exact (plainly_enter opened input).error h
  | case2 opened input inner valueEnded rest _ e h =>
    exact (plainly_leave valueEnded inner rest).error h
  | case3 => simp
  | case4 opened input inner valueEnded rest _ b bs after _ e h =>
    exact (Plainly.ite (plainly_skipKey after) (plainly_ok after)).error h
  | case5 opened input inner valueEnded rest _ b bs after _ last _ _ ih => exact ih
  | case6 => simp

theorem plainly_skipValue (input : List Char) : Plainly (skipValue input) :=
  plainly_skipOpen [] input

/-! ## Records -/

/-- The names of a type of records and of its fields are of one line, and its fields are read
plainly. -/
structure Shape.IsPlain {ρ : Type} (shape : Shape ρ) : Prop where
  name : IsOneLine shape.name
  fields : ∀ field ∈ shape.fields,
    IsOneLine field.name ∧ ∀ levels input, Plainly (field.read levels input)

namespace Shape

variable {ρ : Type} {shape : Shape ρ} (h : shape.IsPlain)

include h

theorem isOneLine_sized : IsOneLine shape.sized := by
  have hunit : IsOneLine (if shape.fields.length = 1 then " element" else " elements") := by
    split <;> decide
  have hwith : IsOneLine " with " := by decide
  exact ((h.name.append hwith).append (isOneLine_natural _)).append hunit

theorem plainly_member (levels : Nat) (key : String) (state : List String × ρ)
    (input : List Char) : Plainly (shape.member levels key state input) := by
  unfold member
  split
  · next field hfield =>
    obtain ⟨hname, hread⟩ := h.fields field (List.mem_of_find?_eq_some hfield)
    have hkey : field.name = key := by simpa using List.find?_some hfield
    split
    · exact plainly_error_iff.2 (hkey ▸ hname)
    · split
      · next e he => exact (plainly_skipColon input).error he
      · next atValue _ =>
        split
        · next e he => exact (hread levels atValue).error he
        · simp
  · split
    · next e he => exact (plainly_skipColon input).error he
    · exact (plainly_skipValue _).map _

theorem plainly_readObject (levels : Nat) (input : List Char) :
    Plainly (shape.readObject levels input) := by
  unfold readObject
  split
  · next e he => exact (plainly_readMembers (plainly_member h levels) _ _ _).error he
  · split
    · next field hfield =>
      exact plainly_error_iff.2 (h.fields field (List.mem_of_find?_eq_some hfield)).1
    · simp

theorem plainly_readItems (levels : Nat) {fields : List (Field ρ)}
    (hfields : ∀ field ∈ fields, ∀ levels input, Plainly (field.read levels input)) (place : Nat)
    (record : ρ) (input : List Char) :
    Plainly (shape.readItems levels fields place record input) := by
  induction fields generalizing place record input with
  | nil => exact plainly_ok _
  | cons field fields ih =>
    have hrest := ih fun f hf => hfields f (List.mem_cons_of_mem field hf)
    unfold readItems
    split
    · next e he => exact (plainly_nextItem _ input).error he
    · exact .ite (plainly_error_iff.2 (isOneLine_sized h)) (hrest _ _ _)
    · next rest _ =>
      split
      · next e he => exact (hfields field List.mem_cons_self levels rest).error he
      · exact hrest _ _ _

/-- **A record** is refused plainly. -/
theorem plainly_read (levels : Nat) (input : List Char) : Plainly (shape.read levels input) := by
  unfold read
  split
  · simp
  · split
    · split
      · simp
      · next below =>
        refine .ite (plainly_leaveList (plainly_readItems h below ?_ _ _ _))
          (plainly_leaveObject (plainly_readObject h below _))
        exact fun field hfield => (h.fields field hfield).2
    · exact plainly_error_iff.2 (isPlain_wrongKind h.name _)

end Shape

/-! ## Values of any kind -/

theorem plainly_readLoose (levels : Nat) (input : List Char) :
    Plainly (readLoose levels input) := by
  induction levels using Nat.strongRecOn generalizing input with
  | ind levels ih =>
    unfold readLoose
    split
    · simp
    · refine .ite ((plainly_skipWord _ _).map _) (.ite ((plainly_skipWord _ _).map _)
        (.ite ((plainly_skipWord _ _).map _) (.ite ?number (.ite ((plainly_readQuoted _).map _)
          (.ite ?list (.ite ?object (by simp)))))))
      case number =>
        split
        · simp
        · simp
        · next e he => exact (plainly_readNumber _ _).error he
      case list =>
        split
        · simp
        · next below =>
          exact plainly_leaveList
            ((plainly_readItems (ih below (Nat.lt_succ_self below)) _ _).map _)
      case object =>
        split
        · simp
        · next below =>
          refine plainly_leaveObject (plainly_readMembers (fun _ _ atColon => ?_) _ _ _)
          split
          · next e he => exact (plainly_skipColon atColon).error he
          · exact (ih below (Nat.lt_succ_self below) _).map _

/-! ## Whole texts -/

/-- **What is wrong with a text** is said in one line, where its value is read plainly. -/
theorem isOneLine_of_decode {α : Type} {read : ValueReader α}
    (h : ∀ levels input, Plainly (read levels input)) {text : String} {e : Error}
    (he : decode read text = .error e) : IsOneLine e.message := by
  apply Error.isOneLine_message
  unfold decode at he
  split at he
  · next f hf =>
    obtain rfl := Except.error.inj he
    rw [Failure.cause_inText]
    exact h _ _ f hf
  · split at he
    · cases he
    · obtain rfl := Except.error.inj he
      exact trivial

end BookCatalog.Json

namespace BookCatalog

open Json

/-! ## Books -/

theorem Id.plainly_read (levels : Nat) (input : List Char) : Plainly (Id.read levels input) := by
  have hname : Text.IsOneLine "RawId" := by decide
  unfold Id.read
  split
  · next e he => exact (plainly_readLoose levels input).error he
  · exact .ite (by simp) (plainly_error_iff.2 hname)
  · simp
  · exact plainly_error_iff.2 hname

theorem Person.plainly_read (levels : Nat) (input : List Char) :
    Plainly (Person.read levels input) := by
  have hshape : Person.shape.IsPlain := by
    refine ⟨by decide, fun field hfield => ?_⟩
    obtain rfl := List.mem_singleton.1 hfield
    exact ⟨by decide, fun levels input => (plainly_readText input).map _⟩
  exact Shape.plainly_read hshape levels input

namespace Book

theorem plainly_readTexts (levels : Nat) (input : List Char) : Plainly (readTexts levels input) :=
  plainly_readList (fun _ => plainly_readText) levels input

theorem plainly_readPeople (levels : Nat) (input : List Char) :
    Plainly (readPeople levels input) :=
  plainly_readList Person.plainly_read levels input

theorem plainly_read (levels : Nat) (input : List Char) : Plainly (read levels input) := by
  have hfield : ∀ {α : Type} {name : String} {required : Bool} {read : ValueReader α}
      {set : α → Book → Book}, Text.IsOneLine name → (∀ levels input, Plainly (read levels input)) →
      Text.IsOneLine (field name required read set).name ∧
        ∀ levels input, Plainly ((field name required read set).read levels input) :=
    fun hname hread => ⟨hname, fun levels input => (hread levels input).map _⟩
  have htext : ∀ levels : Nat, ∀ input, Plainly (readText input) := fun _ => plainly_readText
  have hshape : shape.IsPlain := by
    refine ⟨by decide, ?_⟩
    simp only [shape, List.forall_mem_cons]
    exact ⟨hfield (by decide) Id.plainly_read, hfield (by decide) htext, hfield (by decide) htext,
      hfield (by decide) plainly_readPeople, hfield (by decide) plainly_readPeople,
      hfield (by decide) plainly_readTexts, hfield (by decide) plainly_readTexts,
      hfield (by decide) plainly_readTexts, hfield (by decide) htext, fun _ h => nomatch h⟩
  exact Shape.plainly_read hshape levels input

/-- **What is wrong with a list of books** is said in one line. -/
theorem isOneLine_of_decodeAll {text : String} {e : Json.Error} (h : decodeAll text = .error e) :
    Text.IsOneLine e.message :=
  isOneLine_of_decode (plainly_readList plainly_read) h

end Book

end BookCatalog
