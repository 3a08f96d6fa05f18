import BookCatalog.Catalog.Network

/-!
# Final answers

Which answer a fetch ends in, said by the chain of redirects that leads to it, and the requests that
a use of the web makes.

* `Web.Makes` — what a use of the web gives and requests, whatever was requested before;
* `Catalog.Leads`, `Catalog.FinalAnswer` — chains of redirects, and the answer at their end;
* `Catalog.fetch_makes` — a fetch gives the final answer, if there is one, and no answer otherwise.
-/

namespace BookCatalog

/-! ## Uses of the web -/

/-- What a use of the web gives, and the requests it makes after those that were made before. -/
def Web.Makes {α : Type} (act : Web α) (v : α) (made : List Url) : Prop :=
  ∀ sent, act.run sent = (v, sent ++ made)

namespace Web

variable {α β : Type}

theorem makes_pure (v : α) : Makes (pure v) v [] := by
  intro sent
  rw [List.append_nil]
  rfl

theorem Makes.bind {act : Web α} {next : α → Web β} {v : α} {w : β} {made more : List Url}
    (hact : Makes act v made) (hnext : Makes (next v) w more) :
    Makes (act >>= next) w (made ++ more) := by
  intro sent
  rw [StateT.run_bind, hact]
  exact (hnext _).trans (by rw [List.append_assoc])

theorem Makes.map {act : Web α} {v : α} {made : List Url} (hact : Makes act v made) (f : α → β) :
    Makes (do return f (← act)) (f v) made := by
  have h : Makes (act >>= fun a => pure (f a)) (f v) (made ++ []) := hact.bind (makes_pure (f v))
  rwa [List.append_nil] at h

theorem Makes.run_fst {act : Web α} {v : α} {made : List Url} (hact : Makes act v made)
    (sent : List Url) : (act.run sent).1 = v := by
  rw [hact]

end Web

namespace Catalog

open Web

variable (catalog : Catalog)

/-- The request for a page, if it arrives. -/
def arrivals (page : Url) : List Url :=
  if catalog page.requested = .unreachable then [] else [page.requested]

theorem send_makes (page : Url) :
    Makes (catalog.send page) (catalog page.requested) (catalog.arrivals page) := by
  intro sent
  by_cases h : catalog page.requested = .unreachable
  · simp [send, arrivals, h]
    rfl
  · simp [send, arrivals, h]
    rfl

theorem redirect?_of_location {answer : Answer} (h : answer.location = none) (page : Url) :
    redirect? page answer = none := by
  unfold redirect?
  rw [h]
  split <;> rfl

/-! ## Chains of redirects -/

/-- So many redirects, each answered in turn, lead from one page to another. -/
inductive Leads : Nat → Url → Url → Prop
  | here (page : Url) : Leads 0 page page
  | onward {n : Nat} {page next last : Url} {answer : Answer}
      (hanswer : catalog page.requested = .answered answer)
      (hnext : redirect? page answer = some (.page next)) (h : Leads n next last) :
      Leads (n + 1) page last

/-- At most so many redirects lead from a page to one that is answered without a redirect. -/
def Settles (left : Nat) (page : Url) (answer : Answer) : Prop :=
  ∃ n ≤ left, ∃ last, catalog.Leads n page last ∧ catalog last.requested = .answered answer ∧
    redirect? last answer = none

/-- The answer that a request for an address ends in, after the redirects that are followed. -/
def FinalAnswer (url : Url) (answer : Answer) : Prop :=
  canRequest url = true ∧ catalog.Settles maxRedirects url answer

variable {catalog}

theorem settles_iff {left : Nat} {page : Url} {final : Answer} :
    catalog.Settles left page final ↔ ∃ answer, catalog page.requested = .answered answer ∧
      ((redirect? page answer = none ∧ final = answer) ∨
        ∃ next below, redirect? page answer = some (.page next) ∧ left = below + 1 ∧
          catalog.Settles below next final) := by
  constructor
  · rintro ⟨n, hn, last, hleads, hlast, hend⟩
    cases hleads with
    | here => exact ⟨final, hlast, Or.inl ⟨hend, rfl⟩⟩
    | @onward n _ next _ answer hanswer hnext h =>
      refine ⟨answer, hanswer, Or.inr ⟨next, left - 1, hnext, by omega, ?_⟩⟩
      exact ⟨n, by omega, last, h, hlast, hend⟩
  · rintro ⟨answer, hanswer, ⟨hend, rfl⟩ | ⟨next, below, hnext, rfl, n, hn, last, h, hlast, hend⟩⟩
    · exact ⟨0, by omega, page, .here page, hanswer, hend⟩
    · exact ⟨n + 1, by omega, last, .onward hanswer hnext h, hlast, hend⟩

/-! ## Following redirects -/

theorem settles_of_ending {first page : Url} {result : Except FetchError Answer} (left : Nat)
    (h : hop first page (catalog page.requested) = .ending result) (final : Answer) :
    result = .ok final ↔ catalog.Settles left page final := by
  rw [settles_iff]
  unfold hop at h
  cases hreply : catalog page.requested with
  | answered answer =>
    rw [hreply] at h
    cases hnext : redirect? page answer with
    | none =>
      simp only [hnext, Hop.ending.injEq] at h
      simp [← h, hnext, eq_comm]
    | some target =>
      cases target with
      | other scheme =>
        simp only [hnext, Hop.ending.injEq] at h
        simp [← h, hnext]
      | page next => simp [hnext] at h
  | _ =>
    simp only [hreply, Hop.ending.injEq] at h
    simp [← h]

theorem settles_of_onward {first page next : Url} (left : Nat)
    (h : hop first page (catalog page.requested) = .onward next) (final : Answer) :
    catalog.Settles left page final ↔
      ∃ below, left = below + 1 ∧ catalog.Settles below next final := by
  rw [settles_iff]
  unfold hop at h
  cases hreply : catalog page.requested with
  | answered answer =>
    rw [hreply] at h
    cases hnext : redirect? page answer with
    | none => simp [hnext] at h
    | some target =>
      cases target with
      | other scheme => simp [hnext] at h
      | page url =>
        simp only [hnext, Hop.onward.injEq] at h
        subst h
        simp [hnext]
  | _ => simp [hreply] at h

theorem follow_makes_of_ending {first page : Url} {result : Except FetchError Answer}
    (h : hop first page (catalog page.requested) = .ending result) (left : Nat) :
    Makes (catalog.follow first left page) result (catalog.arrivals page) := by
  rw [← List.append_nil (catalog.arrivals page)]
  cases left with
  | zero =>
    refine (catalog.send_makes page).bind ?_
    rw [h]
    exact makes_pure result
  | succ left =>
    refine (catalog.send_makes page).bind ?_
    rw [h]
    exact makes_pure result

theorem arrivals_of_answered {page : Url} {answer : Answer}
    (h : catalog page.requested = .answered answer) : catalog.arrivals page = [page.requested] := by
  simp [arrivals, h]

theorem arrivals_of_onward {first page next : Url}
    (h : hop first page (catalog page.requested) = .onward next) :
    catalog.arrivals page = [page.requested] := by
  refine if_neg fun hreply => ?_
  rw [hreply] at h
  cases h

theorem follow_makes_zero {first page next : Url}
    (h : hop first page (catalog page.requested) = .onward next) :
    Makes (catalog.follow first 0 page) (.error (.following page)) [page.requested] := by
  have hmakes : Makes (catalog.follow first 0 page) (.error (.following page))
      (catalog.arrivals page ++ []) := by
    refine (catalog.send_makes page).bind ?_
    rw [h]
    exact makes_pure _
  rwa [arrivals_of_onward h] at hmakes

theorem follow_makes_succ {first page next : Url} {left : Nat} {result : Except FetchError Answer}
    {made : List Url} (h : hop first page (catalog page.requested) = .onward next)
    (hnext : Makes (catalog.follow first left next) result made) :
    Makes (catalog.follow first (left + 1) page) result (page.requested :: made) := by
  have hmakes : Makes (catalog.follow first (left + 1) page) result
      (catalog.arrivals page ++ made) := by
    refine (catalog.send_makes page).bind ?_
    rw [h]
    exact hnext
  rwa [arrivals_of_onward h] at hmakes

/-- **Following redirects** ends in the final answer if so many redirects lead to one, and in a
failure otherwise, whatever was requested before. -/
theorem follow_makes (catalog : Catalog) (first : Url) (left : Nat) (page : Url) :
    ∃ result made, Makes (catalog.follow first left page) result made ∧
      ∀ final, result = .ok final ↔ catalog.Settles left page final := by
  induction left generalizing page with
  | zero =>
    cases hhop : hop first page (catalog page.requested) with
    | ending result =>
      exact ⟨result, _, follow_makes_of_ending hhop 0, settles_of_ending 0 hhop⟩
    | onward next =>
      exact ⟨_, _, follow_makes_zero hhop, fun final => by simp [settles_of_onward 0 hhop]⟩
  | succ left ih =>
    cases hhop : hop first page (catalog page.requested) with
    | ending result =>
      exact ⟨result, _, follow_makes_of_ending hhop _, settles_of_ending _ hhop⟩
    | onward next =>
      obtain ⟨result, made, hmade, hresult⟩ := ih next
      exact ⟨result, _, follow_makes_succ hhop hmade, fun final => by
        simp [settles_of_onward _ hhop, hresult]⟩

/-- **A fetch** ends in the final answer, if there is one, and in a failure otherwise, whatever was
requested before. -/
theorem fetch_makes (catalog : Catalog) (url : Url) :
    ∃ result made, Makes (catalog.fetch url) result made ∧
      ∀ final, result = .ok final ↔ catalog.FinalAnswer url final := by
  by_cases h : canRequest url = true
  · obtain ⟨result, made, hmade, hresult⟩ := follow_makes catalog url maxRedirects url
    refine ⟨result, made, ?_, fun final => ?_⟩
    · rw [fetch, if_pos h]
      exact hmade
    · simp [FinalAnswer, h, hresult]
  · refine ⟨.error (.building url), [], ?_, fun final => ?_⟩
    · rw [fetch, if_neg h]
      exact makes_pure _
    · simp [FinalAnswer, h]

end Catalog

end BookCatalog
