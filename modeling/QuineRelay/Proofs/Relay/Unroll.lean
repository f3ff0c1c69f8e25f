import QuineRelay.Proofs.Quoting.Written
import QuineRelay.Proofs.Relay.SizeLimit

/-!
# The stages that are predicted

What the stages of a relay should be is said here without the run that predicts them: the
source of a stage is what its language generates for the source after it, and the last of
these is the origin. The run gives this chain of sources, each with the toolchain of its
language, as long as every source is generated and within the limit. If one is not, the run
stops at the last such stage, because it comes first there, and reports its fault.

Both follow from one step, a language in front of stages that are already known. The
induction goes along the languages, and only the fault of the last one that fails can reach
the front. The origin itself may have any size.
-/

namespace QuineRelay.Relay

/-- The source in the first of `languages` when the last of them has to print `origin`. Each
source is generated for the one after it. -/
def generated (origin : Bytes) (languages : List Language) : Except GenerationError Bytes :=
  languages.foldr (fun language next => next.bind language.generate) (.ok origin)

/-- The first of `languages` has a source within the limit. -/
def Fits (limit : Nat) (origin : Bytes) (languages : List Language) : Prop :=
  ∃ source, generated origin languages = .ok source ∧ source.length ≤ limit

/-- The language at `k` has no stage, for the given cause, and it is the last such one. -/
structure IsLastFailure (limit : Nat) (origin : Bytes) (languages : List Language) (k : Nat)
    (cause : GenerationError) : Prop where
  later_fit : ∀ j, k < j → j < languages.length → Fits limit origin (languages.drop j)
  refused : ∃ language next, languages[k]? = some language ∧
    generated origin (languages.drop (k + 1)) = .ok next ∧ IsRefused limit language next cause

variable {limit : Nat} {settings : Settings} {origin next : Bytes} {index k : Nat}
  {language : Language} {languages rest : List Language} {stages later : List Stage}
  {cause : GenerationError}

theorem generated_cons (language : Language) (rest : List Language) :
    generated origin (language :: rest) = (generated origin rest).bind language.generate := rfl

/-! ## The last failure -/

/-- A refused language has no other cause, and no source within the limit. -/
theorem IsRefused.eq {other : GenerationError} (h : IsRefused limit language next cause)
    (hother : IsRefused limit language next other) : cause = other := by
  cases h with
  | notGenerated h =>
      cases hother with
      | notGenerated h' => exact Except.error.inj (h.symm.trans h')
      | tooLarge h' => cases h.symm.trans h'
  | tooLarge h =>
      cases hother with
      | notGenerated h' => cases h.symm.trans h'
      | tooLarge h' => rw [Except.ok.inj (h.symm.trans h')]

theorem IsRefused.not_fits (h : IsRefused limit language next cause)
    (hnext : generated origin rest = .ok next) : ¬ Fits limit origin (language :: rest) := by
  rintro ⟨source, hsource, hsize⟩
  rw [generated_cons, hnext] at hsource
  cases h with
  | notGenerated h => cases hsource.symm.trans h
  | tooLarge h hexceeds =>
      rw [Except.ok.inj (hsource.symm.trans h)] at hsize
      exact Nat.not_le.2 hexceeds hsize

theorem drop_eq_cons (h : languages[k]? = some language) :
    languages.drop k = language :: languages.drop (k + 1) := by
  obtain ⟨hk, rfl⟩ := List.getElem?_eq_some_iff.1 h
  exact List.drop_eq_getElem_cons hk

namespace IsLastFailure

theorem lt_length (h : IsLastFailure limit origin languages k cause) : k < languages.length := by
  obtain ⟨language, next, hk, -, -⟩ := h.refused
  exact (List.getElem?_eq_some_iff.1 hk).1

theorem not_fits (h : IsLastFailure limit origin languages k cause) :
    ¬ Fits limit origin (languages.drop k) := by
  obtain ⟨language, next, hk, hnext, hrefused⟩ := h.refused
  rw [drop_eq_cons hk]
  exact hrefused.not_fits hnext

/-- There is one last failure, with one cause. -/
theorem unique {k' : Nat} {cause' : GenerationError}
    (h : IsLastFailure limit origin languages k cause)
    (h' : IsLastFailure limit origin languages k' cause') : k = k' ∧ cause = cause' := by
  rcases Nat.lt_trichotomy k k' with hlt | rfl | hgt
  · exact absurd (h.later_fit k' hlt h'.lt_length) h'.not_fits
  · obtain ⟨language, next, hk, hnext, hrefused⟩ := h.refused
    obtain ⟨language', next', hk', hnext', hrefused'⟩ := h'.refused
    obtain rfl := Option.some.inj (hk.symm.trans hk')
    obtain rfl := Except.ok.inj (hnext.symm.trans hnext')
    exact ⟨rfl, hrefused.eq hrefused'⟩
  · exact absurd (h'.later_fit k hgt h.lt_length) h.not_fits

/-- A language in front of a failure changes its place only. -/
theorem cons (h : IsLastFailure limit origin rest k cause) (language : Language) :
    IsLastFailure limit origin (language :: rest) (k + 1) cause where
  later_fit := by
    intro j hj hlength
    cases j with
    | zero => exact absurd hj (Nat.not_lt_zero _)
    | succ j => exact h.later_fit j (Nat.lt_of_succ_lt_succ hj) (Nat.lt_of_succ_lt_succ hlength)
  refused := h.refused

/-- A failure in front of languages that all have a stage is the last one. -/
theorem head (hfit : ∀ j < rest.length, Fits limit origin (rest.drop j))
    (hnext : generated origin rest = .ok next) (h : IsRefused limit language next cause) :
    IsLastFailure limit origin (language :: rest) 0 cause where
  later_fit := by
    intro j hj hlength
    cases j with
    | zero => exact absurd hj (Nat.lt_irrefl 0)
    | succ j => exact hfit j (Nat.lt_of_succ_lt_succ hlength)
  refused := ⟨language, next, rfl, hnext, h⟩

end IsLastFailure

/-! ## The run -/

/-- Before the stages comes a source for that of the first one. -/
theorem generated_of_stagesFrom (h : stagesFrom settings origin index languages = .ok stages) :
    generated origin languages = .ok (nextSource origin stages) := by
  induction languages generalizing index stages with
  | nil =>
      obtain rfl := Except.ok.inj h
      rfl
  | cons language rest ih =>
      obtain ⟨later, source, hlater, hsource, -, rfl⟩ := stagesFrom_cons_eq_ok_iff.1 h
      rw [generated_cons, ih hlater]
      exact hsource

/-- Every stage has the source that is generated there, within the limit. -/
theorem getElem?_of_stagesFrom (h : stagesFrom settings origin index languages = .ok stages)
    (hk : languages[k]? = some language) :
    ∃ source, generated origin (languages.drop k) = .ok source ∧
      source.length ≤ settings.sizeLimit ∧ stages[k]? = some ⟨language.toolchain, source⟩ := by
  induction languages generalizing index stages k with
  | nil => cases hk
  | cons first rest ih =>
      have hgenerated := generated_of_stagesFrom h
      obtain ⟨later, source, hlater, -, hsize, rfl⟩ := stagesFrom_cons_eq_ok_iff.1 h
      cases k with
      | zero =>
          obtain rfl := Option.some.inj hk
          exact ⟨source, hgenerated, hsize, rfl⟩
      | succ k => exact ih hlater hk

theorem fits_of_stagesFrom (h : stagesFrom settings origin index languages = .ok stages) :
    ∀ j < languages.length, Fits settings.sizeLimit origin (languages.drop j) := by
  intro j hj
  obtain ⟨source, hsource, hsize, -⟩ :=
    getElem?_of_stagesFrom h (List.getElem?_eq_getElem hj)
  exact ⟨source, hsource, hsize⟩

/-- A run that fails reports the last failure. -/
theorem isLastFailure_of_stagesFrom {error : CompositionError}
    (h : stagesFrom settings origin index languages = .error error) :
    ∃ k cause, IsLastFailure settings.sizeLimit origin languages k cause ∧
      error = .generation (index + k) cause := by
  induction languages generalizing index with
  | nil => cases h
  | cons language rest ih =>
      rcases stagesFrom_cons_eq_error_iff.1 h with hlater | ⟨later, cause, hlater, hrefused, rfl⟩
      · obtain ⟨k, cause, hlast, rfl⟩ := ih hlater
        refine ⟨k + 1, cause, hlast.cons language, ?_⟩
        rw [Nat.add_assoc, Nat.add_comm 1 k]
      · have hfit := fits_of_stagesFrom hlater
        have hnext := generated_of_stagesFrom hlater
        exact ⟨0, cause, .head hfit hnext hrefused, rfl⟩

theorem stagesFrom_eq_error_iff {error : CompositionError} :
    stagesFrom settings origin index languages = .error error ↔
      ∃ k cause, IsLastFailure settings.sizeLimit origin languages k cause ∧
        error = .generation (index + k) cause := by
  constructor
  · intro h
    exact isLastFailure_of_stagesFrom h
  · rintro ⟨k, cause, hlast, rfl⟩
    cases hstages : stagesFrom settings origin index languages with
    | ok stages => exact absurd (fits_of_stagesFrom hstages k hlast.lt_length) hlast.not_fits
    | error error =>
        obtain ⟨k', cause', hlast', rfl⟩ := isLastFailure_of_stagesFrom hstages
        obtain ⟨rfl, rfl⟩ := hlast.unique hlast'
        rfl

theorem exists_stagesFrom_iff :
    (∃ stages, stagesFrom settings origin index languages = .ok stages) ↔
      ∀ j < languages.length, Fits settings.sizeLimit origin (languages.drop j) := by
  constructor
  · rintro ⟨stages, hstages⟩
    exact fits_of_stagesFrom hstages
  · intro hfit
    cases hstages : stagesFrom settings origin index languages with
    | ok stages => exact ⟨stages, rfl⟩
    | error error =>
        obtain ⟨k, cause, hlast, -⟩ := isLastFailure_of_stagesFrom hstages
        exact absurd (hfit k hlast.lt_length) hlast.not_fits

/-! ## The relay of a route -/

theorem unroll_eq (settings : Settings) (origin : Bytes) (route : Route) :
    unroll settings origin route = (stagesFrom settings origin 1 route.languages).map fun stages =>
      ⟨⟨Language.origin, origin⟩ :: stages, origin_cons_ne_nil origin stages⟩ := rfl

/-- The prediction is exactly the chain of generated sources. There is a relay just when
every source of the chain is generated and within the limit. Its stages are then the origin,
as it was given, and for each language its source in the chain. Otherwise the failure is that
of the last language without a stage: what its generation reports, or the true size of its
source beside the limit. -/
theorem unroll_predicts_generated (settings : Settings) (origin : Bytes) (route : Route) :
    ((∃ relay, unroll settings origin route = .ok relay) ↔
      ∀ j < route.languages.length, Fits settings.sizeLimit origin (route.languages.drop j)) ∧
    (∀ relay, unroll settings origin route = .ok relay →
      relay.length = route.languages.length + 1 ∧
      relay.stages[0]? = some ⟨Language.origin, origin⟩ ∧
      ∀ k language, route.languages[k]? = some language →
        ∃ source, generated origin (route.languages.drop k) = .ok source ∧
          relay.stages[k + 1]? = some ⟨language.toolchain, source⟩) ∧
    ∀ error, unroll settings origin route = .error error ↔
      ∃ k cause, IsLastFailure settings.sizeLimit origin route.languages k cause ∧
        error = .generation (k + 1) cause := by
  refine ⟨?_, ?_, ?_⟩
  · constructor
    · rintro ⟨relay, hrelay⟩
      obtain ⟨stages, hstages, -⟩ := map_eq_ok_iff.1 hrelay
      exact fits_of_stagesFrom hstages
    · intro hfit
      obtain ⟨stages, hstages⟩ := exists_stagesFrom_iff.2 hfit
      exact ⟨_, map_eq_ok_iff.2 ⟨stages, hstages, rfl⟩⟩
  · intro relay hrelay
    obtain ⟨stages, hstages, rfl⟩ := map_eq_ok_iff.1 hrelay
    refine ⟨congrArg (· + 1) (length_of_stagesFrom hstages), rfl, ?_⟩
    intro k language hk
    obtain ⟨source, hsource, -, hstage⟩ := getElem?_of_stagesFrom hstages hk
    exact ⟨source, hsource, hstage⟩
  · intro error
    rw [unroll_eq, map_eq_error_iff, stagesFrom_eq_error_iff]
    simp only [Nat.add_comm 1]

/-- The program that PHP has to print holds one of its code marks. Where that program fits, the
failure is that of PHP; under a smaller limit it is that of the stage after it. -/
theorem unroll_predicts_generated_php_python :
    ∃ route : Route, route.languages = [Language.php, Language.python] ∧
      generated (Utf8.encode "<?\n") [Language.python] = .ok (Utf8.encode "print(\"<?\")\n") ∧
      unroll ⟨80, 12⟩ (Utf8.encode "<?\n") route
        = .error (.generation 1 (.forbiddenSequence "PHP" 7 "<?")) ∧
      unroll ⟨80, 11⟩ (Utf8.encode "<?\n") route
        = .error (.generation 2 (.tooLarge "Python" 12 11)) := by
  let route : Route := ⟨[Language.php, Language.python], List.cons_ne_nil _ _⟩
  have hpython : Language.python.generate (Utf8.encode "<?\n")
      = .ok (Utf8.encode "print(\"<?\")\n") :=
    map_eq_ok_iff.2 ⟨_, bind_eq_ok_iff.2 ⟨_, Quoting.asText_eq_ok_iff.2 rfl, rfl⟩, rfl⟩
  have hphp : Language.php.generate (Utf8.encode "print(\"<?\")\n")
      = .error (.forbiddenSequence "PHP" 7 "<?") :=
    map_eq_error_iff.2 (bind_eq_error_iff.2 (.inr ⟨_, Quoting.asText_eq_ok_iff.2 rfl, rfl⟩))
  obtain ⟨-, -, hwide⟩ := unroll_predicts_generated ⟨80, 12⟩ (Utf8.encode "<?\n") route
  obtain ⟨-, -, hnarrow⟩ := unroll_predicts_generated ⟨80, 11⟩ (Utf8.encode "<?\n") route
  refine ⟨route, rfl, hpython, (hwide _).2 ⟨0, _, ?_, rfl⟩, (hnarrow _).2 ⟨1, _, ?_, rfl⟩⟩
  · refine .head ?_ hpython (.notGenerated hphp)
    intro j hj
    obtain rfl := Nat.lt_one_iff.1 hj
    exact ⟨_, hpython, by decide⟩
  · exact .cons (.head (by simp) rfl (.tooLarge hpython (by decide))) Language.php

end QuineRelay.Relay
