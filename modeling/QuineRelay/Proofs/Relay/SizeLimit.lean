import QuineRelay.Proofs.Relay.Stages

/-!
# What the size limit decides

The limit takes part in no source: a relay that is composed under a limit is the
relay that is composed without one. So a limit can only turn a result into a
failure, and which failure is settled by the order in which stages are made, the
origin first and then from the last stage to the first. A stage that is too long
stops the run before the stages that come later in that order, and so hides their
failures.

The run without a limit is a definition of its own here. It is what every large
limit gives.
-/

namespace QuineRelay

/-- Why a stage is refused under a limit that it exceeds. -/
def Stage.tooLarge (limit : Nat) (stage : Stage) : GenerationError :=
  .tooLarge stage.toolchain.name stage.source.length limit

namespace Relay

/-! ## Without a limit -/

/-- The stages of `languages`, whatever their size. -/
def stagesWithoutLimit (origin : Bytes) (index : Nat) :
    List Language → Except CompositionError (List Stage)
  | [] => .ok []
  | language :: rest => do
    let later ← stagesWithoutLimit origin (index + 1) rest
    let source ← atStage index (language.generate (nextSource origin later))
    return ⟨language.toolchain, source⟩ :: later

/-- With its origin a relay has a stage. -/
theorem origin_cons_ne_nil (origin : Bytes) (stages : List Stage) :
    (⟨Language.origin, origin⟩ : Stage) :: stages ≠ [] :=
  List.cons_ne_nil _ _

/-- The relay along `route`, whatever the size of its stages. -/
def composeWithoutLimit (lineWidth : Nat) (route : Route) : Except CompositionError Relay := do
  let origin ← atStage 0 (Origin.embed (Origin.program route) lineWidth)
  let stages ← stagesWithoutLimit origin 1 route.languages
  return ⟨⟨Language.origin, origin⟩ :: stages, origin_cons_ne_nil origin stages⟩

variable {settings : Settings} {origin : Bytes} {index : Nat} {language : Language}
  {rest : List Language} {later : List Stage}

/-! ## One more stage -/

theorem stagesWithoutLimit_cons_of_error {error : CompositionError}
    (h : stagesWithoutLimit origin (index + 1) rest = .error error) :
    stagesWithoutLimit origin index (language :: rest) = .error error := by
  rw [stagesWithoutLimit, h]
  rfl

theorem stagesFrom_cons_of_error {error : CompositionError}
    (h : stagesFrom settings origin (index + 1) rest = .error error) :
    stagesFrom settings origin index (language :: rest) = .error error := by
  rw [stagesFrom, h]
  rfl

theorem stagesWithoutLimit_cons_of_ok (h : stagesWithoutLimit origin (index + 1) rest = .ok later) :
    stagesWithoutLimit origin index (language :: rest) =
      match language.generate (nextSource origin later) with
      | .ok source => .ok (⟨language.toolchain, source⟩ :: later)
      | .error cause => .error (.generation index cause) := by
  rw [stagesWithoutLimit, h]
  show (atStage index (language.generate (nextSource origin later))).bind
    (fun source => .ok (⟨language.toolchain, source⟩ :: later)) = _
  cases language.generate (nextSource origin later) with
  | ok source => rfl
  | error cause => rfl

theorem stagesFrom_cons_of_ok (h : stagesFrom settings origin (index + 1) rest = .ok later) :
    stagesFrom settings origin index (language :: rest) =
      match language.generate (nextSource origin later) with
      | .ok source =>
        if source.length ≤ settings.sizeLimit then .ok (⟨language.toolchain, source⟩ :: later)
        else .error (.generation index
          (Stage.tooLarge settings.sizeLimit ⟨language.toolchain, source⟩))
      | .error cause => .error (.generation index cause) := by
  rw [stagesFrom, h]
  show (atStage index ((language.generate (nextSource origin later)).bind
    (checkSize settings language.name))).bind
      (fun source => .ok (⟨language.toolchain, source⟩ :: later)) = _
  cases language.generate (nextSource origin later) with
  | error cause => rfl
  | ok source =>
      show (atStage index (checkSize settings language.name source)).bind _ = _
      by_cases hsize : source.length ≤ settings.sizeLimit
      · simp only [checkSize_eq_ok_iff.2 ⟨hsize, rfl⟩, if_pos hsize]
        rfl
      · have hover : checkSize settings language.name source
            = .error (Stage.tooLarge settings.sizeLimit ⟨language.toolchain, source⟩) :=
          if_neg hsize
        simp only [hover, if_neg hsize]
        rfl

/-- Why a language has no stage before the source `next`. -/
inductive IsRefused (limit : Nat) (language : Language) (next : Bytes) : GenerationError → Prop
  /-- It cannot hold the source. -/
  | notGenerated {cause : GenerationError} (h : language.generate next = .error cause) :
      IsRefused limit language next cause
  /-- The program that holds the source is too long. -/
  | tooLarge {source : Bytes} (h : language.generate next = .ok source)
      (exceeds : limit < source.length) :
      IsRefused limit language next (Stage.tooLarge limit ⟨language.toolchain, source⟩)

/-- The run stops at a language that is refused, unless it has stopped after it. -/
theorem stagesFrom_cons_eq_error_iff {error : CompositionError} :
    stagesFrom settings origin index (language :: rest) = .error error ↔
      stagesFrom settings origin (index + 1) rest = .error error ∨
        ∃ later cause, stagesFrom settings origin (index + 1) rest = .ok later ∧
          IsRefused settings.sizeLimit language (nextSource origin later) cause ∧
          error = .generation index cause := by
  constructor
  · intro h
    cases hlater : stagesFrom settings origin (index + 1) rest with
    | error error' =>
        rw [stagesFrom_cons_of_error hlater] at h
        exact .inl h
    | ok later =>
        rw [stagesFrom_cons_of_ok hlater] at h
        cases hgenerate : language.generate (nextSource origin later) with
        | error cause =>
            simp only [hgenerate] at h
            exact .inr ⟨later, cause, rfl, .notGenerated hgenerate, (Except.error.inj h).symm⟩
        | ok source =>
            simp only [hgenerate] at h
            by_cases hsize : source.length ≤ settings.sizeLimit
            · rw [if_pos hsize] at h
              cases h
            · rw [if_neg hsize] at h
              have hrefused := IsRefused.tooLarge hgenerate (Nat.lt_of_not_le hsize)
              exact .inr ⟨later, _, rfl, hrefused, (Except.error.inj h).symm⟩
  · rintro (hlater | ⟨later, cause, hlater, hrefused, rfl⟩)
    · exact stagesFrom_cons_of_error hlater
    · rw [stagesFrom_cons_of_ok hlater]
      cases hrefused with
      | notGenerated hgenerate => rw [hgenerate]
      | tooLarge hgenerate hexceeds =>
          rw [hgenerate]
          exact if_neg (Nat.not_le.2 hexceeds)

/-! ## The stages of a route -/

theorem stagesWithoutLimit_cons_eq_ok_iff {stages : List Stage} :
    stagesWithoutLimit origin index (language :: rest) = .ok stages ↔
      ∃ later source, stagesWithoutLimit origin (index + 1) rest = .ok later ∧
        language.generate (nextSource origin later) = .ok source ∧
        stages = ⟨language.toolchain, source⟩ :: later := by
  constructor
  · intro h
    obtain ⟨later, hlater, h⟩ := bind_eq_ok_iff.1 h
    obtain ⟨source, hsource, h⟩ := bind_eq_ok_iff.1 h
    exact ⟨later, source, hlater, mapError_eq_ok_iff.1 hsource, (Except.ok.inj h).symm⟩
  · rintro ⟨later, source, hlater, hsource, rfl⟩
    rw [stagesWithoutLimit_cons_of_ok hlater, hsource]

/-- Within the limit the stages are those of the run without one. -/
theorem stagesFrom_eq_ok_iff {languages : List Language} {stages : List Stage} :
    stagesFrom settings origin index languages = .ok stages ↔
      stagesWithoutLimit origin index languages = .ok stages ∧
        ∀ stage ∈ stages, stage.source.length ≤ settings.sizeLimit := by
  induction languages generalizing index stages with
  | nil =>
      constructor
      · intro h
        obtain rfl := Except.ok.inj h
        exact ⟨rfl, by simp⟩
      · exact And.left
  | cons language rest ih =>
      rw [stagesFrom_cons_eq_ok_iff, stagesWithoutLimit_cons_eq_ok_iff]
      constructor
      · rintro ⟨later, source, hlater, hsource, hsize, rfl⟩
        obtain ⟨hfree, hfits⟩ := ih.1 hlater
        exact ⟨⟨later, source, hfree, hsource, rfl⟩, List.forall_mem_cons.2 ⟨hsize, hfits⟩⟩
      · rintro ⟨⟨later, source, hfree, hsource, rfl⟩, hall⟩
        obtain ⟨hsize, hfits⟩ := List.forall_mem_cons.1 hall
        exact ⟨later, source, ih.2 ⟨hfree, hfits⟩, hsource, hsize, rfl⟩

/-- A stage over the limit that no other one follows. -/
structure IsLastOver (limit : Nat) (stages : List Stage) (i : Nat) (stage : Stage) : Prop where
  at_index : stages[i]? = some stage
  exceeds : limit < stage.source.length
  last : ∀ j later, i < j → stages[j]? = some later → later.source.length ≤ limit

theorem IsLastOver.cons {limit : Nat} {stages : List Stage} {i : Nat} {stage : Stage}
    (h : IsLastOver limit stages i stage) (first : Stage) :
    IsLastOver limit (first :: stages) (i + 1) stage where
  at_index := h.at_index
  exceeds := h.exceeds
  last j later hj hlater := by
    obtain ⟨j, rfl⟩ : ∃ k, j = k + 1 := ⟨j - 1, by omega⟩
    exact h.last j later (by omega) hlater

/-- A stage over the limit before stages within it. -/
theorem IsLastOver.head {limit : Nat} {stages : List Stage} {first : Stage}
    (hover : limit < first.source.length)
    (hstages : ∀ stage ∈ stages, stage.source.length ≤ limit) :
    IsLastOver limit (first :: stages) 0 first where
  at_index := rfl
  exceeds := hover
  last j later hj hlater := by
    obtain ⟨j, rfl⟩ : ∃ k, j = k + 1 := ⟨j - 1, by omega⟩
    exact hstages later (List.mem_of_getElem? hlater)

/-- When some stage is over the limit, the run stops at the last one. -/
theorem stagesFrom_of_over {languages : List Language} {stages : List Stage}
    (h : stagesWithoutLimit origin index languages = .ok stages)
    (hover : ¬ ∀ stage ∈ stages, stage.source.length ≤ settings.sizeLimit) :
    ∃ i stage, IsLastOver settings.sizeLimit stages i stage ∧
      stagesFrom settings origin index languages
        = .error (.generation (index + i) (stage.tooLarge settings.sizeLimit)) := by
  induction languages generalizing index stages with
  | nil =>
      obtain rfl := Except.ok.inj h
      exact absurd (by simp) hover
  | cons language rest ih =>
      obtain ⟨later, source, hlater, hsource, rfl⟩ := stagesWithoutLimit_cons_eq_ok_iff.1 h
      by_cases hfits : ∀ stage ∈ later, stage.source.length ≤ settings.sizeLimit
      · have hsize : ¬ source.length ≤ settings.sizeLimit := fun hsize =>
          hover (List.forall_mem_cons.2 ⟨hsize, hfits⟩)
        refine ⟨0, _, .head (Nat.lt_of_not_le hsize) hfits, ?_⟩
        rw [stagesFrom_cons_of_ok (stagesFrom_eq_ok_iff.2 ⟨hlater, hfits⟩), hsource]
        simp only [if_neg hsize, Nat.add_zero]
      · obtain ⟨i, stage, hlast, herror⟩ := ih hlater hfits
        refine ⟨i + 1, stage, hlast.cons _, ?_⟩
        rw [stagesFrom_cons_of_error herror, Nat.add_right_comm, Nat.add_assoc]

/-- A failure is reported as it is, unless a stage after the failing one is over the
limit. -/
theorem stagesFrom_of_error (settings : Settings) {languages : List Language}
    {error : CompositionError}
    (h : stagesWithoutLimit origin index languages = .error error) :
    ∃ k cause, error = .generation k cause ∧ index ≤ k ∧
      (stagesFrom settings origin index languages = .error error ∨
        ∃ (j : Nat) (stage : Stage), k < j ∧ settings.sizeLimit < stage.source.length ∧
          stagesFrom settings origin index languages
            = .error (.generation j (stage.tooLarge settings.sizeLimit))) := by
  induction languages generalizing index with
  | nil => cases h
  | cons language rest ih =>
      cases hlater : stagesWithoutLimit origin (index + 1) rest with
      | error later =>
          obtain rfl := Except.error.inj ((stagesWithoutLimit_cons_of_error hlater).symm.trans h)
          obtain ⟨k, cause, hcause, hk, hsame | ⟨j, stage, hj, hover, herror⟩⟩ := ih hlater
          · exact ⟨k, cause, hcause, Nat.le_of_succ_le hk, .inl (stagesFrom_cons_of_error hsame)⟩
          · exact ⟨k, cause, hcause, Nat.le_of_succ_le hk,
              .inr ⟨j, stage, hj, hover, stagesFrom_cons_of_error herror⟩⟩
      | ok later =>
          rw [stagesWithoutLimit_cons_of_ok hlater] at h
          cases hgenerate : language.generate (nextSource origin later) with
          | ok source =>
              rw [hgenerate] at h
              cases h
          | error cause =>
              rw [hgenerate] at h
              obtain rfl := Except.error.inj h
              refine ⟨index, cause, rfl, Nat.le_refl _, ?_⟩
              by_cases hfits : ∀ stage ∈ later, stage.source.length ≤ settings.sizeLimit
              · left
                rw [stagesFrom_cons_of_ok (stagesFrom_eq_ok_iff.2 ⟨hlater, hfits⟩), hgenerate]
              · obtain ⟨i, stage, hlast, herror⟩ := stagesFrom_of_over hlater hfits
                exact .inr ⟨index + 1 + i, stage, by omega, hlast.exceeds,
                  stagesFrom_cons_of_error herror⟩

/-- What a large limit gives is the run without one. -/
theorem exists_stagesFrom_eq (origin : Bytes) (index : Nat) (languages : List Language) :
    ∃ bound, ∀ settings : Settings, bound ≤ settings.sizeLimit →
      stagesFrom settings origin index languages = stagesWithoutLimit origin index languages := by
  induction languages generalizing index with
  | nil => exact ⟨0, fun _ _ => rfl⟩
  | cons language rest ih =>
      obtain ⟨bound, hbound⟩ := ih (index + 1)
      cases hlater : stagesWithoutLimit origin (index + 1) rest with
      | error error =>
          refine ⟨bound, fun settings hlimit => ?_⟩
          rw [stagesWithoutLimit_cons_of_error hlater,
            stagesFrom_cons_of_error ((hbound settings hlimit).trans hlater)]
      | ok later =>
          cases hgenerate : language.generate (nextSource origin later) with
          | error cause =>
              refine ⟨bound, fun settings hlimit => ?_⟩
              rw [stagesWithoutLimit_cons_of_ok hlater, hgenerate,
                stagesFrom_cons_of_ok ((hbound settings hlimit).trans hlater), hgenerate]
          | ok source =>
              refine ⟨max bound source.length, fun settings hlimit => ?_⟩
              have hbounded : bound ≤ settings.sizeLimit :=
                Nat.le_trans (Nat.le_max_left _ _) hlimit
              have hfree := (hbound settings hbounded).trans hlater
              have hsize : source.length ≤ settings.sizeLimit :=
                Nat.le_trans (Nat.le_max_right _ _) hlimit
              rw [stagesWithoutLimit_cons_of_ok hlater, hgenerate, stagesFrom_cons_of_ok hfree,
                hgenerate]
              simp only [if_pos hsize]

/-! ## The relay of a route -/

variable {route : Route} {relay : Relay}

theorem composeWithoutLimit_eq_ok_iff {width : Nat} :
    composeWithoutLimit width route = .ok relay ↔
      ∃ source stages, Origin.embed (Origin.program route) width = .ok source ∧
        stagesWithoutLimit source 1 route.languages = .ok stages ∧
        relay.stages = ⟨Language.origin, source⟩ :: stages := by
  constructor
  · intro h
    obtain ⟨source, hsource, h⟩ := bind_eq_ok_iff.1 h
    obtain ⟨stages, hstages, h⟩ := bind_eq_ok_iff.1 h
    obtain rfl := Except.ok.inj h
    exact ⟨source, stages, mapError_eq_ok_iff.1 hsource, hstages, rfl⟩
  · rintro ⟨source, stages, hembed, hstages, hrelay⟩
    obtain ⟨all, hne⟩ := relay
    obtain rfl : all = _ := hrelay
    refine bind_eq_ok_iff.2 ⟨source, mapError_eq_ok_iff.2 hembed, ?_⟩
    exact bind_eq_ok_iff.2 ⟨stages, hstages, rfl⟩

theorem composeWithoutLimit_of_embed {width : Nat} {source : Bytes}
    (h : Origin.embed (Origin.program route) width = .ok source) :
    composeWithoutLimit width route =
      (stagesWithoutLimit source 1 route.languages).map fun stages =>
        ⟨⟨Language.origin, source⟩ :: stages, origin_cons_ne_nil source stages⟩ := by
  rw [composeWithoutLimit, h]
  rfl

theorem compose_of_embed (settings : Settings) {source : Bytes}
    (h : Origin.embed (Origin.program route) settings.lineWidth = .ok source) :
    compose settings route =
      if source.length ≤ settings.sizeLimit then unroll settings source route
      else .error
        (.generation 0 (Stage.tooLarge settings.sizeLimit ⟨Language.origin, source⟩)) := by
  rw [compose, h]
  show (atStage 0 (checkSize settings Language.origin.name source)).bind
    (fun origin => unroll settings origin route) = _
  by_cases hsize : source.length ≤ settings.sizeLimit
  · rw [checkSize_eq_ok_iff.2 ⟨hsize, rfl⟩, if_pos hsize]
    rfl
  · rw [if_neg hsize, checkSize, if_neg hsize]
    rfl

/-- A relay is composed under a limit just when it is composed without one and no
stage is over the limit. -/
theorem compose_eq_ok_iff_forall_le :
    compose settings route = .ok relay ↔
      composeWithoutLimit settings.lineWidth route = .ok relay ∧
        ∀ stage ∈ relay.stages, stage.source.length ≤ settings.sizeLimit := by
  rw [compose_eq_ok_iff, composeWithoutLimit_eq_ok_iff]
  constructor
  · rintro ⟨source, stages, hembed, hsize, hstages, hrelay⟩
    obtain ⟨hfree, hfits⟩ := stagesFrom_eq_ok_iff.1 hstages
    refine ⟨⟨source, stages, hembed, hfree, hrelay⟩, ?_⟩
    rw [hrelay]
    exact List.forall_mem_cons.2 ⟨hsize, hfits⟩
  · rintro ⟨⟨source, stages, hembed, hfree, hrelay⟩, hall⟩
    rw [hrelay] at hall
    obtain ⟨hsize, hfits⟩ := List.forall_mem_cons.1 hall
    exact ⟨source, stages, hembed, hsize, stagesFrom_eq_ok_iff.2 ⟨hfree, hfits⟩, hrelay⟩

/-- The stage at which a limit stops a run that would end otherwise: the origin, if it
is over the limit, else the last stage that is. -/
structure StopsAt (limit : Nat) (relay : Relay) (index : Nat) (stage : Stage) : Prop where
  at_index : relay.stages[index]? = some stage
  exceeds : limit < stage.source.length
  origin_first : limit < relay.origin.length → index = 0
  last : relay.origin.length ≤ limit →
    ∀ j later, index < j → relay.stages[j]? = some later → later.source.length ≤ limit

theorem compose_of_over (settings : Settings)
    (h : composeWithoutLimit settings.lineWidth route = .ok relay)
    (hover : ¬ ∀ stage ∈ relay.stages, stage.source.length ≤ settings.sizeLimit) :
    ∃ index stage, StopsAt settings.sizeLimit relay index stage ∧
      compose settings route = .error (.generation index (stage.tooLarge settings.sizeLimit)) := by
  obtain ⟨source, stages, hembed, hfree, hrelay⟩ := composeWithoutLimit_eq_ok_iff.1 h
  have horigin : relay.origin = source := origin_eq_of_stages hrelay
  rw [compose_of_embed settings hembed]
  by_cases hsize : source.length ≤ settings.sizeLimit
  · have hstages : ¬ ∀ stage ∈ stages, stage.source.length ≤ settings.sizeLimit := by
      rw [hrelay] at hover
      exact fun hfits => hover (List.forall_mem_cons.2 ⟨hsize, hfits⟩)
    obtain ⟨i, stage, hlast, herror⟩ := stagesFrom_of_over hfree hstages
    have hcons := hlast.cons ⟨Language.origin, source⟩
    rw [← hrelay] at hcons
    refine ⟨i + 1, stage, ⟨hcons.at_index, hcons.exceeds, ?_, fun _ => hcons.last⟩, ?_⟩
    · rw [horigin]
      exact fun hlong => absurd hsize (Nat.not_le.2 hlong)
    · rw [if_pos hsize, unroll, herror, Nat.add_comm]
      rfl
  · refine ⟨0, ⟨Language.origin, source⟩, ⟨?_, Nat.lt_of_not_le hsize, fun _ => rfl, ?_⟩, ?_⟩
    · rw [hrelay]
      rfl
    · rw [horigin]
      exact fun hshort => absurd hshort hsize
    · rw [if_neg hsize]

/-- A failure without a limit is the failure under one, unless a stage that comes
before it in the order of the run is over the limit. -/
theorem compose_of_error (settings : Settings) {error : CompositionError}
    (h : composeWithoutLimit settings.lineWidth route = .error error) :
    ∃ k cause, error = .generation k cause ∧
      (compose settings route = .error error ∨
        ∃ (j : Nat) (stage : Stage), (j = 0 ∨ k < j) ∧
          settings.sizeLimit < stage.source.length ∧
          compose settings route = .error (.generation j (stage.tooLarge settings.sizeLimit))) := by
  cases hembed : Origin.embed (Origin.program route) settings.lineWidth with
  | error cause =>
      have hfree : composeWithoutLimit settings.lineWidth route = .error (.generation 0 cause) := by
        rw [composeWithoutLimit, hembed]
        rfl
      obtain rfl := Except.error.inj (hfree.symm.trans h)
      refine ⟨0, cause, rfl, .inl ?_⟩
      rw [compose, hembed]
      rfl
  | ok source =>
      rw [compose_of_embed settings hembed]
      rw [composeWithoutLimit_of_embed hembed] at h
      cases hstages : stagesWithoutLimit source 1 route.languages with
      | ok stages =>
          rw [hstages] at h
          cases h
      | error error' =>
          rw [hstages] at h
          obtain rfl := Except.error.inj h
          obtain ⟨k, cause, hcause, -, hlimited⟩ := stagesFrom_of_error settings hstages
          refine ⟨k, cause, hcause, ?_⟩
          by_cases hsize : source.length ≤ settings.sizeLimit
          · rw [if_pos hsize, unroll]
            rcases hlimited with hsame | ⟨j, stage, hj, hover, herror⟩
            · left
              rw [hsame]
              rfl
            · refine .inr ⟨j, stage, .inr hj, hover, ?_⟩
              rw [herror]
              rfl
          · refine .inr ⟨0, ⟨Language.origin, source⟩, .inl rfl, Nat.lt_of_not_le hsize, ?_⟩
            rw [if_neg hsize]

/-- What a large limit gives is the run without one. -/
theorem exists_compose_eq (width : Nat) (route : Route) :
    ∃ bound, ∀ limit ≥ bound,
      compose ⟨width, limit⟩ route = composeWithoutLimit width route := by
  cases hembed : Origin.embed (Origin.program route) width with
  | error cause =>
      refine ⟨0, fun limit _ => ?_⟩
      rw [compose, composeWithoutLimit, hembed]
      rfl
  | ok source =>
      obtain ⟨bound, hbound⟩ := exists_stagesFrom_eq source 1 route.languages
      refine ⟨max bound source.length, fun limit hlimit => ?_⟩
      have hsize : source.length ≤ limit := Nat.le_trans (Nat.le_max_right _ _) hlimit
      have hstages := hbound ⟨width, limit⟩ (Nat.le_trans (Nat.le_max_left _ _) hlimit)
      rw [compose_of_embed ⟨width, limit⟩ hembed, composeWithoutLimit_of_embed hembed, if_pos hsize,
        unroll, hstages]
      rfl

/-- The limit only decides acceptance. With `free` the run without a limit, which is
what every large limit gives: if it ends with a relay, then the run under a limit ends
with the same relay when no stage is over the limit, and otherwise reports the true
size of the origin, if that is over the limit, or else of the last stage that is. If it
fails, then the run under a limit fails in the same way or at a stage over the limit
that is made earlier. So a larger limit accepts whatever a smaller one accepts. -/
theorem sizeLimit_only_decides_acceptance (width : Nat) (route : Route) :
    (∃ bound, ∀ limit ≥ bound,
      compose ⟨width, limit⟩ route = composeWithoutLimit width route) ∧
    ∀ limit,
      (∀ relay, composeWithoutLimit width route = .ok relay →
        ((∀ stage ∈ relay.stages, stage.source.length ≤ limit) →
          compose ⟨width, limit⟩ route = .ok relay) ∧
        ((¬ ∀ stage ∈ relay.stages, stage.source.length ≤ limit) →
          ∃ index stage, StopsAt limit relay index stage ∧
            compose ⟨width, limit⟩ route = .error (.generation index
              (.tooLarge stage.toolchain.name stage.source.length limit)))) ∧
      (∀ error, composeWithoutLimit width route = .error error →
        ∃ k cause, error = .generation k cause ∧
          (compose ⟨width, limit⟩ route = .error error ∨
            ∃ j language size, (j = 0 ∨ k < j) ∧ limit < size ∧
              compose ⟨width, limit⟩ route
                = .error (.generation j (.tooLarge language size limit)))) ∧
      ∀ larger relay, limit ≤ larger → compose ⟨width, limit⟩ route = .ok relay →
        compose ⟨width, larger⟩ route = .ok relay := by
  refine ⟨exists_compose_eq width route, fun limit => ⟨fun relay hfree => ⟨fun hfits => ?_,
    compose_of_over ⟨width, limit⟩ hfree⟩, fun error hfree => ?_, ?_⟩⟩
  · exact compose_eq_ok_iff_forall_le.2 ⟨hfree, hfits⟩
  · obtain ⟨k, cause, hcause, hsame | ⟨j, stage, hj, hover, herror⟩⟩ :=
      compose_of_error ⟨width, limit⟩ hfree
    · exact ⟨k, cause, hcause, .inl hsame⟩
    · exact ⟨k, cause, hcause, .inr ⟨j, _, _, hj, hover, herror⟩⟩
  · intro larger relay hle h
    obtain ⟨hfree, hfits⟩ := compose_eq_ok_iff_forall_le.1 h
    exact compose_eq_ok_iff_forall_le.2
      ⟨hfree, fun stage hstage => Nat.le_trans (hfits stage hstage) hle⟩

/-- A stage that is as long as the limit is accepted. Of two stages over the limit the
last one is reported, here also the shorter one. -/
theorem sizeLimit_only_decides_acceptance_python_rust :
    ∃ relay, composeWithoutLimit 80 ⟨[Language.python, Language.rust], by decide⟩ = .ok relay ∧
      relay.stages.map (fun stage => stage.source.length) = [494, 778, 636] ∧
      compose ⟨80, 778⟩ ⟨[Language.python, Language.rust], by decide⟩ = .ok relay ∧
      ∃ stage, relay.stages[2]? = some stage ∧
        compose ⟨80, 600⟩ ⟨[Language.python, Language.rust], by decide⟩ = .error (.generation 2
          (.tooLarge stage.toolchain.name stage.source.length 600)) := by
  have hany : (composeWithoutLimit 80 ⟨[Language.python, Language.rust], by decide⟩).toOption.any
      (fun relay => relay.stages.map (fun stage => stage.source.length) == [494, 778, 636])
        = true := by
    decide +kernel
  obtain ⟨relay, hfree, htest⟩ := exists_ok_of_any hany
  have hlengths : relay.stages.map (fun stage => stage.source.length) = [494, 778, 636] :=
    eq_of_beq htest
  obtain ⟨origin, stages, hstages, horigin, hmap⟩ := List.map_eq_cons_iff.1 hlengths
  obtain ⟨python, stages, rfl, hpython, hmap⟩ := List.map_eq_cons_iff.1 hmap
  obtain ⟨rust, stages, rfl, hrust, hmap⟩ := List.map_eq_cons_iff.1 hmap
  obtain rfl := List.map_eq_nil_iff.1 hmap
  have hshort : relay.origin.length ≤ 600 := by
    rw [origin_eq_of_stages hstages, horigin]
    decide
  have hlast : relay.stages[2]? = some rust := by
    rw [hstages]
    rfl
  obtain ⟨-, hlimit⟩ :=
    sizeLimit_only_decides_acceptance 80 ⟨[Language.python, Language.rust], by decide⟩
  refine ⟨relay, hfree, hlengths, ((hlimit 778).1 relay hfree).1 ?_, rust, hlast, ?_⟩
  · rw [hstages]
    simp [horigin, hpython, hrust]
  · have hover : ¬ ∀ stage ∈ relay.stages, stage.source.length ≤ 600 := fun hall =>
      absurd (hall rust (List.mem_of_getElem? hlast)) (by omega)
    obtain ⟨index, stage, hstop, herror⟩ := ((hlimit 600).1 relay hfree).2 hover
    rcases Nat.lt_trichotomy index 2 with hlt | rfl | hgt
    · exact absurd (hstop.last hshort 2 rust hlt hlast) (by omega)
    · obtain rfl := Option.some.inj (hlast.symm.trans hstop.at_index)
      exact herror
    · have hat := hstop.at_index
      rw [List.getElem?_eq_none (by simp [hstages]; omega)] at hat
      cases hat

end Relay

end QuineRelay
