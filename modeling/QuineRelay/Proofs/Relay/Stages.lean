import QuineRelay.Proofs.Results
import QuineRelay.Relay

/-!
# The stages of a relay

A relay that was composed consists of its origin and one stage for each language
of the route, and each stage was written for the source that follows it. Stages
are predicted from the last to the first, so the induction goes along the route
and carries the source of the next stage.
-/

namespace QuineRelay

/-- A route that a user names visits standard languages only. -/
theorem Route.mem_standard_of_ofNameList {names : Option Text} {route : Route}
    (h : Route.ofNameList names = .ok route) :
    ∀ language ∈ route.languages, language ∈ Language.standard := by
  cases names with
  | none =>
      obtain rfl := Except.ok.inj h
      exact fun _ hlanguage => hlanguage
  | some list =>
      obtain ⟨languages, hlanguages, hroute⟩ := bind_eq_ok_iff.1 h
      have hall : ∀ language ∈ languages, language ∈ Language.standard := by
        intro language hlanguage
        obtain ⟨name, -, hname⟩ := exists_of_mem_mapM hlanguages language hlanguage
        cases hfind : Language.find? name with
        | none => simp [languageNamed, hfind] at hname
        | some found =>
            simp only [languageNamed, hfind] at hname
            obtain rfl := Except.ok.inj hname
            exact List.mem_of_find?_eq_some hfind
      rw [ofList] at hroute
      split at hroute
      · cases hroute
      · obtain rfl := Except.ok.inj hroute
        exact hall

namespace Relay

variable {settings : Settings} {origin : Bytes} {index : Nat}

/-- The source that has to be printed before `stages`: that of the first stage,
and the origin when there is none. -/
def nextSource (origin : Bytes) (stages : List Stage) : Bytes :=
  (stages.head?.map Stage.source).getD origin

theorem checkSize_eq_ok_iff {language : Text} {source checked : Bytes} :
    checkSize settings language source = .ok checked ↔
      source.length ≤ settings.sizeLimit ∧ source = checked := by
  rw [checkSize]
  split
  · rename_i hsize
    simp [hsize]
  · rename_i hsize
    simp [hsize]

/-- One more language at the front adds one stage, written for the source of the
stage after it. -/
theorem stagesFrom_cons_eq_ok_iff {language : Language} {rest : List Language}
    {stages : List Stage} :
    stagesFrom settings origin index (language :: rest) = .ok stages ↔
      ∃ later source, stagesFrom settings origin (index + 1) rest = .ok later ∧
        language.generate (nextSource origin later) = .ok source ∧
        source.length ≤ settings.sizeLimit ∧ stages = ⟨language.toolchain, source⟩ :: later := by
  constructor
  · intro h
    obtain ⟨later, hlater, h⟩ := bind_eq_ok_iff.1 h
    obtain ⟨source, hsource, h⟩ := bind_eq_ok_iff.1 h
    obtain ⟨written, hwritten, hchecked⟩ := bind_eq_ok_iff.1 (mapError_eq_ok_iff.1 hsource)
    obtain ⟨hsize, rfl⟩ := checkSize_eq_ok_iff.1 hchecked
    exact ⟨later, written, hlater, hwritten, hsize, (Except.ok.inj h).symm⟩
  · rintro ⟨later, source, hlater, hsource, hsize, rfl⟩
    refine bind_eq_ok_iff.2 ⟨later, hlater, bind_eq_ok_iff.2 ⟨source, ?_, rfl⟩⟩
    have hchecked : checkSize settings language.name source = .ok source :=
      checkSize_eq_ok_iff.2 ⟨hsize, rfl⟩
    exact mapError_eq_ok_iff.2 (bind_eq_ok_iff.2 ⟨source, hsource, hchecked⟩)

/-- The stages are those of the languages, in the same order. -/
theorem toolchains_of_stagesFrom {languages : List Language} {stages : List Stage}
    (h : stagesFrom settings origin index languages = .ok stages) :
    stages.map Stage.toolchain = languages.map Language.toolchain := by
  induction languages generalizing index stages with
  | nil =>
      obtain rfl := Except.ok.inj h
      rfl
  | cons language rest ih =>
      obtain ⟨later, source, hlater, -, -, rfl⟩ := stagesFrom_cons_eq_ok_iff.1 h
      rw [List.map_cons, List.map_cons, ih hlater]

theorem length_of_stagesFrom {languages : List Language} {stages : List Stage}
    (h : stagesFrom settings origin index languages = .ok stages) :
    stages.length = languages.length := by
  simpa using congrArg List.length (toolchains_of_stagesFrom h)

/-- Every stage was written for the source after it. -/
theorem generate_of_stagesFrom {languages : List Language} {stages : List Stage}
    (h : stagesFrom settings origin index languages = .ok stages) {i : Nat} {language : Language}
    (hi : languages[i]? = some language) :
    ∃ stage, stages[i]? = some stage ∧
      language.generate (nextSource origin (stages.drop (i + 1))) = .ok stage.source := by
  induction languages generalizing index stages i with
  | nil => simp at hi
  | cons first rest ih =>
      obtain ⟨later, source, hlater, hsource, -, rfl⟩ := stagesFrom_cons_eq_ok_iff.1 h
      cases i with
      | zero =>
          obtain rfl := Option.some.inj hi
          exact ⟨_, rfl, hsource⟩
      | succ i => exact ih hlater hi

/-- A relay is composed by embedding the program of the route and predicting the
stages after it. -/
theorem compose_eq_ok_iff {route : Route} {relay : Relay} :
    compose settings route = .ok relay ↔
      ∃ source stages, Origin.embed (Origin.program route) settings.lineWidth = .ok source ∧
        source.length ≤ settings.sizeLimit ∧
        stagesFrom settings source 1 route.languages = .ok stages ∧
        relay.stages = ⟨Language.origin, source⟩ :: stages := by
  constructor
  · intro h
    obtain ⟨source, hsource, h⟩ := bind_eq_ok_iff.1 h
    obtain ⟨embedded, hembed, hchecked⟩ := bind_eq_ok_iff.1 (mapError_eq_ok_iff.1 hsource)
    obtain ⟨hsize, rfl⟩ := checkSize_eq_ok_iff.1 hchecked
    obtain ⟨stages, hstages, h⟩ := bind_eq_ok_iff.1 h
    obtain rfl := Except.ok.inj h
    exact ⟨embedded, stages, hembed, hsize, hstages, rfl⟩
  · rintro ⟨source, stages, hembed, hsize, hstages, hrelay⟩
    obtain ⟨all, hne⟩ := relay
    obtain rfl : all = _ := hrelay
    refine bind_eq_ok_iff.2 ⟨source, ?_, bind_eq_ok_iff.2 ⟨stages, hstages, rfl⟩⟩
    have hchecked : checkSize settings Language.origin.name source = .ok source :=
      checkSize_eq_ok_iff.2 ⟨hsize, rfl⟩
    exact mapError_eq_ok_iff.2 (bind_eq_ok_iff.2 ⟨source, hembed, hchecked⟩)

theorem toolchains_of_compose {route : Route} {relay : Relay}
    (h : compose settings route = .ok relay) :
    relay.stages.map Stage.toolchain = route.toolchains := by
  obtain ⟨source, stages, -, -, hstages, hrelay⟩ := compose_eq_ok_iff.1 h
  rw [hrelay, List.map_cons, toolchains_of_stagesFrom hstages, Route.toolchains]

theorem origin_eq_of_stages {relay : Relay} {first : Stage} {rest : List Stage}
    (h : relay.stages = first :: rest) : relay.origin = first.source := by
  simp only [Relay.origin, h, List.head_cons]

/-- What a stage has to print is the source after it. -/
theorem expectedOutput_eq {relay : Relay} {i : Nat} (h : i < relay.length) :
    relay.expectedOutput i = nextSource relay.origin (relay.stages.drop (i + 1)) := by
  unfold expectedOutput nextSource
  rcases Nat.lt_or_eq_of_le h with hlt | heq
  · have hlt' : i + 1 < relay.stages.length := hlt
    simp [Nat.mod_eq_of_lt hlt, List.head?_drop, List.getElem?_eq_getElem hlt']
  · have hend : relay.stages.drop (i + 1) = [] := List.drop_of_length_le (Nat.le_of_eq heq.symm)
    have hzero : (i + 1) % relay.length = 0 := by
      rw [show i + 1 = relay.length from heq, Nat.mod_self]
    simp only [hzero, hend, List.head?_nil, Option.map_none, Option.getD_none, origin,
      List.get_eq_getElem, List.head_eq_getElem]

end Relay

end QuineRelay
