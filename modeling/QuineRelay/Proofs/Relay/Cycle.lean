import QuineRelay.Proofs.Lambda.RunTime
import QuineRelay.Proofs.Origin.SelfText
import QuineRelay.Proofs.Quoting.RoundTrip
import QuineRelay.Proofs.Relay.Stages

/-!
# A composed relay closes

Every stage of a relay is written by quoting the stage after it, so two facts
about one language carry the whole cycle. What a standard language wrote is read
back as the payload it was written for, which takes each stage to the next. And
the call of a language writes at run time what the language wrote, so the calls
of all languages, the last one innermost, take the text of the origin to the
first stage.

Nothing is claimed about a real toolchain. What a stage prints is what its
quoting reads in it.
-/

namespace QuineRelay

namespace Language

variable {language : Language}

/-- A source in a readable language prints the payload it was generated for. -/
theorem read_of_generate (h : language.quoting.Readable) {payload source : Bytes}
    (hgenerate : language.generate payload = .ok source) :
    ∃ text, Utf8.decode source = .ok text ∧ language.quoting.read text = .ok payload := by
  obtain ⟨text, hwrite, rfl⟩ := map_eq_ok_iff.1 hgenerate
  exact ⟨text, Utf8.decode_encode text, Quoting.read_of_write h hwrite⟩

/-- The call of a language writes the source that the language generates. -/
theorem apply_of_generate {payload : Text} {source : Bytes}
    (hgenerate : language.generate (Utf8.encode payload) = .ok source) :
    ∃ text, language.call.apply payload = .ok text ∧ source = Utf8.encode text := by
  obtain ⟨text, hwrite, rfl⟩ := map_eq_ok_iff.1 hgenerate
  exact ⟨text, Quoting.apply_of_write hwrite, rfl⟩

end Language

namespace Relay

variable {settings : Settings}

/-- The calls of all languages, evaluated from the last to the first, take the
origin to the first of the stages that were predicted from it. -/
theorem foldrM_apply_of_stagesFrom {languages : List Language} {seed : Text} {index : Nat}
    {stages : List Stage}
    (h : stagesFrom settings (Utf8.encode seed) index languages = .ok stages) :
    ∃ first, languages.foldrM (fun language text => language.call.apply text) seed = .ok first ∧
      nextSource (Utf8.encode seed) stages = Utf8.encode first := by
  induction languages generalizing index stages with
  | nil =>
      obtain rfl := Except.ok.inj h
      exact ⟨seed, rfl, rfl⟩
  | cons language rest ih =>
      obtain ⟨later, source, hlater, hsource, -, rfl⟩ := stagesFrom_cons_eq_ok_iff.1 h
      obtain ⟨text, hrest, hnext⟩ := ih hlater
      rw [hnext] at hsource
      obtain ⟨first, hfirst, rfl⟩ := Language.apply_of_generate hsource
      refine ⟨first, ?_, rfl⟩
      rw [List.foldrM_cons, hrest]
      exact hfirst

variable {route : Route} {relay : Relay}

theorem length_of_compose (h : compose settings route = .ok relay) :
    relay.length = route.stageCount := by
  obtain ⟨source, stages, -, -, hstages, hrelay⟩ := compose_eq_ok_iff.1 h
  rw [length, hrelay, List.length_cons, length_of_stagesFrom hstages]
  rfl

/-- Each stage of a composed relay was generated for what it has to print. -/
theorem generate_of_compose (h : compose settings route = .ok relay) {i : Nat}
    {language : Language} (hi : route.languages[i]? = some language) :
    ∃ stage, relay.stages[i + 1]? = some stage ∧
      language.generate (relay.expectedOutput (i + 1)) = .ok stage.source := by
  have hlength := length_of_compose h
  obtain ⟨source, stages, -, -, hstages, hrelay⟩ := compose_eq_ok_iff.1 h
  obtain ⟨stage, hstage, hgenerate⟩ := generate_of_stagesFrom hstages hi
  obtain ⟨hlt, -⟩ := List.getElem?_eq_some_iff.1 hi
  have hindex : i + 1 < relay.length := by
    rw [hlength, Route.stageCount]
    omega
  refine ⟨stage, ?_, ?_⟩
  · rw [hrelay, List.getElem?_cons_succ, hstage]
  · rw [expectedOutput_eq hindex, hrelay, List.drop_succ_cons, origin_eq_of_stages hrelay]
    exact hgenerate

theorem expectedOutput_last (relay : Relay) :
    relay.expectedOutput (relay.length - 1) = relay.origin := by
  have hpos := relay.length_pos
  have hend : relay.stages.drop (relay.length - 1 + 1) = [] :=
    List.drop_of_length_le (by rw [length]; omega)
  rw [expectedOutput_eq (by omega), hend]
  rfl

/-- The origin of a composed relay is rebuilt from the text that `$s` holds, and
its calls take the rebuilt text to the source of the first stage. -/
theorem rebuilt_of_compose (h : compose settings route = .ok relay) :
    ∃ source self first, Utf8.decode relay.origin = .ok source ∧
      Origin.selfText? source = some self ∧ Origin.head ++ self ++ Origin.foot = source ∧
      route.languages.foldrM (fun language text => language.call.apply text)
        (Origin.head ++ self ++ Origin.foot) = .ok first ∧
      (relay.stages[1]?).map Stage.source = some (Utf8.encode first) := by
  obtain ⟨source, stages, hembed, -, hstages, hrelay⟩ := compose_eq_ok_iff.1 h
  obtain ⟨stored, -, -, -, rfl⟩ := Origin.embed_eq_ok_iff.1 hembed
  obtain ⟨first, hfold, hfirst⟩ := foldrM_apply_of_stagesFrom hstages
  refine ⟨_, Origin.evaluation settings.lineWidth stored, first, ?_,
    Origin.selfText?_eq_some_iff.2 rfl, rfl, hfold, ?_⟩
  · rw [origin_eq_of_stages hrelay, Utf8.decode_encode]
  · -- The route is not empty, so the origin is not its own next stage.
    obtain ⟨stage, rest, rfl⟩ : ∃ stage rest, stages = stage :: rest := by
      refine List.exists_cons_of_ne_nil fun hnil => route.ne_nil ?_
      rw [← List.length_eq_zero_iff, ← length_of_stagesFrom hstages, hnil, List.length_nil]
    rw [hrelay, ← hfirst]
    rfl

/-- A relay through standard languages closes. Every stage after the origin prints
the source of the stage after it, the last one prints the origin, and the origin
prints the first of them: from its own text `$s` it rebuilds its file and applies
the calls of the languages to it, the last one first. -/
theorem cycle_closes (hroute : ∀ language ∈ route.languages, language ∈ Language.standard)
    (h : compose settings route = .ok relay) :
    relay.length = route.stageCount ∧
    (∀ i language, route.languages[i]? = some language →
      ∃ stage source, relay.stages[i + 1]? = some stage ∧ Utf8.decode stage.source = .ok source ∧
        language.quoting.read source = .ok (relay.expectedOutput (i + 1))) ∧
    relay.expectedOutput (relay.length - 1) = relay.origin ∧
    ∃ source self first, Utf8.decode relay.origin = .ok source ∧
      Origin.selfText? source = some self ∧ "eval$s=%q(" ++ self ++ ")\n" = source ∧
      route.languages.foldrM (fun language text => language.call.apply text)
        ("eval$s=%q(" ++ self ++ ")\n") = .ok first ∧
      (relay.stages[1]?).map Stage.source = some (Utf8.encode first) := by
  refine ⟨length_of_compose h, fun i language hi => ?_, expectedOutput_last relay,
    rebuilt_of_compose h⟩
  obtain ⟨stage, hstage, hgenerate⟩ := generate_of_compose h hi
  have hstandard := hroute language (List.mem_of_getElem? hi)
  have hreadable := Quoting.readable_of_mem_standard language hstandard
  obtain ⟨source, hsource, hread⟩ := Language.read_of_generate hreadable hgenerate
  exact ⟨stage, source, hstage, hsource, hread⟩

/-- A relay of three programs: the last one prints the origin. -/
theorem cycle_closes_python_php :
    ∃ relay, compose {} ⟨[Language.python, Language.php], by decide⟩ = .ok relay ∧
      relay.length = 3 ∧ relay.expectedOutput 2 = relay.origin := by
  have hok : (compose {} ⟨[Language.python, Language.php], by decide⟩).isOk = true := by
    decide +kernel
  obtain ⟨relay, hrelay⟩ := exists_ok_of_isOk hok
  obtain ⟨hlength, -, hlast, -⟩ := cycle_closes (by decide) hrelay
  rw [hlength] at hlast
  exact ⟨relay, hrelay, hlength, hlast⟩

end Relay

end QuineRelay
