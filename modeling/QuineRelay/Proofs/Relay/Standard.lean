import QuineRelay.Proofs.Origin.Literals
import QuineRelay.Proofs.Quoting.Portable
import QuineRelay.Proofs.Relay.SizeLimit

/-!
# Standard routes compose

The standard languages may be visited in any order and any number of times. The origin
is portable, and so is each stage that is written for a portable one; so no language is
ever asked to hold a text that it has to refuse. All that can go wrong is the size.
-/

namespace QuineRelay

/-! ## The origin -/

namespace Origin

theorem isPlain_of_mem_substituteChar {c : Char} (h : EscapeTable.isPlain c = true) :
    ∀ a ∈ Placeholder.substituteChar c, EscapeTable.isPlain a = true :=
  Placeholder.forall_mem_substituteChar (fun _ => h) (by decide)

/-- The list of words is clean. -/
theorem clean_wordLines (route : Route) (width : Nat) :
    Clean ('\n' :: wordLines width (stored (program route))) where
  plain := by
    refine List.forall_mem_cons.2 ⟨by decide, fun c hc => ?_⟩
    rcases mem_wordLines hc with rfl | hc
    · decide
    · obtain ⟨a, ha, hc⟩ := List.mem_flatMap.1 hc
      exact isPlain_of_mem_substituteChar (isPlain_of_mem_program ha) c hc
  isChain := by
    have hcode : codeMark ∈ parted := by decide
    have hstored := isChain_stored hcode (isChain_program route hcode)
    refine (isChain_wordLines hcode hstored width).cons fun _ _ hnewline => ?_
    exact absurd hnewline (by decide)

theorem isFrame_words : IsFrame (head ++ "eval((%w(") (')' :: afterWords ++ foot) := by
  decide +kernel

/-- The origin of every route is portable, whatever its languages hold. -/
theorem portable_file (route : Route) (width : Nat) :
    Portable (head ++ evaluation width (stored (program route)) ++ foot) := by
  rw [evaluation_eq]
  simpa only [List.append_assoc] using isFrame_words.portable (clean_wordLines route width)

end Origin

namespace Relay

variable {languages : List Language} {origin : Bytes}

/-- Without a limit, languages that keep sources portable always have stages. -/
theorem exists_stages (hkeeps : ∀ language ∈ languages, language.quoting.KeepsPortable)
    (horigin : IsPortable origin) (index : Nat) :
    ∃ stages, stagesWithoutLimit origin index languages = .ok stages ∧
      ∀ stage ∈ stages, IsPortable stage.source := by
  induction languages generalizing index with
  | nil => exact ⟨[], rfl, by simp⟩
  | cons language rest ih =>
      obtain ⟨hlanguage, hrest⟩ := List.forall_mem_cons.1 hkeeps
      obtain ⟨later, hlater, hportable⟩ := ih hrest (index + 1)
      have hnext : IsPortable (nextSource origin later) := by
        cases later with
        | nil => exact horigin
        | cons stage later => exact hportable stage List.mem_cons_self
      obtain ⟨source, hsource, hportable'⟩ := Language.generate_portable hlanguage hnext
      exact ⟨_, stagesWithoutLimit_cons_eq_ok_iff.2 ⟨later, source, hlater, hsource, rfl⟩,
        List.forall_mem_cons.2 ⟨hportable', hportable⟩⟩

/-- Without a limit, a route through such languages always has a relay. -/
theorem exists_composeWithoutLimit {route : Route}
    (hkeeps : ∀ language ∈ route.languages, language.quoting.KeepsPortable) (width : Nat) :
    ∃ relay, composeWithoutLimit width route = .ok relay ∧
      ∀ stage ∈ relay.stages, IsPortable stage.source := by
  have horigin : IsPortable (Utf8.encode (Origin.head
      ++ Origin.evaluation width (Origin.stored (Origin.program route)) ++ Origin.foot)) :=
    ⟨_, Utf8.decode_encode _, Origin.portable_file route width⟩
  obtain ⟨stages, hstages, hportable⟩ := exists_stages hkeeps horigin 1
  refine ⟨⟨⟨Language.origin, _⟩ :: stages, origin_cons_ne_nil _ stages⟩,
    composeWithoutLimit_eq_ok_iff.2 ⟨_, stages, Origin.embed_program route width, hstages, rfl⟩, ?_⟩
  exact List.forall_mem_cons.2 ⟨horigin, hportable⟩

/-- Standard languages compose in every order, any number of times, at every width of
the lines. Only the size of a stage can stop a composition. Every source of the relay
is portable, that of the origin included, because each language writes a portable
source for every portable payload. -/
theorem standard_route_composes :
    (∀ route : Route, (∀ language ∈ route.languages, language ∈ Language.standard) →
      ∀ settings : Settings,
        ((∃ relay, compose settings route = .ok relay) ∨
          ∃ index language size, settings.sizeLimit < size ∧ compose settings route
            = .error (.generation index (.tooLarge language size settings.sizeLimit))) ∧
        ∀ relay, compose settings route = .ok relay →
          ∀ stage ∈ relay.stages, stage.source ≠ [] ∧ IsPortable stage.source) ∧
    ∀ language ∈ Language.standard, ∀ payload, IsPortable payload →
      ∃ source, language.generate payload = .ok source ∧ source ≠ [] ∧ IsPortable source := by
  refine ⟨fun route hstandard settings => ?_, fun language hlanguage payload hpayload => ?_⟩
  · obtain ⟨relay, hfree, hportable⟩ := exists_composeWithoutLimit
      (fun language hlanguage =>
        Language.keepsPortable_of_mem_standard language (hstandard language hlanguage))
      settings.lineWidth
    constructor
    · by_cases hfits : ∀ stage ∈ relay.stages, stage.source.length ≤ settings.sizeLimit
      · exact .inl ⟨relay, compose_eq_ok_iff_forall_le.2 ⟨hfree, hfits⟩⟩
      · obtain ⟨index, stage, hstop, herror⟩ := compose_of_over settings hfree hfits
        exact .inr ⟨index, _, _, hstop.exceeds, herror⟩
    · intro limited h stage hstage
      obtain ⟨hfree', -⟩ := compose_eq_ok_iff_forall_le.1 h
      obtain rfl := Except.ok.inj (hfree.symm.trans hfree')
      have hsource := hportable stage hstage
      exact ⟨hsource.ne_nil, hsource⟩
  · obtain ⟨source, hsource, hportable⟩ := Language.generate_portable
      (Language.keepsPortable_of_mem_standard language hlanguage) hpayload
    exact ⟨source, hsource, hportable.ne_nil, hportable⟩

/-- A repeated language, around a literal. A payload that begins with the end of a code
mark is portable. -/
theorem standard_route_composes_php_twice :
    (∃ relay, compose {} ⟨[Language.php, Language.python, Language.php], by decide⟩ = .ok relay ∧
      ∀ stage ∈ relay.stages, stage.source ≠ [] ∧ IsPortable stage.source) ∧
    ∃ source, Language.pascal.generate (Utf8.encode "?'<\n") = .ok source ∧ source ≠ [] ∧
      IsPortable source := by
  have hok : (compose {} ⟨[Language.php, Language.python, Language.php], by decide⟩).isOk
      = true := by
    decide +kernel
  obtain ⟨relay, hrelay⟩ := exists_ok_of_isOk hok
  obtain ⟨hroutes, hlanguages⟩ := standard_route_composes
  refine ⟨⟨relay, hrelay, (hroutes _ (by decide) _).2 relay hrelay⟩, ?_⟩
  exact hlanguages Language.pascal (by decide) _ ⟨"?'<\n", Utf8.decode_encode _, by decide⟩

end Relay

end QuineRelay
