import QuineRelay.Proofs.Origin.Literals
import QuineRelay.Proofs.Relay.SizeLimit

/-!
# The origin of any route

The data of a language can be anything: parentheses, backslashes, quotes, characters
that no source file should hold. Whether a later stage can hold such data is up to the
language before it, but the origin always can, because a call spells its arguments in
hexadecimal. So a composition that fails at the origin fails for its size.
-/

namespace QuineRelay.Relay

variable {settings : Settings} {origin source : Bytes} {route : Route}

/-- The stages after the origin report their own places. -/
theorem le_of_stagesFrom_eq_error {index k : Nat} {languages : List Language}
    {cause : GenerationError}
    (h : stagesFrom settings origin index languages = .error (.generation k cause)) :
    index ≤ k := by
  induction languages generalizing index with
  | nil => cases h
  | cons language rest ih =>
      rcases stagesFrom_cons_eq_error_iff.1 h with hlater | ⟨later, cause', -, -, herror⟩
      · exact Nat.le_of_succ_le (ih hlater)
      · exact Nat.le_of_eq (CompositionError.generation.inj herror).1.symm

/-- A composition fails at an origin that was embedded just when it is too large. -/
theorem compose_eq_error_zero_iff {cause : GenerationError}
    (h : Origin.embed (Origin.program route) settings.lineWidth = .ok source) :
    compose settings route = .error (.generation 0 cause) ↔
      settings.sizeLimit < source.length ∧
        cause = .tooLarge Language.origin.name source.length settings.sizeLimit := by
  rw [compose_of_embed settings h]
  by_cases hsize : source.length ≤ settings.sizeLimit
  · rw [if_pos hsize]
    constructor
    · intro herror
      cases hstages : stagesFrom settings source 1 route.languages with
      | ok stages =>
          rw [unroll, hstages] at herror
          cases herror
      | error error =>
          rw [unroll, hstages] at herror
          obtain rfl := Except.error.inj herror
          exact absurd (le_of_stagesFrom_eq_error hstages) (by decide)
    · exact fun hlong => absurd hsize (Nat.not_le.2 hlong.1)
  · rw [if_neg hsize]
    constructor
    · intro herror
      obtain rfl := (CompositionError.generation.inj (Except.error.inj herror)).2
      exact ⟨Nat.lt_of_not_le hsize, rfl⟩
    · rintro ⟨-, rfl⟩
      rfl

/-- No data of a language breaks the origin. Whatever the languages of a route hold, its
program is printable text whose parentheses are balanced, and it is embedded at every
width. What can go wrong at the origin is its size, and that is reported as it is. -/
theorem quoting_data_never_breaks_origin (route : Route) :
    (∀ c ∈ Origin.program route, c = '\n' ∨ (0x20 ≤ c.toNat ∧ c.toNat ≤ 0x7E)) ∧
    Text.Balanced (Origin.program route) ∧
    ∀ width, ∃ source, Origin.embed (Origin.program route) width = .ok source ∧
      ∀ limit cause, compose ⟨width, limit⟩ route = .error (.generation 0 cause) ↔
        limit < source.length ∧ cause = .tooLarge Language.origin.name source.length limit := by
  refine ⟨fun c hc => ?_, Origin.balanced_program route, fun width => ?_⟩
  · have hplain := Origin.isPlain_of_mem_program hc
    simpa only [EscapeTable.isPlain, Bool.or_eq_true, beq_iff_eq, Bool.and_eq_true,
      decide_eq_true_eq] using hplain
  · have hembed := Origin.embed_program route width
    refine ⟨_, hembed, fun limit cause => ?_⟩
    exact compose_eq_error_zero_iff (show Origin.embed (Origin.program route)
      (⟨width, limit⟩ : Settings).lineWidth = .ok _ from hembed)

/-- Two languages that hold unbalanced parentheses, backslashes, controls and characters
beyond ASCII, with words of one character. The origin is over a limit of 200 bytes. -/
theorem quoting_data_never_breaks_origin_parentheses :
    ∃ (literal pieces : Language) (route : Route) (source : Bytes),
      literal.quoting = .literal ⟨"))\\(", "\u0001\"é", [('(', ")))"), (')', "\\")], .exact⟩ ∧
      pieces.quoting = .pieces ⟨"%w(", ")*\"\"", "(", "\n)", "\t", [('"', [])], .width 0⟩ ∧
      route.languages = [literal, pieces] ∧ Text.Balanced (Origin.program route) ∧
      Origin.embed (Origin.program route) 1 = .ok source ∧ 200 < source.length ∧
      compose ⟨1, 200⟩ route
        = .error (.generation 0 (.tooLarge Language.origin.name source.length 200)) := by
  let literal : Language :=
    { toolchain := Language.c.toolchain
      quoting := .literal ⟨"))\\(", "\u0001\"é", [('(', ")))"), (')', "\\")], .exact⟩ }
  let pieces : Language :=
    { toolchain := Language.bash.toolchain
      quoting := .pieces ⟨"%w(", ")*\"\"", "(", "\n)", "\t", [('"', [])], .width 0⟩ }
  let route : Route := ⟨[literal, pieces], List.cons_ne_nil _ _⟩
  have hlong : (Origin.embed (Origin.program route) 1).toOption.any (fun source =>
      decide (200 < source.length)) = true := by
    decide +kernel
  obtain ⟨-, hbalanced, hembeds⟩ := quoting_data_never_breaks_origin route
  obtain ⟨source, hembed, herror⟩ := hembeds 1
  rw [hembed] at hlong
  have hsize : 200 < source.length := of_decide_eq_true hlong
  exact ⟨literal, pieces, route, source, rfl, rfl, rfl, hbalanced, hembed, hsize,
    (herror 200 _).2 ⟨hsize, rfl⟩⟩

end QuineRelay.Relay
