import QuineRelay.Origin
import QuineRelay.Proofs.Results
import QuineRelay.Proofs.Text.Utf8

/-!
# The file of the origin

An origin file is built in one way only: a fixed beginning, an expression that
evaluates the stored program, and a fixed end. The text that `$s` holds while
the file runs is that expression, so the file can be rebuilt from it.
-/

namespace QuineRelay.Origin

/-- The expression that restores and evaluates a stored program. -/
def evaluation (width : Nat) (stored : Text) : Text :=
  "eval((%w(\n" ++ wordLines width stored ++ ")*\"\")" ++ Placeholder.restorer ++ ")"

theorem embed_eq_ok_iff {program : Text} {width : Nat} {source : Bytes} :
    embed program width = .ok source ↔
      ∃ stored, store program = .ok stored ∧ checkEmbeddable stored = .ok () ∧
        checkEmbeddable Placeholder.restorer = .ok () ∧
        source = Utf8.encode (head ++ evaluation width stored ++ foot) := by
  have hfile (stored : Text) :
      head ++ "eval((%w(\n" ++ wordLines width stored ++ ")*\"\")" ++ Placeholder.restorer
          ++ ")" ++ foot
        = head ++ evaluation width stored ++ foot := by
    unfold evaluation
    simp only [List.append_assoc]
  constructor
  · intro h
    obtain ⟨stored, hstored, h⟩ := bind_eq_ok_iff.1 h
    obtain ⟨_, hcheck, h⟩ := bind_eq_ok_iff.1 h
    obtain ⟨_, hrestorer, h⟩ := bind_eq_ok_iff.1 h
    have hsource := (Except.ok.inj h).symm
    exact ⟨stored, hstored, hcheck, hrestorer, hsource.trans (congrArg Utf8.encode (hfile stored))⟩
  · rintro ⟨stored, hstored, hcheck, hrestorer, rfl⟩
    refine bind_eq_ok_iff.2 ⟨stored, hstored, bind_eq_ok_iff.2 ⟨(), hcheck, ?_⟩⟩
    exact bind_eq_ok_iff.2 ⟨(), hrestorer, congrArg (Except.ok ∘ Utf8.encode) (hfile stored)⟩

/-- A file is rebuilt from the text that `$s` holds. -/
theorem selfText?_eq_some_iff {source self : Text} :
    selfText? source = some self ↔ source = head ++ self ++ foot := by
  rw [selfText?, Option.bind_eq_some_iff]
  constructor
  · rintro ⟨rest, hrest, hself⟩
    rw [Text.afterOpening?_eq_some_iff.1 hrest, Text.beforeEnding?_eq_some_iff.1 hself,
      List.append_assoc]
  · rintro rfl
    exact ⟨self ++ foot, Text.afterOpening?_eq_some_iff.2 (List.append_assoc _ _ _),
      Text.beforeEnding?_eq_some_iff.2 rfl⟩

end QuineRelay.Origin
