import QuineRelay.Proofs.Pass
import QuineRelay.Proofs.Quoting.Readable

/-!
# Reading, pass by pass

A source is read by two loops, one in the other: items are taken off it one by one, and the
inside of an item character by character. What a pass of either can come to is said once here.
No pass changes what `readFrom` and `readItems` give, so that is what the loops return if they do.

Both functions give up where they see that reading would go on for ever. The loops do not see
it. What is read from there is still the same after each pass, since nothing is taken.
-/

namespace QuineRelay

/-! ## The inside of a literal -/

namespace EscapeTable

variable {table : EscapeTable} {stop? : Option Text}

/-- What a pass can come to. -/
inductive Passes (table : EscapeTable) (stop? : Option Text) :
    Progress → Pass Progress (Option (Text × Text)) → Prop
  | spelling {done source : Text} {c : Char} {spelling : Text}
      (hfit : spellingAt? source table = some (c, spelling)) :
      Passes table stop? ⟨done, source⟩ (.again ⟨c :: done, source.drop spelling.length⟩)
  | stop {done source : Text} (hfit : spellingAt? source table = none)
      (hstop : stop?.any (·.isPrefixOf source) = true) :
      Passes table stop? ⟨done, source⟩ (.done (some (done.reverse, source)))
  | finish {done : Text} (hfit : spellingAt? [] table = none) (hstop : stop? = none) :
      Passes table stop? ⟨done, []⟩ (.done (some (done.reverse, [])))
  | unclosed {done mark : Text} (hfit : spellingAt? [] table = none) (hstop : stop? = some mark)
      (hmark : mark.isPrefixOf [] = false) : Passes table stop? ⟨done, []⟩ (.done none)
  | key {done rest : Text} {c : Char} (hfit : spellingAt? (c :: rest) table = none)
      (hstop : stop?.any (·.isPrefixOf (c :: rest)) = false)
      (hkey : (table.lookup c).isSome = true) : Passes table stop? ⟨done, c :: rest⟩ (.done none)
  | plain {done rest : Text} {c : Char} (hfit : spellingAt? (c :: rest) table = none)
      (hstop : stop?.any (·.isPrefixOf (c :: rest)) = false)
      (hkey : (table.lookup c).isSome = false) :
      Passes table stop? ⟨done, c :: rest⟩ (.again ⟨c :: done, rest⟩)

theorem passes_pass (table : EscapeTable) (stop? : Option Text) (progress : Progress) :
    Passes table stop? progress (table.pass stop? progress) := by
  obtain ⟨done, source⟩ := progress
  simp only [pass]
  split
  · rename_i hfit
    exact .spelling hfit
  rename_i hfit
  by_cases hstop : stop?.any (·.isPrefixOf source) = true
  · rw [if_pos hstop]
    exact .stop hfit hstop
  rw [if_neg hstop]
  rw [Bool.not_eq_true] at hstop
  cases source with
  | nil =>
      cases stop? with
      | none => exact .finish hfit rfl
      | some mark => exact .unclosed hfit rfl hstop
  | cons c rest =>
      by_cases hkey : (table.lookup c).isSome = true
      · simp only [hkey, if_true]
        exact .key hfit hstop hkey
      · rw [Bool.not_eq_true] at hkey
        simp only [hkey, Bool.false_eq_true, if_false]
        exact .plain hfit hstop hkey

/-- What such a loop returns, as a reading. -/
def Reading.ofResult : Option (Text × Text) → Reading
  | some (text, rest) => .finished text rest
  | none => .malformed

/-- What is read from here on. -/
def readOn (table : EscapeTable) (stop? : Option Text) (progress : Progress) : Reading :=
  readFrom table stop? progress.done progress.source

/-- An empty spelling that fits goes on fitting. -/
theorem readFrom_of_empty {done source : Text} {c : Char}
    (h : spellingAt? source table = some (c, [])) :
    readFrom table stop? done source = .endless := by
  rw [readFrom]
  split
  · rename_i hspelling
    obtain ⟨-, rfl⟩ := Prod.mk.inj (Option.some.inj (h.symm.trans hspelling))
    exact dif_pos rfl
  · rename_i hspelling
    cases h.symm.trans hspelling

/-- A pass does not change what is read, also where reading never ends. -/
theorem readOn_eq (table : EscapeTable) (stop? : Option Text) (progress : Progress) :
    table.readOn stop? progress
      = (table.pass stop? progress).valueBy (table.readOn stop?) .ofResult := by
  have hpasses := passes_pass table stop? progress
  generalize table.pass stop? progress = outcome at hpasses
  rw [readOn]
  cases hpasses with
  | @spelling done source c spelling hfit =>
      by_cases hempty : spelling = []
      · subst spelling
        exact (readFrom_of_empty hfit).trans (readFrom_of_empty hfit).symm
      · exact readFrom_of_some hfit hempty
  | stop hfit hstop => exact (readFrom_of_none hfit).trans (if_pos hstop)
  | finish hfit hstop =>
      subst hstop
      exact readFrom_of_none hfit
  | unclosed hfit hstop hmark =>
      subst hstop
      rw [readFrom_of_none hfit, Option.any_some, hmark]
      rfl
  | key hfit hstop hkey =>
      rw [readFrom_of_none hfit, hstop]
      exact if_pos hkey
  | plain hfit hstop hkey =>
      rw [readFrom_of_none hfit, hstop]
      exact if_neg (Bool.eq_false_iff.1 hkey)

/-- What was read stays, and a reading that adds no text has taken no source. -/
theorem of_readFrom {done source text rest : Text}
    (h : readFrom table stop? done source = .finished text rest) :
    done.length < text.length ∨ text = done.reverse ∧ rest = source := by
  fun_induction readFrom table stop? done source with
  | case1 => cases h
  | case2 done source c spelling _ _ ih =>
      left
      rcases ih h with hlt | ⟨rfl, -⟩
      · exact Nat.lt_of_succ_lt hlt
      · simp
  | case3 =>
      obtain ⟨rfl, rfl⟩ := Reading.finished.inj h
      exact .inr ⟨rfl, rfl⟩
  | case4 =>
      obtain ⟨rfl, rfl⟩ := Reading.finished.inj h
      exact .inr ⟨rfl, rfl⟩
  | case5 => cases h
  | case6 => cases h
  | case7 done _ _ c rest _ ih =>
      left
      rcases ih h with hlt | ⟨rfl, -⟩
      · exact Nat.lt_of_succ_lt hlt
      · simp

end EscapeTable

/-! ## Items -/

namespace Pieces

/-- The part of an item before its text, with the separator before it. -/
def leading (pieces : Pieces) (first : Bool) : Text :=
  (if first then [] else pieces.separator) ++ pieces.itemOpening

/-- What a pass can come to. -/
inductive Passes (pieces : Pieces) : Place → Pass Place (Except ReadFault Text) → Prop
  | finish {first : Bool} {done : Text} :
      Passes pieces (.between first ⟨done, []⟩) (.done (.ok done.reverse))
  | enter {first : Bool} {done source body : Text} (hne : source ≠ [])
      (hsource : source = pieces.leading first ++ body) :
      Passes pieces (.between first ⟨done, source⟩) (.again (.inside done ⟨[], body⟩))
  | noItem {first : Bool} {done source : Text} (hne : source ≠ [])
      (hsource : ¬ pieces.leading first <+: source) :
      Passes pieces (.between first ⟨done, source⟩) (.done (.error .malformed))
  | read {done : Text} {progress next : Progress}
      (hpass : pieces.escapes.pass (some pieces.itemClosing) progress = .again next) :
      Passes pieces (.inside done progress) (.again (.inside done next))
  | broken {done : Text} {progress : Progress}
      (hpass : pieces.escapes.pass (some pieces.itemClosing) progress = .done none) :
      Passes pieces (.inside done progress) (.done (.error .malformed))
  | leave {done text source : Text} {progress : Progress}
      (hpass : pieces.escapes.pass (some pieces.itemClosing) progress
        = .done (some (text, pieces.itemClosing ++ source))) :
      Passes pieces (.inside done progress) (.again (.between false ⟨text.reverse ++ done, source⟩))
  | unclosed {done text rest : Text} {progress : Progress}
      (hpass : pieces.escapes.pass (some pieces.itemClosing) progress = .done (some (text, rest)))
      (hrest : ¬ pieces.itemClosing <+: rest) :
      Passes pieces (.inside done progress) (.done (.error .malformed))

variable {pieces : Pieces}

theorem beginning_eq_some_iff {first : Bool} {source body : Text} :
    (pieces.afterSeparator? first source).bind (Text.afterOpening? pieces.itemOpening) = some body ↔
      source = pieces.leading first ++ body := by
  cases first with
  | true => simp [afterSeparator?, leading, Text.afterOpening?_eq_some_iff]
  | false =>
      simp [afterSeparator?, leading, Text.afterOpening?_eq_some_iff, Option.bind_eq_some_iff]

theorem passes_pass (pieces : Pieces) (place : Place) :
    Passes pieces place (pieces.pass place) := by
  cases place with
  | between first progress =>
      obtain ⟨done, source⟩ := progress
      by_cases hne : source = []
      · subst source
        exact .finish
      · have hempty : source.isEmpty = false := List.isEmpty_eq_false_iff.2 hne
        simp only [pass, hempty, Bool.false_eq_true, if_false]
        cases hbody : (pieces.afterSeparator? first source).bind
            (Text.afterOpening? pieces.itemOpening) with
        | none =>
            apply Passes.noItem hne
            rintro ⟨body, hsource⟩
            cases hbody.symm.trans (beginning_eq_some_iff.2 hsource.symm)
        | some body => exact .enter hne (beginning_eq_some_iff.1 hbody)
  | inside done progress =>
      simp only [pass]
      split
      · rename_i hpass
        exact .read hpass
      · rename_i hpass
        exact .broken hpass
      · rename_i text rest hpass
        cases hrest : Text.afterOpening? pieces.itemClosing rest with
        | none =>
            apply Passes.unclosed hpass
            rintro ⟨source, hsource⟩
            cases hrest.symm.trans (Text.afterOpening?_eq_some_iff.2 hsource.symm)
        | some source =>
            rw [Text.afterOpening?_eq_some_iff.1 hrest] at hpass
            exact .leave hpass

/-! ### What is read -/

/-- What is read from a place on. -/
def readOn (pieces : Pieces) : Place → Except ReadFault Text
  | .between first progress => pieces.readItems first progress.done progress.source
  | .inside done progress =>
    match pieces.escapes.readOn (some pieces.itemClosing) progress with
    | .malformed => .error .malformed
    | .endless => .error .endless
    | .finished text rest =>
      match Text.afterOpening? pieces.itemClosing rest with
      | none => .error .malformed
      | some source => pieces.readItems false (text.reverse ++ done) source

/-- An item that is free is read again and again from the same place. So it makes no difference
that `readItems` gives up there. -/
theorem readItems_of_readItem {first : Bool} {done source text rest : Text} (hne : source ≠ [])
    (hitem : pieces.readItem first source = .ok (text, rest))
    (hfree : text = [] → pieces.isVoidItem first = true → rest = source) :
    pieces.readItems first done source = pieces.readItems false (text.reverse ++ done) rest := by
  by_cases hvoid : text = [] ∧ pieces.isVoidItem first = true ∧ first = false
  · obtain ⟨rfl, hitemVoid, rfl⟩ := hvoid
    rw [hfree rfl hitemVoid]
    rfl
  · rw [readItems, List.isEmpty_eq_false_iff.2 hne]
    simp only [Bool.false_eq_true, if_false]
    split
    · rename_i hfault
      cases hitem.symm.trans hfault
    · rename_i hread
      obtain ⟨rfl, rfl⟩ := Prod.mk.inj (Except.ok.inj (hitem.symm.trans hread))
      exact dif_neg hvoid

theorem readItems_of_fault {first : Bool} {done source : Text} {fault : ReadFault}
    (hne : source ≠ []) (hitem : pieces.readItem first source = .error fault) :
    pieces.readItems first done source = .error fault := by
  rw [readItems, List.isEmpty_eq_false_iff.2 hne]
  simp only [Bool.false_eq_true, if_false]
  split
  · rename_i hfault
    exact congrArg Except.error (Except.error.inj (hfault.symm.trans hitem))
  · rename_i hread
    cases hitem.symm.trans hread

/-- An item is void when nothing stands around its text. -/
theorem isVoidItem_iff {first : Bool} :
    pieces.isVoidItem first = true ↔ pieces.leading first = [] ∧ pieces.itemClosing = [] := by
  cases first with
  | true => simp [isVoidItem, leading]
  | false => simp [isVoidItem, leading, and_comm, and_left_comm, and_assoc]

/-- Reading items goes on with the first of them. -/
theorem readItems_enter {first : Bool} {done source body : Text} (hne : source ≠ [])
    (hsource : source = pieces.leading first ++ body) :
    pieces.readItems first done source = pieces.readOn (.inside done ⟨[], body⟩) := by
  have hbody := beginning_eq_some_iff.2 hsource
  rw [readOn, EscapeTable.readOn]
  cases hread : pieces.escapes.readFrom (some pieces.itemClosing) [] body with
  | malformed =>
      apply readItems_of_fault hne
      simp only [readItem, hbody, hread]
  | endless =>
      apply readItems_of_fault hne
      simp only [readItem, hbody, hread]
  | finished text rest =>
      cases hclosing : Text.afterOpening? pieces.itemClosing rest with
      | none =>
          simp only [hclosing]
          apply readItems_of_fault hne
          simp only [readItem, hbody, hread, hclosing]
      | some next =>
          have hitem : pieces.readItem first source = .ok (text, next) := by
            simp only [readItem, hbody, hread, hclosing]
          simp only [hclosing]
          apply readItems_of_readItem hne hitem
          intro htext hvoid
          obtain ⟨hleading, hnothing⟩ := isVoidItem_iff.1 hvoid
          rw [hnothing] at hclosing
          rw [hleading] at hsource
          rcases EscapeTable.of_readFrom hread with hlt | ⟨-, hrest⟩
          · rw [htext] at hlt
            cases hlt
          · rw [hsource, ← hrest]
            exact (Option.some.inj hclosing).symm

/-- A pass does not change what is read, also where reading never ends. -/
theorem readOn_eq (pieces : Pieces) (place : Place) :
    pieces.readOn place = (pieces.pass place).valueBy pieces.readOn id := by
  have hpasses := passes_pass pieces place
  generalize pieces.pass place = outcome at hpasses
  cases hpasses with
  | finish =>
      rw [readOn, readItems]
      rfl
  | enter hne hsource => exact readItems_enter hne hsource
  | @noItem first done source hne hsource =>
      apply readItems_of_fault hne
      cases hbody : (pieces.afterSeparator? first source).bind
          (Text.afterOpening? pieces.itemOpening) with
      | none => simp only [readItem, hbody]
      | some body =>
          exact absurd ⟨body, (beginning_eq_some_iff.1 hbody).symm⟩ hsource
  | read hpass =>
      rw [readOn, EscapeTable.readOn_eq, hpass]
      rfl
  | broken hpass =>
      rw [readOn, EscapeTable.readOn_eq, hpass]
      rfl
  | leave hpass =>
      rw [readOn, EscapeTable.readOn_eq, hpass]
      simp only [Pass.valueBy, EscapeTable.Reading.ofResult, Text.afterOpening?_eq_some_iff.2 rfl]
      rfl
  | @unclosed done text rest progress hpass hrest =>
      rw [readOn, EscapeTable.readOn_eq, hpass]
      cases hclosing : Text.afterOpening? pieces.itemClosing rest with
      | none => simp only [Pass.valueBy, EscapeTable.Reading.ofResult, hclosing, id]
      | some source =>
          exact absurd ⟨source, (Text.afterOpening?_eq_some_iff.1 hclosing).symm⟩ hrest

end Pieces

end QuineRelay
