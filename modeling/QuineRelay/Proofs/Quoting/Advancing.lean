import QuineRelay.Proofs.Quoting.Passes
import QuineRelay.Proofs.Quoting.RoundTrip

/-!
# Reading ends

A pass over the inside of an item takes a spelling or a character, so it moves on as soon as no
spelling is empty. Between items it is less plain. A single pass may take nothing: the first item
has no separator before it, and what opens an item may be empty as well as what it holds. What
counts is that no item after the first one is free. So a potential made of the source that is
left, of the place that reading has come to, and of whether the first item is still to come goes
down with every pass, and it bounds their number.

No program is run here: a tape program may go on for ever, and nothing is said about those.
-/

namespace QuineRelay

/-! ## The inside of a literal -/

namespace EscapeTable

variable {table : EscapeTable} {stop? : Option Text} {progress next : Progress}

/-- No spelling of the table is empty. -/
def IsSpelled (table : EscapeTable) : Prop :=
  ∀ entry ∈ table, entry.2 ≠ []

instance (table : EscapeTable) : Decidable table.IsSpelled :=
  inferInstanceAs (Decidable (∀ entry ∈ table, entry.2 ≠ []))

/-- A pass that goes on takes some of the source, where no spelling is empty. -/
theorem IsSpelled.length_lt (hspelled : table.IsSpelled)
    (h : table.pass stop? progress = .again next) :
    next.source.length < progress.source.length := by
  have hpasses := passes_pass table stop? progress
  rw [h] at hpasses
  cases hpasses with
  | @spelling done source c spelling hfit =>
      have hpos : 0 < spelling.length :=
        List.length_pos_iff.2 (hspelled _ (mem_of_spellingAt? hfit))
      have hle : spelling.length ≤ source.length :=
        (List.isPrefixOf_iff_prefix.1 (isPrefixOf_of_spellingAt? hfit)).length_le
      show (source.drop spelling.length).length < source.length
      rw [List.length_drop]
      omega
  | plain => exact Nat.lt_succ_self _

/-- A loop gives no source back. -/
theorem length_le_of_done {text rest : Text}
    (h : table.pass stop? progress = .done (some (text, rest))) :
    rest.length ≤ progress.source.length := by
  have hpasses := passes_pass table stop? progress
  rw [h] at hpasses
  cases hpasses with
  | stop => exact Nat.le_refl _
  | finish => exact Nat.zero_le _

end EscapeTable

/-! ## Items -/

namespace Pieces

variable {pieces : Pieces} {place next : Place}

/-- Every spelling takes source, and so does what stands around the text of an item, if not that
of the first one. -/
structure Advances (pieces : Pieces) : Prop where
  escapes_isSpelled : pieces.escapes.IsSpelled
  around_ne_nil :
    ¬ (pieces.itemOpening = [] ∧ pieces.itemClosing = [] ∧ pieces.separator = [])

instance (pieces : Pieces) : Decidable pieces.Advances :=
  decidable_of_iff
    (pieces.escapes.IsSpelled ∧
      ¬ (pieces.itemOpening = [] ∧ pieces.itemClosing = [] ∧ pieces.separator = []))
    ⟨fun h => ⟨h.1, h.2⟩, fun h => ⟨h.1, h.2⟩⟩

/-- An item that has one before it is not free. -/
theorem Advances.length_pos (h : pieces.Advances) :
    0 < (pieces.leading false).length + pieces.itemClosing.length := by
  have haround := h.around_ne_nil
  simp only [← List.length_eq_zero_iff] at haround
  simp only [leading, Bool.false_eq_true, if_false, List.length_append]
  omega

/-- What goes down with every pass. Source counts twice, so that a pass into an item or out of
it, which may take none, can still go down by one. A first item may enter and leave without
taking any. -/
def potential (pieces : Pieces) : Place → Nat
  | .between first progress =>
    2 * progress.source.length + if first = false ∧ pieces.itemClosing = [] then 0 else 2
  | .inside _ progress => 2 * progress.source.length + 1

theorem Advances.potential_lt (h : pieces.Advances) (hpass : pieces.pass place = .again next) :
    pieces.potential next < pieces.potential place := by
  have hpasses := passes_pass pieces place
  rw [hpass] at hpasses
  cases hpasses with
  | @enter first done source body hne hsource =>
      simp only [potential, hsource, List.length_append]
      by_cases hopen : first = false ∧ pieces.itemClosing = []
      · -- nothing closes the item, so something stands before its text
        obtain ⟨rfl, hclosing⟩ := hopen
        have hpos := h.length_pos
        rw [hclosing, List.length_nil] at hpos
        rw [if_pos ⟨rfl, hclosing⟩]
        omega
      · rw [if_neg hopen]
        omega
  | read hread =>
      have := h.escapes_isSpelled.length_lt hread
      simp only [potential]
      omega
  | @leave done text source progress hread =>
      have := EscapeTable.length_le_of_done hread
      rw [List.length_append] at this
      simp only [potential, true_and]
      by_cases hclosing : pieces.itemClosing = []
      · rw [if_pos hclosing]
        omega
      · have := List.length_pos_iff.2 hclosing
        rw [if_neg hclosing]
        omega

/-- Whether a place is in an item that began at `source`, or behind it. What stands around the
text of the item has then been taken. -/
def IsPast (pieces : Pieces) (first : Bool) (source : Text) : Place → Prop
  | .between later progress =>
    later = false ∧ progress.source.length
      + ((pieces.leading first).length + pieces.itemClosing.length) ≤ source.length
  | .inside _ progress => progress.source.length + (pieces.leading first).length ≤ source.length

theorem IsPast.of_pass (h : pieces.Advances) {first : Bool} {source : Text}
    (hpast : pieces.IsPast first source place) (hpass : pieces.pass place = .again next) :
    pieces.IsPast first source next := by
  have hpasses := passes_pass pieces place
  rw [hpass] at hpasses
  cases hpasses with
  | enter hne hsource =>
      obtain ⟨-, hle⟩ := hpast
      simp only [hsource, List.length_append] at hle
      simp only [IsPast]
      omega
  | read hread =>
      have hlt := h.escapes_isSpelled.length_lt hread
      simp only [IsPast] at hpast ⊢
      omega
  | leave hread =>
      have hrest := EscapeTable.length_le_of_done hread
      rw [List.length_append] at hrest
      simp only [IsPast, true_and] at hpast ⊢
      omega

/-- Between items, reading never comes back to where it was: the source that is left is shorter
each time, except that the first item may be free. -/
theorem Advances.length_lt_of_after (h : pieces.Advances) {passes : Nat} {first later : Bool}
    {progress progress' : Progress}
    (hafter : Pass.after pieces.pass (passes + 1) (.between first progress)
      = some (.between later progress')) :
    later = false ∧ progress'.source.length ≤ progress.source.length ∧
      (first = false → progress'.source.length < progress.source.length) := by
  have hpast : pieces.IsPast first progress.source (.between later progress') := by
    rw [Pass.after] at hafter
    split at hafter
    · rename_i next hnext
      have hpasses := passes_pass pieces (.between first progress)
      rw [hnext] at hpasses
      cases hpasses with
      | enter hne hsource =>
          apply Pass.keeps_after (fun _ _ => IsPast.of_pass h) _ hafter
          simp only [IsPast, hsource, List.length_append]
          omega
    · cases hafter
  obtain ⟨hlater, hle⟩ := hpast
  refine ⟨hlater, by omega, ?_⟩
  rintro rfl
  have := h.length_pos
  omega

end Pieces

/-! ## Whole sources -/

namespace Literal

variable {literal : Literal} {passes : Nat} {source : Text} {result : Except ReadFault Text}

/-- A reading that ends gives what is read, which is then no endless reading. -/
theorem read_eq_of_readWithin (h : literal.readWithin passes source = some result) :
    literal.read source = result ∧ result ≠ .error .endless := by
  cases hbody : (Text.afterOpening? literal.opening source).bind
      (Text.beforeEnding? literal.closing) with
  | none =>
      simp only [readWithin, hbody, Option.some.injEq] at h
      simp [read, hbody, ← h]
  | some body =>
      simp only [readWithin, hbody] at h
      obtain ⟨ending, hwithin, rfl⟩ := Option.map_eq_some_iff.1 h
      have hread := Pass.value_eq_of_within (literal.escapes.readOn_eq none) hwithin
      rw [EscapeTable.readOn] at hread
      simp only [read, hbody, hread]
      cases ending with
      | none => simp [EscapeTable.Reading.ofResult]
      | some ending => simp [EscapeTable.Reading.ofResult]

theorem exists_readWithin (h : literal.escapes.IsSpelled) (hpasses : source.length < passes) :
    ∃ result, literal.readWithin passes source = some result := by
  rw [readWithin]
  split
  · exact ⟨_, rfl⟩
  · rename_i body hbody
    have hsource := congrArg List.length (Text.bind_beforeEnding?_eq_some_iff.1 hbody)
    simp only [List.length_append] at hsource
    have hreturns : ∃ ending,
        Pass.within (literal.escapes.pass none) passes ⟨[], body⟩ = some ending := by
      apply Pass.exists_within_of_potential fun progress => progress.source.length
      · exact fun _ _ hpass => h.length_lt hpass
      · show body.length < passes
        omega
    obtain ⟨ending, hwithin⟩ := hreturns
    exact ⟨_, congrArg (Option.map _) hwithin⟩

/-- Enough passes give what is read, and more make no difference. -/
theorem readWithin_eq (h : literal.escapes.IsSpelled) (hpasses : source.length < passes) :
    literal.readWithin passes source = some (literal.read source) ∧
      literal.read source ≠ .error .endless := by
  obtain ⟨result, hwithin⟩ := exists_readWithin h hpasses
  obtain ⟨hread, hresult⟩ := read_eq_of_readWithin hwithin
  rw [hwithin, hread]
  exact ⟨rfl, hresult⟩

end Literal

namespace Pieces

variable {pieces : Pieces} {passes : Nat} {source : Text} {result : Except ReadFault Text}

/-- No pass returns that reading goes on for ever. -/
theorem ne_endless_of_done {place : Place} (h : pieces.pass place = .done result) :
    result ≠ .error .endless := by
  have hpasses := passes_pass pieces place
  rw [h] at hpasses
  cases hpasses <;> simp

theorem read_eq_of_readWithin (h : pieces.readWithin passes source = some result) :
    pieces.read source = result ∧ result ≠ .error .endless := by
  cases hitems : (Text.afterOpening? pieces.opening source).bind
      (Text.beforeEnding? pieces.closing) with
  | none =>
      simp only [readWithin, hitems, Option.some.injEq] at h
      simp [read, hitems, ← h]
  | some items =>
      simp only [readWithin, hitems] at h
      have hread := Pass.value_eq_of_within pieces.readOn_eq h
      rw [readOn] at hread
      simp only [read, hitems]
      exact ⟨hread, Pass.of_within (· ≠ .error .endless) (fun _ _ => ne_endless_of_done) h⟩

theorem exists_readWithin (h : pieces.Advances) (hpasses : 2 * source.length + 2 < passes) :
    ∃ result, pieces.readWithin passes source = some result := by
  rw [readWithin]
  split
  · exact ⟨_, rfl⟩
  · rename_i items hitems
    have hsource := congrArg List.length (Text.bind_beforeEnding?_eq_some_iff.1 hitems)
    simp only [List.length_append] at hsource
    have hbound : pieces.potential (.between true ⟨[], items⟩) < passes := by
      show 2 * items.length + 2 < passes
      omega
    exact Pass.exists_within_of_potential pieces.potential (fun _ _ => h.potential_lt) hbound

theorem readWithin_eq (h : pieces.Advances) (hpasses : 2 * source.length + 2 < passes) :
    pieces.readWithin passes source = some (pieces.read source) ∧
      pieces.read source ≠ .error .endless := by
  obtain ⟨result, hwithin⟩ := exists_readWithin h hpasses
  obtain ⟨hread, hresult⟩ := read_eq_of_readWithin hwithin
  rw [hwithin, hread]
  exact ⟨rfl, hresult⟩

end Pieces

namespace Quoting

/-- Which quotings take source with every spelling and with every item but the first. The other
forms are not read by these loops. -/
def Advances : Quoting → Prop
  | .literal form => form.escapes.IsSpelled
  | .pieces form => form.Advances
  | .tape _ => True
  | .verbatim _ => True

/-- In a readable table a spelling begins with a key, and so does what closes an item. -/
theorem Readable.advances {quoting : Quoting} (h : quoting.Readable) : quoting.Advances := by
  cases quoting with
  | literal form => exact fun _ hentry => EscapeTable.Readable.spelling_ne_nil h hentry
  | pieces form =>
      constructor
      · exact fun _ hentry => h.escapes_readable.spelling_ne_nil hentry
      · rintro ⟨-, hclosing, -⟩
        exact h.itemClosing_ne_nil hclosing
  | tape form => exact trivial
  | verbatim form => exact trivial

/-- Reading ends, whatever the source, as soon as no spelling is empty and something stands
around the text of an item or between two items. Every pass over a text that goes on shortens
the source. From one item to the next the source is shorter too, except after the first one,
which may be free. So the loops return what is read as soon as they may make a number of passes
that is linear in the source. The quotings of all standard languages are such. -/
theorem reading_ends :
    (∀ language ∈ Language.standard, language.quoting.Advances) ∧
    (∀ table : EscapeTable, table.IsSpelled → ∀ (stop? : Option Text) (progress next : Progress),
      table.pass stop? progress = .again next →
        next.source.length < progress.source.length) ∧
    (∀ form : Literal, (Quoting.literal form).Advances → ∀ source : Text,
      (Quoting.literal form).read source ≠ .error .endless ∧
        ∀ passes, source.length < passes →
          form.readWithin passes source = some (form.read source)) ∧
    ∀ form : Pieces, (Quoting.pieces form).Advances →
      (∀ (passes : Nat) (first later : Bool) (progress progress' : Progress),
        Pass.after form.pass (passes + 1) (.between first progress)
          = some (.between later progress') →
        later = false ∧ progress'.source.length ≤ progress.source.length ∧
          (first = false → progress'.source.length < progress.source.length)) ∧
      ∀ source : Text,
        (Quoting.pieces form).read source ≠ .error .endless ∧
          ∀ passes, 2 * source.length + 2 < passes →
            form.readWithin passes source = some (form.read source) := by
  refine ⟨?_, ?_, ?_, ?_⟩
  · intro language hstandard
    exact (readable_of_mem_standard language hstandard).advances
  · intro table hspelled stop? progress next hpass
    exact hspelled.length_lt hpass
  · intro form hspelled source
    constructor
    · intro hread
      exact (Literal.readWithin_eq hspelled (Nat.lt_succ_self _)).2 (map_eq_error_iff.1 hread)
    · intro passes hpasses
      exact (Literal.readWithin_eq hspelled hpasses).1
  · intro form hadvances
    constructor
    · intro passes first later progress progress' hafter
      exact hadvances.length_lt_of_after hafter
    · intro source
      constructor
      · intro hread
        exact (Pieces.readWithin_eq hadvances (Nat.lt_succ_self _)).2 (map_eq_error_iff.1 hread)
      · intro passes hpasses
        exact (Pieces.readWithin_eq hadvances hpasses).1

/-- Nothing stands around these items, only a comma between any two. -/
def commas : Pieces where
  opening := []
  closing := []
  itemOpening := []
  itemClosing := []
  separator := ","
  escapes := [('a', "b")]
  cut := .lines

/-- A text in quotes, with the table of `commas`. -/
def quotes : Literal where
  opening := "'"
  closing := "'"
  escapes := commas.escapes
  ending := .exact

/-- Before a comma the first item is free, so the second begins where the first began. It ends
before the plain character, where no comma stands. In quotes it is the last character that stops
the reading, since it needs a spelling. -/
theorem reading_ends_commas :
    (Language.pascal ∈ Language.standard ∧ Language.pascal.quoting.Advances) ∧
    (commas.escapes.IsSpelled ∧
      commas.escapes.pass none ⟨[], "bxa"⟩ = .again ⟨"a", "xa"⟩ ∧
      ("xa" : Text).length < ("bxa" : Text).length) ∧
    ((Quoting.literal quotes).Advances ∧
      (Quoting.literal quotes).read "'bxa'" ≠ .error .endless ∧
      quotes.readWithin 6 "'bxa'" = some (quotes.read "'bxa'") ∧
      quotes.readWithin 6 "'bxa'" = some (.error .malformed)) ∧
    (Quoting.pieces commas).Advances ∧
    Pass.after commas.pass 2 (.between true ⟨[], ",bx"⟩) = some (.between false ⟨[], ",bx"⟩) ∧
    (Pass.after commas.pass 3 (.between false ⟨[], ",bx"⟩) = some (.between false ⟨"a", "x"⟩) ∧
      ("x" : Text).length < (",bx" : Text).length) ∧
    (Quoting.pieces commas).read ",bx" ≠ .error .endless ∧
    commas.readWithin 9 ",bx" = some (commas.read ",bx") ∧
    commas.readWithin 9 ",bx" = some (.error .malformed) := by
  obtain ⟨hstandard, htable, hliteral, hpieces⟩ := reading_ends
  have hpascal : Language.pascal ∈ Language.standard := by decide
  have hadvances : commas.Advances := by decide
  have hspelled : commas.escapes.IsSpelled := hadvances.escapes_isSpelled
  have hpass : commas.escapes.pass none ⟨[], "bxa"⟩ = .again ⟨"a", "xa"⟩ := rfl
  obtain ⟨hquotes, hwithin⟩ := hliteral quotes hspelled "'bxa'"
  have hnext : Pass.after commas.pass 3 (.between false ⟨[], ",bx"⟩)
      = some (.between false ⟨"a", "x"⟩) := rfl
  obtain ⟨hitems, hsources⟩ := hpieces commas hadvances
  obtain ⟨hread, hbound⟩ := hsources ",bx"
  exact ⟨⟨hpascal, hstandard _ hpascal⟩, ⟨hspelled, hpass, htable _ hspelled _ _ _ hpass⟩,
    ⟨hspelled, hquotes, hwithin 6 (by decide), rfl⟩, hadvances,
    rfl, ⟨hnext, (hitems 2 _ _ _ _ hnext).2.2 rfl⟩, hread, hbound 9 (by decide), rfl⟩

end Quoting

end QuineRelay
