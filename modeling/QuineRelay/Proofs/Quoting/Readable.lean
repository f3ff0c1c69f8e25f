import QuineRelay.Proofs.Results
import QuineRelay.Quoting

/-!
# Tables that can be read back

Reading takes the longest spelling at each place, before the end mark and before
any plain character. A table is readable when this never has a choice: no spelling
begins another one, and every spelling begins with a character that may not stand
for itself. Then each step of reading is forced, and a text is read back however
the literal goes on, as long as the mark that ends it is forced too.
-/

namespace QuineRelay

namespace EscapeTable

/-- Whether a text begins with a character that the table spells differently. -/
def startsWithKey (table : EscapeTable) (text : Text) : Bool :=
  text.head?.any fun c => (table.lookup c).isSome

/-- A table is readable when no two spellings can be confused, nor a spelling
with a character that stands for itself. A spelling begins with a key, so it is
not empty. -/
structure Readable (table : EscapeTable) : Prop where
  keys_nodup : (table.map Prod.fst).Nodup
  spelling_startsWithKey : ∀ entry ∈ table, table.startsWithKey entry.2 = true
  spelling_separate : ∀ first ∈ table, ∀ second ∈ table, first ≠ second → ¬ first.2 <+: second.2

instance (table : EscapeTable) : Decidable table.Readable :=
  decidable_of_iff
    ((table.map Prod.fst).Nodup ∧ (∀ entry ∈ table, table.startsWithKey entry.2 = true) ∧
      ∀ first ∈ table, ∀ second ∈ table, first ≠ second → ¬ first.2 <+: second.2)
    ⟨fun h => ⟨h.1, h.2.1, h.2.2⟩, fun h => ⟨h.1, h.2, h.3⟩⟩

/-- What may close a literal: a mark that begins with a key and that no spelling
can be confused with. -/
structure IsMark (table : EscapeTable) (mark : Text) : Prop where
  startsWithKey : table.startsWithKey mark = true
  separate : ∀ entry ∈ table, ¬ entry.2 <+: mark ∧ ¬ mark <+: entry.2

instance (table : EscapeTable) (mark : Text) : Decidable (table.IsMark mark) :=
  decidable_of_iff
    (table.startsWithKey mark = true ∧ ∀ entry ∈ table, ¬ entry.2 <+: mark ∧ ¬ mark <+: entry.2)
    ⟨fun h => ⟨h.1, h.2⟩, fun h => ⟨h.1, h.2⟩⟩

/-- A text that begins with a key does not begin with a plain character. -/
theorem not_startsWithKey_cons {table : EscapeTable} {c : Char} (h : table.lookup c = none)
    {text rest : Text} (hfit : text <+: c :: rest) : table.startsWithKey text = false := by
  cases text with
  | nil => rfl
  | cons a text =>
      obtain ⟨rfl, -⟩ := List.cons_prefix_cons.1 hfit
      simp [startsWithKey, h]

/-! ## The spelling at the front -/

theorem spellingAt?_eq_none_iff {text : Text} {table : EscapeTable} :
    spellingAt? text table = none ↔ ∀ entry ∈ table, ¬ entry.2 <+: text := by
  induction table with
  | nil => simp [spellingAt?]
  | cons first table ih =>
      rw [spellingAt?, List.forall_mem_cons, ← ih, ← List.isPrefixOf_iff_prefix]
      cases spellingAt? text table with
      | none => simp
      | some best =>
          simp only [reduceCtorEq, and_false, iff_false]
          split <;> simp

theorem mem_of_spellingAt? {text : Text} {table : EscapeTable} {entry : Char × Text}
    (h : spellingAt? text table = some entry) : entry ∈ table := by
  induction table with
  | nil => simp [spellingAt?] at h
  | cons first table ih =>
      rw [spellingAt?] at h
      split at h
      · rename_i best hbest
        split at h
        · exact Option.some.inj h ▸ List.mem_cons_self
        · exact List.mem_cons_of_mem _ (ih (hbest.trans h))
      · split at h
        · exact Option.some.inj h ▸ List.mem_cons_self
        · simp at h

/-! ## One step of reading -/

theorem readFrom_of_some {table : EscapeTable} {stop? : Option Text} {done source : Text}
    {entry : Char × Text} (hfit : spellingAt? source table = some entry) (hne : entry.2 ≠ []) :
    readFrom table stop? done source
      = readFrom table stop? (entry.1 :: done) (source.drop entry.2.length) := by
  rw [readFrom]
  split
  · rename_i c spelling hspelling
    obtain rfl := Option.some.inj (hfit.symm.trans hspelling)
    rw [dif_neg hne]
  · rename_i hspelling
    cases hfit.symm.trans hspelling

theorem readFrom_of_none {table : EscapeTable} {stop? : Option Text} {done source : Text}
    (hfit : spellingAt? source table = none) :
    readFrom table stop? done source =
      if stop?.any (·.isPrefixOf source) then .finished done.reverse source
      else
        match source with
        | [] => if stop?.isNone then .finished done.reverse [] else .malformed
        | c :: rest =>
          if (table.lookup c).isSome then .malformed
          else readFrom table stop? (c :: done) rest := by
  rw [readFrom]
  split
  · rename_i hspelling
    cases hfit.symm.trans hspelling
  · rfl

namespace Readable

variable {table : EscapeTable} (h : table.Readable)

include h

/-- No second spelling fits where one does. -/
theorem eq_of_prefix {first second : Char × Text} (hfirst : first ∈ table)
    (hsecond : second ∈ table) {text : Text} (hfit : first.2 <+: text) (hfit' : second.2 <+: text) :
    first = second := by
  by_cases hne : first = second
  · exact hne
  rcases List.prefix_or_prefix_of_prefix hfit hfit' with hle | hle
  · exact absurd hle (h.spelling_separate first hfirst second hsecond hne)
  · exact absurd hle (h.spelling_separate second hsecond first hfirst (Ne.symm hne))

/-- A spelling is found where it stands, whatever follows it. -/
theorem spellingAt?_append {entry : Char × Text} (hentry : entry ∈ table) (rest : Text) :
    spellingAt? (entry.2 ++ rest) table = some entry := by
  have hfit : entry.2 <+: entry.2 ++ rest := List.prefix_append _ _
  cases hbest : spellingAt? (entry.2 ++ rest) table with
  | none => exact absurd hfit (spellingAt?_eq_none_iff.1 hbest entry hentry)
  | some best =>
      have hbestfit := List.isPrefixOf_iff_prefix.1 (isPrefixOf_of_spellingAt? hbest)
      rw [h.eq_of_prefix (mem_of_spellingAt? hbest) hentry hbestfit hfit]

theorem spelling_ne_nil {entry : Char × Text} (hentry : entry ∈ table) : entry.2 ≠ [] := by
  intro hnil
  have := h.spelling_startsWithKey entry hentry
  simp [startsWithKey, hnil] at this

/-- No spelling fits where a character stands for itself. -/
theorem spellingAt?_cons {c : Char} (hc : table.lookup c = none) (rest : Text) :
    spellingAt? (c :: rest) table = none := by
  refine spellingAt?_eq_none_iff.2 fun entry hentry hfit => ?_
  have := h.spelling_startsWithKey entry hentry
  rw [not_startsWithKey_cons hc hfit] at this
  exact Bool.false_ne_true this

theorem spellingAt?_nil : spellingAt? [] table = none :=
  spellingAt?_eq_none_iff.2 fun _entry hentry hfit =>
    h.spelling_ne_nil hentry (List.prefix_nil.1 hfit)

/-! ## Reading back -/

/-- What a literal holds for one character is read as that character, whatever
the end mark, as long as it begins with a key. -/
theorem readFrom_escapeChar {stop? : Option Text}
    (hstop : ∀ stop ∈ stop?, table.startsWithKey stop = true) (c : Char) (done rest : Text) :
    readFrom table stop? done (table.escapeChar c ++ rest)
      = readFrom table stop? (c :: done) rest := by
  cases hc : table.lookup c with
  | some spelling =>
      have hentry := mem_of_lookup hc
      have hchar : table.escapeChar c = spelling := by simp [escapeChar, hc]
      rw [hchar, readFrom_of_some (h.spellingAt?_append hentry rest) (h.spelling_ne_nil hentry),
        List.drop_left]
  | none =>
      have hchar : table.escapeChar c = [c] := by simp [escapeChar, hc]
      have hmark : stop?.any (·.isPrefixOf (c :: rest)) = false := by
        cases stop? with
        | none => rfl
        | some stop =>
            have hkey := hstop stop rfl
            rw [Option.any_some, Bool.eq_false_iff, Ne, List.isPrefixOf_iff_prefix]
            intro hfit
            rw [not_startsWithKey_cons hc hfit] at hkey
            exact Bool.false_ne_true hkey
      rw [hchar, List.singleton_append, readFrom_of_none (h.spellingAt?_cons hc rest)]
      simp [hmark, hc]

/-- What a literal holds for a text is read as that text. -/
theorem readFrom_escape {stop? : Option Text}
    (hstop : ∀ stop ∈ stop?, table.startsWithKey stop = true) (text done rest : Text) :
    readFrom table stop? done (table.escape text ++ rest)
      = readFrom table stop? (text.reverse ++ done) rest := by
  induction text generalizing done with
  | nil => rfl
  | cons c text ih =>
      rw [escape, List.flatMap_cons, List.append_assoc, h.readFrom_escapeChar hstop, ← escape, ih]
      simp

/-- Without an end mark, reading goes on to the end of the source. -/
theorem readFrom_escape_none (text : Text) :
    readFrom table none [] (table.escape text) = .finished text [] := by
  have hread : readFrom table none [] (table.escape text ++ [])
      = readFrom table none (text.reverse ++ []) [] :=
    h.readFrom_escape (by simp) text [] []
  rw [List.append_nil, List.append_nil] at hread
  rw [hread, readFrom_of_none h.spellingAt?_nil]
  simp

/-- With an end mark, reading stops in front of it. -/
theorem readFrom_escape_some {mark : Text} (hmark : table.IsMark mark) (text rest : Text) :
    readFrom table (some mark) [] (table.escape text ++ (mark ++ rest))
      = .finished text (mark ++ rest) := by
  have hnone : spellingAt? (mark ++ rest) table = none := by
    refine spellingAt?_eq_none_iff.2 fun entry hentry hfit => ?_
    rcases List.prefix_or_prefix_of_prefix hfit (List.prefix_append mark rest) with hle | hle
    · exact (hmark.separate entry hentry).1 hle
    · exact (hmark.separate entry hentry).2 hle
  have hstop : (mark.isPrefixOf (mark ++ rest)) = true :=
    List.isPrefixOf_iff_prefix.2 (List.prefix_append mark rest)
  rw [h.readFrom_escape (by simp [hmark.startsWithKey]), readFrom_of_none hnone]
  simp [hstop]

end Readable

end EscapeTable

end QuineRelay
