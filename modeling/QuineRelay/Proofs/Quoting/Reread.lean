import QuineRelay.Proofs.Quoting.Alphabet
import QuineRelay.Proofs.Quoting.Readable

/-!
# What is read is written again

Reading a literal back asks little of its table: spellings may begin with one another, be
equal, or look like plain text, and then reading takes one of several ways to divide the
source. Whatever it takes, writing undoes. A spelling that was read stands for its key, and
the key is written with that spelling again, because no other entry has the key. A character
that was read as itself has no spelling, so it is written as itself. Hence a source is
determined by the payload that is read from it.

What is read need not be a payload that can be written: a source may hold characters that
no program of the language should. Nor is it claimed here that a source that was written is
read back; that needs a readable table.
-/

namespace QuineRelay

namespace EscapeTable

variable {table : EscapeTable} {source text rest : Text}

/-- The text that was read is written as the part of the source that was taken for it. -/
theorem eq_escape_of_readFrom (hkeys : (table.map Prod.fst).Nodup) {stop? : Option Text}
    {done : Text} (h : readFrom table stop? done source = .finished text rest) :
    ∃ more, text = done.reverse ++ more ∧ source = table.escape more ++ rest := by
  have hescape (c : Char) (more : Text) :
      table.escape (c :: more) = table.escapeChar c ++ table.escape more := rfl
  fun_induction readFrom table stop? done source with
  | case1 => cases h
  | case2 done source c spelling hspelling hne ih =>
      obtain ⟨more, rfl, hrest⟩ := ih h
      have hchar : table.escapeChar c = spelling := by
        rw [escapeChar, lookup_eq_some_of_mem hkeys (mem_of_spellingAt? hspelling)]
        rfl
      have hfit := List.isPrefixOf_iff_prefix.1 (isPrefixOf_of_spellingAt? hspelling)
      refine ⟨c :: more, ?_, ?_⟩
      · rw [List.reverse_cons, List.append_assoc]
        rfl
      · rw [hescape, hchar, List.append_assoc, ← hrest]
        exact (List.prefix_iff_eq_append.1 hfit).symm
  | case3 done source =>
      obtain ⟨rfl, rfl⟩ := Reading.finished.inj h
      exact ⟨[], (List.append_nil _).symm, rfl⟩
  | case4 done =>
      obtain ⟨rfl, rfl⟩ := Reading.finished.inj h
      exact ⟨[], (List.append_nil _).symm, rfl⟩
  | case5 => cases h
  | case6 => cases h
  | case7 done c source _ hc _ ih =>
      obtain ⟨more, rfl, rfl⟩ := ih h
      have hchar : table.escapeChar c = [c] := by
        rw [escapeChar, Option.not_isSome_iff_eq_none.1 hc]
        rfl
      refine ⟨c :: more, ?_, ?_⟩
      · rw [List.reverse_cons, List.append_assoc]
        rfl
      · rw [hescape, hchar]
        rfl

/-- Without an end mark nothing is left. -/
theorem rest_eq_nil_of_readFrom {done : Text}
    (h : readFrom table none done source = .finished text rest) : rest = [] := by
  fun_induction readFrom table none done source with
  | case1 => cases h
  | case2 _ _ _ _ _ _ ih => exact ih h
  | case3 _ _ _ hstop => cases hstop
  | case4 => exact (Reading.finished.inj h).2.symm
  | case5 _ _ hnone => exact absurd rfl hnone
  | case6 => cases h
  | case7 _ _ _ _ _ _ ih => exact ih h

end EscapeTable

/-- A source that is read holds the payload as the literal spells it. -/
theorem Literal.eq_of_read {literal : Literal} (hkeys : (literal.escapes.map Prod.fst).Nodup)
    {source payload : Text} (h : literal.read source = .ok payload) :
    ∃ body, payload = body ++ literal.ending.appended ∧
      source = literal.opening ++ literal.escapes.escape body ++ literal.closing := by
  rw [read] at h
  split at h
  · cases h
  rename_i inside hinside
  rw [Text.bind_beforeEnding?_eq_some_iff] at hinside
  split at h
  · rename_i body rest hread
    obtain ⟨more, htext, hescaped⟩ := EscapeTable.eq_escape_of_readFrom hkeys hread
    rw [EscapeTable.rest_eq_nil_of_readFrom hread, List.append_nil] at hescaped
    obtain rfl : body = more := htext
    refine ⟨body, (Except.ok.inj h).symm, ?_⟩
    rw [hinside, hescaped]
  · cases h
  · cases h

namespace Quoting

/-- A payload that was read from a literal and keeps to its alphabet is written as the
source it was read from. -/
theorem write_of_read {form : Literal} (hkeys : (form.escapes.map Prod.fst).Nodup)
    (language : Text) {source : Text} {payload : Bytes}
    (h : (Quoting.literal form).read source = .ok payload) :
    (Quoting.literal form).write language payload = .ok source ∨
      ∃ front c back byte, payload = Utf8.encode (front ++ c :: back) ∧
        ¬ form.escapes.Alphabet c ∧
        (Quoting.literal form).write language payload
          = .error (.unrepresentable language (Utf8.size front) byte) := by
  obtain ⟨text, hread, rfl⟩ := map_eq_ok_iff.1 h
  obtain ⟨body, rfl, hsource⟩ := Literal.eq_of_read hkeys hread
  by_cases hall : ∀ c ∈ body, form.escapes.Alphabet c
  · left
    have hinside : ∀ c ∈ body, form.escapes.inAlphabet c = true := by
      intro c hc
      exact EscapeTable.inAlphabet_eq_true_iff.2 (hall c hc)
    refine bind_eq_ok_iff.2 ⟨_, asText_eq_ok_iff.2 rfl, ?_⟩
    exact Literal.write_eq_ok_iff.2 ⟨body, rfl, hinside, hsource⟩
  · right
    obtain ⟨front, c, back, rfl, hfront, hc⟩ := EscapeTable.exists_foreign hall
    have htext : front ++ c :: back ++ form.ending.appended
        = front ++ c :: (back ++ form.ending.appended) := by
      rw [List.append_assoc, List.cons_append]
    refine ⟨front, c, back ++ form.ending.appended, (Utf8.encodeChar c).headD 0, ?_, hc, ?_⟩
    · rw [htext]
    · refine (write_eq_error_iff (.literal form)).2 (.foreign front c back _ rfl hfront hc ?_)
      rw [htext]
      exact getElem?_encode_append front c _

/-- A source in one literal has one reading and one writing. With distinct keys, and whatever
the spellings, the payload that is read from a source is written as this very source, unless
it holds a character outside the alphabet, which is then refused. So two sources that are
read as one payload that can be written are the same. An empty spelling makes no difference:
a source is never read with it. -/
theorem literal_source_unique {form : Literal} (hkeys : (form.escapes.map Prod.fst).Nodup) :
    (∀ (language source : Text) (payload : Bytes),
      (Quoting.literal form).read source = .ok payload →
        (Quoting.literal form).write language payload = .ok source ∨
          ∃ front c back byte, payload = Utf8.encode (front ++ c :: back) ∧
            ¬ form.escapes.Alphabet c ∧
            (Quoting.literal form).write language payload
              = .error (.unrepresentable language (Utf8.size front) byte)) ∧
    ∀ (language first second written : Text) (payload : Bytes),
      (Quoting.literal form).write language payload = .ok written →
        (Quoting.literal form).read first = .ok payload →
          (Quoting.literal form).read second = .ok payload → first = second := by
  refine ⟨fun language source payload => write_of_read hkeys language, ?_⟩
  intro language first second written payload hwrite hfirst hsecond
  have heq (source : Text) (hread : (Quoting.literal form).read source = .ok payload) :
      written = source := by
    rcases write_of_read hkeys language hread with hsource | ⟨_, _, _, _, -, -, hno⟩
    · exact Except.ok.inj (hwrite.symm.trans hsource)
    · cases hwrite.symm.trans hno
  rw [← heq first hfirst, heq second hsecond]

/-- Spellings that begin with one another, that are equal, and that look like the closing of
the literal. The longest one is read, and of equal ones the last. -/
theorem literal_source_unique_overlapping :
    ∃ form : Literal,
      form.escapes = [('a', ['x']), ('b', ['x', 'y']), ('c', ['x']), ('d', ['>', '>'])] ∧
      (form.escapes.map Prod.fst).Nodup ∧
      (Quoting.literal form).read "<xyx>>z>" = .ok (Utf8.encode "bcdz\n") ∧
      (Quoting.literal form).write "T" (Utf8.encode "bcdz\n") = .ok "<xyx>>z>" ∧
      ∀ source, (Quoting.literal form).read source = .ok (Utf8.encode "bcdz\n") →
        source = "<xyx>>z>" := by
  let form : Literal :=
    ⟨"<", ">", [('a', "x"), ('b', "xy"), ('c', "x"), ('d', ">>")], .newline⟩
  have hkeys : (form.escapes.map Prod.fst).Nodup := by decide
  have hany : ((Quoting.literal form).read "<xyx>>z>").toOption.any
      (fun payload => payload == Utf8.encode "bcdz\n") = true := by
    decide +kernel
  obtain ⟨payload, hread, htest⟩ := exists_ok_of_any hany
  rw [eq_of_beq htest] at hread
  obtain ⟨hwritten, hunique⟩ := literal_source_unique hkeys
  have hwrite : (Quoting.literal form).write "T" (Utf8.encode "bcdz\n") = .ok "<xyx>>z>" := by
    rcases hwritten "T" "<xyx>>z>" _ hread with hwrite | ⟨front, c, back, byte, htext, hc, -⟩
    · exact hwrite
    · have hall : ∀ c ∈ ("bcdz\n" : Text), form.escapes.Alphabet c := by decide
      rw [Utf8.encode_injective htext] at hall
      exact absurd (hall c (List.mem_append_right _ List.mem_cons_self)) hc
  exact ⟨form, rfl, hkeys, hread, hwrite, fun source hsource =>
    hunique "T" source _ _ _ hwrite hsource hread⟩

end Quoting

end QuineRelay
