import QuineRelay.Proofs.Quoting.Written
import QuineRelay.Proofs.Results
import QuineRelay.Proofs.Text.Cutting
import QuineRelay.Proofs.Text.Occurrences

/-!
# What plain text refuses

A payload that is its own source is checked when it is written and again when it is read,
and the two checks agree. A refusal names one place of the bytes. A forbidden opening comes
first; otherwise no forbidden sequence stands further left than the one that is named, and
of those at the same place it is the first of the list. The search knows only the first
occurrence of each sequence, which is enough for both.
-/

namespace QuineRelay

namespace Verbatim

open Utf8 (StandsAt)

/-- Why a payload is refused, and what is reported. -/
inductive IsRefusal (verbatim : Verbatim) (language payload : Text) : GenerationError → Prop
  /-- The payload begins with a forbidden opening. -/
  | opening (sequence : Text)
      (first : IsFirst (· <+: payload) verbatim.forbiddenOpenings sequence) :
      IsRefusal verbatim language payload (.forbiddenSequence language 0 sequence)
  /-- Without such an opening, `offset` is the first place of a forbidden sequence. -/
  | inside (offset : Nat) (sequence : Text)
      (no_opening : ∀ opening ∈ verbatim.forbiddenOpenings, ¬ opening <+: payload)
      (first : IsFirst (StandsAt · payload offset) verbatim.forbidden sequence)
      (least : ∀ other ∈ verbatim.forbidden, ∀ earlier < offset, ¬ StandsAt other payload earlier) :
      IsRefusal verbatim language payload (.forbiddenSequence language offset sequence)

variable {verbatim : Verbatim} {language payload sequence : Text} {error other : GenerationError}
  {index offset : Nat}

/-! ## The earliest occurrence -/

/-- Of several entries with the least index the first is chosen. -/
theorem isFirst_of_earliest? {entries : List (Nat × Text)} {entry : Nat × Text}
    (h : earliest? entries = some entry) :
    IsFirst (·.1 = entry.1) entries entry ∧ ∀ other ∈ entries, entry.1 ≤ other.1 := by
  induction entries generalizing entry with
  | nil => cases h
  | cons first rest ih =>
      rw [earliest?] at h
      split at h
      · rename_i best hbest
        obtain ⟨hfirst, hleast⟩ := ih hbest
        split at h
        · rename_i hlt
          obtain rfl := Option.some.inj h
          exact ⟨hfirst.cons (Nat.ne_of_gt hlt),
            List.forall_mem_cons.2 ⟨Nat.le_of_lt hlt, hleast⟩⟩
        · rename_i hle
          obtain rfl := Option.some.inj h
          refine ⟨⟨rfl, [], rest, rfl, by simp⟩,
            List.forall_mem_cons.2 ⟨Nat.le_refl _, fun other hother => ?_⟩⟩
          exact Nat.le_trans (Nat.not_lt.1 hle) (hleast other hother)
      · rename_i hnone
        obtain rfl := earliest?_eq_none_iff.1 hnone
        obtain rfl := Option.some.inj h
        exact ⟨⟨rfl, [], [], rfl, by simp⟩, by simp⟩

/-- The earliest occurrence is that of the first sequence with this place, and the first
occurrences of all other sequences are no earlier. -/
theorem isFirst_position?_of_earliest?
    (h : earliest? (verbatim.occurrences payload) = some (index, sequence)) :
    IsFirst (fun other => Text.position? other payload = some index) verbatim.forbidden sequence ∧
      ∀ other ∈ verbatim.forbidden, ∀ i, Text.position? other payload = some i → index ≤ i := by
  obtain ⟨⟨-, before, after, hsplit, hbefore⟩, hleast⟩ := isFirst_of_earliest? h
  constructor
  · obtain ⟨front, back, hforbidden, rfl, hback⟩ := List.filterMap_eq_append_iff.1 hsplit
    obtain ⟨missing, found, rest, rfl, hmissing, hfound, -⟩ := List.filterMap_eq_cons_iff.1 hback
    obtain ⟨i, hi, heq⟩ := Option.map_eq_some_iff.1 hfound
    obtain ⟨rfl, rfl⟩ := Prod.mk.inj heq
    refine ⟨hi, front ++ missing, rest, by rw [hforbidden, List.append_assoc], ?_⟩
    intro other hother hposition
    rcases List.mem_append.1 hother with hfront | hmiss
    · exact hbefore (i, other)
        (List.mem_filterMap.2 ⟨other, hfront, by rw [hposition, Option.map_some]⟩) rfl
    · have hnone := hmissing other hmiss
      rw [hposition] at hnone
      cases hnone
  · intro other hother i hi
    exact hleast (i, other) (List.mem_filterMap.2 ⟨other, hother, by rw [hi, Option.map_some]⟩)

/-! ## Places in the bytes -/

/-- Where a sequence stands in the bytes, its first occurrence is found no later. -/
theorem exists_position?_of_standsAt (h : StandsAt sequence payload offset) :
    ∃ i ≤ payload.length, Text.position? sequence payload = some i ∧
      Utf8.size (payload.take i) ≤ offset := by
  obtain ⟨j, hsize, hfit⟩ := h.exists_prefix
  have hholds : Text.holds sequence payload = true :=
    Text.holds_iff.2 (hfit.isInfix.trans (List.drop_suffix j payload).isInfix)
  obtain ⟨i, hi⟩ := Option.isSome_iff_exists.1 hholds
  obtain ⟨hlength, -, hleast⟩ := Text.position?_eq_some_iff.1 hi
  have hij : i ≤ j := Nat.not_lt.1 fun hlt => hleast j hlt hfit
  exact ⟨i, hlength, hi, Nat.le_trans (Utf8.size_take_le_size_take payload hij) hsize⟩

theorem isRefusal_of_earliest?
    (hopening : ∀ opening ∈ verbatim.forbiddenOpenings, ¬ opening <+: payload)
    (h : earliest? (verbatim.occurrences payload) = some (index, sequence)) :
    verbatim.IsRefusal language payload
      (.forbiddenSequence language (Utf8.size (payload.take index)) sequence) := by
  obtain ⟨hfirst, hleast⟩ := isFirst_position?_of_earliest? h
  refine .inside _ _ hopening (hfirst.congr fun other hother => ⟨?_, fun hstands => ?_⟩) ?_
  · intro hposition
    exact Utf8.standsAt_of_prefix (Text.position?_eq_some_iff.1 hposition).2.1
  · obtain ⟨i, hlength, hi, hsize⟩ := exists_position?_of_standsAt hstands
    rcases Nat.lt_or_eq_of_le (hleast other hother i hi) with hlt | rfl
    · exact absurd (Utf8.size_take_lt_size_take hlt hlength) (Nat.not_lt.2 hsize)
    · exact hi
  · -- The first occurrence of a sequence that stands further left would be found there.
    intro other hother earlier hlt hstands
    obtain ⟨i, -, hi, hsize⟩ := exists_position?_of_standsAt hstands
    have hle := Utf8.size_take_le_size_take payload (hleast other hother i hi)
    exact Nat.not_lt.2 (Nat.le_trans hle hsize) hlt

/-! ## Refusals -/

theorem isRefusal_of_write (h : verbatim.write language payload = .error error) :
    verbatim.IsRefusal language payload error := by
  rw [write] at h
  split at h
  · rename_i sequence hfind
    obtain rfl := Except.error.inj h
    exact .opening sequence ((IsFirst.iff_find?.2 hfind).congr fun _ _ =>
      List.isPrefixOf_iff_prefix)
  · rename_i hnone
    have hopening : ∀ opening ∈ verbatim.forbiddenOpenings, ¬ opening <+: payload := by
      intro opening hmem hfit
      exact List.find?_eq_none.1 hnone opening hmem (List.isPrefixOf_iff_prefix.2 hfit)
    split at h
    · rename_i index sequence hearliest
      obtain rfl := Except.error.inj h
      exact isRefusal_of_earliest? hopening hearliest
    · cases h

/-- What is refused opens code. -/
theorem IsRefusal.opensCode (h : verbatim.IsRefusal language payload error) :
    verbatim.opensCode payload = true := by
  rw [Verbatim.opensCode, Bool.or_eq_true, List.any_eq_true, List.any_eq_true]
  cases h with
  | opening sequence first =>
      exact .inl ⟨sequence, first.mem, List.isPrefixOf_iff_prefix.2 first.1⟩
  | inside offset sequence no_opening first least =>
      obtain ⟨i, -, hi, -⟩ := exists_position?_of_standsAt first.1
      exact .inr ⟨sequence, first.mem, by rw [Text.holds, hi, Option.isSome_some]⟩

/-- There is one refusal of a payload. -/
theorem IsRefusal.eq (h : verbatim.IsRefusal language payload error)
    (hother : verbatim.IsRefusal language payload other) : error = other := by
  cases h with
  | opening sequence first =>
      cases hother with
      | opening sequence' first' => rw [first.eq first']
      | inside offset' sequence' no_opening' => exact absurd first.1 (no_opening' _ first.mem)
  | inside offset sequence no_opening first least =>
      cases hother with
      | opening sequence' first' => exact absurd first'.1 (no_opening _ first'.mem)
      | inside offset' sequence' no_opening' first' least' =>
          rcases Nat.lt_trichotomy offset offset' with hlt | rfl | hgt
          · exact absurd first.1 (least' _ first.mem offset hlt)
          · rw [first.eq first']
          · exact absurd first'.1 (least _ first'.mem offset' hgt)

theorem write_eq_error_iff :
    verbatim.write language payload = .error error ↔
      verbatim.IsRefusal language payload error := by
  constructor
  · exact isRefusal_of_write
  · intro h
    cases hwrite : verbatim.write language payload with
    | ok source =>
        obtain ⟨hopens, -⟩ := write_eq_ok_iff.1 hwrite
        cases hopens.symm.trans h.opensCode
    | error error' => rw [(isRefusal_of_write hwrite).eq h]

end Verbatim

namespace Quoting

/-- Plain text is written just when it is read back, and then it is its own source. Any other
payload is refused with the earliest forbidden sequence in it, where openings count as
earlier than all others and the list decides between sequences at the same place. -/
theorem verbatim_refuses_earliest (verbatim : Verbatim) (language payload : Text) :
    ((Quoting.verbatim verbatim).write language (Utf8.encode payload) = .ok payload ↔
      (Quoting.verbatim verbatim).read payload = .ok (Utf8.encode payload)) ∧
    (∀ source, (Quoting.verbatim verbatim).write language (Utf8.encode payload) = .ok source →
      source = payload) ∧
    ∀ error, (Quoting.verbatim verbatim).write language (Utf8.encode payload) = .error error ↔
      verbatim.IsRefusal language payload error := by
  have hwrite : (Quoting.verbatim verbatim).write language (Utf8.encode payload)
      = verbatim.write language payload := by
    rw [write, asText_eq_ok_iff.2 rfl]
    rfl
  have hread : (Quoting.verbatim verbatim).read payload = .ok (Utf8.encode payload) ↔
      verbatim.opensCode payload = false := by
    rw [read, Verbatim.read]
    cases verbatim.opensCode payload <;> simp [Except.map]
  rw [hwrite, hread]
  refine ⟨?_, ?_, fun error => Verbatim.write_eq_error_iff⟩
  · rw [Verbatim.write_eq_ok_iff]
    exact and_iff_left rfl
  · intro source hsource
    exact (Verbatim.write_eq_ok_iff.1 hsource).2

/-- Of two sequences at the place of the second character, whose byte is the third, the
first of the list is reported. -/
example : (⟨["?>", "<", "<?"], []⟩ : Verbatim).write "T" "é<?>"
    = .error (.forbiddenSequence "T" 2 "<") := rfl

end Quoting

end QuineRelay
