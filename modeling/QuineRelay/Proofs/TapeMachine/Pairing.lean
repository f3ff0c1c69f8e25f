import QuineRelay.Proofs.TapeMachine.Brackets

/-!
# How the brackets of a program are paired

The brackets are paired by one scan with a stack. It succeeds on balanced programs and on no
others. The invariant is about the scanned front of the program: the stack holds the places of
the brackets that are still open there, with balanced code between one and the next, every
other bracket of the front has its partner, and the table leads from each to the other. One
lemma says what a byte does to it, with a case for each kind of byte. At the end no bracket is
open, and the table is the one pairing of the program.
-/

namespace QuineRelay.TapeMachine

/-- The places of the brackets that are open after a front, innermost first. -/
inductive OpenAt : (front : Bytes) → (opened : List Nat) → Prop
  | outside {front : Bytes} (h : Balanced front) : OpenAt front []
  | inside {front inner : Bytes} {outer : List Nat} (h : OpenAt front outer)
      (hinner : Balanced inner) : OpenAt (front ++ loopStart :: inner) (front.length :: outer)

/-- The table that leads from each of two places to the other, and else where it led before. -/
def join (jump : Array Nat) (first last : Nat) : Array Nat :=
  (jump.setIfInBounds first last).setIfInBounds last first

/-- The table leads from each of two places to the other. -/
structure Joined (jump : Array Nat) (first last : Nat) : Prop where
  forth : jump[first]? = some last
  back : jump[last]? = some first

/-- What holds after a front of a program was scanned. -/
structure Scanned (front : Bytes) (opened : List Nat) (jump : Array Nat) : Prop where
  openAt : OpenAt front opened
  lt_size : ∀ target ∈ jump, target < jump.size
  opening : ∀ first, front[first]? = some loopStart →
    first ∈ opened ∨ ∃ last, Partners front first last ∧ Joined jump first last
  closing : ∀ last, front[last]? = some loopEnd →
    ∃ first, Partners front first last ∧ Joined jump first last

variable {front rest code : Bytes} {opened outer : List Nat} {jump paired : Array Nat}
  {first last start index : Nat} {b c : UInt8}

/-! ## When the scan succeeds -/

/-- The scan counts: it succeeds when the depth of open brackets ends at zero. -/
theorem isSome_pairBracketsFrom_iff :
    (pairBracketsFrom index opened jump rest).isSome ↔
      Text.depthAfter? opened.length (rest.map parenthesis) = some 0 := by
  fun_induction pairBracketsFrom index opened jump rest with
  | case1 index opened jump hopened => simp [List.isEmpty_iff.1 hopened]
  | case2 index opened jump hopened =>
      simpa [List.isEmpty_iff] using hopened
  | case3 index opened jump rest ih =>
      rw [ih, List.map_cons, Text.depthAfter?_cons]
      rfl
  | case4 index jump rest =>
      rw [List.map_cons, Text.depthAfter?_cons]
      simp [Text.nest?, parenthesis, loopStart, loopEnd]
  | case5 index jump rest start outer _ ih =>
      rw [ih, List.map_cons, Text.depthAfter?_cons]
      rfl
  | case6 index opened jump b rest hstart hend ih =>
      rw [ih, List.map_cons, Text.depthAfter?_cons, parenthesis, if_neg hstart, if_neg hend]
      rfl

/-- The brackets of a program are paired just when they are balanced. -/
theorem pairBrackets_eq_none_iff : pairBrackets code = none ↔ ¬ Balanced code := by
  rw [balanced_iff_depth, pairBrackets, ← Option.not_isSome_iff_eq_none,
    isSome_pairBracketsFrom_iff]
  rfl

/-! ## The brackets that are open -/

namespace OpenAt

/-- Balanced code opens nothing, and closes nothing that was open. -/
theorem append (h : OpenAt front opened) {more : Bytes} (hmore : Balanced more) :
    OpenAt (front ++ more) opened := by
  cases h with
  | outside h => exact .outside (h.append hmore)
  | inside h hinner =>
      rw [List.append_assoc, List.cons_append]
      exact .inside h (hinner.append hmore)

/-- A closing bracket is the partner of the innermost open one. -/
theorem partners (h : OpenAt front (start :: outer)) :
    Partners (front ++ [loopEnd]) start front.length := by
  cases h with
  | @inside before inner _ h hinner =>
      refine ⟨by simp, by simp, List.getElem?_concat_length, ?_⟩
      rw [between_append (Nat.le_refl _), between_length]
      exact hinner

/-- The innermost open bracket is closed. -/
theorem close (h : OpenAt front (start :: outer)) : OpenAt (front ++ [loopEnd]) outer := by
  cases h with
  | inside h hinner =>
      rw [List.append_assoc, List.cons_append]
      exact h.append hinner.loop

/-- The innermost open bracket has no partner yet. -/
theorem not_partners (h : OpenAt front (start :: outer)) : ¬ Partners front start last := by
  intro hpartners
  cases h with
  | @inside before inner _ h hinner =>
      have hcut := between_eq_append hpartners.lt hpartners.last_lt_length hpartners.closing
      rw [between_length] at hcut
      exact hpartners.balanced.not_append_loopEnd _ (hcut ▸ hinner)

end OpenAt

/-! ## The table -/

theorem getElem?_concat_eq_some (h : (front ++ [b])[index]? = some c) :
    front[index]? = some c ∨ (index = front.length ∧ b = c) := by
  rw [List.getElem?_append] at h
  split at h
  · exact .inl h
  · have hindex : index - front.length < 1 := (List.getElem?_eq_some_iff.1 h).1
    obtain rfl : index = front.length := by omega
    rw [Nat.sub_self] at h
    exact .inr ⟨rfl, Option.some.inj h⟩

@[simp]
theorem size_join : (join jump start index).size = jump.size := by
  rw [join, Array.size_setIfInBounds, Array.size_setIfInBounds]

theorem mem_join {target : Nat} (h : target ∈ join jump start index) :
    target ∈ jump ∨ target = start ∨ target = index := by
  rcases Array.mem_or_eq_of_mem_setIfInBounds h with h | rfl
  · exact (Array.mem_or_eq_of_mem_setIfInBounds h).imp_right .inr
  · exact .inr (.inl rfl)

theorem getElem?_join_of_ne {place : Nat} (hstart : place ≠ start) (hindex : place ≠ index) :
    (join jump start index)[place]? = jump[place]? := by
  rw [join, Array.getElem?_setIfInBounds, if_neg hindex.symm, Array.getElem?_setIfInBounds,
    if_neg hstart.symm]

theorem joined_join (hne : start ≠ index) (hstart : start < jump.size)
    (hindex : index < jump.size) : Joined (join jump start index) start index where
  forth := by
    rw [join, Array.getElem?_setIfInBounds, if_neg hne.symm, Array.getElem?_setIfInBounds,
      if_pos rfl, if_pos hstart]
  back := by
    rw [join, Array.getElem?_setIfInBounds, if_pos rfl, Array.size_setIfInBounds, if_pos hindex]

/-- Partners stay joined when the innermost open bracket is closed: neither is that bracket,
which has no partner yet, nor the one that closes it. -/
theorem Joined.leave (hjoined : Joined jump first last) (hpartners : Partners front first last)
    (hopen : OpenAt front (start :: outer)) : Joined (join jump start front.length) first last := by
  have hlast := hpartners.last_lt_length
  have hfirst := Nat.lt_trans hpartners.lt hlast
  have hfirst_ne : first ≠ start := by
    rintro rfl
    exact hopen.not_partners hpartners
  have hlast_ne : last ≠ start := by
    rintro rfl
    have hopening := hopen.partners.opening
    rw [List.getElem?_append_left hlast, hpartners.closing] at hopening
    exact absurd hopening (by decide)
  constructor
  · rw [getElem?_join_of_ne hfirst_ne (Nat.ne_of_lt hfirst), hjoined.forth]
  · rw [getElem?_join_of_ne hlast_ne (Nat.ne_of_lt hlast), hjoined.back]

namespace Scanned

/-- Nothing is scanned yet. -/
theorem nil (size : Nat) : Scanned [] [] (Array.replicate size 0) where
  openAt := .outside .nil
  lt_size := by
    intro target htarget
    obtain ⟨hsize, rfl⟩ := Array.mem_replicate.1 htarget
    rw [Array.size_replicate]
    exact Nat.pos_of_ne_zero hsize
  opening := by simp
  closing := by simp

theorem opening_append (h : Scanned front opened jump) (hfirst : front[first]? = some loopStart)
    (more : Bytes) :
    first ∈ opened ∨ ∃ last, Partners (front ++ more) first last ∧ Joined jump first last := by
  rcases h.opening first hfirst with hopened | ⟨last, hpartners, hjoined⟩
  · exact .inl hopened
  · exact .inr ⟨last, hpartners.append more, hjoined⟩

theorem closing_append (h : Scanned front opened jump) (hlast : front[last]? = some loopEnd)
    (more : Bytes) : ∃ first, Partners (front ++ more) first last ∧ Joined jump first last := by
  obtain ⟨first, hpartners, hjoined⟩ := h.closing last hlast
  exact ⟨first, hpartners.append more, hjoined⟩

/-- A byte that is no bracket is passed over. -/
theorem pass (h : Scanned front opened jump) (hstart : b ≠ loopStart) (hend : b ≠ loopEnd) :
    Scanned (front ++ [b]) opened jump where
  openAt := h.openAt.append (.singleton hstart hend)
  lt_size := h.lt_size
  opening := by
    intro first hfirst
    rcases getElem?_concat_eq_some hfirst with hfirst | ⟨-, hb⟩
    · exact h.opening_append hfirst _
    · exact absurd hb hstart
  closing := by
    intro last hlast
    rcases getElem?_concat_eq_some hlast with hlast | ⟨-, hb⟩
    · exact h.closing_append hlast _
    · exact absurd hb hend

/-- An opening bracket waits for its partner. -/
theorem enter (h : Scanned front opened jump) :
    Scanned (front ++ [loopStart]) (front.length :: opened) jump where
  openAt := .inside h.openAt .nil
  lt_size := h.lt_size
  opening := by
    intro first hfirst
    rcases getElem?_concat_eq_some hfirst with hfirst | ⟨rfl, -⟩
    · exact (h.opening_append hfirst _).imp_left (List.mem_cons_of_mem _)
    · exact .inl List.mem_cons_self
  closing := by
    intro last hlast
    rcases getElem?_concat_eq_some hlast with hlast | ⟨-, hb⟩
    · exact h.closing_append hlast _
    · exact absurd hb (by decide)

/-- A closing bracket is joined to the innermost open one. -/
theorem leave (h : Scanned front (start :: outer) jump) (hsize : front.length < jump.size) :
    Scanned (front ++ [loopEnd]) outer (join jump start front.length) := by
  have hnew : Partners (front ++ [loopEnd]) start front.length := h.openAt.partners
  have hstart : start < jump.size := Nat.lt_trans hnew.lt hsize
  have hjoin := joined_join (Nat.ne_of_lt hnew.lt) hstart hsize
  refine ⟨h.openAt.close, fun target htarget => ?_, fun first hfirst => ?_, fun last hlast => ?_⟩
  · rw [size_join]
    rcases mem_join htarget with htarget | rfl | rfl
    · exact h.lt_size target htarget
    · exact hstart
    · exact hsize
  · rcases getElem?_concat_eq_some hfirst with hfirst | ⟨-, hb⟩
    · rcases h.opening first hfirst with hopened | ⟨last, hpartners, hjoined⟩
      · rcases List.mem_cons.1 hopened with rfl | houter
        · exact .inr ⟨front.length, hnew, hjoin⟩
        · exact .inl houter
      · exact .inr ⟨last, hpartners.append _, hjoined.leave hpartners h.openAt⟩
    · exact absurd hb (by decide)
  · rcases getElem?_concat_eq_some hlast with hlast | ⟨rfl, -⟩
    · obtain ⟨first, hpartners, hjoined⟩ := h.closing last hlast
      exact ⟨first, hpartners.append _, hjoined.leave hpartners h.openAt⟩
    · exact ⟨start, hnew, hjoin⟩

/-- The rest of the program is scanned, and nothing is open at the end of it. -/
theorem run (h : Scanned front opened jump) (hindex : front.length = index)
    (hsize : index + rest.length = jump.size)
    (hpaired : pairBracketsFrom index opened jump rest = some paired) :
    Scanned (front ++ rest) [] paired ∧ paired.size = jump.size := by
  fun_induction pairBracketsFrom index opened jump rest generalizing front with
  | case1 index opened jump hopened =>
      obtain rfl := Option.some.inj hpaired
      rw [List.append_nil, ← List.isEmpty_iff.1 hopened]
      exact ⟨h, rfl⟩
  | case2 => cases hpaired
  | case3 index opened jump rest ih =>
      subst hindex
      rw [List.length_cons] at hsize
      have hrun := ih h.enter List.length_append (by omega) hpaired
      rwa [List.append_assoc] at hrun
  | case4 => cases hpaired
  | case5 index jump rest start outer _ ih =>
      subst hindex
      rw [List.length_cons] at hsize
      have hsize' : front.length + 1 + rest.length = (join jump start front.length).size := by
        rw [size_join]
        omega
      have hrun := ih (h.leave (by omega)) List.length_append hsize' hpaired
      rw [List.append_assoc] at hrun
      exact ⟨hrun.1, hrun.2.trans size_join⟩
  | case6 index opened jump b rest hstart hend ih =>
      subst hindex
      rw [List.length_cons] at hsize
      have hrun := ih (h.pass hstart hend) List.length_append (by omega) hpaired
      rwa [List.append_assoc] at hrun

end Scanned

/-- A program whose brackets are paired was scanned to its end. -/
theorem scanned_of_pairBrackets (h : pairBrackets code = some jump) :
    Scanned code [] jump ∧ jump.size = code.length := by
  have hrun := (Scanned.nil code.length).run rfl (by simp) h
  rwa [Array.size_replicate] at hrun

/-! ## The table as a pairing -/

namespace Scanned

theorem partners_of_opening (h : Scanned code [] jump) (hfirst : code[first]? = some loopStart) :
    ∃ last, Partners code first last ∧ Joined jump first last :=
  (h.opening first hfirst).resolve_left List.not_mem_nil

/-- The table leads from a bracket that opens to its partner. -/
theorem partners_iff (h : Scanned code [] jump) :
    Partners code first last ↔ code[first]? = some loopStart ∧ jump[first]? = some last := by
  constructor
  · intro hpartners
    obtain ⟨last', hpartners', hjoined⟩ := h.partners_of_opening hpartners.opening
    obtain rfl := hpartners.last_unique hpartners'
    exact ⟨hpartners.opening, hjoined.forth⟩
  · rintro ⟨hfirst, hjump⟩
    obtain ⟨last', hpartners, hjoined⟩ := h.partners_of_opening hfirst
    obtain rfl := Option.some.inj (hjoined.forth.symm.trans hjump)
    exact hpartners

/-- The partners are a pairing of the program. -/
theorem isNesting_partners (h : Scanned code [] jump) : IsNesting code (Partners code) where
  lt := Partners.lt
  opening := Partners.opening
  closing := Partners.closing
  exists_last := fun hfirst => (h.partners_of_opening hfirst).imp fun _ => And.left
  exists_first := fun hlast => (h.closing _ hlast).imp fun _ => And.left
  last_unique := Partners.last_unique
  first_unique := Partners.first_unique
  not_crossing := Partners.last_lt

/-- The table is the one pairing of the program. -/
theorem isNesting_iff (h : Scanned code [] jump) {pairs : Nat → Nat → Prop} :
    IsNesting code pairs ↔
      ∀ first last, pairs first last ↔
        code[first]? = some loopStart ∧ jump[first]? = some last := by
  simp only [← h.partners_iff]
  constructor
  · exact fun hpairs first last => hpairs.unique h.isNesting_partners
  · intro hall
    obtain rfl : pairs = Partners code := funext₂ fun first last => propext (hall first last)
    exact h.isNesting_partners

end Scanned

end QuineRelay.TapeMachine
