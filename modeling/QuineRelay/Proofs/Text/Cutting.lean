import QuineRelay.Text.Split

/-!
# Cutting and joining

The laws of the operations that take a text apart. A search reports the first
place, a cut at a part that stands nowhere further left finds it, splitting undoes
joining, and no cut into lines or chunks loses a character. The chunks of a text
also give an induction along the text, one chunk at a time.
-/

namespace QuineRelay.Text

/-! ## Searching -/

/-- The search reports the first place at which the part stands. -/
theorem positionFrom?_eq_some_iff {part text : Text} {start i : Nat} :
    positionFrom? part start text = some i ↔
      ∃ k, i = start + k ∧ k ≤ text.length ∧ part <+: text.drop k ∧
        ∀ j < k, ¬ part <+: text.drop j := by
  induction text generalizing start with
  | nil =>
      cases part with
      | nil =>
          refine ⟨fun h => ⟨0, by simpa [positionFrom?] using h.symm, by simp⟩, ?_⟩
          rintro ⟨k, rfl, hk, -⟩
          simp_all [positionFrom?]
      | cons a part => simp [positionFrom?]
  | cons c rest ih =>
      rw [positionFrom?]
      by_cases hfit : part <+: c :: rest
      · rw [if_pos (List.isPrefixOf_iff_prefix.2 hfit)]
        constructor
        · intro h
          exact ⟨0, by simpa using h.symm, Nat.zero_le _, hfit, fun j hj => absurd hj (by omega)⟩
        · rintro ⟨k, rfl, -, -, hleast⟩
          cases k with
          | zero => rfl
          | succ k => exact absurd hfit (hleast 0 (by omega))
      · rw [if_neg fun h => hfit (List.isPrefixOf_iff_prefix.1 h), ih]
        constructor
        · rintro ⟨k, rfl, hlength, hk, hleast⟩
          refine ⟨k + 1, by omega, by simpa using hlength, hk, fun j hj => ?_⟩
          cases j with
          | zero => exact hfit
          | succ j => exact hleast j (by omega)
        · rintro ⟨k, rfl, hlength, hk, hleast⟩
          cases k with
          | zero => exact absurd hk hfit
          | succ k =>
              exact ⟨k, by omega, by simpa using hlength, hk,
                fun j hj => hleast (j + 1) (by omega)⟩

theorem position?_eq_some_iff {part text : Text} {i : Nat} :
    position? part text = some i ↔
      i ≤ text.length ∧ part <+: text.drop i ∧ ∀ j < i, ¬ part <+: text.drop j := by
  rw [position?, positionFrom?_eq_some_iff]
  constructor
  · rintro ⟨k, rfl, h⟩
    rwa [Nat.zero_add]
  · exact fun h => ⟨i, (Nat.zero_add i).symm, h⟩

/-- A part is found just when it stands somewhere. -/
theorem holds_iff {part text : Text} : holds part text = true ↔ part <:+: text := by
  have general (start : Nat) : (positionFrom? part start text).isSome = true ↔ part <:+: text := by
    induction text generalizing start with
    | nil =>
        rw [positionFrom?, List.infix_nil]
        cases part <;> simp
    | cons c rest ih =>
        rw [positionFrom?, List.infix_cons_iff, ← List.isPrefixOf_iff_prefix]
        split
        · rename_i hfit
          simp [hfit]
        · rename_i hfit
          rw [ih]
          simp [hfit]
  exact general 0

/-- A text is cut at a part that stands nowhere further left. -/
theorem cutAt?_append {part front back : Text}
    (h : ∀ j < front.length, ¬ part <+: (front ++ (part ++ back)).drop j) :
    cutAt? part (front ++ (part ++ back)) = some (front, back) := by
  have hposition : position? part (front ++ (part ++ back)) = some front.length := by
    refine position?_eq_some_iff.2 ⟨by simp, ?_, h⟩
    rw [List.drop_left]
    exact List.prefix_append part back
  rw [cutAt?, hposition, Option.map_some, List.take_left, ← List.append_assoc,
    ← List.length_append, List.drop_left]

/-- A part whose first character does not stand further left is found. -/
theorem cutAt?_append_of_notMem {c : Char} {part front back : Text} (h : c ∉ front) :
    cutAt? (c :: part) (front ++ (c :: part ++ back)) = some (front, back) := by
  refine cutAt?_append fun j hj hfit => h ?_
  rw [List.drop_append_of_le_length (Nat.le_of_lt hj), List.drop_eq_getElem_cons hj] at hfit
  obtain ⟨hc, -⟩ := List.cons_prefix_cons.1 hfit
  exact hc ▸ List.getElem_mem hj

/-! ## Joining and splitting -/

@[simp]
theorem join_nil (separator : Text) : join separator [] = [] := rfl

theorem join_cons (separator part : Text) (parts : List Text) :
    join separator (part :: parts) = part ++ parts.flatMap fun next => separator ++ next := by
  induction parts generalizing part with
  | nil => simp [join]
  | cons next parts ih =>
      have hstep : join separator (part :: next :: parts)
          = part ++ (separator ++ join separator (next :: parts)) := by
        simp [join, List.intersperse]
      rw [hstep, ih, List.flatMap_cons, List.append_assoc]

theorem mem_join {separator : Text} {parts : List Text} {c : Char} (h : c ∈ join separator parts) :
    c ∈ separator ∨ ∃ part ∈ parts, c ∈ part := by
  cases parts with
  | nil => simp at h
  | cons part parts =>
      rw [join_cons, List.mem_append, List.mem_flatMap] at h
      rcases h with hpart | ⟨next, hnext, hc⟩
      · exact .inr ⟨part, List.mem_cons_self, hpart⟩
      · rcases List.mem_append.1 hc with hc | hc
        · exact .inl hc
        · exact .inr ⟨next, List.mem_cons_of_mem _ hnext, hc⟩

theorem splitFrom_append {mark : Char} {front : Text} (h : mark ∉ front) (part : Text)
    (done : List Text) (back : Text) :
    splitFrom mark part done (front ++ back)
      = splitFrom mark (front.reverse ++ part) done back := by
  induction front generalizing part with
  | nil => rfl
  | cons c front ih =>
      obtain ⟨hc, hfront⟩ := not_or.1 (fun hmem => h (List.mem_cons.2 hmem))
      rw [List.cons_append, splitFrom, if_neg (Ne.symm hc), ih hfront]
      simp

/-- Splitting undoes joining when the mark stands in none of the parts. -/
theorem splitOn_join {mark : Char} {part : Text} {parts : List Text}
    (h : ∀ p ∈ part :: parts, mark ∉ p) :
    splitOn mark (join [mark] (part :: parts)) = part :: parts := by
  have general (first : Text) (rest : List Text) (done : List Text)
      (h : ∀ p ∈ first :: rest, mark ∉ p) :
      splitFrom mark [] done (first ++ rest.flatMap fun next => [mark] ++ next)
        = done.reverse ++ first :: rest := by
    induction rest generalizing first done with
    | nil =>
        rw [List.flatMap_nil, splitFrom_append (h first (by simp))]
        simp [splitFrom]
    | cons next rest ih =>
        rw [splitFrom_append (h first (by simp)), List.flatMap_cons, List.append_assoc,
          List.singleton_append, splitFrom, if_pos rfl,
          ih next _ fun p hp => h p (List.mem_cons_of_mem _ hp)]
        simp
  rw [splitOn, join_cons, general part parts [] h]
  rfl

section

variable {mark : Char}

theorem splitFrom_eq (part : Text) (done : List Text) (text : Text) :
    splitFrom mark part done text = done.reverse ++ splitFrom mark part [] text := by
  induction text generalizing part done with
  | nil => simp [splitFrom]
  | cons c rest ih =>
      rw [splitFrom, splitFrom]
      split
      · rw [ih, ih [] [part.reverse]]
        simp
      · rw [ih]

theorem splitOn_ne_nil (mark : Char) (text : Text) : splitOn mark text ≠ [] := by
  have general (part : Text) : splitFrom mark part [] text ≠ [] := by
    induction text generalizing part with
    | nil => simp [splitFrom]
    | cons c rest ih =>
        rw [splitFrom]
        split
        · rw [splitFrom_eq]
          simp
        · exact ih (c :: part)
  exact general []

/-- A mark ends a part, and what follows it is split alike. -/
theorem splitOn_append_cons (front back : Text) :
    splitOn mark (front ++ mark :: back) = splitOn mark front ++ splitOn mark back := by
  have general (part : Text) (done : List Text) :
      splitFrom mark part done (front ++ mark :: back)
        = splitFrom mark part done front ++ splitOn mark back := by
    induction front generalizing part done with
    | nil =>
        have hmark : splitFrom mark part done (mark :: back)
            = splitFrom mark [] (part.reverse :: done) back := if_pos rfl
        rw [List.nil_append, hmark, splitFrom_eq]
        rfl
    | cons c front ih =>
        rw [List.cons_append, splitFrom, splitFrom]
        split
        · exact ih [] _
        · exact ih _ done
  exact general [] []

/-- The parts of a text stand in it. -/
theorem isInfix_of_mem_splitOn {part text : Text} (h : part ∈ splitOn mark text) :
    part <:+: text := by
  have general (text first : Text) (h : part ∈ splitFrom mark first [] text) :
      part <:+: first.reverse ++ text := by
    induction text generalizing first with
    | nil =>
        obtain rfl := List.mem_singleton.1 h
        exact (List.prefix_append _ _).isInfix
    | cons c rest ih =>
        rw [splitFrom] at h
        split at h
        · rw [splitFrom_eq] at h
          rcases List.mem_append.1 h with hpart | hpart
          · obtain rfl := List.mem_singleton.1 hpart
            exact (List.prefix_append _ _).isInfix
          · exact (ih [] hpart).trans ((List.suffix_cons c rest).isInfix.trans
              (List.suffix_append _ _).isInfix)
        · have := ih (c :: first) h
          rwa [List.reverse_cons, List.append_assoc, List.singleton_append] at this
  exact general text [] h

/-- What is added at the end of a text is added to its last part. -/
theorem mem_splitOn_append {part front back : Text} (hback : mark ∉ back)
    (h : part ∈ splitOn mark (front ++ back)) :
    part ∈ splitOn mark front ∨ ∃ last ∈ splitOn mark front, part = last ++ back := by
  have general (front first : Text) (h : part ∈ splitFrom mark first [] (front ++ back)) :
      part ∈ splitFrom mark first [] front ∨
        ∃ last ∈ splitFrom mark first [] front, part = last ++ back := by
    induction front generalizing first with
    | nil =>
        have hsplit := splitFrom_append hback first [] []
        rw [List.append_nil] at hsplit
        rw [List.nil_append, hsplit, splitFrom] at h
        refine .inr ⟨first.reverse, by simp [splitFrom], ?_⟩
        simpa using h
    | cons c front ih =>
        rw [List.cons_append, splitFrom] at h
        rw [splitFrom]
        split at h
        · rename_i hmark
          rw [splitFrom_eq] at h
          rw [if_pos hmark, splitFrom_eq]
          rcases List.mem_append.1 h with hpart | hpart
          · exact .inl (List.mem_append_left _ hpart)
          · rcases ih [] hpart with hfront | ⟨last, hlast, rfl⟩
            · exact .inl (List.mem_append_right _ hfront)
            · exact .inr ⟨last, List.mem_append_right _ hlast, rfl⟩
        · rename_i hmark
          rw [if_neg hmark]
          exact ih (c :: first) h
  exact general front [] h

end

/-! ## Replacing -/

section

variable {mark : Char} {front back first tail : Text}

/-- A part with a mark stands nowhere in a text without it, nor does it begin in such a text
before another part. -/
theorem not_prefix_append (hfront : mark ∉ front) (hne : first ≠ []) (hfirst : mark ∉ first)
    (htail : tail = [] ∨ front ++ mark :: back <+: tail) :
    ¬ front ++ mark :: back <+: first ++ tail := by
  intro hfit
  rcases htail with rfl | ⟨rest, rfl⟩
  · rw [List.append_nil] at hfit
    exact hfirst (hfit.subset (by simp))
  · -- Both begin with the same text up to the first mark.
    have hbefore (text : Text) (h : mark ∉ text) (after : Text) :
        (text ++ mark :: after).takeWhile (· ≠ mark) = text := by
      rw [List.takeWhile_append_of_pos, List.takeWhile_cons_of_neg, List.append_nil]
      · simp
      · intro c hc
        simpa using ne_of_mem_of_not_mem hc h
    obtain ⟨more, hmore⟩ := hfit
    have heq : front ++ mark :: (back ++ more) = first ++ front ++ mark :: (back ++ rest) := by
      simpa using hmore
    have hstart := hbefore front hfront (back ++ more)
    rw [heq, hbefore _ (by simp [hfirst, hfront])] at hstart
    exact hne (List.self_eq_append_left.1 hstart.symm)

theorem replaceFrom_append (hfront : mark ∉ front) (hfirst : mark ∉ first)
    (htail : tail = [] ∨ front ++ mark :: back <+: tail) (new done : Text) :
    replaceFrom (front ++ mark :: back) new done (first ++ tail)
      = replaceFrom (front ++ mark :: back) new (first.reverse ++ done) tail := by
  induction first generalizing done with
  | nil => rfl
  | cons c first ih =>
      have hno := not_prefix_append hfront (List.cons_ne_nil c first) hfirst htail
      rw [List.cons_append] at hno ⊢
      rw [replaceFrom, if_neg, ih fun hmem => hfirst (List.mem_cons_of_mem c hmem)]
      · simp
      · simpa [List.isPrefixOf_iff_prefix] using hno

theorem replaceFrom_part_append {part : Text} (hpart : part ≠ []) (new done rest : Text) :
    replaceFrom part new done (part ++ rest) = replaceFrom part new (new.reverse ++ done) rest := by
  obtain ⟨c, part, rfl⟩ := List.exists_cons_of_ne_nil hpart
  rw [List.cons_append, replaceFrom, if_pos]
  · rw [List.length_cons, Nat.add_sub_cancel, List.drop_left]
  · simp

/-- Where a separator with a mark joins texts without that mark, replacing it gives the texts
joined by what replaces it. -/
theorem replaceAll_join {part : Text} {parts : List Text} (hfront : mark ∉ front)
    (h : ∀ p ∈ part :: parts, mark ∉ p) (new : Text) :
    replaceAll (front ++ mark :: back) new (join (front ++ mark :: back) (part :: parts))
      = join new (part :: parts) := by
  have general (parts : List Text) (done part : Text) (h : ∀ p ∈ part :: parts, mark ∉ p) :
      replaceFrom (front ++ mark :: back) new done
          (part ++ parts.flatMap fun next => front ++ mark :: back ++ next)
        = done.reverse ++ (part ++ parts.flatMap fun next => new ++ next) := by
    induction parts generalizing done part with
    | nil =>
        rw [List.flatMap_nil, replaceFrom_append hfront (h part (by simp)) (.inl rfl), replaceFrom]
        simp
    | cons next parts ih =>
        obtain ⟨hpart, hparts⟩ := List.forall_mem_cons.1 h
        rw [List.flatMap_cons, List.append_assoc,
          replaceFrom_append hfront hpart (.inr (List.prefix_append _ _)),
          replaceFrom_part_append (by simp), ih _ next hparts]
        simp
  rw [replaceAll, join_cons, join_cons, general parts [] part h]
  rfl

end

/-! ## Lines -/

theorem flatten_keptLinesFrom (line : Text) (done : List Text) (text : Text) :
    (keptLinesFrom line done text).flatten = done.reverse.flatten ++ line.reverse ++ text := by
  fun_induction keptLinesFrom line done text with
  | case1 line done hline =>
      rw [List.isEmpty_iff.1 hline]
      simp
  | case2 => simp
  | case3 line done rest ih =>
      rw [ih]
      simp
  | case4 line done c rest hc ih => simp [ih]

/-- The lines of a text, put together, are the text. -/
@[simp]
theorem flatten_keptLines (text : Text) : (keptLines text).flatten = text := by
  simp [keptLines, flatten_keptLinesFrom]

theorem keptLinesFrom_append {front : Text} (h : '\n' ∉ front) (line : Text) (done : List Text)
    (back : Text) :
    keptLinesFrom line done (front ++ back) = keptLinesFrom (front.reverse ++ line) done back := by
  induction front generalizing line with
  | nil => rfl
  | cons c front ih =>
      obtain ⟨hc, hfront⟩ := not_or.1 (fun hmem => h (List.mem_cons.2 hmem))
      rw [List.cons_append, keptLinesFrom, if_neg (Ne.symm hc), ih hfront]
      simp

theorem keptLinesFrom_eq (line : Text) (done : List Text) (text : Text) :
    keptLinesFrom line done text = done.reverse ++ keptLinesFrom line [] text := by
  induction text generalizing line done with
  | nil =>
      rw [keptLinesFrom, keptLinesFrom]
      split <;> simp
  | cons c rest ih =>
      rw [keptLinesFrom, keptLinesFrom]
      split
      · rw [ih, ih [] [_]]
        simp
      · exact ih (c :: line) done

theorem keptLines_nil : keptLines [] = [] := rfl

/-- The first newline ends the first line, and the rest is cut alike. -/
theorem keptLines_append_cons {body : Text} (h : '\n' ∉ body) (back : Text) :
    keptLines (body ++ '\n' :: back) = (body ++ ['\n']) :: keptLines back := by
  rw [keptLines, keptLinesFrom_append h, keptLinesFrom, if_pos rfl, keptLinesFrom_eq]
  simp [keptLines]

/-- Without a newline there is one line, unless there is nothing. -/
theorem keptLines_of_notMem {text : Text} (hne : text ≠ []) (h : '\n' ∉ text) :
    keptLines text = [text] := by
  have hone := keptLinesFrom_append h [] [] []
  rw [List.append_nil, List.append_nil] at hone
  rw [keptLines, hone, keptLinesFrom, List.isEmpty_reverse, List.isEmpty_eq_false_iff.2 hne]
  simp

/-- Induction along the lines of a text: what is left behind its first newline, down to a
text without one. -/
theorem line_induction {motive : Text → Prop} (last : ∀ text, '\n' ∉ text → motive text)
    (line : ∀ body back, '\n' ∉ body → motive back → motive (body ++ '\n' :: back))
    (text : Text) : motive text := by
  induction hn : text.length using Nat.strongRecOn generalizing text with
  | ind n ih =>
      by_cases h : '\n' ∈ text
      · obtain ⟨body, back, rfl, hbody⟩ := List.eq_append_cons_of_mem h
        apply line body back hbody
        apply ih back.length _ back rfl
        rw [← hn, List.length_append, List.length_cons]
        omega
      · exact last text h

/-- Lines with their newlines. A newline ends its line, so it stands nowhere else in it; only
the last line may be without one, but it is not empty. -/
structure AreLines (pieces : List Text) : Prop where
  ne_nil : ∀ piece ∈ pieces, piece ≠ []
  notMem_dropLast : ∀ piece ∈ pieces, '\n' ∉ piece.dropLast
  getLast?_eq : ∀ piece ∈ pieces.dropLast, piece.getLast? = some '\n'

theorem areLines_keptLines (text : Text) : AreLines (keptLines text) := by
  induction text using line_induction with
  | last text h =>
      by_cases hne : text = []
      · rw [hne, keptLines_nil]
        exact ⟨by simp, by simp, by simp⟩
      · rw [keptLines_of_notMem hne h]
        exact ⟨by simpa using hne, by simpa using fun hmem => h ((List.dropLast_subset text) hmem),
          by simp⟩
  | line body back hbody ih =>
      rw [keptLines_append_cons hbody]
      refine ⟨List.forall_mem_cons.2 ⟨by simp, ih.ne_nil⟩,
        List.forall_mem_cons.2 ⟨by simpa using hbody, ih.notMem_dropLast⟩, ?_⟩
      cases hlines : keptLines back with
      | nil => simp
      | cons line more =>
          rw [hlines] at ih
          rw [List.dropLast_cons_of_ne_nil (List.cons_ne_nil line more)]
          exact List.forall_mem_cons.2 ⟨by simp, ih.getLast?_eq⟩

/-- A text has no other lines. -/
theorem AreLines.eq_keptLines {pieces : List Text} (h : AreLines pieces) :
    keptLines pieces.flatten = pieces := by
  induction pieces with
  | nil => rfl
  | cons piece pieces ih =>
      obtain ⟨hne, hpieces⟩ := List.forall_mem_cons.1 h.ne_nil
      obtain ⟨hbody, hbodies⟩ := List.forall_mem_cons.1 h.notMem_dropLast
      have hpiece : piece.dropLast ++ [piece.getLast hne] = piece :=
        List.dropLast_concat_getLast hne
      by_cases hnewline : piece.getLast hne = '\n'
      · -- The line is whole, so the others are the lines of what follows it.
        have hrest : AreLines pieces := by
          refine ⟨hpieces, hbodies, fun p hp => h.getLast?_eq p ?_⟩
          rw [List.dropLast_cons_of_ne_nil (List.ne_nil_of_mem (List.dropLast_subset pieces hp))]
          exact List.mem_cons_of_mem piece hp
        rw [hnewline] at hpiece
        rw [List.flatten_cons, ← hpiece, List.append_assoc, List.singleton_append,
          keptLines_append_cons hbody, ih hrest]
      · -- A line without its newline is the last one.
        have hno : '\n' ∉ piece := by
          rw [← hpiece, List.mem_append, List.mem_singleton]
          rintro (hmem | hmem)
          · exact hbody hmem
          · exact hnewline hmem.symm
        cases pieces with
        | nil => rw [List.flatten_singleton, keptLines_of_notMem hne hno]
        | cons next more =>
            have hend := h.getLast?_eq piece (by simp)
            rw [List.getLast?_eq_some_getLast hne] at hend
            exact absurd (Option.some.inj hend) hnewline

theorem chunksFrom_eq (width : Nat) (done : List Text) (text : Text) :
    chunksFrom width done text = done.reverse ++ chunks width text := by
  have general (done : List Text) (text : Text) (earlier : List Text) :
      chunksFrom width (done ++ earlier) text = earlier.reverse ++ chunksFrom width done text := by
    fun_induction chunksFrom width done text with
    | case1 => simp [chunksFrom]
    | case2 done c rest ih => rw [chunksFrom, ← ih, List.cons_append]
  simpa [chunks] using general [] text done

@[simp]
theorem chunks_nil (width : Nat) : chunks width [] = [] := by
  simp [chunks, chunksFrom]

theorem chunks_cons (width : Nat) (c : Char) (rest : Text) :
    chunks width (c :: rest)
      = (c :: rest.take (width - 1)) :: chunks width (rest.drop (width - 1)) := by
  rw [chunks, chunksFrom, chunksFrom_eq]
  rfl

/-- The first `width` characters make the first chunk, and the rest is cut alike. -/
theorem chunks_eq_take_cons {width : Nat} (hwidth : 0 < width) {text : Text} (h : text ≠ []) :
    chunks width text = text.take width :: chunks width (text.drop width) := by
  obtain ⟨c, rest, rfl⟩ := List.exists_cons_of_ne_nil h
  obtain ⟨n, rfl⟩ : ∃ n, width = n + 1 := ⟨width - 1, by omega⟩
  rw [chunks_cons]
  rfl

/-- Induction along the chunks of a text: the first chunk takes a character and up
to `width - 1` more. -/
theorem chunk_induction (width : Nat) {motive : Text → Prop} (nil : motive [])
    (cons : ∀ c rest, motive (rest.drop (width - 1)) → motive (c :: rest)) (text : Text) :
    motive text := by
  induction hn : text.length using Nat.strongRecOn generalizing text with
  | ind n ih =>
      cases text with
      | nil => exact nil
      | cons c rest =>
          have hshort : (rest.drop (width - 1)).length < n := by
            rw [← hn, List.length_drop, List.length_cons]
            omega
          exact cons c rest (ih _ hshort _ rfl)

/-- The chunks of a text, put together, are the text. -/
@[simp]
theorem flatten_chunks (width : Nat) (text : Text) : (chunks width text).flatten = text := by
  induction text using chunk_induction width with
  | nil => rw [chunks_nil, List.flatten_nil]
  | cons c rest ih =>
      rw [chunks_cons, List.flatten_cons, ih, List.cons_append, List.take_append_drop]

/-- Pieces of `width` characters each, where a width of zero counts as one. The last
piece may be shorter, but it is not empty. -/
structure IsCut (width : Nat) (pieces : List Text) : Prop where
  ne_nil : ∀ piece ∈ pieces, piece ≠ []
  length_le : ∀ piece ∈ pieces, piece.length ≤ max width 1
  length_eq : ∀ piece ∈ pieces.dropLast, piece.length = max width 1

theorem isCut_chunks (width : Nat) (text : Text) : IsCut width (chunks width text) := by
  induction text using chunk_induction width with
  | nil =>
      rw [chunks_nil]
      exact ⟨by simp, by simp, by simp⟩
  | cons c rest ih =>
      have hfirst : (c :: rest.take (width - 1)).length = min (max width 1) (rest.length + 1) := by
        rw [List.length_cons, List.length_take]
        omega
      rw [chunks_cons]
      refine ⟨List.forall_mem_cons.2 ⟨List.cons_ne_nil _ _, ih.ne_nil⟩,
        List.forall_mem_cons.2 ⟨hfirst ▸ Nat.min_le_left _ _, ih.length_le⟩, ?_⟩
      cases hrest : rest.drop (width - 1) with
      | nil => simp
      | cons a more =>
          -- Something is left for the next piece, so this one is full.
          have hfull : max width 1 ≤ rest.length + 1 := by
            have := congrArg List.length hrest
            rw [List.length_drop, List.length_cons] at this
            omega
          rw [hrest] at ih
          rw [List.dropLast_cons_of_ne_nil (by simp [chunks_cons])]
          exact List.forall_mem_cons.2 ⟨hfirst.trans (Nat.min_eq_left hfull), ih.length_eq⟩

/-- A text has no other pieces of that width. -/
theorem IsCut.eq_chunks {width : Nat} (hwidth : 0 < width) {pieces : List Text}
    (h : IsCut width pieces) : chunks width pieces.flatten = pieces := by
  induction pieces with
  | nil => exact chunks_nil width
  | cons piece pieces ih =>
      obtain ⟨hne, hpieces⟩ := List.forall_mem_cons.1 h.ne_nil
      obtain ⟨hle, hles⟩ := List.forall_mem_cons.1 h.length_le
      rw [Nat.max_eq_left hwidth] at hle
      have hwhole : (piece :: pieces).flatten ≠ [] := by simp [hne]
      rw [chunks_eq_take_cons hwidth hwhole, List.flatten_cons]
      cases pieces with
      | nil =>
          rw [List.flatten_nil, List.append_nil, List.take_of_length_le hle,
            List.drop_of_length_le hle, chunks_nil]
      | cons next more =>
          -- More pieces follow, so this one is full.
          have hfull : piece.length = width := by
            have := h.length_eq piece (by simp)
            rwa [Nat.max_eq_left hwidth] at this
          have hrest : IsCut width (next :: more) :=
            ⟨hpieces, hles, fun p hp => h.length_eq p (List.mem_cons_of_mem piece hp)⟩
          rw [List.take_left' hfull, List.drop_left' hfull, ih hrest]

end QuineRelay.Text
