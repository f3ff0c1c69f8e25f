/-!
# Results that succeed

Writing a source is a sequence of steps, each of which may fail. The whole
succeeds just when every step does, and these lemmas take it apart step by step.
It fails with the first step that fails, and which member of a list is the first is
settled here too. A lookup that succeeds has found an entry of its table.
-/

namespace QuineRelay

variable {ε δ α β : Type}

theorem bind_eq_ok_iff {x : Except ε α} {f : α → Except ε β} {b : β} :
    x.bind f = .ok b ↔ ∃ a, x = .ok a ∧ f a = .ok b := by
  cases x with
  | error e => simp [Except.bind]
  | ok a => simp [Except.bind]

theorem map_eq_ok_iff {x : Except ε α} {f : α → β} {b : β} :
    x.map f = .ok b ↔ ∃ a, x = .ok a ∧ f a = b := by
  cases x with
  | error e => simp [Except.map]
  | ok a => simp [Except.map]

theorem bind_eq_error_iff {x : Except ε α} {f : α → Except ε β} {e : ε} :
    x.bind f = .error e ↔ x = .error e ∨ ∃ a, x = .ok a ∧ f a = .error e := by
  cases x with
  | error e' => simp [Except.bind]
  | ok a => simp [Except.bind]

theorem map_eq_error_iff {x : Except ε α} {f : α → β} {e : ε} :
    x.map f = .error e ↔ x = .error e := by
  cases x with
  | error e' => simp [Except.map]
  | ok a => simp [Except.map]

theorem mapError_eq_ok_iff {x : Except ε α} {f : ε → δ} {a : α} :
    x.mapError f = .ok a ↔ x = .ok a := by
  constructor
  · intro h
    cases x with
    | error e => cases h
    | ok b => exact congrArg Except.ok (Except.ok.inj h)
  · rintro rfl
    rfl

theorem exists_ok_of_isOk {x : Except ε α} (h : x.isOk = true) : ∃ a, x = .ok a := by
  cases x with
  | error e => cases h
  | ok a => exact ⟨a, rfl⟩

theorem exists_error_of_isOk {x : Except ε α} (h : x.isOk = false) : ∃ e, x = .error e := by
  cases x with
  | error e => exact ⟨e, rfl⟩
  | ok a => cases h

/-- A result that a test accepts, evaluated. -/
theorem exists_ok_of_any {x : Except ε α} {test : α → Bool} (h : x.toOption.any test = true) :
    ∃ a, x = .ok a ∧ test a = true := by
  cases x with
  | error e => cases h
  | ok a => exact ⟨a, rfl, h⟩

/-- A traversal that succeeds has succeeded on every member. -/
theorem exists_ok_of_mapM {f : α → Except ε β} {members : List α} {results : List β}
    (h : members.mapM f = .ok results) : ∀ member ∈ members, ∃ result, f member = .ok result := by
  induction members generalizing results with
  | nil => simp
  | cons first members ih =>
      rw [List.mapM_cons] at h
      obtain ⟨result, hfirst, h⟩ := bind_eq_ok_iff.1 h
      obtain ⟨others, hothers, -⟩ := bind_eq_ok_iff.1 h
      intro member hmember
      rcases List.mem_cons.1 hmember with rfl | hmember
      · exact ⟨result, hfirst⟩
      · exact ih hothers member hmember

/-- A traversal that fails has failed on a member. -/
theorem exists_error_of_mapM {f : α → Except ε β} {members : List α} {e : ε}
    (h : members.mapM f = .error e) : ∃ member ∈ members, f member = .error e := by
  induction members with
  | nil => cases h
  | cons first members ih =>
      rw [List.mapM_cons] at h
      rcases bind_eq_error_iff.1 h with hfirst | ⟨result, -, h⟩
      · exact ⟨first, List.mem_cons_self, hfirst⟩
      · rcases bind_eq_error_iff.1 h with hrest | ⟨results, -, h⟩
        · obtain ⟨member, hmember, hfail⟩ := ih hrest
          exact ⟨member, List.mem_cons_of_mem first hmember, hfail⟩
        · cases h

/-- Every result of a traversal is that of a member. -/
theorem exists_of_mem_mapM {f : α → Except ε β} {members : List α} {results : List β}
    (h : members.mapM f = .ok results) : ∀ result ∈ results, ∃ member ∈ members,
      f member = .ok result := by
  induction members generalizing results with
  | nil =>
      obtain rfl := Except.ok.inj h
      simp
  | cons first members ih =>
      rw [List.mapM_cons] at h
      obtain ⟨result, hfirst, h⟩ := bind_eq_ok_iff.1 h
      obtain ⟨others, hothers, h⟩ := bind_eq_ok_iff.1 h
      obtain rfl := Except.ok.inj h
      intro other hother
      rcases List.mem_cons.1 hother with rfl | hother
      · exact ⟨first, List.mem_cons_self, hfirst⟩
      · obtain ⟨member, hmember, heq⟩ := ih hothers other hother
        exact ⟨member, List.mem_cons_of_mem first hmember, heq⟩

/-- The first member of a list that has a property. -/
def IsFirst (p : α → Prop) (members : List α) (member : α) : Prop :=
  p member ∧ ∃ before after, members = before ++ member :: after ∧ ∀ other ∈ before, ¬ p other

namespace IsFirst

variable {p q : α → Prop} {members : List α} {member other : α}

theorem iff_find? {test : α → Bool} :
    IsFirst (fun a => test a = true) members member ↔ members.find? test = some member := by
  simp [IsFirst, List.find?_eq_some_iff_append]

theorem mem (h : IsFirst p members member) : member ∈ members := by
  obtain ⟨-, before, after, rfl, -⟩ := h
  exact List.mem_append_right _ List.mem_cons_self

theorem cons {first : α} {rest : List α} (hfirst : ¬ p first) (h : IsFirst p rest member) :
    IsFirst p (first :: rest) member := by
  obtain ⟨hmember, before, after, rfl, hbefore⟩ := h
  exact ⟨hmember, first :: before, after, rfl, List.forall_mem_cons.2 ⟨hfirst, hbefore⟩⟩

theorem congr (h : IsFirst p members member) (hiff : ∀ a ∈ members, p a ↔ q a) :
    IsFirst q members member := by
  obtain ⟨hmember, before, after, rfl, hbefore⟩ := h
  refine ⟨(hiff member (by simp)).1 hmember, before, after, rfl, fun other hother hq => ?_⟩
  exact hbefore other hother ((hiff other (List.mem_append_left _ hother)).2 hq)

theorem filter {test : α → Bool} (h : IsFirst p members member) (htest : test member = true) :
    IsFirst p (members.filter test) member := by
  obtain ⟨hmember, before, after, rfl, hbefore⟩ := h
  refine ⟨hmember, before.filter test, after.filter test, ?_, ?_⟩
  · rw [List.filter_append, List.filter_cons_of_pos htest]
  · intro other hother
    exact hbefore other (List.mem_filter.1 hother).1

/-- Where some member has the property, one is the first. -/
theorem exists_of_mem (hmem : member ∈ members) (h : p member) :
    ∃ first, IsFirst p members first := by
  induction members with
  | nil => cases hmem
  | cons first members ih =>
      by_cases hfirst : p first
      · exact ⟨first, hfirst, [], members, rfl, by simp⟩
      · rcases List.mem_cons.1 hmem with rfl | hmem
        · exact absurd h hfirst
        · obtain ⟨earliest, hearliest⟩ := ih hmem
          exact ⟨earliest, hearliest.cons hfirst⟩

/-- A list has one first member. -/
theorem eq (h : IsFirst p members member) (hother : IsFirst p members other) : member = other := by
  classical
  have hfind {a : α} (ha : IsFirst p members a) : members.find? (fun a => decide (p a)) = some a :=
    iff_find?.1 (ha.congr fun _ _ => decide_eq_true_iff.symm)
  exact Option.some.inj ((hfind h).symm.trans (hfind hother))

end IsFirst

/-- A traversal fails as its first member that fails. -/
theorem mapM_eq_error {f : α → Except ε β} {members : List α} {member : α} {e : ε}
    (h : IsFirst (fun a => ∃ e, f a = .error e) members member) (he : f member = .error e) :
    members.mapM f = .error e := by
  obtain ⟨-, before, after, rfl, hbefore⟩ := h
  induction before with
  | nil =>
      rw [List.nil_append, List.mapM_cons, he]
      rfl
  | cons first before ih =>
      have hrest := ih fun other hother => hbefore other (List.mem_cons_of_mem first hother)
      rw [List.cons_append, List.mapM_cons, hrest]
      cases hfirst : f first with
      | error e' => exact absurd ⟨e', hfirst⟩ (hbefore first List.mem_cons_self)
      | ok b => rfl

/-- An optional traversal has a result just when every member has one, in the same order. -/
theorem mapM_eq_some_iff {f : α → Option β} {members : List α} {results : List β} :
    members.mapM f = some results ↔ members.map f = results.map some := by
  induction members generalizing results with
  | nil => cases results <;> simp
  | cons first members ih =>
      rw [List.mapM_cons]
      constructor
      · intro h
        obtain ⟨result, hfirst, h⟩ := Option.bind_eq_some_iff.1 h
        obtain ⟨others, hothers, h⟩ := Option.bind_eq_some_iff.1 h
        obtain rfl := Option.some.inj h
        rw [List.map_cons, hfirst, ih.1 hothers, List.map_cons]
      · intro h
        cases results with
        | nil => cases h
        | cons result others =>
            obtain ⟨hfirst, hothers⟩ := List.cons.inj h
            rw [hfirst, ih.2 hothers]
            rfl

theorem mem_of_lookup [BEq α] [LawfulBEq α] {entries : List (α × β)} {key : α} {value : β}
    (h : entries.lookup key = some value) : (key, value) ∈ entries := by
  obtain ⟨front, back, rfl, -⟩ := List.lookup_eq_some_iff.1 h
  exact List.mem_append_right _ List.mem_cons_self

/-- Nothing is found just under what is no key. -/
theorem lookup_eq_none_iff_notMem [BEq α] [LawfulBEq α] {entries : List (α × β)} {key : α} :
    entries.lookup key = none ↔ key ∉ entries.map Prod.fst := by
  rw [List.lookup_eq_none_iff]
  simp only [List.mem_map, not_exists, not_and, bne_iff_ne, ne_eq]
  exact forall₂_congr fun entry _ => not_congr eq_comm

/-- Where keys are distinct, every entry is the one that is found under its key. -/
theorem lookup_eq_some_of_mem [BEq α] [LawfulBEq α] {entries : List (α × β)} {key : α} {value : β}
    (hkeys : (entries.map Prod.fst).Nodup) (h : (key, value) ∈ entries) :
    entries.lookup key = some value := by
  obtain ⟨front, back, rfl⟩ := List.append_of_mem h
  rw [List.map_append, List.map_cons, List.nodup_append] at hkeys
  refine List.lookup_eq_some_iff.2 ⟨front, back, rfl, ?_⟩
  intro entry hentry
  have hne := hkeys.2.2 entry.1 (List.mem_map_of_mem hentry) key List.mem_cons_self
  simpa using Ne.symm hne

end QuineRelay
