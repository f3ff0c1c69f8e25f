import QuineRelay.Payload

/-!
# Where payloads part

The offset at which two payloads part is the length of the longest beginning that they
share. The comparison goes along both payloads at once, and so do the proofs.
-/

namespace QuineRelay.Payload

/-- The longest beginning that two payloads share. -/
structure IsCommonBeginning (common expected actual : Bytes) : Prop where
  left : common <+: expected
  right : common <+: actual
  longest : ∀ other, other <+: expected → other <+: actual → other.length ≤ common.length

/-- The beginning that two payloads share, byte for byte. -/
def commonBeginning : Bytes → Bytes → Bytes
  | a :: as, b :: bs => if a = b then a :: commonBeginning as bs else []
  | _, _ => []

theorem isCommonBeginning_commonBeginning (expected actual : Bytes) :
    IsCommonBeginning (commonBeginning expected actual) expected actual := by
  fun_induction commonBeginning expected actual with
  | case1 expected a actual ih =>
      refine ⟨(List.prefix_cons_inj a).2 ih.left, (List.prefix_cons_inj a).2 ih.right, ?_⟩
      intro other hleft hright
      cases other with
      | nil => simp
      | cons c other =>
          have hleft := (List.cons_prefix_cons.1 hleft).2
          have hright := (List.cons_prefix_cons.1 hright).2
          simpa using ih.longest other hleft hright
  | case2 a expected b actual hne =>
      refine ⟨List.nil_prefix, List.nil_prefix, fun other hleft hright => ?_⟩
      cases other with
      | nil => simp
      | cons c other =>
          have ha := (List.cons_prefix_cons.1 hleft).1
          have hb := (List.cons_prefix_cons.1 hright).1
          exact absurd (ha.symm.trans hb) hne
  | case3 expected actual hend =>
      refine ⟨List.nil_prefix, List.nil_prefix, fun other hleft hright => ?_⟩
      cases other with
      | nil => simp
      | cons c other =>
          obtain ⟨as, rfl⟩ := hleft
          obtain ⟨bs, rfl⟩ := hright
          exact absurd rfl (hend c (other ++ as) c (other ++ bs) rfl)

theorem firstDivergenceFrom_eq (offset : Nat) (expected actual : Bytes) :
    firstDivergenceFrom offset expected actual
      = if expected = actual then none
        else some (offset + (commonBeginning expected actual).length) := by
  fun_induction firstDivergenceFrom offset expected actual with
  | case1 => rfl
  | case2 offset expected a actual ih =>
      rw [ih]
      simp [commonBeginning, Nat.add_assoc, Nat.add_comm 1]
  | case3 offset a expected b actual hne => simp [commonBeginning, hne]
  | case4 expected offset actual hnil hcons =>
      -- One of the payloads ends here, and the other does not.
      cases expected with
      | nil =>
          cases actual with
          | nil => exact absurd rfl (hnil rfl)
          | cons b actual => rfl
      | cons a expected =>
          cases actual with
          | nil => rfl
          | cons b actual => exact absurd rfl (hcons a expected b actual rfl)

/-- Equal payloads never part. Others part behind the longest beginning that they
share. -/
theorem firstDivergence_eq (expected actual : Bytes) :
    firstDivergence expected actual
      = if expected = actual then none else some (commonBeginning expected actual).length := by
  rw [firstDivergence, firstDivergenceFrom_eq, Nat.zero_add]

end QuineRelay.Payload
