import QuineRelay.Proofs.TapeMachine.Straight
import QuineRelay.Proofs.Text.Utf8
import QuineRelay.Quoting.TapeForm

/-!
# Tape programs print their payload

Each stride takes the cell from the byte before to the next byte and prints it.
The strokes are counted in bytes, so their number is a difference that does not
wrap. Fixed texts without commands neither print nor change the cell, and the
whole program stays on one cell.
-/

namespace QuineRelay.TapeForm

/-- The commands of the tape machine, as text. -/
def commands : Text := ['+', '-', '>', '<', '.', '[', ']']

/-- A tape form is inert when its fixed texts hold no command. -/
def Inert (form : TapeForm) : Prop :=
  ∀ c ∈ form.opening ++ form.closing, c ∉ commands

instance (form : TapeForm) : Decidable form.Inert :=
  inferInstanceAs (Decidable (∀ c ∈ form.opening ++ form.closing, c ∉ commands))

/-- No byte of a text without commands is a command. -/
theorem notMem_commands_of_mem_encode {text : Text} (h : ∀ c ∈ text, c ∉ commands) :
    ∀ b ∈ Utf8.encode text, b ∉ TapeMachine.commands := by
  have hascii : ∀ b ∈ TapeMachine.commands, b.toNat < 0x80 := by decide
  have hchar : ∀ b ∈ TapeMachine.commands, Char.ofNat b.toNat ∈ commands := by decide
  intro b hb hcommand
  obtain ⟨c, hc, hbc⟩ := List.mem_flatMap.1 hb
  refine h c hc ?_
  rw [Utf8.eq_ofNat_of_mem_encodeChar hbc (hascii b hcommand)]
  exact hchar b hcommand

theorem encode_stride (last byte : UInt8) :
    Utf8.encode (stride last byte) =
      (if last ≤ byte then List.replicate (byte - last).toNat TapeMachine.increment
        else List.replicate (last - byte).toNat TapeMachine.decrement) ++ [TapeMachine.print] := by
  have hreplicate (n : Nat) (c : Char) (b : UInt8) (hc : Utf8.encodeChar c = [b]) :
      Utf8.encode (List.replicate n c) = List.replicate n b := by
    induction n with
    | zero => rfl
    | succ n ih => rw [List.replicate_succ, Utf8.encode_cons, hc, ih]; rfl
  unfold stride
  split
  · rw [Utf8.encode_append, hreplicate _ '+' TapeMachine.increment (by decide)]
    rfl
  · rw [Utf8.encode_append, hreplicate _ '-' TapeMachine.decrement (by decide)]
    rfl

/-- A stride brings the cell to the next byte and prints it. -/
theorem output_stride (last byte : UInt8) (rest : Bytes) :
    TapeMachine.output last (Utf8.encode (stride last byte) ++ rest)
      = byte :: TapeMachine.output byte rest := by
  have hprint (cell : UInt8) :
      TapeMachine.output cell ([TapeMachine.print] ++ rest)
        = cell :: TapeMachine.output cell rest :=
    rfl
  rw [encode_stride]
  split
  · rw [List.append_assoc, TapeMachine.output_increments, UInt8.ofNat_toNat, hprint,
      UInt8.add_comm, UInt8.sub_add_cancel]
  · have hcell : last - (last - byte) = byte := by grind
    rw [List.append_assoc, TapeMachine.output_decrements, UInt8.ofNat_toNat, hprint, hcell]

theorem output_strides (last : UInt8) (payload rest : Bytes) :
    TapeMachine.output last
        (Utf8.encode (List.zipWith stride (last :: payload) payload).flatten ++ rest)
      = payload ++ TapeMachine.output (payload.getLastD last) rest := by
  induction payload generalizing last with
  | nil => rfl
  | cons byte payload ih =>
      rw [List.zipWith_cons_cons, List.flatten_cons, Utf8.encode_append, List.append_assoc,
        output_stride, ih, List.getLastD_cons, List.cons_append]

theorem mem_strides {last : UInt8} {payload : Bytes} :
    ∀ c ∈ (List.zipWith stride (last :: payload) payload).flatten, c ∈ ['+', '-', '.'] := by
  induction payload generalizing last with
  | nil => simp
  | cons byte payload ih =>
      rw [List.zipWith_cons_cons, List.flatten_cons, List.forall_mem_append]
      refine ⟨fun c hc => ?_, ih⟩
      unfold stride at hc
      split at hc
      all_goals
        rcases List.mem_append.1 hc with hc | hc
        · rw [List.eq_of_mem_replicate hc]
          decide
        · rw [List.mem_singleton.1 hc]
          decide

theorem isStraight_of_mem_body (payload : Bytes) :
    ∀ op ∈ Utf8.encode (body payload), TapeMachine.IsStraight op := by
  have hchar : ∀ c ∈ ['+', '-', '.'], ∀ op ∈ Utf8.encodeChar c, TapeMachine.IsStraight op := by
    decide
  intro op hop
  obtain ⟨c, hc, hopc⟩ := List.mem_flatMap.1 hop
  exact hchar c (mem_strides c hc) op hopc

/-- An inert tape form prints the payload it was written for. -/
theorem read_write {form : TapeForm} (h : form.Inert) (payload : Bytes) :
    read (form.write payload) = .ok payload := by
  obtain ⟨hopening, hclosing⟩ := List.forall_mem_append.1 h
  have hopening := notMem_commands_of_mem_encode hopening
  have hclosing := notMem_commands_of_mem_encode hclosing
  have hstraight : ∀ op ∈ Utf8.encode (form.write payload), TapeMachine.IsStraight op := by
    simp only [write, Utf8.encode_append, List.forall_mem_append]
    exact ⟨⟨fun op hop => TapeMachine.isStraight_of_notMem (hopening op hop),
      isStraight_of_mem_body payload⟩,
      fun op hop => TapeMachine.isStraight_of_notMem (hclosing op hop)⟩
  have hend : TapeMachine.output (payload.getLastD 0) (Utf8.encode form.closing) = [] := by
    have := TapeMachine.output_inert hclosing (payload.getLastD 0) []
    rwa [List.append_nil] at this
  have houtput : TapeMachine.output 0 (Utf8.encode (form.write payload)) = payload := by
    rw [write, body, Utf8.encode_append, Utf8.encode_append, List.append_assoc,
      TapeMachine.output_inert hopening, output_strides, hend, List.append_nil]
  rw [read, TapeMachine.run_straight hstraight, houtput]
  rfl

end QuineRelay.TapeForm
