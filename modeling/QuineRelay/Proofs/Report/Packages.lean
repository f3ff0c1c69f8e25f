import Mathlib.Data.List.Chain
import QuineRelay.Proofs.Report.Install
import QuineRelay.Text.Blank

/-!
# The packages of the install command

The install command lists what the toolchains need. Put on one line, it is its opening and
the packages, each once and in byte order, so it depends on the set of packages alone. Its
lines are filled one after the other: a package begins a new line only when the line before
has no room for it.
-/

namespace QuineRelay.Report

/-- A package that some step of the toolchains needs. -/
def IsNeeded (toolchains : List Toolchain) (package : Text) : Prop :=
  ∃ toolchain ∈ toolchains, ∃ step ∈ toolchain.steps, step.package = some package

/-- A name that a shell reads as one word: it is not empty, and no white space or backslash
divides it. -/
def IsWord (name : Text) : Prop :=
  name ≠ [] ∧ ∀ c ∈ name, Text.isBlank c = false ∧ c ≠ '\\'

instance : DecidablePred IsWord :=
  fun name => inferInstanceAs (Decidable (name ≠ [] ∧ ∀ c ∈ name, _))

/-- The beginning of a line up to the first space. -/
def firstWord (line : Text) : Text :=
  line.takeWhile (· ≠ ' ')

/-- The first word of the next line has no room on this one. -/
def IsFull (line next : Text) : Prop :=
  installWidth < Utf8.size line + 1 + Utf8.size (firstWord next)

variable {toolchains others : List Toolchain}

/-! ## The list -/

theorem mem_packages_iff {package : Text} :
    package ∈ packages toolchains ↔ IsNeeded toolchains package := by
  simp only [mem_packages, Toolchain.packages, List.mem_filterMap, IsNeeded]

theorem nodup_eraseDups (texts : List Text) : texts.eraseDups.Nodup := by
  induction hn : texts.length using Nat.strongRecOn generalizing texts with
  | ind n ih =>
      cases texts with
      | nil => exact List.nodup_nil
      | cons text rest =>
          rw [List.eraseDups_cons, List.nodup_cons]
          refine ⟨by simp, ih _ ?_ _ rfl⟩
          rw [← hn, List.length_cons]
          exact Nat.lt_succ_of_le (List.length_filter_le _ _)

theorem nodup_packages (toolchains : List Toolchain) : (packages toolchains).Nodup :=
  (List.mergeSort_perm _ _).nodup_iff.2 (nodup_eraseDups _)

/-- The packages increase strictly in byte order. -/
theorem pairwise_packages (toolchains : List Toolchain) :
    (packages toolchains).Pairwise fun a b => Utf8.encode a < Utf8.encode b := by
  have hsorted : (packages toolchains).Pairwise fun a b => byteOrder a b = true := by
    refine List.pairwise_mergeSort ?_ ?_ _
    · intro a b c hab hbc
      simp only [byteOrder, decide_eq_true_eq] at hab hbc ⊢
      exact List.le_trans hab hbc
    · intro a b
      simp only [byteOrder, Bool.or_eq_true, decide_eq_true_eq]
      exact List.le_total _ _
  refine hsorted.imp₂ ?_ (nodup_packages toolchains)
  intro a b hab hne
  simp only [byteOrder, decide_eq_true_eq] at hab
  exact Std.lt_of_le_of_ne hab fun heq => hne (Utf8.encode_injective heq)

/-- Toolchains that need the same packages list them alike. -/
theorem packages_eq_of_iff (h : ∀ package, IsNeeded others package ↔ IsNeeded toolchains package) :
    packages others = packages toolchains := by
  have hperm : (packages others).Perm (packages toolchains) := by
    refine (List.perm_ext_iff_of_nodup (nodup_packages _) (nodup_packages _)).2 fun package => ?_
    rw [mem_packages_iff, mem_packages_iff, h]
  exact hperm.eq_of_pairwise (fun a b _ _ hab hba => absurd hab (List.lt_asymm hba))
    (pairwise_packages others) (pairwise_packages toolchains)

/-! ## The lines -/

section

variable {line word : Text} {words rest : List Text}

theorem wrapFrom_eq (done : List Text) (line : Text) (words : List Text) :
    wrapFrom done line words = done.reverse ++ wrapFrom [] line words := by
  induction words generalizing done line with
  | nil => simp [wrapFrom]
  | cons word rest ih =>
      rw [wrapFrom, wrapFrom]
      split
      · rw [ih, ih [line]]
        simp
      · exact ih _ _

theorem wrapFrom_nil (line : Text) : wrapFrom [] line [] = [line] := rfl

/-- A word without room begins the next line. -/
theorem wrapFrom_cons_of_lt (h : installWidth < Utf8.size line + 1 + Utf8.size word) :
    wrapFrom [] line (word :: rest) = line :: wrapFrom [] word rest := by
  rw [wrapFrom, if_pos h, wrapFrom_eq]
  rfl

/-- A word with room goes on the line. -/
theorem wrapFrom_cons_of_le (h : Utf8.size line + 1 + Utf8.size word ≤ installWidth) :
    wrapFrom [] line (word :: rest) = wrapFrom [] (line ++ ' ' :: word) rest := by
  rw [wrapFrom, if_neg (Nat.not_lt.2 h)]

/-- A line that is filled keeps what is on it. -/
theorem exists_wrapFrom_eq_cons (line : Text) (words : List Text) :
    ∃ (added : List Text) (lines : List Text), wrapFrom [] line words
      = (line ++ added.flatMap fun word => ' ' :: word) :: lines := by
  induction words generalizing line with
  | nil => exact ⟨[], [], by rw [wrapFrom_nil, List.flatMap_nil, List.append_nil]⟩
  | cons word rest ih =>
      rcases Nat.lt_or_ge installWidth (Utf8.size line + 1 + Utf8.size word) with hlong | hfits
      · exact ⟨[], _, by rw [wrapFrom_cons_of_lt hlong, List.flatMap_nil, List.append_nil]⟩
      · obtain ⟨added, lines, hlines⟩ := ih (line ++ ' ' :: word)
        refine ⟨word :: added, lines, ?_⟩
        rw [wrapFrom_cons_of_le hfits, hlines, List.flatMap_cons, List.append_assoc]

/-- Wrapping loses no word: on one line, the lines are what was wrapped. -/
theorem join_wrapFrom (line : Text) (words : List Text) :
    Text.join " " (wrapFrom [] line words) = line ++ words.flatMap fun word => ' ' :: word := by
  induction words generalizing line with
  | nil => rw [wrapFrom_nil, Text.join_cons, List.flatMap_nil, List.flatMap_nil]
  | cons word rest ih =>
      rcases Nat.lt_or_ge installWidth (Utf8.size line + 1 + Utf8.size word) with hlong | hfits
      · obtain ⟨added, lines, hlines⟩ := exists_wrapFrom_eq_cons word rest
        have hrest := ih word
        rw [hlines, Text.join_cons] at hrest
        rw [wrapFrom_cons_of_lt hlong, hlines, Text.join_cons, List.flatMap_cons, List.append_assoc,
          hrest]
        rfl
      · rw [wrapFrom_cons_of_le hfits, ih, List.flatMap_cons, List.append_assoc]

/-- Wrapping breaks no line but between words. -/
theorem notMem_wrapFrom {c : Char} (hc : c ≠ ' ') (hline : c ∉ line)
    (hwords : ∀ word ∈ words, c ∉ word) : ∀ l ∈ wrapFrom [] line words, c ∉ l := by
  induction words generalizing line with
  | nil =>
      rw [wrapFrom_nil]
      simpa using hline
  | cons word rest ih =>
      obtain ⟨hword, hrest⟩ := List.forall_mem_cons.1 hwords
      rcases Nat.lt_or_ge installWidth (Utf8.size line + 1 + Utf8.size word) with hlong | hfits
      · rw [wrapFrom_cons_of_lt hlong]
        exact List.forall_mem_cons.2 ⟨hline, ih hword hrest⟩
      · rw [wrapFrom_cons_of_le hfits]
        exact ih (by simp [hline, hc, hword]) hrest

theorem firstWord_append (hword : ' ' ∉ word) (added : List Text) :
    firstWord (word ++ added.flatMap fun next => ' ' :: next) = word := by
  have hkeep : ∀ c ∈ word, decide (c ≠ ' ') = true := fun c hc => by
    simpa using ne_of_mem_of_not_mem hc hword
  rw [firstWord, List.takeWhile_append_of_pos hkeep]
  cases added with
  | nil => simp
  | cons next added => simp

/-- The lines are filled greedily: the first word of a line had no room on the line before. -/
theorem isChain_wrapFrom (hwords : ∀ word ∈ words, ' ' ∉ word) (line : Text) :
    (wrapFrom [] line words).IsChain fun line next =>
      firstWord next ∈ words ∧ IsFull line next := by
  induction words generalizing line with
  | nil =>
      rw [wrapFrom_nil]
      exact List.isChain_singleton line
  | cons word rest ih =>
      obtain ⟨hword, hrest⟩ := List.forall_mem_cons.1 hwords
      have hchain (line : Text) : (wrapFrom [] line rest).IsChain fun line next =>
          firstWord next ∈ word :: rest ∧ IsFull line next :=
        (ih hrest line).imp fun _ _ h => ⟨List.mem_cons_of_mem word h.1, h.2⟩
      rcases Nat.lt_or_ge installWidth (Utf8.size line + 1 + Utf8.size word) with hlong | hfits
      · rw [wrapFrom_cons_of_lt hlong]
        refine (hchain word).cons fun next hnext => ?_
        obtain ⟨added, lines, hlines⟩ := exists_wrapFrom_eq_cons word rest
        rw [hlines, List.head?_cons, Option.mem_some_iff] at hnext
        rw [IsFull, ← hnext, firstWord_append hword]
        exact ⟨List.mem_cons_self, hlong⟩
      · rw [wrapFrom_cons_of_le hfits]
        exact hchain _

end

/-! ## The command -/

/-- The content of the install command. On one line it is the opening and what the toolchains
need, each package once and in byte order, so nothing but the set of packages matters. The
lines of the command are filled greedily. -/
theorem installCommand_lists_packages
    (h : ∀ toolchain ∈ toolchains, ∀ package ∈ toolchain.packages, IsWord package) :
    (∃ listed : List Text, Text.replaceAll continuation " " (installCommand toolchains)
        = installOpening ++ listed.flatMap (fun package => ' ' :: package) ∧
      listed.Pairwise (fun a b => Utf8.encode a < Utf8.encode b) ∧
      ∀ package, package ∈ listed ↔ IsNeeded toolchains package) ∧
    (∀ others, (∀ package, IsNeeded others package ↔ IsNeeded toolchains package) →
      installCommand others = installCommand toolchains) ∧
    ∃ lines : List Text, installCommand toolchains = Text.join continuation lines ∧
      (∀ line ∈ lines, '\n' ∉ line) ∧
      lines.IsChain fun line next => IsNeeded toolchains (firstWord next) ∧ IsFull line next := by
  have hword {c : Char} (hc : Text.isBlank c = true) : ∀ package ∈ packages toolchains,
      c ∉ package := by
    intro package hpackage hmem
    obtain ⟨toolchain, htoolchain, hpackage⟩ := mem_packages.1 hpackage
    obtain ⟨hblank, -⟩ := (h toolchain htoolchain package hpackage).2 c hmem
    rw [hc] at hblank
    cases hblank
  have hlines : ∀ line ∈ wrapFrom [] installOpening (packages toolchains), '\n' ∉ line :=
    notMem_wrapFrom (by decide) (by decide) (hword (by decide))
  refine ⟨⟨packages toolchains, ?_, pairwise_packages toolchains, fun _ => mem_packages_iff⟩,
    fun others hothers => ?_, _, rfl, hlines, ?_⟩
  · obtain ⟨line, lines, hwrap⟩ := List.exists_cons_of_ne_nil
      (wrapFrom_ne_nil [] (packages toolchains) installOpening)
    have hmark : '\n' ∉ continuationMark := by decide
    rw [← join_wrapFrom, installCommand, hwrap]
    exact Text.replaceAll_join hmark (hwrap ▸ hlines) " "
  · rw [installCommand, installCommand, packages_eq_of_iff hothers]
  · exact (isChain_wrapFrom (hword (by decide)) installOpening).imp fun _ _ hnext =>
      ⟨mem_packages_iff.1 hnext.1, hnext.2⟩

/-- A toolchain that is met a second time adds nothing. -/
theorem installCommand_lists_packages_repeated :
    (∃ listed : List Text, Text.replaceAll continuation " "
        (installCommand [twoPackages, twoPackages])
          = installOpening ++ listed.flatMap (fun package => ' ' :: package) ∧
      listed.Pairwise (fun a b => Utf8.encode a < Utf8.encode b) ∧
      List.replicate 50 'a' ∈ listed ∧ List.replicate 19 'b' ∈ listed) ∧
    installCommand [twoPackages] = installCommand [twoPackages, twoPackages] := by
  have hwords : ∀ toolchain ∈ [twoPackages, twoPackages], ∀ package ∈ toolchain.packages,
      IsWord package := by
    decide
  obtain ⟨⟨listed, htext, hsorted, hmem⟩, hset, -⟩ := installCommand_lists_packages hwords
  refine ⟨⟨listed, htext, hsorted, (hmem _).2 ?_, (hmem _).2 ?_⟩, hset _ fun package => ?_⟩
  · exact ⟨twoPackages, by simp, _, List.mem_cons_self, rfl⟩
  · exact ⟨twoPackages, by simp, _, List.mem_cons_of_mem _ List.mem_cons_self, rfl⟩
  · simp [IsNeeded]

end QuineRelay.Report
