import QuineRelay.Proofs.Text.Cutting
import QuineRelay.Proofs.Text.Utf8
import QuineRelay.Report.Packages

/-!
# The lines of the install command

The words of a line take no more bytes than the width allows, as long as each package
alone does. The indentation of a line that continues the command is not counted when
its words are chosen, so what stands on such a line may be longer by the indentation.
-/

namespace QuineRelay.Report

/-- What marks a line of a shell command that goes on. -/
def continuationMark : Text := " \\"

/-- What indents the lines that continue a command. -/
def indentation : Text := "      "

/-- A line of a shell command without its continuation mark, if it has one. -/
def withoutMark (line : Text) : Text :=
  (Text.beforeEnding? continuationMark line).getD line

/-! ## Marks -/

theorem isInfix_withoutMark (line : Text) : withoutMark line <:+: line := by
  rw [withoutMark]
  cases h : Text.beforeEnding? continuationMark line with
  | none => exact List.infix_refl _
  | some rest =>
      have hline : line = rest ++ continuationMark := Text.beforeEnding?_eq_some_iff.1 h
      rw [Option.getD_some, hline]
      exact (List.prefix_append _ _).isInfix

theorem withoutMark_append (line : Text) : withoutMark (line ++ continuationMark) = line := by
  rw [withoutMark, Text.beforeEnding?_eq_some_iff.2 rfl, Option.getD_some]

/-- The lines of a marked text are no longer than the text without its mark. -/
theorem size_withoutMark_le {text line : Text}
    (h : line ∈ Text.splitOn '\n' (text ++ continuationMark)) :
    Utf8.size (withoutMark line) ≤ Utf8.size text := by
  rcases Text.mem_splitOn_append (by decide) h with hline | ⟨last, hlast, rfl⟩
  · exact Utf8.size_le_of_isInfix ((isInfix_withoutMark line).trans
      (Text.isInfix_of_mem_splitOn hline))
  · rw [withoutMark_append]
    exact Utf8.size_le_of_isInfix (Text.isInfix_of_mem_splitOn hlast)

/-! ## Wrapping -/

/-- Words that fit one by one are wrapped into lines that fit. -/
theorem forall_mem_wrapFrom {done words : List Text} {line : Text}
    (hdone : ∀ l ∈ done, Utf8.size l ≤ installWidth) (hline : Utf8.size line ≤ installWidth)
    (hwords : ∀ word ∈ words, Utf8.size word ≤ installWidth) :
    ∀ l ∈ wrapFrom done line words, Utf8.size l ≤ installWidth := by
  induction words generalizing done line with
  | nil =>
      intro l hl
      rcases List.mem_cons.1 (List.mem_reverse.1 hl) with rfl | hl
      · exact hline
      · exact hdone l hl
  | cons word rest ih =>
      obtain ⟨hword, hrest⟩ := List.forall_mem_cons.1 hwords
      rw [wrapFrom]
      split
      · exact ih (List.forall_mem_cons.2 ⟨hline, hdone⟩) hword hrest
      · rename_i hfits
        refine ih hdone ?_ hrest
        have hspace : Utf8.size (' ' :: word) = 1 + Utf8.size word :=
          Utf8.size_append [' '] word
        rw [Utf8.size_append, hspace]
        omega

theorem wrapFrom_ne_nil (done words : List Text) (line : Text) : wrapFrom done line words ≠ [] := by
  induction words generalizing done line with
  | nil => simp [wrapFrom]
  | cons word rest ih =>
      rw [wrapFrom]
      split
      · exact ih _ _
      · exact ih _ _

/-! ## Lines -/

/-- A continued command is split after each of its marks. -/
theorem splitOn_join_continuation (before part next : Text) (parts : List Text) :
    Text.splitOn '\n' (before ++ Text.join continuation (part :: next :: parts))
      = Text.splitOn '\n' (before ++ part ++ continuationMark)
        ++ Text.splitOn '\n' (indentation ++ Text.join continuation (next :: parts)) := by
  have hcontinuation : continuation = continuationMark ++ '\n' :: indentation := rfl
  rw [← Text.splitOn_append_cons, Text.join_cons, Text.join_cons, hcontinuation]
  simp

/-- The lines of a continued command, with `before` before its first part and the
indentation before each of the others. -/
theorem size_withoutMark_le_of_mem_join {bound : Nat} {before part : Text} {parts : List Text}
    (hpart : Utf8.size before + Utf8.size part ≤ bound)
    (hparts : ∀ part ∈ parts, Utf8.size indentation + Utf8.size part ≤ bound) {line : Text}
    (h : line ∈ Text.splitOn '\n' (before ++ Text.join continuation (part :: parts))) :
    Utf8.size (withoutMark line) ≤ bound := by
  induction parts generalizing before part with
  | nil =>
      rw [Text.join_cons, List.flatMap_nil, List.append_nil] at h
      have hinfix := (isInfix_withoutMark line).trans (Text.isInfix_of_mem_splitOn h)
      exact Nat.le_trans (Utf8.size_le_of_isInfix hinfix) (Utf8.size_append before part ▸ hpart)
  | cons next parts ih =>
      obtain ⟨hnext, hparts⟩ := List.forall_mem_cons.1 hparts
      rw [splitOn_join_continuation] at h
      rcases List.mem_append.1 h with hline | hline
      · exact Nat.le_trans (size_withoutMark_le hline) (Utf8.size_append before part ▸ hpart)
      · exact ih hnext hparts hline

/-- The first line of a continued command comes from its first part. -/
theorem exists_splitOn_join (part : Text) (parts : List Text) :
    ∃ first rest, Text.splitOn '\n' (Text.join continuation (part :: parts)) = first :: rest ∧
      Utf8.size (withoutMark first) ≤ Utf8.size part := by
  cases parts with
  | nil =>
      obtain ⟨first, rest, hlines⟩ := List.exists_cons_of_ne_nil (Text.splitOn_ne_nil '\n' part)
      have hinfix : first <:+: part :=
        Text.isInfix_of_mem_splitOn (hlines ▸ List.mem_cons_self)
      rw [Text.join_cons, List.flatMap_nil, List.append_nil]
      have hpart := (isInfix_withoutMark first).trans hinfix
      exact ⟨first, rest, hlines, Utf8.size_le_of_isInfix hpart⟩
  | cons next parts =>
      obtain ⟨first, rest, hlines⟩ :=
        List.exists_cons_of_ne_nil (Text.splitOn_ne_nil '\n' (part ++ continuationMark))
      have hsplit := splitOn_join_continuation [] part next parts
      rw [List.nil_append, List.nil_append, hlines] at hsplit
      exact ⟨first, _, hsplit, size_withoutMark_le (hlines ▸ List.mem_cons_self)⟩

theorem mem_packages {toolchains : List Toolchain} {package : Text} :
    package ∈ packages toolchains ↔ ∃ toolchain ∈ toolchains, package ∈ toolchain.packages := by
  rw [packages, List.mem_mergeSort, List.mem_eraseDups, List.mem_flatMap]

/-- How long the lines of the install command are, for packages that fit on a line. The
first line keeps to the width. A later line may be longer by its indentation, which is
not counted when the line is filled. -/
theorem size_installCommand_line_le {toolchains : List Toolchain}
    (h : ∀ toolchain ∈ toolchains, ∀ package ∈ toolchain.packages,
      Utf8.size package ≤ installWidth) :
    ∃ first rest, Text.splitOn '\n' (installCommand toolchains) = first :: rest ∧
      Utf8.size (withoutMark first) ≤ installWidth ∧
      ∀ line ∈ rest, Utf8.size (withoutMark line) ≤ installWidth + Utf8.size indentation := by
  have hfits : ∀ part ∈ wrapFrom [] installOpening (packages toolchains),
      Utf8.size part ≤ installWidth := by
    refine forall_mem_wrapFrom (by simp) (by decide) fun package hpackage => ?_
    obtain ⟨toolchain, htoolchain, hpackage⟩ := mem_packages.1 hpackage
    exact h toolchain htoolchain package hpackage
  obtain ⟨part, parts, hwrap⟩ := List.exists_cons_of_ne_nil
    (wrapFrom_ne_nil [] (packages toolchains) installOpening)
  obtain ⟨hpart, hparts⟩ := List.forall_mem_cons.1 (hwrap ▸ hfits)
  obtain ⟨first, rest, hlines, hfirst⟩ := exists_splitOn_join part parts
  refine ⟨first, rest, ?_, Nat.le_trans hfirst hpart, fun line hline => ?_⟩
  · rw [installCommand, hwrap, hlines]
  · have hmem : line ∈ Text.splitOn '\n' ([] ++ Text.join continuation (part :: parts)) := by
      rw [List.nil_append, hlines]
      exact List.mem_cons_of_mem _ hline
    refine size_withoutMark_le_of_mem_join ?_ (fun part hpart => ?_) hmem
    · exact Nat.le_trans (Nat.add_le_add_left hpart _) (by decide)
    · have := hparts part hpart
      omega

/-- A toolchain with a package of 50 bytes and one of 19. -/
def twoPackages : Toolchain :=
  { name := "Two packages"
    file := "QR.two"
    steps := [⟨.compile, "first", some (List.replicate 50 'a')⟩,
      ⟨.run, "second", some (List.replicate 19 'b')⟩] }

theorem packages_twoPackages :
    packages [twoPackages] = [List.replicate 50 'a', List.replicate 19 'b'] := by
  rw [packages, List.mergeSort_of_pairwise]
  · decide
  · decide

theorem splitOn_installCommand_twoPackages :
    Text.splitOn '\n' (installCommand [twoPackages]) = [installOpening ++ continuationMark,
      indentation ++ List.replicate 50 'a' ++ ' ' :: List.replicate 19 'b'] := by
  rw [installCommand, packages_twoPackages]
  decide

/-- Two packages make a line of all 70 bytes, next to a first line without packages. -/
theorem size_installCommand_line_le_twoPackages :
    ∃ first rest, Text.splitOn '\n' (installCommand [twoPackages]) = first :: rest ∧
      Utf8.size (withoutMark first) ≤ 70 ∧ ∀ line ∈ rest, Utf8.size (withoutMark line) ≤ 76 :=
  size_installCommand_line_le (by decide)

/-- The width is not kept on every line: with its indentation, the line of the two
packages has 76 bytes. -/
theorem not_forall_size_line_le_installWidth :
    ¬ ∀ toolchains : List Toolchain,
      (∀ toolchain ∈ toolchains, ∀ package ∈ toolchain.packages, Utf8.size package ≤ 64) →
      ∀ line ∈ Text.splitOn '\n' (installCommand toolchains),
        Utf8.size (withoutMark line) ≤ installWidth := by
  intro hall
  have hline := hall [twoPackages] (by decide)
  rw [splitOn_installCommand_twoPackages] at hline
  exact absurd (hline _ (List.mem_cons_of_mem _ List.mem_cons_self)) (by decide)

end QuineRelay.Report
