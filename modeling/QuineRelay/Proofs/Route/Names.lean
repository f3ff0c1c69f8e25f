import QuineRelay.Proofs.Results
import QuineRelay.Proofs.Text.Blank
import QuineRelay.Proofs.Text.Cutting
import QuineRelay.Proofs.Text.Letters
import QuineRelay.Route

/-!
# Lists of names

A list of names is resolved to the languages that it was written for. Display names and file
extensions are looked up in one table, where the first language that answers is taken. That
this is the right one is a fact about the standard languages: in small letters, no name or
extension of one is a name or extension of another.
-/

namespace QuineRelay

namespace Language

variable {language : Language} {name written item : Text}

/-! ## Names of one language -/

/-- A language is known by its display name and by what follows the last dot in the names of
its files. -/
def IsNameOf (name : Text) (language : Language) : Prop :=
  name = language.name ∨ ∃ front, language.toolchain.file = front ++ '.' :: name ∧ '.' ∉ name

theorem extension?_append {front : Text} (h : '.' ∉ name) :
    extension? (front ++ '.' :: name) = some name := by
  have hdot : (front ++ '.' :: name).contains '.' = true := by simp
  have hname : ∀ c ∈ name.reverse, decide (c ≠ '.') = true := by
    intro c hc
    exact decide_eq_true (ne_of_mem_of_not_mem (List.mem_reverse.1 hc) h)
  rw [extension?, if_pos hdot, List.reverse_append, List.reverse_cons, List.append_assoc,
    List.takeWhile_append_of_pos hname, List.singleton_append, List.takeWhile_cons_of_neg (by simp),
    List.append_nil, List.reverse_reverse]

/-- All names of a language. -/
def names (language : Language) : List Text :=
  language.name :: (extension? language.toolchain.file).toList

theorem IsNameOf.mem_names (h : IsNameOf name language) : name ∈ language.names := by
  rcases h with rfl | ⟨front, hfile, hname⟩
  · exact List.mem_cons_self
  · rw [names, hfile, extension?_append hname]
    exact List.mem_cons_of_mem _ (List.mem_singleton.2 rfl)

theorem answersTo_of_mem_names (h : name ∈ language.names) : language.answersTo name = true := by
  rw [answersTo, Bool.or_eq_true]
  rcases List.mem_cons.1 h with rfl | h
  · exact .inl (beq_self_eq_true _)
  · right
    rw [Option.mem_toList.1 h]
    exact beq_self_eq_true _

/-- Whether a language answers is a matter of small letters. -/
theorem answersTo_congr (language : Language)
    (h : written.map Char.toLower = name.map Char.toLower) :
    language.answersTo written = language.answersTo name := by
  simp only [answersTo, Text.sameLetters, h]

/-- No standard language answers to a name of a later one. -/
theorem pairwise_standard : standard.Pairwise fun earlier language =>
    ∀ name ∈ language.names, earlier.answersTo name = false := by
  decide +kernel

/-- The first language that answers to a name is the one that has it. -/
theorem find?_answersTo (hmem : language ∈ standard) (hname : name ∈ language.names) :
    standard.find? (·.answersTo name) = some language := by
  obtain ⟨front, back, hstandard⟩ := List.append_of_mem hmem
  have hpairwise := pairwise_standard
  rw [hstandard] at hpairwise ⊢
  refine List.find?_eq_some_iff_append.2 ⟨answersTo_of_mem_names hname, front, back, rfl, ?_⟩
  intro earlier hearlier
  have hnot := (List.pairwise_append.1 hpairwise).2.2 earlier hearlier language List.mem_cons_self
  rw [hnot name hname]
  rfl

/-! ## Words -/

/-- A text that stays whole between commas and white space. -/
structure IsWord (word : Text) : Prop where
  head : ∀ c ∈ word.head?, Text.isBlank c = false
  last : ∀ c ∈ word.getLast?, Text.isBlank c = false
  notMem : ',' ∉ word

theorem isWord_names (hmem : language ∈ standard) (hname : name ∈ language.names) :
    IsWord name := by
  have hall : (standard.flatMap names).all (fun name => !(name.head?.any Text.isBlank
      || name.getLast?.any Text.isBlank || name.contains ',')) = true := by
    decide +kernel
  have hword := List.all_eq_true.1 hall name (List.mem_flatMap_of_mem hmem hname)
  rw [Bool.not_eq_true', Bool.or_eq_false_iff, Bool.or_eq_false_iff] at hword
  obtain ⟨⟨hhead, hlast⟩, hcomma⟩ := hword
  refine ⟨?_, ?_, ?_⟩
  · intro c hc
    rwa [hc] at hhead
  · intro c hc
    rwa [hc] at hlast
  · intro hmem
    rw [List.contains_iff_mem.2 hmem] at hcomma
    cases hcomma

private theorem notBlank_of_map_toLower {first second : Option Char}
    (h : first.map Char.toLower = second.map Char.toLower)
    (hsecond : ∀ c ∈ second, Text.isBlank c = false) : ∀ c ∈ first, Text.isBlank c = false := by
  rintro c rfl
  obtain ⟨c', hc', heq⟩ := Option.map_eq_some_iff.1 h.symm
  rw [← Text.isBlank_toLower, ← heq, Text.isBlank_toLower]
  exact hsecond c' hc'

/-- A word stays a word with its letters in the other case. -/
theorem IsWord.of_map_toLower (hword : IsWord name)
    (h : written.map Char.toLower = name.map Char.toLower) : IsWord written where
  head := by
    apply notBlank_of_map_toLower _ hword.head
    rw [← List.head?_map, h, List.head?_map]
  last := by
    apply notBlank_of_map_toLower _ hword.last
    rw [← List.getLast?_map, h, List.getLast?_map]
  notMem := fun hcomma => hword.notMem (Text.mem_of_map_toLower (by decide) h hcomma)

/-- `item` is a name of `language` in any case, with any white space around it. -/
def IsItemFor (item : Text) (language : Language) : Prop :=
  ∃ name before written after, IsNameOf name language ∧ Text.IsCasing written name ∧
    Text.IsBlank before ∧ Text.IsBlank after ∧ item = before ++ written ++ after

/-- An item is looked up as the word in it. -/
theorem IsItemFor.find?_eq (h : IsItemFor item language) (hmem : language ∈ standard) :
    find? item = some language := by
  obtain ⟨name, before, written, after, hname, hcasing, hbefore, hafter, rfl⟩ := h
  have hsmall := hcasing.map_toLower
  have hword := (isWord_names hmem hname.mem_names).of_map_toLower hsmall
  rw [find?, Text.trim_append hbefore hafter hword.head hword.last]
  simp only [answersTo_congr _ hsmall]
  exact find?_answersTo hmem hname.mem_names

theorem IsItemFor.notMem (h : IsItemFor item language) (hmem : language ∈ standard) :
    ',' ∉ item := by
  obtain ⟨name, before, written, after, hname, hcasing, hbefore, hafter, rfl⟩ := h
  have hword := (isWord_names hmem hname.mem_names).of_map_toLower hcasing.map_toLower
  intro hcomma
  rw [List.mem_append, List.mem_append] at hcomma
  rcases hcomma with (hcomma | hcomma) | hcomma
  · exact hbefore.notMem (by decide) hcomma
  · exact hword.notMem hcomma
  · exact hafter.notMem (by decide) hcomma

/-- White space names nothing. -/
theorem find?_eq_none_of_isBlank (h : Text.IsBlank item) : find? item = none := by
  have hnil : ∀ language ∈ standard, language.answersTo [] = false := by
    decide
  rw [find?, Text.trim_eq_nil_iff.2 h, List.find?_eq_none]
  intro language hlanguage
  rw [hnil language hlanguage]
  decide

theorem IsItemFor.not_isBlank (h : IsItemFor item language) (hmem : language ∈ standard) :
    ¬ Text.IsBlank item := by
  intro hblank
  have hfind := h.find?_eq hmem
  rw [find?_eq_none_of_isBlank hblank] at hfind
  cases hfind

end Language

namespace Route

variable {items : List Text} {languages : List Language} {item text : Text}

/-! ## Lists -/

/-- The items name these standard languages in this order, with blank items anywhere. -/
inductive Lists : List Text → List Language → Prop
  | nil : Lists [] []
  | blank {item : Text} {items : List Text} {languages : List Language} :
      Text.IsBlank item → Lists items languages → Lists (item :: items) languages
  | named {item : Text} {items : List Text} {language : Language} {languages : List Language} :
      language ∈ Language.standard → Language.IsItemFor item language → Lists items languages →
      Lists (item :: items) (language :: languages)

/-- Python twice around Brainfuck, in several spellings and with a blank item. -/
private theorem lists_pythonTwice : Lists [" pYTHON", "", "\tBF ", "PY"]
    [Language.python, Language.brainfuck, Language.python] := by
  refine .named (by decide) ⟨"Python", " ", "pYTHON", "", .inl rfl, ?_, ?_, ?_, rfl⟩
    (.blank ?_ (.named (by decide) ⟨"bf", "\t", "BF", " ", .inr ⟨"QR", rfl, ?_⟩, ?_, ?_, ?_, rfl⟩
      (.named (by decide) ⟨"py", "", "PY", "", .inr ⟨"QR", rfl, ?_⟩, ?_, ?_, ?_, rfl⟩ .nil)))
  all_goals decide

/-- Whether an item of a list is read. -/
def isRead (item : Text) : Bool :=
  !(Text.trim item).isEmpty

theorem isRead_iff : isRead item = true ↔ ¬ Text.IsBlank item := by
  rw [isRead, Bool.not_eq_true', List.isEmpty_eq_false_iff, ← Text.trim_eq_nil_iff]

theorem languageNamed_eq_error_iff :
    (∃ e, languageNamed item = .error e) ↔ Language.find? item = none := by
  rw [languageNamed]
  cases Language.find? item with
  | none => exact ⟨fun _ => rfl, fun _ => ⟨_, rfl⟩⟩
  | some language =>
      constructor
      · rintro ⟨e, he⟩
        cases he
      · intro hfind
        cases hfind

theorem Lists.notMem (h : Lists items languages) : ∀ item ∈ items, ',' ∉ item := by
  induction h with
  | nil => simp
  | blank hblank _ ih => exact List.forall_mem_cons.2 ⟨hblank.notMem (by decide), ih⟩
  | named hmem hitem _ ih => exact List.forall_mem_cons.2 ⟨hitem.notMem hmem, ih⟩

/-- The items that are read name the languages. -/
theorem Lists.mapM_languageNamed (h : Lists items languages) :
    (items.filter isRead).mapM languageNamed = .ok languages := by
  induction h with
  | nil => rfl
  | blank hblank _ ih =>
      rw [List.filter_cons_of_neg (fun hread => isRead_iff.1 hread hblank), ih]
  | named hmem hitem _ ih =>
      rw [List.filter_cons_of_pos (isRead_iff.2 (hitem.not_isBlank hmem)), List.mapM_cons,
        languageNamed, hitem.find?_eq hmem, ih]
      rfl

theorem ofNameList_some (text : Text) :
    ofNameList (some text) = ofNames ((Text.splitOn ',' text).filter isRead) :=
  rfl

theorem ofNameList_of_lists (h : Lists items languages) (hne : languages ≠ []) :
    ofNameList (some (Text.join "," items)) = .ok ⟨languages, hne⟩ := by
  cases items with
  | nil =>
      cases h
      exact absurd rfl hne
  | cons item items =>
      have hsplit : Text.splitOn ',' (Text.join "," (item :: items)) = item :: items :=
        Text.splitOn_join h.notMem
      rw [ofNameList_some, hsplit, ofNames, h.mapM_languageNamed]
      exact dif_neg hne

theorem ofNameList_of_isBlank (h : ∀ item ∈ Text.splitOn ',' text, Text.IsBlank item) :
    ofNameList (some text) = .error .emptyRoute := by
  have hnone : (Text.splitOn ',' text).filter isRead = [] := by
    rw [List.filter_eq_nil_iff]
    intro item hitem hread
    exact isRead_iff.1 hread (h item hitem)
  rw [ofNameList_some, hnone]
  rfl

/-- An item that is read and names no standard language. -/
def IsUnknown (item : Text) : Prop :=
  ¬ Text.IsBlank item ∧ Language.find? item = none

theorem ofNameList_of_isFirst (h : IsFirst IsUnknown (Text.splitOn ',' text) item) :
    ofNameList (some text) = .error (.unknownLanguage item) := by
  obtain ⟨hread, hnone⟩ := h.1
  have hfirst : IsFirst (fun name => ∃ e, languageNamed name = .error e)
      ((Text.splitOn ',' text).filter isRead) item := by
    refine (h.filter (isRead_iff.2 hread)).congr ?_
    intro name hname
    rw [languageNamed_eq_error_iff, IsUnknown]
    exact and_iff_right (isRead_iff.1 (List.mem_filter.1 hname).2)
  have herror : languageNamed item = .error (.unknownLanguage item) := by
    rw [languageNamed, hnone]
  rw [ofNameList_some, ofNames, mapM_eq_error hfirst herror]
  rfl

/-- A list of names resolves to the languages that it was written for, in their order. A list
with nothing but white space between its commas is an empty route, and where some name is
unknown, the first unknown name is reported as it was written. -/
theorem ofNameList_resolves :
    (∀ items languages, Lists items languages → languages ≠ [] →
      ∃ route, ofNameList (some (Text.join "," items)) = .ok route ∧
        route.languages = languages) ∧
    (∀ text, (∀ item ∈ Text.splitOn ',' text, Text.IsBlank item) →
      ofNameList (some text) = .error .emptyRoute) ∧
    ∀ text, (∃ item ∈ Text.splitOn ',' text, IsUnknown item) →
      ∃ item, IsFirst IsUnknown (Text.splitOn ',' text) item ∧
        ofNameList (some text) = .error (.unknownLanguage item) := by
  refine ⟨?_, ?_, ?_⟩
  · intro items languages h hne
    exact ⟨⟨languages, hne⟩, ofNameList_of_lists h hne, rfl⟩
  · intro text h
    exact ofNameList_of_isBlank h
  · rintro text ⟨item, hitem, hunknown⟩
    obtain ⟨first, hfirst⟩ := IsFirst.exists_of_mem hitem hunknown
    exact ⟨first, hfirst, ofNameList_of_isFirst hfirst⟩

theorem ofNameList_resolves_pythonTwice :
    (∃ route, ofNameList (some " pYTHON,,\tBF ,PY") = .ok route ∧
      route.languages = [Language.python, Language.brainfuck, Language.python]) ∧
    ofNameList (some " ,,\t") = .error .emptyRoute ∧
    ∃ item, IsFirst IsUnknown (Text.splitOn ',' "c, cobol ,nim") item ∧
      ofNameList (some "c, cobol ,nim") = .error (.unknownLanguage item) := by
  refine ⟨?_, ?_, ?_⟩
  · exact ofNameList_resolves.1 [" pYTHON", "", "\tBF ", "PY"] _ lists_pythonTwice (by decide)
  · exact ofNameList_resolves.2.1 " ,,\t" (by decide)
  · exact ofNameList_resolves.2.2 "c, cobol ,nim" ⟨" cobol ", by decide, by decide, by decide⟩

end Route

end QuineRelay
