import QuineRelay.Proofs.Files

/-!
# Making directories

The places that a path names are directories once they have been made, so making them
a second time changes nothing, and the path leads to the last of them. A path may end
with separators and with names of the directory it has reached; these matter neither
to the directory that is made nor to the files in it.
-/

namespace QuineRelay

namespace Path

/-- A name that can be added to a path: it is no separator and does not stand for a
directory that is already on the way. -/
structure IsName (name : Text) : Prop where
  ne_nil : name ≠ []
  ne_here : name ≠ here
  ne_above : name ≠ above
  notMem : '/' ∉ name

instance (name : Text) : Decidable (IsName name) :=
  decidable_of_iff (name ≠ [] ∧ name ≠ here ∧ name ≠ above ∧ '/' ∉ name)
    ⟨fun h => ⟨h.1, h.2.1, h.2.2.1, h.2.2.2⟩, fun h => ⟨h.1, h.2, h.3, h.4⟩⟩

/-! ## Names -/

theorem names_append_cons (front back : Text) :
    names (front ++ '/' :: back) = names front ++ names back := by
  rw [names, Text.splitOn_append_cons, List.map_append]
  rfl

section

variable {name : Text}

theorem IsName.names_eq (h : IsName name) : names name = [name] := by
  have hsplit : Text.splitOn '/' name = [name] := by
    simpa [Text.join_cons] using Text.splitOn_join (show ∀ part ∈ [name], '/' ∉ part by
      simpa using h.notMem)
  rw [names, hsplit, List.map_singleton, if_neg (by simpa using h.ne_nil)]

theorem IsName.step_eq (h : IsName name) (path : Path) : path.step name = path ++ [name] := by
  rw [step, if_neg h.ne_here, if_neg h.ne_above]

theorem IsName.isAbsolute_eq (h : IsName name) : isAbsolute name = false := by
  cases name with
  | nil => rfl
  | cons c rest =>
      have hc : c ≠ '/' := fun heq => h.notMem (heq ▸ List.mem_cons_self)
      simpa [isAbsolute] using hc

end

theorem step_here (path : Path) : path.step here = path :=
  if_pos rfl

/-- The places that names lead to, one after the other. -/
def places (path : Path) : List Text → List Path
  | [] => []
  | name :: rest => path.step name :: places (path.step name) rest

/-- The place that names lead to in the end. -/
def reach (path : Path) (names : List Text) : Path :=
  names.foldl step path

theorem places_append (path : Path) (front back : List Text) :
    path.places (front ++ back) = path.places front ++ (path.reach front).places back := by
  induction front generalizing path with
  | nil => rfl
  | cons name front ih =>
      rw [List.cons_append, places, ih]
      rfl

/-- What stands before the names of files in the directory that a text names. -/
def leading (directory : Text) : Text :=
  if directory.isEmpty then []
  else if directory.getLast? == some '/' then directory else directory ++ ['/']

theorem IsName.joinText_eq {name : Text} (h : IsName name) (directory : Text) :
    joinText directory name = leading directory ++ name := by
  rw [joinText, h.isAbsolute_eq, Bool.false_or, leading]
  split
  · rfl
  · split
    · rfl
    · simp

theorem IsName.getLast?_joinText {name : Text} (h : IsName name) (directory : Text) :
    (joinText directory name).getLast? ≠ some '/' := by
  obtain ⟨front, c, rfl⟩ := List.eq_nil_or_concat name |>.resolve_left h.ne_nil
  rw [h.joinText_eq, List.concat_eq_append, ← List.append_assoc, List.getLast?_concat]
  exact fun heq => h.notMem (by simp [Option.some.inj heq])

/-- Before the name of a file stands a separator, unless the directory is the one that
paths start from. -/
theorem leading_cases (directory : Text) :
    directory = [] ∧ leading directory = [] ∨
      ∃ front, leading directory = front ++ ['/'] ∧
        (directory = front ++ ['/'] ∨ directory = front ∧ front ≠ []) := by
  rw [leading]
  cases hdirectory : directory with
  | nil => exact .inl ⟨rfl, rfl⟩
  | cons c rest =>
      right
      rw [if_neg (by simp), ← hdirectory]
      split
      · rename_i hlast
        obtain ⟨front, hfront⟩ := List.getLast?_eq_some_iff.1 (eq_of_beq hlast)
        exact ⟨front, hfront, .inl hfront⟩
      · exact ⟨directory, rfl, .inr ⟨rfl, by simp [hdirectory]⟩⟩

/-- Nothing is dropped behind the name of a file. -/
theorem dropTrailing_append {reversed before : Text} (hne : reversed ≠ [])
    (hhere : reversed ≠ ['.']) (hname : '/' ∉ reversed) :
    dropTrailing (reversed ++ before) = reversed ++ before := by
  obtain ⟨c, rest, rfl⟩ := List.exists_cons_of_ne_nil hne
  rw [List.mem_cons, not_or] at hname
  unfold dropTrailing
  split
  · simp_all
  · simp_all
  · simp_all
  · cases rest <;> simp_all
  · cases rest <;> simp_all
  · rfl

/-- The directory of a file is the directory it was put into, without the separators and
the names of that directory at its end. -/
theorem IsName.parentText?_joinText {name : Text} (h : IsName name) (directory : Text) :
    parentText? (joinText directory name)
      = some (dropTrailing (leading directory).reverse).reverse := by
  have hname : '/' ∉ name.reverse := fun hmem => h.notMem (List.mem_reverse.1 hmem)
  have hne : name.reverse ≠ [] := fun hnil => h.ne_nil (List.reverse_eq_nil_iff.1 hnil)
  have hhere : name.reverse ≠ ['.'] := fun heq => h.ne_here (by
    rw [← List.reverse_reverse name, heq]
    rfl)
  have hleading :
      (leading directory).reverse.dropWhile (· ≠ '/') = (leading directory).reverse := by
    rcases leading_cases directory with ⟨-, heq⟩ | ⟨front, heq, -⟩
    · rw [heq]
      rfl
    · rw [heq, List.reverse_append]
      rfl
  have hwhile : (name.reverse ++ (leading directory).reverse).dropWhile (· ≠ '/')
      = (leading directory).reverse := by
    rw [List.dropWhile_append_of_pos, hleading]
    exact fun c hc => decide_eq_true fun heq => hname (heq ▸ hc)
  rw [h.joinText_eq, parentText?, List.reverse_append, dropTrailing_append hne hhere hname]
  obtain ⟨c, rest, hreverse⟩ := List.exists_cons_of_ne_nil hne
  rw [hreverse] at hname hwhile ⊢
  split
  · rename_i hnil
    cases hnil
  · rename_i hroot
    exact absurd (List.mem_cons.2 (.inl (List.cons.inj hroot).1.symm)) hname
  · rw [hwhile]

end Path

namespace Files

variable {files later made : Files} {path : Path}

/-! ## Making directories -/

/-- Every place that names lead to is a directory. -/
def LeadsThrough (files : Files) (path : Path) (names : List Text) : Prop :=
  ∀ place ∈ path.places names, files.entry? place = some .directory

theorem KeepsDirectories.leadsThrough {names : List Text} (h : files.KeepsDirectories later)
    (hnames : files.LeadsThrough path names) : later.LeadsThrough path names :=
  fun place hplace => h place (hnames place hplace)

/-- Nothing is made where directories are. -/
theorem makeFrom_of_leadsThrough {names : List Text} (h : files.LeadsThrough path names) :
    files.makeFrom path names = .ok files := by
  induction names generalizing path with
  | nil => rfl
  | cons name names ih =>
      obtain ⟨hname, hnames⟩ := List.forall_mem_cons.1 h
      rw [makeFrom, hname]
      exact ih hnames

/-- Making directories makes the places that the names lead to, and nothing else. -/
theorem entry?_makeFrom {names : List Text} (h : files.makeFrom path names = .ok made)
    (place : Path) :
    made.entry? place
      = if place ∈ path.places names then some .directory else files.entry? place := by
  induction names generalizing files path with
  | nil =>
      obtain rfl := Except.ok.inj h
      rw [Path.places, if_neg List.not_mem_nil]
  | cons name names ih =>
      rw [makeFrom] at h
      simp only [Path.places, List.mem_cons]
      split at h
      · rename_i hentry
        rw [ih h]
        grind
      · rename_i hentry
        rw [ih h, entry?_put (by simp [hentry])]
        grind
      · cases h

theorem leadsThrough_of_makeFrom {names : List Text} (h : files.makeFrom path names = .ok made) :
    made.LeadsThrough path names := by
  intro place hplace
  rw [entry?_makeFrom h, if_pos hplace]

/-- Nothing but directories stands at the places that names lead to. -/
def IsClear (files : Files) (path : Path) (names : List Text) : Prop :=
  ∀ place ∈ path.places names,
    files.entry? place = none ∨ files.entry? place = some .directory

/-- Directories can be made just where nothing else stands in the way. -/
theorem exists_makeFrom_iff {names : List Text} :
    (∃ made, files.makeFrom path names = .ok made) ↔ files.IsClear path names := by
  induction names generalizing files path with
  | nil => exact ⟨fun _ => by simp [IsClear, Path.places], fun _ => ⟨files, rfl⟩⟩
  | cons name names ih =>
      rw [IsClear, Path.places, List.forall_mem_cons, makeFrom]
      split
      · rename_i hentry
        rw [ih, IsClear]
        simp [hentry]
      · rename_i hentry
        rw [ih, IsClear]
        have hne : files.entry? (path.step name) ≠ some .directory := by simp [hentry]
        simp only [entry?_put hne, hentry]
        grind
      · rename_i entry hentry hother
        simp only [hother, reduceCtorEq, exists_false, false_iff, not_and, false_or]
        intro hdirectory
        exact absurd (Option.some.inj hdirectory) hentry

/-- Directories are made one part of the way after the other. -/
theorem makeFrom_append {front : List Text} (h : files.makeFrom path front = .ok made)
    (back : List Text) :
    files.makeFrom path (front ++ back) = made.makeFrom (path.reach front) back := by
  induction front generalizing files path with
  | nil =>
      obtain rfl := Except.ok.inj h
      rfl
  | cons name front ih =>
      rw [makeFrom] at h
      rw [List.cons_append, makeFrom]
      split at h
      · exact ih h
      · exact ih h
      · cases h

/-- Names that lead through directories are followed to the last one. -/
theorem follow_of_leadsThrough {names : List Text}
    (hpath : files.entry? path = some .directory) (h : files.LeadsThrough path names) :
    files.follow path names = .ok (path.reach names) ∧
      files.entry? (path.reach names) = some .directory := by
  induction names generalizing path with
  | nil => exact ⟨rfl, hpath⟩
  | cons name names ih =>
      obtain ⟨hname, hnames⟩ := List.forall_mem_cons.1 h
      rw [follow, hpath]
      exact ih hname hnames

/-- Names that are followed to the end lead to the place that they reach. -/
theorem eq_reach_of_follow {names : List Text} {other : Path}
    (h : files.follow path names = .ok other) : other = path.reach names := by
  induction names generalizing path with
  | nil => exact (Except.ok.inj h).symm
  | cons name names ih =>
      rw [follow] at h
      split at h
      · cases h
      · exact ih h
      · cases h

/-- The name of a directory that has been reached makes nothing. -/
theorem makeFrom_append_here {names : List Text} (hpath : files.entry? path = some .directory) :
    files.makeFrom path (names ++ [Path.here]) = .ok made ↔
      files.makeFrom path names = .ok made := by
  induction names generalizing files path with
  | nil =>
      have hhere : files.makeFrom path [Path.here] = .ok files :=
        makeFrom_of_leadsThrough (by simpa [LeadsThrough, Path.places, Path.step_here] using hpath)
      rw [List.nil_append, hhere, makeFrom]
  | cons name names ih =>
      rw [List.cons_append, makeFrom, makeFrom]
      split
      · rename_i hentry
        exact ih hentry
      · rename_i hentry
        refine ih ?_
        rw [entry?_put (by simp [hentry]), if_pos rfl]
      · simp

/-! ## Directories of texts -/

/-- The place from which the names in a text are followed. -/
def start (text : Text) : Path :=
  if Path.isAbsolute text then [Path.root] else []

theorem entry?_start (files : Files) (text : Text) :
    files.entry? (start text) = some .directory := by
  rw [start]
  split <;> rfl

theorem makeDirectories_eq {text : Text} (h : text ≠ []) :
    files.makeDirectories [] text = files.makeFrom (start text) (Path.names text) := by
  rw [makeDirectories, if_neg (by simpa using h), start]
  split <;> rfl

theorem resolve_eq {text : Text} (h : text ≠ []) :
    files.resolve [] text = files.follow (start text) (Path.names text) := by
  rw [resolve, if_neg (by simpa using h), start]
  split <;> rfl

theorem start_append {text : Text} (h : text ≠ []) (back : Text) :
    start (text ++ back) = start text := by
  obtain ⟨c, rest, rfl⟩ := List.exists_cons_of_ne_nil h
  rfl

/-- A separator, with or without a name of the same directory after it, makes nothing. -/
theorem makeDirectories_append_cons {text back : Text} (h : text ≠ [])
    (hback : Path.names back = [Path.here]) :
    files.makeDirectories [] (text ++ '/' :: back) = .ok made ↔
      files.makeDirectories [] text = .ok made := by
  rw [makeDirectories_eq (by simp), makeDirectories_eq h, start_append h, Path.names_append_cons,
    hback]
  exact makeFrom_append_here (entry?_start files text)

/-- Directories that were made need not be made again. -/
theorem makeDirectories_of_keepsDirectories {text : Text}
    (h : files.makeDirectories [] text = .ok made) (hkeeps : made.KeepsDirectories later) :
    later.makeDirectories [] text = .ok later := by
  by_cases htext : text = []
  · rw [htext]
    rfl
  · rw [makeDirectories_eq htext] at h ⊢
    exact makeFrom_of_leadsThrough (hkeeps.leadsThrough (leadsThrough_of_makeFrom h))

/-! ## Files in directories -/

/-- The names that lead to the directory that a text names. -/
def lead (directory : Text) : List Text :=
  if directory.isEmpty then [] else Path.names (Path.leading directory).dropLast

/-- The directory that a text names. -/
def place (directory : Text) : Path :=
  (start directory).reach (lead directory)

theorem makeDirectories_eq_ok_iff {directory : Text} :
    files.makeDirectories [] directory = .ok made ↔
      files.makeFrom (start directory) (lead directory) = .ok made := by
  rcases Path.leading_cases directory with ⟨rfl, -⟩ | ⟨front, hleading, hfront⟩
  · rfl
  · rcases hfront with rfl | ⟨rfl, hne⟩
    · rw [lead, if_neg (by simp), hleading, List.dropLast_concat, makeDirectories_eq (by simp),
        Path.names_append_cons]
      exact makeFrom_append_here (entry?_start files _)
    · rw [lead, if_neg (by simpa using hne), hleading, List.dropLast_concat, makeDirectories_eq hne]

section

variable {directory name : Text}

theorem names_joinText (hname : Path.IsName name) (directory : Text) :
    Path.names (Path.joinText directory name) = lead directory ++ [name] := by
  rw [hname.joinText_eq]
  rcases Path.leading_cases directory with ⟨rfl, hleading⟩ | ⟨front, hleading, hfront⟩
  · rw [hleading, List.nil_append, hname.names_eq]
    rfl
  · have hne : directory ≠ [] := by
      rcases hfront with rfl | ⟨rfl, hne⟩
      · simp
      · exact hne
    rw [lead, if_neg (by simpa using hne), hleading, List.dropLast_concat, List.append_assoc,
      List.singleton_append, Path.names_append_cons, hname.names_eq]

theorem start_joinText (hname : Path.IsName name) (directory : Text) :
    start (Path.joinText directory name) = start directory := by
  rw [hname.joinText_eq]
  rcases Path.leading_cases directory with ⟨rfl, hleading⟩ | ⟨front, hleading, rfl | ⟨rfl, hne⟩⟩
  · rw [hleading, List.nil_append, start, hname.isAbsolute_eq]
    rfl
  · rw [hleading, start_append (by simp)]
  · rw [hleading, List.append_assoc, start_append hne]

/-- A directory is found nowhere but at its place. -/
theorem eq_place_of_resolve (h : files.resolve [] directory = .ok path) :
    path = place directory := by
  rcases Path.leading_cases directory with ⟨rfl, -⟩ | ⟨front, hleading, hfront⟩
  · cases h
  · have hne : directory ≠ [] := by
      rcases hfront with rfl | ⟨rfl, hne⟩
      · simp
      · exact hne
    rw [resolve_eq hne] at h
    rw [eq_reach_of_follow h, place, lead, if_neg (by simpa using hne), hleading,
      List.dropLast_concat]
    rcases hfront with rfl | ⟨rfl, -⟩
    · -- The separator at the end adds a name of the directory that was reached.
      rw [Path.names_append_cons, Path.reach, List.foldl_append]
      exact Path.step_here _
    · rfl

/-- The names of files lead on from the directory that they are in. -/
theorem resolve_joinText (hname : Path.IsName name)
    (hleads : files.LeadsThrough (start directory) (lead directory)) :
    files.resolve [] (Path.joinText directory name) = .ok (place directory ++ [name]) := by
  have hne : Path.joinText directory name ≠ [] := by
    rw [hname.joinText_eq]
    simp [hname.ne_nil]
  obtain ⟨hfollow, hdirectory⟩ := follow_of_leadsThrough (entry?_start files _) hleads
  rw [resolve_eq hne, start_joinText hname, names_joinText hname, follow_append, hfollow]
  show files.follow (place directory) [name] = _
  rw [follow, place, hdirectory, hname.step_eq]
  rfl

/-- The name of a file is found nowhere but in its directory. -/
theorem eq_of_resolve_joinText (hname : Path.IsName name)
    (h : files.resolve [] (Path.joinText directory name) = .ok path) :
    path = place directory ++ [name] := by
  have hne : Path.joinText directory name ≠ [] := by
    rw [hname.joinText_eq]
    simp [hname.ne_nil]
  rw [resolve_eq hne, start_joinText hname, names_joinText hname] at h
  rw [eq_reach_of_follow h, Path.reach, List.foldl_append]
  exact hname.step_eq _

/-- A text seen from a directory is followed from there. -/
theorem resolve_joinText_eq {file : Text} (hdirectory : directory ≠ [])
    (hlast : directory.getLast? ≠ some '/') (hfile : file ≠ [])
    (hpath : files.resolve [] directory = .ok path) :
    files.resolve [] (Path.joinText directory file) = files.resolve path file := by
  have hlast : (directory.getLast? == some '/') = false := beq_eq_false_iff_ne.2 hlast
  cases habsolute : Path.isAbsolute file with
  | true => simp [Path.joinText, resolve, hfile, habsolute]
  | false =>
      have hjoin : Path.joinText directory file = directory ++ '/' :: file := by
        simp [Path.joinText, habsolute, hdirectory, hlast]
      rw [resolve_eq hdirectory] at hpath
      rw [hjoin, resolve_eq (by simp), start_append hdirectory, Path.names_append_cons,
        follow_append, hpath]
      simp [resolve, hfile, habsolute, Except.bind]

end

/-- What is dropped at the end of a path makes nothing. -/
theorem makeDirectories_dropTrailing {reversed : Text}
    (h : files.makeDirectories [] reversed.reverse = .ok made) :
    files.makeDirectories [] (Path.dropTrailing reversed).reverse = .ok made := by
  fun_induction Path.dropTrailing reversed with
  | case1 => exact h
  | case2 => exact h
  | case3 rest hrest ih =>
      rw [List.reverse_cons] at h
      exact ih ((makeDirectories_append_cons (by simpa using hrest) rfl).1 h)
  | case4 => exact h
  | case5 rest hrest ih =>
      rw [List.reverse_cons, List.reverse_cons, List.append_assoc] at h
      exact ih ((makeDirectories_append_cons (by simpa using hrest) rfl).1 h)
  | case6 => exact h

end Files

end QuineRelay
