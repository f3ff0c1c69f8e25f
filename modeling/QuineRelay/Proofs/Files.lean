import QuineRelay.Files
import QuineRelay.Proofs.Results
import QuineRelay.Proofs.Text.Cutting

/-!
# Reading what was written

Writing a file changes one entry of a file system, and no entry that is a directory.
So every path that leads to a place goes on leading there, and the file is read back
under the text it was written under, with all other files as they were. Making
directories again changes nothing.
-/

namespace QuineRelay

namespace Files

variable {files later : Files} {path other : Path}

/-! ## Entries -/

theorem lookup_put (files : Files) (path other : Path) (entry : Entry) :
    (files.put path entry).entries.lookup other
      = if other = path then some entry else files.entries.lookup other := by
  have replaced (entries : List (Path × Entry)) :
      (entries.map fun old => if old.1 = path then (path, entry) else old).lookup other
        = if other = path then (entries.lookup path).map fun _ => entry
          else entries.lookup other := by
    induction entries with
    | nil => simp
    | cons old entries ih =>
        obtain ⟨name, value⟩ := old
        rw [List.map_cons]
        by_cases hname : name = path
        · rw [if_pos hname, List.lookup_cons, List.lookup_cons, List.lookup_cons, hname]
          by_cases hother : other = path
          · simp [hother]
          · simp [hother, ih, beq_eq_false_iff_ne.2 hother]
        · rw [if_neg hname, List.lookup_cons, List.lookup_cons, List.lookup_cons, ih]
          by_cases hother : other = path
          · simp [hother, beq_eq_false_iff_ne.2 (Ne.symm hname)]
          · simp [hother]
  unfold put
  split
  · rename_i hpresent
    rw [replaced]
    split
    · obtain ⟨old, hold⟩ := Option.isSome_iff_exists.1 hpresent
      rw [hold, Option.map_some]
    · rfl
  · rename_i habsent
    rw [Option.not_isSome_iff_eq_none] at habsent
    rw [List.lookup_append, List.lookup_cons, List.lookup_nil]
    by_cases hother : other = path
    · rw [hother, habsent, beq_self_eq_true, if_pos rfl, Option.none_or]
    · rw [beq_eq_false_iff_ne.2 hother, if_neg hother, Option.or_none]

/-- What stands at a path after an entry was put in a place that is no directory. -/
theorem entry?_put (h : files.entry? path ≠ some .directory) (other : Path) (entry : Entry) :
    entry? (files.put path entry) other
      = if other = path then some entry else files.entry? other := by
  unfold entry? at h ⊢
  rw [lookup_put]
  by_cases hpath : (path.isAscent || path = [Path.root]) = true
  · exact absurd (if_pos hpath) h
  · by_cases hother : other = path
    · rw [hother, if_neg hpath, if_pos rfl, if_pos rfl]
    · rw [if_neg hother, if_neg hother]

/-- No directory is lost. -/
def KeepsDirectories (files later : Files) : Prop :=
  ∀ path, files.entry? path = some .directory → later.entry? path = some .directory

theorem KeepsDirectories.refl (files : Files) : files.KeepsDirectories files :=
  fun _ h => h

theorem KeepsDirectories.trans {middle : Files} (h : files.KeepsDirectories middle)
    (hlater : middle.KeepsDirectories later) : files.KeepsDirectories later :=
  fun path hpath => hlater path (h path hpath)

theorem keepsDirectories_put (h : files.entry? path ≠ some .directory) (entry : Entry) :
    files.KeepsDirectories (files.put path entry) := by
  intro other hother
  have hne : other ≠ path := fun heq => h (heq ▸ hother)
  rw [entry?_put h, if_neg hne, hother]

/-! ## Following names -/

theorem follow_append (files : Files) (path : Path) (front back : List Text) :
    files.follow path (front ++ back)
      = (files.follow path front).bind fun reached => files.follow reached back := by
  induction front generalizing path with
  | nil => rfl
  | cons name front ih =>
      rw [List.cons_append, follow, follow]
      split
      · rfl
      · exact ih _
      · rfl

theorem KeepsDirectories.follow {names : List Text} (h : files.KeepsDirectories later)
    (hpath : files.follow path names = .ok other) : later.follow path names = .ok other := by
  induction names generalizing path with
  | nil => exact hpath
  | cons name names ih =>
      rw [Files.follow] at hpath
      split at hpath
      · cases hpath
      · rename_i hentry
        rw [Files.follow, h _ hentry]
        exact ih hpath
      · cases hpath

theorem KeepsDirectories.resolve {base : Path} {text : Text} (h : files.KeepsDirectories later)
    (hpath : files.resolve base text = .ok path) : later.resolve base text = .ok path := by
  unfold Files.resolve at hpath ⊢
  split
  · simp_all
  · rename_i hempty
    rw [if_neg hempty] at hpath
    split
    · rename_i habsolute
      rw [if_pos habsolute] at hpath
      exact h.follow hpath
    · rename_i hrelative
      rw [if_neg hrelative] at hpath
      exact h.follow hpath

/-! ## Files -/

/-- A place that may be written to is reached and is no directory. -/
theorem resolve_of_writable {base : Path} {text : Text}
    (h : files.writable base text = .ok path) :
    files.resolve base text = .ok path ∧ files.entry? path ≠ some .directory := by
  unfold writable at h
  split at h
  · split at h <;> cases h
  · split at h
    · cases h
    · rename_i hpath
      split at h
      · cases h
      · rename_i hentry
        obtain rfl := Except.ok.inj h
        exact ⟨hpath, hentry⟩

/-- What is written takes the place of one entry, unless a device stands there. -/
theorem cases_of_write {base : Path} {text : Text} {content : Bytes}
    (h : files.write base text content = .ok later) :
    ∃ path, files.resolve base text = .ok path ∧ files.entry? path ≠ some .directory ∧
      (files.entry? path = some .sink ∧ later = files ∨
        files.entry? path ≠ some .sink ∧
          ∃ executable, later = files.put path (.file content executable)) := by
  unfold write at h
  split at h
  · cases h
  · rename_i path hwritable
    obtain ⟨hpath, hentry⟩ := resolve_of_writable hwritable
    refine ⟨path, hpath, hentry, ?_⟩
    split at h
    · rename_i hsink
      exact .inl ⟨hsink, (Except.ok.inj h).symm⟩
    · rename_i hfile
      refine .inr ⟨by simp [hfile], _, (Except.ok.inj h).symm⟩
    · rename_i hsink _
      exact .inr ⟨hsink, _, (Except.ok.inj h).symm⟩

/-- What writing does depends on what stands in the place. -/
theorem write_eq {base : Path} {text : Text} (hlast : text.getLast? ≠ some '/')
    (hpath : files.resolve base text = .ok path) (content : Bytes) :
    files.write base text content
      = match files.entry? path with
        | some .directory => .error .isDirectory
        | some .sink => .ok files
        | some (.file _ executable) => .ok (files.put path (.file content executable))
        | none => .ok (files.put path (.file content false)) := by
  simp only [write, writable, if_neg hlast, hpath]
  rcases hentry : files.entry? path with _ | ⟨old, executable⟩ | _ | _
  · simp [hentry]
  · simp [hentry]
  · simp
  · simp [hentry]

/-- A file is written where nothing or a file stands. -/
theorem exists_write_eq_put {base : Path} {text : Text}
    (hlast : text.getLast? ≠ some '/') (hpath : files.resolve base text = .ok path)
    (hfile : ∀ entry, files.entry? path = some entry →
      ∃ content executable, entry = .file content executable) (content : Bytes) :
    ∃ executable, files.write base text content
      = .ok (files.put path (.file content executable)) := by
  rw [write_eq hlast hpath]
  cases hentry : files.entry? path with
  | none => exact ⟨false, rfl⟩
  | some entry =>
      obtain ⟨old, executable, rfl⟩ := hfile entry hentry
      exact ⟨executable, rfl⟩

theorem read_of_entry? {base : Path} {text : Text} {content : Bytes} {executable : Bool}
    (hpath : files.resolve base text = .ok path)
    (hentry : files.entry? path = some (.file content executable)) :
    files.read base text = .ok content := by
  simp only [read, find, hpath, hentry]

/-- A file is read back, unless it was written to a device. -/
theorem read_of_write {base : Path} {text : Text} {content : Bytes}
    (h : files.write base text content = .ok later) :
    later.read base text = .ok content ∨ later.find base text = .ok .sink := by
  obtain ⟨path, hpath, hentry, ⟨hsink, rfl⟩ | ⟨-, executable, rfl⟩⟩ := cases_of_write h
  · right
    simp only [find, hpath, hsink]
  · left
    have hwritten : entry? (files.put path (.file content executable)) path
        = some (.file content executable) := by
      rw [entry?_put hentry, if_pos rfl]
    exact read_of_entry? ((keepsDirectories_put hentry _).resolve hpath) hwritten

/-- Nothing is written under a text that ends with a separator. -/
theorem getLast?_of_write {base : Path} {text : Text} {content : Bytes}
    (h : files.write base text content = .ok later) : text.getLast? ≠ some '/' := by
  intro hlast
  rw [write, writable, if_pos hlast] at h
  cases hpath : files.resolve base text with
  | ok path => simp [hpath] at h
  | error e =>
      cases e <;> cases hparent : files.resolve base text.dropLast <;>
        simp [hpath, hparent] at h

end Files

end QuineRelay
