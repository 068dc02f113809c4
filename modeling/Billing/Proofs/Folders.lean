import Billing.Command.Folder
import Mathlib.Tactic.SplitIfs

/-!
# Files that are written

A file that was written is read back as it was written, unless the path leads into the void, and no
other file is changed. A path leads to the same place before and after, because directories stay
directories and only what was none becomes a file.

* `Folder.read_of_write`: what is read back.
* `Folder.file?_of_write`: what is not changed.
-/

namespace Billing

/-- The place of the device into which everything is written in vain. -/
def voidPlace : Place := [rootName, "dev", "null"]

theorem device?_eq_void {place : Place} : device? place = some .void ↔ place = voidPlace := by
  unfold device? voidPlace
  split_ifs with h h' <;> simp_all

namespace Folder

variable {f f' : Folder} {path : String} {content : ByteArray}

theorem file?_put_of_ne {place other : Place} (h : other ≠ place) (content : ByteArray) :
    (f.put place content).file? other = f.file? other := by
  have hfilter : (f.files.filter (·.1 ≠ place)).find? (·.1 = other) =
      f.files.find? (·.1 = other) := by
    rw [List.find?_filter]
    congr 1
    funext file
    by_cases hfile : file.1 = other
    · simp [hfile, h]
    · simp [hfile]
  rw [file?, put, List.find?_cons_of_neg (by simpa using h.symm), hfilter]
  rfl

theorem isDirectory_put (place other : Place) (content : ByteArray) :
    (f.put place content).isDirectory other = f.isDirectory other := rfl

/-- A file in place of no directory leaves the ways as they are. -/
theorem walk_put {place target : Place} (hplace : f.isDirectory place = false)
    (content : ByteArray) {start : Place} {names : List String}
    (h : f.walk start names = .ok target) :
    (f.put place content).walk start names = .ok target := by
  induction names generalizing start with
  | nil => exact h
  | cons name names ih =>
    rw [walk] at h ⊢
    split_ifs at h with hfile hdirectory hlength
    have hother : start ≠ place := by
      rintro rfl
      simp [hplace] at hdirectory
    rw [isDirectory_put, isFile, file?_put_of_ne hother, ← isFile, if_neg hfile, if_neg hdirectory,
      if_neg hlength]
    exact ih h

theorem resolve_put {place target : Place} (hplace : f.isDirectory place = false)
    (content : ByteArray) (h : f.resolve path = .ok target) :
    (f.put place content).resolve path = .ok target := by
  rw [resolve] at h ⊢
  split_ifs at h with hnull hlength
  rw [if_neg hnull, if_neg hlength]
  exact walk_put hplace content h

/-- What a successful write does: it puts a file, or nothing into the void. -/
theorem exists_of_write (h : f.write path content = .ok f') :
    ∃ place, f.resolve path = .ok place ∧ f.isDirectory place = false ∧
      (place = voidPlace ∧ f' = f ∨ device? place = none ∧ f' = f.put place content) := by
  unfold write at h
  cases hplace : f.resolve path with
  | error e =>
    rw [hplace] at h
    cases h
  | ok place =>
    refine ⟨place, rfl, ?_⟩
    simp only [hplace, bind, Except.bind] at h
    split_ifs at h with hdirectory
    refine ⟨by simpa using hdirectory, ?_⟩
    cases hdevice : device? place with
    | none =>
      rw [hdevice] at h
      exact .inr ⟨rfl, (Except.ok.inj h).symm⟩
    | some device =>
      rw [hdevice] at h
      cases device with
      | void => exact .inl ⟨device?_eq_void.1 hdevice, (Except.ok.inj h).symm⟩
      | full => cases h

theorem write_eq_put {place : Place} (hplace : f.resolve path = .ok place)
    (hdirectory : f.isDirectory place = false) (hdevice : device? place = none)
    (content : ByteArray) : f.write path content = .ok (f.put place content) := by
  simp [write, hplace, hdirectory, hdevice, bind, Except.bind, pure, Except.pure]

/-- A file that was written is read back, unless it was written into the void. -/
theorem read_of_write (h : f.write path content = .ok f') (hvoid : f.resolve path ≠ .ok voidPlace) :
    f'.read path = .ok content := by
  obtain ⟨place, hplace, hdirectory, ⟨rfl, -⟩ | ⟨hdevice, rfl⟩⟩ := exists_of_write h
  · exact absurd hplace hvoid
  · simp [read, resolve_put hdirectory content hplace, hdevice, file?_put, bind, Except.bind, pure,
      Except.pure]

/-- A write changes the file that it writes and no other. -/
theorem file?_of_write (h : f.write path content = .ok f') {place : Place}
    (hother : f.resolve path ≠ .ok place) : f'.file? place = f.file? place := by
  obtain ⟨target, htarget, -, ⟨-, rfl⟩ | ⟨-, rfl⟩⟩ := exists_of_write h
  · rfl
  · refine file?_put_of_ne ?_ content
    rintro rfl
    exact hother htarget

/-- Making directories makes no files. -/
theorem files_of_makeAlong {place : Place} {names : List String}
    (h : f.makeAlong place names = .ok f') : f'.files = f.files := by
  induction names generalizing f place with
  | nil =>
    rw [makeAlong] at h
    exact congrArg files (Except.ok.inj h).symm
  | cons name names ih =>
    rw [makeAlong] at h
    split_ifs at h
    · exact ih h
    · exact (ih h).trans rfl

end Folder

end Billing
