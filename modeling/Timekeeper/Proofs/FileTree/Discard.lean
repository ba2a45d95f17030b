import Timekeeper.FileTree

/-!
# Discarding files

A path leads through directories only, so a tree without some regular file has its paths lead where
they led before (`FileTree.locate_erase`). Hence discarding the file at a path **clears** the path
(`FileTree.isCleared_discard`): no regular file is found there any more, and nothing else changes.
It puts no file anywhere either (`FileTree.isFile_of_discard`).
-/

namespace Timekeeper

namespace FileTree

variable {t t' : FileTree} {directory l goal : Location} {path other : String}

/-! ### Finding files -/

theorem ne_nil_of_get?_file {content : Octets} {executable : Bool}
    (h : t.get? l = some (.file content executable)) : l ≠ [] := by
  rintro rfl
  simp [get?] at h

/-- A regular file stands at a path if the path leads to it. -/
theorem isFile_iff : t.isFile directory path = true ↔
    ∃ l content executable, t.locate directory path = .ok l ∧
      t.get? l = some (.file content executable) := by
  rw [isFile, find]
  cases hlocate : t.locate directory path with
  | error fault => simp
  | ok l =>
    dsimp only
    rcases hget : t.get? l with _ | ⟨content, executable⟩ | _
    · simp [hget]
    · exact iff_of_true rfl ⟨l, content, executable, rfl, hget⟩
    · simp [hget]

/-! ### Paths in a changed tree -/

/-- Names pass through directories only, so they lead where they led before if no directory is
gone. -/
theorem follow_of_directories (h : ∀ k, t.get? k = some .directory → t'.get? k = some .directory)
    (here : Location) (names : List String) :
    t.follow here names = .ok goal → t'.follow here names = .ok goal := by
  induction names generalizing here with
  | nil => exact id
  | cons name rest ih =>
    rw [follow, follow]
    -- the first tree lets names go on from a directory only, and so does the second one
    rcases hget : t.get? here with _ | ⟨_, _⟩ | _
    · intro hfollow
      cases hfollow
    · intro hfollow
      cases hfollow
    · rw [h here hget]
      dsimp only
      split
      · exact ih here
      split
      · exact ih here.dropLast
      split
      · exact id
      · exact ih (here ++ [name])

theorem locate_of_directories (h : ∀ k, t.get? k = some .directory → t'.get? k = some .directory) :
    t.locate directory path = .ok goal → t'.locate directory path = .ok goal := by
  rw [locate, locate]
  split
  · exact id
  split
  · exact id
  split
  · exact id
  · exact follow_of_directories h _ _

/-- A tree has the same directories without a regular file, so paths lead where they led. -/
theorem locate_erase {content : Octets} {executable : Bool}
    (h : t.get? l = some (.file content executable)) :
    (t.erase l).locate directory path = .ok goal ↔ t.locate directory path = .ok goal := by
  have herase := get?_erase t (ne_nil_of_get?_file h)
  constructor
  · refine locate_of_directories fun k hk => ?_
    rw [herase] at hk
    split at hk
    · contradiction
    · exact hk
  · refine locate_of_directories fun k hk => ?_
    have hne : k ≠ l := by
      rintro rfl
      rw [h] at hk
      cases hk
    rw [herase, if_neg hne, hk]

/-! ### Clearing -/

/-- A tree is another one **cleared** of the regular file at a path: no regular file is there any
more, everything at another location stays, and so does everything if there was no such file. -/
structure IsCleared (directory : Location) (path : String) (t t' : FileTree) : Prop where
  gone : t'.isFile directory path = false
  kept : ∀ l, t.locate directory path ≠ .ok l → t'.get? l = t.get? l
  unchanged : t.isFile directory path = false → t' = t

/-- Discarding either erases a file that the path leads to, or changes nothing. -/
theorem discard_cases (t : FileTree) (directory : Location) (path : String) :
    (∃ l content executable, t.locate directory path = .ok l ∧
      t.get? l = some (.file content executable) ∧ t.discard directory path = t.erase l) ∨
    t.isFile directory path = false ∧ t.discard directory path = t := by
  rw [isFile, discard, find]
  cases hlocate : t.locate directory path with
  | error fault => exact .inr ⟨rfl, rfl⟩
  | ok l =>
    dsimp only
    rcases hget : t.get? l with _ | ⟨content, executable⟩ | _
    · exact .inr ⟨rfl, rfl⟩
    · exact .inl ⟨l, content, executable, rfl, hget, rfl⟩
    · exact .inr ⟨rfl, rfl⟩

theorem isCleared_discard (t : FileTree) (directory : Location) (path : String) :
    IsCleared directory path t (t.discard directory path) := by
  obtain ⟨l, content, executable, hlocate, hget, hdiscard⟩ | ⟨hnone, hdiscard⟩ :=
    t.discard_cases directory path
  · have herase := get?_erase t (ne_nil_of_get?_file hget)
    rw [hdiscard]
    refine ⟨?_, fun k hk => ?_, fun hnone => ?_⟩
    · rw [Bool.eq_false_iff, ne_eq, isFile_iff]
      rintro ⟨k, content', executable', hk, hfile⟩
      rw [locate_erase hget, hlocate] at hk
      obtain rfl := Except.ok.inj hk
      rw [herase, if_pos rfl] at hfile
      contradiction
    · rw [herase, if_neg]
      rintro rfl
      exact hk hlocate
    · have hfile := isFile_iff.mpr ⟨l, content, executable, hlocate, hget⟩
      rw [hnone] at hfile
      contradiction
  · rw [hdiscard]
    exact ⟨hnone, fun _ _ => rfl, fun _ => rfl⟩

/-- What is a regular file after another one was discarded was one before. -/
theorem isFile_of_discard (h : (t.discard directory other).isFile directory path = true) :
    t.isFile directory path = true := by
  obtain ⟨l, content, executable, -, hget, hdiscard⟩ | ⟨-, hdiscard⟩ :=
    t.discard_cases directory other
  · rw [hdiscard, isFile_iff] at h
    obtain ⟨k, content', executable', hk, hfile⟩ := h
    rw [locate_erase hget] at hk
    rw [get?_erase t (ne_nil_of_get?_file hget)] at hfile
    by_cases hkl : k = l
    · rw [if_pos hkl] at hfile
      contradiction
    · rw [if_neg hkl] at hfile
      exact isFile_iff.mpr ⟨k, content', executable', hk, hfile⟩
  · rwa [hdiscard] at h

end FileTree

end Timekeeper
