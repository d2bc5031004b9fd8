import Moltbunker.Lib.Tally
import Moltbunker.Lib.Text

/-!
# File trees

A file system as a program sees it that makes directories, writes files, renames and removes them.
Paths are lists of components. The operations fail where those of the operating system do for the
kinds of the nodes involved: a directory is not made below a file, a file is not renamed onto a
directory, and a directory is removed only when it is empty.

A program that stores its data in files is correct when each of its files holds what it wrote there.
So the lemmas are about `fileAt`, the contents of the file at a path:

* `fileAt_mkdirAll` — making directories leaves every file;
* `fileAt_write`, `fileAt_rename`, `fileAt_remove` — the other operations change the files at the
  paths that they name.

`clean` is the cleaning of absolute paths: empty components and `.` are dropped, and `..` takes the
component before it away.
-/

namespace Moltbunker.Lib

/-! ## Paths -/

/-- A path, by its components. -/
abbrev PathName := List Text

namespace PathName

/-- The components of a text that is part of a path. -/
def split (t : Text) : PathName := t.splitOn '/'

/-- One more component for a clean absolute path. -/
def push (p : PathName) (part : Text) : PathName :=
  if part = [] ∨ part = text "." then p else if part = text ".." then p.dropLast else p ++ [part]

/-- `filepath.Clean` -/
def clean (parts : PathName) : PathName := parts.foldl push []

end PathName

/-! ## Trees -/

/-- A node of a tree, with contents of type `C` in its files. -/
inductive Node (C : Type) where
  | dir
  | file (contents : C)
  deriving DecidableEq

/-- Why an operation fails. -/
inductive OsError where
  | notExist
  | exist
  | isDir
  | notDir
  | notEmpty
  deriving DecidableEq

/-- The description of the operating system. -/
def OsError.message : OsError → Text
  | .notExist => text "no such file or directory"
  | .exist => text "file exists"
  | .isDir => text "is a directory"
  | .notDir => text "not a directory"
  | .notEmpty => text "directory not empty"

/-- A tree, by the nodes at its paths. -/
abbrev FileTree (C : Type) := Table PathName (Node C)

namespace FileTree

variable {C : Type} {t t' : FileTree C} {p q : PathName} {c : C}

/-- The contents of the file at a path. -/
def fileAt (t : FileTree C) (p : PathName) : Option C :=
  match t.lookup p with
  | some (.file c) => some c
  | _ => none

/-- One directory on the way of `mkdirAll`. -/
def mkdir (t : FileTree C) (p : PathName) : Except OsError (FileTree C) :=
  match t.lookup p with
  | none => .ok (t.insert p .dir)
  | some .dir => .ok t
  | some (.file _) => .error .notDir

/-- `os.MkdirAll` -/
def mkdirAll (t : FileTree C) (p : PathName) : Except OsError (FileTree C) :=
  p.inits.foldlM mkdir t

/-- A file that is there, or may be made, is written. -/
def write (t : FileTree C) (p : PathName) (c : C) : FileTree C := t.insert p (.file c)

/-- A file is removed by the program that has written it. -/
def unlink (t : FileTree C) (p : PathName) : FileTree C := t.erase p

/-- A new file; `os.CreateTemp` tries names until it finds one that is free. -/
def create (t : FileTree C) (p : PathName) (c : C) : Except OsError (FileTree C) :=
  match t.lookup p with
  | none => .ok (t.write p c)
  | some _ => .error .exist

/-- `os.Open`, and what is read from it. -/
def read (t : FileTree C) (p : PathName) : Except OsError C :=
  match t.lookup p with
  | some (.file c) => .ok c
  | some .dir => .error .isDir
  | none => .error .notExist

/-- `os.Rename` of a file. -/
def rename (t : FileTree C) (p q : PathName) : Except OsError (FileTree C) :=
  match t.lookup p, t.lookup q with
  | some (.file _), some .dir => .error .isDir
  | some (.file c), _ => .ok ((t.unlink p).write q c)
  | _, _ => .error .notExist

/-- Something is below the path. -/
def occupied (t : FileTree C) (p : PathName) : Bool :=
  t.keys.any fun q => p <+: q ∧ p ≠ q

/-- `os.Remove` -/
def remove (t : FileTree C) (p : PathName) : Except OsError (FileTree C) :=
  match t.lookup p with
  | some (.file _) => .ok (t.unlink p)
  | some .dir => if t.occupied p then .error .notEmpty else .ok (t.unlink p)
  | none => .error .notExist

/-! ## Files -/

lemma fileAt_eq_some : t.fileAt p = some c ↔ t.lookup p = some (.file c) := by
  unfold fileAt
  split
  · next c' h => simp [h]
  · next h =>
    constructor
    · intro hc
      cases hc
    · intro hc
      exact absurd hc (h c)

lemma fileAt_eq_none_of_lookup (h : t.lookup p = none) : t.fileAt p = none := by
  simp [fileAt, h]

lemma fileAt_congr (h : t'.lookup q = t.lookup q) : t'.fileAt q = t.fileAt q := by
  unfold fileAt
  rw [h]

lemma fileAt_write : (t.write p c).fileAt q = if q = p then some c else t.fileAt q := by
  unfold write
  by_cases heq : q = p
  · subst heq
    simp [fileAt]
  · rw [if_neg heq]
    exact fileAt_congr (AList.lookup_insert_ne heq)

lemma fileAt_unlink : (t.unlink p).fileAt q = if q = p then none else t.fileAt q := by
  unfold unlink
  by_cases heq : q = p
  · subst heq
    simp [fileAt]
  · rw [if_neg heq]
    exact fileAt_congr (AList.lookup_erase_ne heq)

/-- A directory on the way is made, or is there. -/
lemma fileAt_mkdir (h : t.mkdir p = .ok t') : t'.fileAt q = t.fileAt q := by
  unfold mkdir at h
  split at h
  · next hnone =>
    cases h
    by_cases heq : q = p
    · subst heq
      rw [fileAt_eq_none_of_lookup hnone]
      simp [fileAt]
    · exact fileAt_congr (AList.lookup_insert_ne heq)
  · cases h
    rfl
  · cases h

/-- Making directories leaves every file. -/
lemma fileAt_mkdirAll (h : t.mkdirAll p = .ok t') : t'.fileAt q = t.fileAt q := by
  unfold mkdirAll at h
  -- the directories are made from the root downwards
  generalize p.inits = ds at h
  induction ds generalizing t with
  | nil =>
    cases h
    rfl
  | cons d ds ih =>
    rw [List.foldlM_cons] at h
    cases hd : t.mkdir d with
    | error err =>
      rw [hd] at h
      cases h
    | ok t₁ =>
      rw [hd] at h
      exact (ih h).trans (fileAt_mkdir hd)

lemma fileAt_create (h : t.create p c = .ok t') :
    t.fileAt p = none ∧ t'.fileAt q = if q = p then some c else t.fileAt q := by
  unfold create at h
  split at h
  · next hnone =>
    cases h
    exact ⟨fileAt_eq_none_of_lookup hnone, fileAt_write⟩
  · cases h

/-- A renamed file is at its new path and not at the old one. -/
lemma fileAt_rename (h : t.rename p q = .ok t') :
    ∃ c, t.fileAt p = some c ∧
      ∀ r, t'.fileAt r = if r = q then some c else if r = p then none else t.fileAt r := by
  unfold rename at h
  split at h
  · cases h
  · next c hfile _ =>
    cases h
    refine ⟨c, fileAt_eq_some.mpr hfile, ?_⟩
    intro r
    rw [fileAt_write, fileAt_unlink]
  · cases h

/-- A removed file or directory is no file any more. -/
lemma fileAt_remove (h : t.remove p = .ok t') :
    t'.fileAt q = if q = p then none else t.fileAt q := by
  unfold remove at h
  split at h
  · cases h
    exact fileAt_unlink
  · split at h
    · cases h
    · cases h
      exact fileAt_unlink
  · cases h

lemma read_eq_ok : t.read p = .ok c ↔ t.fileAt p = some c := by
  rw [fileAt_eq_some]
  unfold read
  split
  · next c' h => simp [h]
  · next h => simp [h]
  · next h => simp [h]

end FileTree

end Moltbunker.Lib
