import Mathlib.Algebra.Ring.Int.Defs
import Mathlib.Algebra.Ring.Nat
import Mathlib.Data.List.Basic

namespace ToySystem.Server.DirectorySize

/-! # The directory size

`get_directory_size` and `disk_service_thread` of `system/system_server.c` on a tree
that does not change, with a limit on the number of open files.
-/

/-- `st_size` -/
abbrev StSize := { size : Int64 // 0 ≤ size.toInt }

/-- What `readdir` returns one after another.  A file is anything but a directory, a
symbolic link too; `dot` is one of the entries `.` and `..`. -/
inductive Entries where
  | nil
  | dot (rest : Entries)
  | file (name : List Char) (stSize : StSize) (rest : Entries)
  | directory (name : List Char) (entries rest : Entries)

namespace Entries

/-- The sum over everything that is no directory, at any depth. -/
def trueSize : Entries → Int
  | .nil => 0
  | .dot rest => trueSize rest
  | .file _ stSize rest => stSize.val.toInt + trueSize rest
  | .directory _ entries rest => trueSize entries + trueSize rest

/-- The number of directories below. -/
def directories : Entries → Nat
  | .nil => 0
  | .dot rest => directories rest
  | .file _ _ rest => directories rest
  | .directory _ entries rest => directories entries + 1 + directories rest

/-- The number of directories on the longest path, with the one listed. -/
def depth : Entries → Nat
  | .nil => 1
  | .dot rest => depth rest
  | .file _ _ rest => depth rest
  | .directory _ entries rest => max (depth entries + 1) (depth rest)

end Entries

/-- The handles of the process. -/
structure Files where
  limit : Nat
  opened : Nat

def opendir (files : Files) : Option Files :=
  if files.opened < files.limit then some { files with opened := files.opened + 1 } else none

/-- `sprintf(filePath, "%s/%s", dirname, d_name)` into 1024 bytes, with the terminator. -/
def filePath (dirname name : List Char) : Option (List Char) :=
  let path := dirname ++ '/' :: name
  if path.length < 1024 then some path else none

/-- The loop of `get_directory_size`.  There is no `closedir` behind it. -/
def readEntries (dirname : List Char) :
    Entries → (totalSize : Int64) → Files → Option (Int64 × Files)
  | .nil, totalSize, files => some (totalSize, files)
  | .dot rest, totalSize, files => readEntries dirname rest totalSize files
  | .file name stSize rest, totalSize, files => do
      let _ ← filePath dirname name
      readEntries dirname rest (totalSize + stSize.val) files
  | .directory name entries rest, totalSize, files => do
      let path ← filePath dirname name
      let (dirSize, files) ←
        match opendir files with
        | none => some (0, files)
        | some files => readEntries path entries 0 files
      readEntries dirname rest (totalSize + dirSize) files

def getDirectorySize (dirname : List Char) (entries : Entries) (files : Files) :
    Option (Int64 × Files) :=
  match opendir files with
  | none => some (0, files)
  | some files => readEntries dirname entries 0 files

def toyTestFs : List Char := ['.', '/', 'f', 's', '/']

/-- What `disk_service_thread` prints for so many events; its variable is an `int`. -/
def diskServiceThread (entries : Entries) : Nat → Files → Option (List Int32)
  | 0, _ => some []
  | count + 1, files => do
      let (totalSize, files) ← getDirectorySize toyTestFs entries files
      let printed ← diskServiceThread entries count files
      return totalSize.toInt32 :: printed

/-- All paths fit the buffer. -/
def PathsFit (dirname : List Char) : Entries → Prop
  | .nil => True
  | .dot rest => PathsFit dirname rest
  | .file name _ rest => (filePath dirname name).isSome ∧ PathsFit dirname rest
  | .directory name entries rest =>
      (∃ path, filePath dirname name = some path ∧ PathsFit path entries) ∧ PathsFit dirname rest

def PrintsTrueSize (entries : Entries) (files : Files) : Prop :=
  ∀ count, ∃ printed, diskServiceThread entries count files = some printed ∧
    ∀ size ∈ printed, size.toInt = entries.trueSize

structure ReportsRight (entries : Entries) (files : Files) : Prop where
  call : ∃ size after, getDirectorySize toyTestFs entries files = some (size, after) ∧
    size.toInt = entries.trueSize ∧ after.opened = files.opened
  thread : PrintsTrueSize entries files

section

variable {dirname : List Char} {entries : Entries} {totalSize size : Int64} {files after : Files}

theorem readEntries_directory (dirname name : List Char) (entries rest : Entries)
    (totalSize : Int64) (files : Files) :
    readEntries dirname (.directory name entries rest) totalSize files =
      (filePath dirname name).bind fun path =>
        (getDirectorySize path entries files).bind fun (dirSize, files) =>
          readEntries dirname rest (totalSize + dirSize) files := by
  simp only [readEntries, getDirectorySize]
  cases opendir files with
  | none => rfl
  | some files => rfl

theorem getDirectorySize_denied (full : files.limit ≤ files.opened) :
    getDirectorySize dirname entries files = some (0, files) := by
  rw [getDirectorySize, opendir, if_neg (Nat.not_lt.mpr full)]

theorem getDirectorySize_granted (free : files.opened < files.limit) :
    getDirectorySize dirname entries files =
      readEntries dirname entries 0 { files with opened := files.opened + 1 } := by
  rw [getDirectorySize, opendir, if_pos free]

/-- No handle is given back. -/
theorem readEntries_opened
    (ran : readEntries dirname entries totalSize files = some (size, after)) :
    files.opened ≤ after.opened ∧ after.limit = files.limit := by
  induction entries generalizing dirname totalSize files size after with
  | nil =>
      cases ran
      exact ⟨Nat.le_refl _, rfl⟩
  | dot rest ih => exact ih ran
  | file name stSize rest ih =>
      obtain ⟨path, _, later⟩ := Option.bind_eq_some_iff.mp ran
      exact ih later
  | directory name entries rest ihEntries ihRest =>
      rw [readEntries_directory] at ran
      obtain ⟨path, _, inside⟩ := Option.bind_eq_some_iff.mp ran
      obtain ⟨⟨dirSize, middle⟩, listed, later⟩ := Option.bind_eq_some_iff.mp inside
      have restKeeps := ihRest later
      have entriesKeep : files.opened ≤ middle.opened ∧ middle.limit = files.limit := by
        by_cases free : files.opened < files.limit
        · rw [getDirectorySize_granted free] at listed
          have keeps := ihEntries listed
          exact ⟨Nat.le_trans (Nat.le_succ _) keeps.1, keeps.2⟩
        · rw [getDirectorySize_denied (Nat.not_lt.mp free)] at listed
          cases listed
          exact ⟨Nat.le_refl _, rfl⟩
      exact ⟨Nat.le_trans entriesKeep.1 restKeeps.1, restKeeps.2.trans entriesKeep.2⟩

theorem getDirectorySize_opened (free : files.opened < files.limit)
    (ran : getDirectorySize dirname entries files = some (size, after)) :
    files.opened < after.opened ∧ after.limit = files.limit := by
  rw [getDirectorySize_granted free] at ran
  have keeps := readEntries_opened ran
  exact ⟨keeps.1, keeps.2⟩

end

/-- As long as there are handles, the sum is right, and each directory keeps its handle. -/
theorem readEntries_room {dirname : List Char} {entries : Entries} {files : Files}
    (fits : PathsFit dirname entries) (room : files.opened + entries.directories ≤ files.limit)
    (totalSize : Int64) :
    readEntries dirname entries totalSize files =
      some (totalSize + Int64.ofInt entries.trueSize,
        { files with opened := files.opened + entries.directories }) := by
  induction entries generalizing dirname files totalSize with
  | nil =>
      have zero : totalSize + Int64.ofInt 0 = totalSize := Int64.add_zero totalSize
      rw [readEntries, Entries.trueSize, zero]
      rfl
  | dot rest ih => exact ih fits room totalSize
  | file name stSize rest ih =>
      obtain ⟨path, isPath⟩ := Option.isSome_iff_exists.mp fits.1
      have later := ih fits.2 room (totalSize + stSize.val)
      have sum : totalSize + stSize.val + Int64.ofInt rest.trueSize =
          totalSize + Int64.ofInt (stSize.val.toInt + rest.trueSize) := by
        rw [Int64.ofInt_add, Int64.ofInt_toInt, Int64.add_assoc]
      rw [sum] at later
      rw [readEntries, isPath]
      exact later
  | directory name entries rest ihEntries ihRest =>
      obtain ⟨⟨path, isPath, inside⟩, behind⟩ := fits
      rw [Entries.directories] at room
      have listed := @ihEntries path { files with opened := files.opened + 1 } inside
        (by simp only; omega) 0
      have later := @ihRest dirname
        { files with opened := files.opened + 1 + entries.directories } behind
        (by simp only; omega) (totalSize + Int64.ofInt entries.trueSize)
      have sum : totalSize + Int64.ofInt entries.trueSize + Int64.ofInt rest.trueSize =
          totalSize + Int64.ofInt (entries.trueSize + rest.trueSize) := by
        rw [Int64.ofInt_add, Int64.add_assoc]
      have count : files.opened + 1 + entries.directories + rest.directories =
          files.opened + (entries.directories + 1 + rest.directories) := by omega
      simp only [sum, count] at later
      rw [readEntries_directory, isPath, Option.bind_some, getDirectorySize_granted (by omega),
        listed, Option.bind_some, Int64.zero_add]
      exact later

/-- A call keeps the handle of every directory that it lists, with enough room of all
of them. -/
theorem getDirectorySize_room {dirname : List Char} {entries : Entries} {files : Files}
    (fits : PathsFit dirname entries) (room : files.opened + entries.directories < files.limit) :
    getDirectorySize dirname entries files =
      some (Int64.ofInt entries.trueSize,
        { files with opened := files.opened + (entries.directories + 1) }) := by
  have listed := @readEntries_room dirname entries { files with opened := files.opened + 1 } fits
    (by simp only; omega) 0
  rw [getDirectorySize_granted (by omega), listed, Int64.zero_add, Nat.add_assoc,
    Nat.add_comm 1]

/-- Where a handle is free the first call already keeps one. -/
theorem not_reportsRight {entries : Entries} {files : Files}
    (free : files.opened < files.limit) : ¬ ReportsRight entries files := by
  rintro ⟨⟨size, after, ran, _, same⟩, _⟩
  have rises := (getDirectorySize_opened free ran).1
  omega

/-- A file, and one in a directory. -/
def twoFiles : Entries :=
  .dot (.dot (.file ['a'] ⟨1, by decide⟩
    (.directory ['d'] (.dot (.dot (.file ['b'] ⟨2, by decide⟩ .nil))) .nil)))

theorem not_reportsRight_twoFiles : ¬ ReportsRight twoFiles { limit := 1024, opened := 4 } :=
  not_reportsRight (by decide)

theorem not_always_reportsRight :
    ¬ ∀ (entries : Entries) (files : Files), PathsFit toyTestFs entries →
      files.opened + entries.depth < files.limit → ReportsRight entries files := by
  intro all
  have fits : PathsFit toyTestFs twoFiles :=
    ⟨rfl, ⟨_, rfl, rfl, trivial⟩, trivial⟩
  obtain ⟨⟨size, after, ran, _, same⟩, _⟩ := all twoFiles ⟨1024, 4⟩ fits (by decide)
  have rises := (getDirectorySize_opened (by decide) ran).1
  omega

theorem diskServiceThread_succ {entries : Entries} {count : Nat} {files : Files}
    {printed : List Int32} (ran : diskServiceThread entries (count + 1) files = some printed) :
    ∃ size after rest, getDirectorySize toyTestFs entries files = some (size, after) ∧
      diskServiceThread entries count after = some rest ∧ printed = size.toInt32 :: rest := by
  obtain ⟨⟨size, after⟩, listed, later⟩ := Option.bind_eq_some_iff.mp ran
  obtain ⟨rest, printedRest, whole⟩ := Option.bind_eq_some_iff.mp later
  exact ⟨size, after, rest, listed, printedRest, (Option.some.inj whole).symm⟩

/-- After as many events as there were free handles nothing can be opened. -/
theorem zero_mem_printed {entries : Entries} {count : Nat} {files : Files} {printed : List Int32}
    (late : files.limit ≤ files.opened + count)
    (ran : diskServiceThread entries (count + 1) files = some printed) : 0 ∈ printed := by
  induction count generalizing files printed with
  | zero =>
      obtain ⟨size, after, rest, listed, _, rfl⟩ := diskServiceThread_succ ran
      rw [getDirectorySize_denied late] at listed
      cases listed
      exact List.mem_cons_self
  | succ count ih =>
      obtain ⟨size, after, rest, listed, later, rfl⟩ := diskServiceThread_succ ran
      by_cases free : files.opened < files.limit
      · obtain ⟨rises, same⟩ := getDirectorySize_opened free listed
        exact List.mem_cons_of_mem _ (ih (by omega) later)
      · rw [getDirectorySize_denied (Nat.not_lt.mp free)] at listed
        cases listed
        exact List.mem_cons_self

theorem Entries.trueSize_nonneg (entries : Entries) : 0 ≤ entries.trueSize := by
  induction entries with
  | nil => exact Int.le_refl 0
  | dot rest ih => exact ih
  | file name stSize rest ih => exact Int.add_nonneg stSize.property ih
  | directory name entries rest ihEntries ihRest => exact Int.add_nonneg ihEntries ihRest

theorem readEntries_empty {dirname : List Char} {entries : Entries}
    (fits : PathsFit dirname entries) (empty : entries.trueSize = 0) (totalSize : Int64)
    (files : Files) :
    ∃ after, readEntries dirname entries totalSize files = some (totalSize, after) := by
  induction entries generalizing dirname totalSize files with
  | nil => exact ⟨files, rfl⟩
  | dot rest ih => exact ih fits empty totalSize files
  | file name stSize rest ih =>
      obtain ⟨path, isPath⟩ := Option.isSome_iff_exists.mp fits.1
      have sizeNonneg := stSize.property
      have restNonneg := rest.trueSize_nonneg
      rw [Entries.trueSize] at empty
      have nothing : stSize.val = 0 := Int64.toInt_inj.mp (show stSize.val.toInt = 0 by omega)
      obtain ⟨after, later⟩ := ih fits.2 (by omega) totalSize files
      refine ⟨after, ?_⟩
      rw [readEntries, isPath, nothing, Int64.add_zero]
      exact later
  | directory name entries rest ihEntries ihRest =>
      obtain ⟨⟨path, isPath, inside⟩, behind⟩ := fits
      have entriesNonneg := entries.trueSize_nonneg
      have restNonneg := rest.trueSize_nonneg
      rw [Entries.trueSize] at empty
      obtain ⟨middle, listed⟩ :
          ∃ middle, getDirectorySize path entries files = some (0, middle) := by
        by_cases free : files.opened < files.limit
        · rw [getDirectorySize_granted free]
          exact ihEntries inside (by omega) 0 _
        · exact ⟨files, getDirectorySize_denied (Nat.not_lt.mp free)⟩
      obtain ⟨after, later⟩ := ihRest behind (by omega) totalSize middle
      have unchanged : totalSize + 0 = totalSize := Int64.add_zero totalSize
      refine ⟨after, ?_⟩
      rw [readEntries_directory, isPath, Option.bind_some, listed, Option.bind_some]
      simp only [unchanged, later]

theorem getDirectorySize_empty {dirname : List Char} {entries : Entries}
    (fits : PathsFit dirname entries) (empty : entries.trueSize = 0) (files : Files) :
    ∃ after, getDirectorySize dirname entries files = some (0, after) := by
  by_cases free : files.opened < files.limit
  · rw [getDirectorySize_granted free]
    exact readEntries_empty fits empty 0 _
  · exact ⟨files, getDirectorySize_denied (Nat.not_lt.mp free)⟩

/-- The right size is printed for ever exactly if there is nothing to add up. -/
theorem printsTrueSize_iff {entries : Entries} (files : Files)
    (fits : PathsFit toyTestFs entries) :
    PrintsTrueSize entries files ↔ entries.trueSize = 0 := by
  constructor
  · intro prints
    obtain ⟨printed, ran, right⟩ := prints (files.limit + 1)
    have zero := right 0 (zero_mem_printed (Nat.le_add_left _ _) ran)
    exact zero.symm
  · intro empty count
    induction count generalizing files with
    | zero => exact ⟨[], rfl, List.forall_mem_nil _⟩
    | succ count ih =>
        obtain ⟨after, listed⟩ := getDirectorySize_empty fits empty files
        obtain ⟨printed, ran, right⟩ := ih after
        refine ⟨0 :: printed, ?_, List.forall_mem_cons.mpr ⟨empty.symm, right⟩⟩
        rw [diskServiceThread, listed, Option.bind_eq_bind, Option.bind_some]
        simp only [ran, Option.bind_eq_bind, Option.bind_some]
        rfl

end ToySystem.Server.DirectorySize
