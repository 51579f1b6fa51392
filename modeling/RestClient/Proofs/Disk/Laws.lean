import RestClient.Disk.Directories

/-! # What a disk does to files

What can be relied on of a disk, as far as the files on it go: reading leaves everything as it is,
making a directory leaves the files as they are, and so does writing that fails. Writing that
succeeds changes one file, which then has the text for its whole content.

* `Keeps` says of a program that it leaves the files as they are, and programs made of such programs
  do so too;
* `Disk.Lawful` states what can be relied on of any disk, for any notion of a place;
* `Disk.Lawful.keeps_createDirectories`: on a lawful disk, making a directory with those on the way
  to it changes no file, wherever it stops. -/

namespace RestClient

variable {σ α β γ ι : Type}

/-- A program goes on with what its first part left behind. -/
theorem run_bind_of_run {program : StateM σ α} {rest : α → StateM σ β} {s s' : σ} {a : α}
    (h : program.run s = (a, s')) : (program >>= rest).run s = (rest a).run s' := by
  rw [StateT.run_bind, h]
  rfl

/-! ### Programs that keep the files -/

/-- A program leaves something about the state as it is. -/
def Keeps (content : σ → γ) (program : StateM σ α) : Prop :=
  ∀ s, content (program.run s).2 = content s

theorem Keeps.content_eq {content : σ → γ} {program : StateM σ α} {s s' : σ} {a : α}
    (h : Keeps content program) (hrun : program.run s = (a, s')) : content s' = content s := by
  have hafter := h s
  rwa [hrun] at hafter

theorem Keeps.pure {content : σ → γ} (a : α) : Keeps content (pure a : StateM σ α) := fun _ => rfl

theorem Keeps.bind {content : σ → γ} {program : StateM σ α} {rest : α → StateM σ β}
    (hprogram : Keeps content program) (hrest : ∀ a, Keeps content (rest a)) :
    Keeps content (program >>= rest) := by
  intro s
  have hafter := hrest (program.run s).1 (program.run s).2
  exact hafter.trans (hprogram s)

/-! ### Lawful disks -/

/-- What a disk does to the files on it, given by their content at each place. -/
structure Disk.Lawful (disk : Disk (StateM σ)) (content : σ → ι → Option ByteArray) : Prop where
  /-- Reading changes no file. -/
  keeps_read : ∀ path, Keeps content (disk.read path)
  /-- Looking for a directory changes no file. -/
  keeps_isDirectory : ∀ path, Keeps content (disk.isDirectory path)
  /-- Making a directory changes no file. -/
  keeps_createDirectory : ∀ path, Keeps content (disk.createDirectory path)
  /-- Writing that fails changes no file. -/
  content_write_of_error : ∀ path text fault s s',
    (disk.write path text).run s = (.error fault, s') → content s' = content s
  /-- Writing that succeeds makes the text the content of one file, the one that the path names. -/
  content_write_of_ok : ∀ path text s s', (disk.write path text).run s = (.ok (), s') →
    ((disk.read path).run s').1 = .ok text ∧
    ∃ place, content s' place = some text.toUTF8 ∧
      ∀ other, other ≠ place → content s' other = content s other

namespace Disk.Lawful

variable {disk : Disk (StateM σ)} {content : σ → ι → Option ByteArray}

theorem keeps_ensureDirectory (h : disk.Lawful content) (path : String) :
    Keeps content (disk.ensureDirectory path) := by
  refine (h.keeps_createDirectory path).bind fun result => ?_
  cases result with
  | ok _ => exact .pure _
  | error fault => exact (h.keeps_isDirectory path).bind fun _ => .pure _

theorem keeps_createChain (h : disk.Lawful content) (paths : List String) :
    Keeps content (disk.createChain paths) := by
  induction paths with
  | nil => exact .pure _
  | cons path outer ih =>
    refine (h.keeps_ensureDirectory path).bind fun result => ?_
    -- Only what is missing on the way has more directories made.
    split
    · refine ih.bind fun result => ?_
      split
      · exact .pure _
      · exact h.keeps_ensureDirectory path
    · exact .pure _

/-- **Making directories changes no file**, whether it succeeds or not. -/
theorem keeps_createDirectories (h : disk.Lawful content) (path : String) :
    Keeps content (disk.createDirectories path) := h.keeps_createChain _

end Disk.Lawful

end RestClient
