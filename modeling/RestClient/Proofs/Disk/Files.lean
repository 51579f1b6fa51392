import RestClient.Disk.FileSystem
import RestClient.Proofs.Disk.Laws

/-! # The files of a file system

A file system, as a value, is a disk that keeps what disks promise.

* `FileSystem.content` is the content of the file at a location;
* `FileSystem.Extends` compares two file systems by the ways that lead through them: a path that
  leads somewhere in the one leads there in the other;
* `FileSystem.read_of_write`: what was written to a path is read from there, because the way to a
  file leads through directories only, and writing leaves these as they are;
* `FileSystem.lawful_disk`: a file system is a lawful disk. -/

namespace RestClient.FileSystem

variable {fs fs' : FileSystem} {path text : String} {location place : Location}

/-- The content of the file at a location. -/
def content (fs : FileSystem) (location : Location) : Option ByteArray :=
  match fs.node location with
  | some (.file content) => some content
  | _ => none

theorem content_put_file (bytes : ByteArray) :
    (fs.put location (.file bytes)).content location = some bytes := by
  rw [content, node_put_self]

theorem content_put_of_ne {node : Node} {other : Location} (h : other ≠ location) :
    (fs.put location node).content other = fs.content other := by
  rw [content, content, node_put_of_ne h]

/-- A new directory has no content, just as the nothing that was there before. -/
theorem content_put_directory (h : fs.node location = none) :
    (fs.put location .directory).content = fs.content := by
  funext other
  by_cases heq : other = location
  · rw [heq, content, content, node_put_self, h]
  · exact content_put_of_ne heq

theorem content_makeDirectory (h : fs.makeDirectory path = .ok fs') : fs'.content = fs.content := by
  unfold makeDirectory at h
  split at h
  · cases h
  · cases h
  · split at h
    · cases h
    · cases h
    · rename_i hnode
      obtain rfl := Except.ok.inj h
      exact content_put_directory hnode

/-! ### The way to a file -/

/-- A file system that goes on from another one: every directory is still one, and whatever there
was is still there, if with other content. -/
structure Extends (fs fs' : FileSystem) : Prop where
  directory : ∀ l, fs.node l = some .directory → fs'.node l = some .directory
  exists_node : ∀ l, fs.node l ≠ none → fs'.node l ≠ none
  workingDirectory : fs'.workingDirectory = fs.workingDirectory

theorem extends_put_file {bytes : ByteArray} (h : fs.isDirectoryAt location = false) :
    Extends fs (fs.put location (.file bytes)) := by
  refine ⟨fun l hl => ?_, fun l hl => ?_, rfl⟩
  · have hne : l ≠ location := by
      rintro rfl
      simp [isDirectoryAt, hl] at h
    rwa [node_put_of_ne hne]
  · by_cases heq : l = location
    · simp [heq]
    · rwa [node_put_of_ne heq]

theorem requireDirectory_eq_ok : fs.requireDirectory location = .ok () ↔
    fs.node location = some .directory := by
  unfold requireDirectory
  split <;> simp_all

/-- A name leads from a directory to itself, to the directory around it, or to what has the name. -/
theorem enter_eq_ok {name : String} {next : Location} :
    fs.enter place name = .ok next ↔ fs.node place = some .directory ∧
      if name = "" ∨ name = "." then next = place
      else if name = ".." then next = place.tail
      else requireShort name = .ok () ∧ fs.node (name :: place) ≠ none ∧ next = name :: place := by
  rw [← requireDirectory_eq_ok, enter]
  split
  · simp_all
  · rename_i hdirectory
    rw [hdirectory]
    split
    · simp [eq_comm]
    · split
      · simp [eq_comm]
      · cases requireShort name <;> cases fs.node (name :: place) <;> simp [eq_comm]

theorem walk_cons_eq_ok {name : String} {rest : List String} {next : Location} :
    fs.walk place (name :: rest) = .ok next ↔
      ∃ after, fs.enter place name = .ok after ∧ fs.walk after rest = .ok next := by
  rw [walk]
  split <;> simp_all

theorem Extends.enter {name : String} {next : Location} (h : Extends fs fs')
    (henter : fs.enter place name = .ok next) : fs'.enter place name = .ok next := by
  rw [enter_eq_ok] at henter ⊢
  obtain ⟨hdirectory, hnext⟩ := henter
  refine ⟨h.directory place hdirectory, ?_⟩
  by_cases hstay : name = "" ∨ name = "."
  · rwa [if_pos hstay] at hnext ⊢
  · rw [if_neg hstay] at hnext ⊢
    by_cases hup : name = ".."
    · rwa [if_pos hup] at hnext ⊢
    · rw [if_neg hup] at hnext ⊢
      exact ⟨hnext.1, h.exists_node _ hnext.2.1, hnext.2.2⟩

theorem Extends.walk {names : List String} {next : Location} (h : Extends fs fs')
    (hwalk : fs.walk place names = .ok next) : fs'.walk place names = .ok next := by
  induction names generalizing place with
  | nil => exact hwalk
  | cons name rest ih =>
    obtain ⟨after, henter, hrest⟩ := walk_cons_eq_ok.1 hwalk
    exact walk_cons_eq_ok.2 ⟨after, h.enter henter, ih hrest⟩

theorem walk_append {names more : List String} {middle next : Location}
    (h : fs.walk place names = .ok middle) (hmore : fs.walk middle more = .ok next) :
    fs.walk place (names ++ more) = .ok next := by
  induction names generalizing place with
  | nil =>
    obtain rfl := Except.ok.inj h
    exact hmore
  | cons name rest ih =>
    obtain ⟨after, henter, hrest⟩ := walk_cons_eq_ok.1 h
    exact walk_cons_eq_ok.2 ⟨after, henter, ih hrest⟩

/-- A path names something in a directory: its names lead to the directory, except for the last one,
which is a name of its own and can be used. -/
structure NamesIn (fs : FileSystem) (path : String) (parent : Location) (name : String) :
    Prop where
  requirePath : requirePath path = .ok ()
  pieces : ∃ before, Path.pieces path = before ++ [name] ∧
    fs.walk (fs.start path) before = .ok parent
  directory : fs.node parent = some .directory
  not_stay : ¬ (name = "" ∨ name = ".")
  not_up : name ≠ ".."
  requireShort : requireShort name = .ok ()

theorem NamesIn.of_extends {parent : Location} {name : String} (h : NamesIn fs path parent name)
    (hext : Extends fs fs') : NamesIn fs' path parent name := by
  obtain ⟨before, hpieces, hwalk⟩ := h.pieces
  have hstart : fs'.start path = fs.start path := by rw [start, start, hext.workingDirectory]
  refine { h with pieces := ⟨before, hpieces, ?_⟩, directory := hext.directory parent h.directory }
  rw [hstart]
  exact hext.walk hwalk

/-- A path leads to what it names, if there is something. -/
theorem NamesIn.locate {parent : Location} {name : String} (h : NamesIn fs path parent name)
    (hnode : fs.node (name :: parent) ≠ none) : fs.locate path = .ok (name :: parent) := by
  obtain ⟨before, hpieces, hwalk⟩ := h.pieces
  have henter : fs.enter parent name = .ok (name :: parent) := by
    rw [enter_eq_ok, if_neg h.not_stay, if_neg h.not_up]
    exact ⟨h.directory, h.requireShort, hnode, rfl⟩
  have hlast : fs.walk parent [name] = .ok (name :: parent) :=
    walk_cons_eq_ok.2 ⟨_, henter, rfl⟩
  rw [FileSystem.locate, h.requirePath, hpieces]
  exact walk_append hwalk hlast

/-- Where no slash ends a path, the last name that is not empty is the last one of all. -/
theorem eq_cons_of_dropWhile {names before : List String} {last : String}
    (h : names.dropWhile (· == "") = last :: before) (hhead : (names.head? == some "") = false) :
    names = last :: before ∧ last ≠ "" := by
  cases names with
  | nil => cases h
  | cons name rest =>
    have hne : name ≠ "" := by
      rintro rfl
      simp at hhead
    rw [List.dropWhile_cons_of_neg (by simpa using hne)] at h
    obtain ⟨rfl, -⟩ := List.cons.inj h
    exact ⟨h, hne⟩

/-- A target that no slash follows is named by the last piece of the path. -/
theorem namesIn_of_target {parent : Location} {name : String}
    (h : fs.target path = .ok (.named parent name false))
    (hshort : FileSystem.requireShort name = .ok ()) : NamesIn fs path parent name := by
  unfold target at h
  split at h
  · cases h
  · rename_i hpath
    dsimp only at h
    split at h
    · cases h
    · rename_i last before hlast
      split at h
      · cases h
      · rename_i parent' hwalk
        split at h
        · cases h
        · rename_i hdirectory
          split at h
          · cases h
          · rename_i hown
            simp only [Except.ok.injEq, Target.named.injEq] at h
            obtain ⟨rfl, rfl, hslash⟩ := h
            rw [not_or] at hown
            obtain ⟨hreversed, hne⟩ := eq_cons_of_dropWhile hlast hslash
            have hpieces : Path.pieces path = before.reverse ++ [last] := by
              rw [← List.reverse_reverse (Path.pieces path), hreversed, List.reverse_cons]
            exact {
              requirePath := hpath
              pieces := ⟨before.reverse, hpieces, hwalk⟩
              directory := requireDirectory_eq_ok.1 hdirectory
              not_stay := not_or.2 ⟨hne, hown.1⟩
              not_up := hown.2
              requireShort := hshort }

theorem namesIn_of_writable (h : fs.writable path = .ok location) :
    ∃ parent name, NamesIn fs path parent name ∧ location = name :: parent ∧
      fs.isDirectoryAt location = false := by
  unfold writable at h
  split at h
  · cases h
  · cases h
  · cases h
  · rename_i parent name htarget
    split at h
    · cases h
    · rename_i hshort
      split at h
      · cases h
      · rename_i hfile
        obtain rfl := Except.ok.inj h
        exact ⟨parent, name, namesIn_of_target htarget hshort, rfl, Bool.eq_false_iff.2 hfile⟩

theorem fromUTF8?_toUTF8 (text : String) : String.fromUTF8? text.toUTF8 = some text := by
  have hvalid : text.toUTF8.IsValidUTF8 := text.isValidUTF8
  rw [String.fromUTF8?, dif_pos hvalid]
  rfl

theorem read_of_locate (hlocate : fs.locate path = .ok location)
    (hnode : fs.node location = some (.file text.toUTF8)) : fs.read path = .ok text := by
  have hbytes : fs.readBytes path = .ok text.toUTF8 := by
    rw [readBytes, hlocate]
    simp only [hnode]
  rw [read, hbytes]
  simp only [fromUTF8?_toUTF8]

/-- **What was written to a path is read from there.** -/
theorem read_of_write (h : fs.write path text = .ok fs') : fs'.read path = .ok text := by
  unfold write writeBytes at h
  split at h
  · cases h
  · rename_i location hwritable
    obtain rfl := Except.ok.inj h
    obtain ⟨parent, name, hnames, rfl, hfile⟩ := namesIn_of_writable hwritable
    have hnode := node_put_self fs (name :: parent) (.file text.toUTF8)
    have hlocate := (hnames.of_extends (extends_put_file hfile)).locate
      (by rw [hnode]; exact Option.some_ne_none _)
    exact read_of_locate hlocate hnode

/-- Writing changes one file. -/
theorem exists_content_of_write (h : fs.write path text = .ok fs') :
    ∃ location, fs'.content location = some text.toUTF8 ∧
      ∀ other, other ≠ location → fs'.content other = fs.content other := by
  unfold write writeBytes at h
  split at h
  · cases h
  · rename_i location _
    obtain rfl := Except.ok.inj h
    exact ⟨location, content_put_file _, fun other hother => content_put_of_ne hother⟩

/-! ### The disk of a file system -/

/-- **A file system is a lawful disk.** -/
theorem lawful_disk : disk.Lawful content where
  keeps_read _ _ := rfl
  keeps_isDirectory _ _ := rfl
  keeps_createDirectory path fs := by
    show ((step (fs.makeDirectory path)).run fs).2.content = fs.content
    cases h : fs.makeDirectory path with
    | error fault => rfl
    | ok fs' => exact content_makeDirectory h
  content_write_of_error path text fault fs fs' h := by
    replace h : (step (fs.write path text)).run fs = (.error fault, fs') := h
    cases hwrite : fs.write path text with
    | error fault' =>
      rw [hwrite] at h
      obtain rfl : fs = fs' := congrArg Prod.snd h
      rfl
    | ok fs'' => rw [hwrite] at h; cases h
  content_write_of_ok path text fs fs' h := by
    replace h : (step (fs.write path text)).run fs = (.ok (), fs') := h
    cases hwrite : fs.write path text with
    | error fault => rw [hwrite] at h; cases h
    | ok fs'' =>
      rw [hwrite] at h
      obtain rfl : fs'' = fs' := congrArg Prod.snd h
      exact ⟨read_of_write hwrite, exists_content_of_write hwrite⟩

end RestClient.FileSystem
