import ScriptLint.Files.Disk
import ScriptLint.Proofs.TreeLinks

/-! Overwriting a file on a disk. A file that is there is found at the same place afterwards, and so is
everything else: only the contents at that place change. -/
namespace ScriptLint.Disk

variable {d : Disk} {p : Path} {text : String}

/-! Files and their contents. -/

theorem put_of_lookup {files : List (Location × ByteArray)} {l : Location} {bytes : ByteArray}
    (h : files.lookup l = some bytes) : put l bytes files = files := by
  induction files with
  | nil => simp at h
  | cons f files ih =>
    obtain ⟨k, old⟩ := f
    by_cases hk : k = l
    · subst hk
      simp only [List.lookup_cons, beq_self_eq_true, Option.some.injEq] at h
      simp only [put, if_true, h]
    · have hne : (l == k) = false := beq_false_of_ne fun e => hk e.symm
      simp only [List.lookup_cons, hne] at h
      simp only [put, hk, if_false, ih h]

theorem lookup_put (files : List (Location × ByteArray)) (l : Location) (bytes : ByteArray) :
    (put l bytes files).lookup l = some bytes := by
  induction files with
  | nil => simp [put]
  | cons f files ih =>
    by_cases hf : f.1 = l
    · simp [put, hf]
    · have hne : (l == f.1) = false := beq_false_of_ne fun e => hf e.symm
      rw [put, if_neg hf, List.lookup_cons, hne]
      exact ih

theorem lookup_put_of_ne {l l' : Location} (h : l' ≠ l) (bytes : ByteArray)
    (files : List (Location × ByteArray)) : (put l bytes files).lookup l' = files.lookup l' := by
  have hne : (l' == l) = false := beq_false_of_ne h
  induction files with
  | nil => simp [put, List.lookup_cons, hne]
  | cons f files ih =>
    obtain ⟨k, old⟩ := f
    by_cases hk : k = l
    · subst hk
      simp [put, List.lookup_cons, hne]
    · rw [put, if_neg hk, List.lookup_cons, List.lookup_cons, ih]

theorem map_fst_put {files : List (Location × ByteArray)} {l : Location}
    (h : (files.lookup l).isSome = true) (bytes : ByteArray) :
    (put l bytes files).map Prod.fst = files.map Prod.fst := by
  induction files with
  | nil => simp at h
  | cons f files ih =>
    by_cases hf : f.1 = l
    · simp [put, hf]
    · have hne : (l == f.1) = false := beq_false_of_ne fun e => hf e.symm
      rw [List.lookup_cons, hne] at h
      rw [put, if_neg hf, List.map_cons, List.map_cons, ih h]

theorem isFile_iff : d.isFile p = true ↔ ∃ l, d.locate p = .ok l ∧ (d.fileAt? l).isSome = true := by
  unfold isFile
  cases d.locate p <;> simp

theorem fileAt?_of_readText (h : d.readText p = .ok text) :
    ∃ l, d.locate p = .ok l ∧ d.fileAt? l = some text.toUTF8 := by
  obtain ⟨bytes, hbytes, htext⟩ := bind_eq_ok.1 h
  obtain ⟨l, hl, hfile⟩ := bind_eq_ok.1 hbytes
  have hutf : text.toUTF8 = bytes := by
    split at htext <;> cases htext
    next hdecoded =>
      rw [String.fromUTF8?, Option.dite_none_right_eq_some] at hdecoded
      obtain ⟨_, hvalid⟩ := hdecoded
      rw [← Option.some.inj hvalid]
      rfl
  refine ⟨l, hl, ?_⟩
  split at hfile
  next => cases hfile
  next =>
    split at hfile <;> cases hfile
    rw [hutf]
    assumption

theorem isFile_of_readText (h : d.readText p = .ok text) : d.isFile p = true := by
  obtain ⟨l, hl, hfile⟩ := fileAt?_of_readText h
  exact isFile_iff.2 ⟨l, hl, by rw [hfile, Option.isSome_some]⟩

theorem readText_of_fileAt? {l : Location} (hl : d.locate p = .ok l)
    (hfile : d.isDirectoryAt l = false) (h : d.fileAt? l = some text.toUTF8) :
    d.readText p = .ok text := by
  have hbytes : d.readBytes p = .ok text.toUTF8 := by
    simp only [readBytes, hl, bind, Except.bind, hfile, h, Bool.false_eq_true, if_false]
  have hdecoded : String.fromUTF8? text.toUTF8 = some text := by
    simp only [String.fromUTF8?, String.toUTF8_eq_toByteArray, dif_pos text.isValidUTF8]
    rfl
  simp only [readText, hbytes, bind, Except.bind, hdecoded]

/-! Writes. -/

theorem write_of_readText (h : d.readText p = .ok text) : d.write p text.toList = d := by
  obtain ⟨l, hl, hfile⟩ := fileAt?_of_readText h
  simp only [write, hl, String.ofList_toList, put_of_lookup hfile]

theorem fileAt?_write {l : Location} (h : d.locate p = .ok l) (t : Text) :
    (d.write p t).fileAt? l = some (String.ofList t).toUTF8 := by
  simp only [write, h, fileAt?, lookup_put]

theorem fileAt?_write_of_ne {l : Location} (h : d.locate p ≠ .ok l) (t : Text) :
    (d.write p t).fileAt? l = d.fileAt? l := by
  unfold write
  split
  · rename_i l' hl'
    exact lookup_put_of_ne (by rintro rfl; exact h hl') _ _
  · rfl

theorem working_write (d : Disk) (p : Path) (t : Text) : (d.write p t).working = d.working := by
  unfold write
  split <;> rfl

theorem directories_write (d : Disk) (p : Path) (t : Text) :
    (d.write p t).directories = d.directories := by
  unfold write
  split <;> rfl

theorem place_write (d : Disk) (p : Path) (t : Text) : (d.write p t).place = d.place := by
  funext names
  rw [place, place, working_write]

theorem namesOf_write (d : Disk) (p : Path) (t : Text) : (d.write p t).namesOf = d.namesOf := by
  funext l
  cases l with
  | inside names => rw [namesOf, namesOf, working_write]
  | outside names => rfl

theorem isDirectoryAt_write (d : Disk) (p : Path) (t : Text) :
    (d.write p t).isDirectoryAt = d.isDirectoryAt := by
  funext l
  unfold isDirectoryAt
  rw [namesOf_write, working_write, directories_write]

theorem directoryNames_write (d : Disk) (p : Path) (t : Text) :
    (d.write p t).directoryNames = d.directoryNames := by
  unfold directoryNames
  rw [namesOf_write, working_write, directories_write]

theorem expand_congr {d d' : Disk} (hfrom : d'.directoriesFrom = d.directoriesFrom)
    (hentries : d'.entries = d.entries) (hexists : d'.exists? = d.exists?)
    (parts : List (List Glob.Piece)) (p : Path) : d'.expand parts p = d.expand parts p := by
  fun_cases d.expand parts p with
  | case1 => rfl
  | case2 parts =>
    rw [expand]
    exact expand_congr hfrom hentries hexists ([.anyDirectories] :: parts) p
  | case3 part parts _ hpart =>
    rw [expand, hfrom, hentries]
    simp only [expand_congr hfrom hentries hexists parts]
    exact hpart
  | case4 => rfl
  | case5 part parts _ h1 h2 h3 =>
    have hrest : d'.expand parts = d.expand parts :=
      funext fun q => expand_congr hfrom hentries hexists parts q
    rw [expand, hexists, hentries, hrest]
    · exact h1
    · exact h2
    · exact h3

section

variable (h : d.isFile p = true) (t : Text)
include h

theorem map_fst_files_write : (d.write p t).files.map Prod.fst = d.files.map Prod.fst := by
  obtain ⟨l, hl, hfile⟩ := isFile_iff.1 h
  simp only [write, hl, map_fst_put hfile]

theorem isSome_fileAt?_write (l : Location) :
    ((d.write p t).fileAt? l).isSome = (d.fileAt? l).isSome := by
  obtain ⟨place, hplace, hfile⟩ := isFile_iff.1 h
  by_cases hl : l = place
  · rw [hl, fileAt?_write hplace, hfile, Option.isSome_some]
  · rw [fileAt?_write_of_ne]
    rw [hplace]
    exact fun heq => hl (Except.ok.inj heq).symm

theorem follow_write : (d.write p t).follow = d.follow := by
  have hstep : (d.write p t).step = d.step := by
    funext names segment
    unfold step
    rw [place_write, isDirectoryAt_write, isSome_fileAt?_write h]
  funext q
  rw [follow, follow, hstep, working_write]

theorem locate_write : (d.write p t).locate = d.locate := by
  funext q
  rw [locate, locate, place_write, follow_write h]

theorem isDirectory_write : (d.write p t).isDirectory = d.isDirectory := by
  funext q
  rw [isDirectory, isDirectory, locate_write h, isDirectoryAt_write]

theorem isFile_write : (d.write p t).isFile = d.isFile := by
  funext q
  rw [isFile, isFile, locate_write h]
  cases d.locate q with
  | ok l => exact isSome_fileAt?_write h t l
  | error e => rfl

theorem exists?_write : (d.write p t).exists? = d.exists? := by
  funext q
  rw [exists?, exists?, isFile_write h, isDirectory_write h]

theorem entries_write : (d.write p t).entries = d.entries := by
  have hfiles : (d.write p t).files.map (fun f => (d.write p t).namesOf f.1) =
      d.files.map fun f => d.namesOf f.1 := by
    have hnames := congrArg (List.map d.namesOf) (map_fst_files_write h t)
    rw [List.map_map, List.map_map] at hnames
    rw [namesOf_write]
    exact hnames
  funext q
  rw [entries, entries, follow_write h, hfiles, directoryNames_write]

theorem directoriesFrom_write : (d.write p t).directoriesFrom = d.directoriesFrom := by
  funext q
  rw [directoriesFrom, directoriesFrom, follow_write h, directoryNames_write]

theorem list_write : (d.write p t).list = d.list := by
  have hexpand := expand_congr (directoriesFrom_write h t) (entries_write h t) (exists?_write h t)
  funext pattern
  unfold list
  rw [isFile_write h]
  simp only [hexpand]

end

theorem readText_write (h : d.readText p = .ok text) (t : Text) :
    (d.write p t).readText p = .ok (String.ofList t) := by
  obtain ⟨l, hl, -⟩ := fileAt?_of_readText h
  refine readText_of_fileAt? (locate_write (isFile_of_readText h) t ▸ hl) ?_ (fileAt?_write hl t)
  obtain ⟨bytes, hbytes, -⟩ := bind_eq_ok.1 h
  obtain ⟨l', hl', hread⟩ := bind_eq_ok.1 hbytes
  cases hl.symm.trans hl'
  rw [isDirectoryAt_write]
  split at hread
  · cases hread
  · rename_i hdirectory
    exact Bool.eq_false_iff.2 hdirectory

end ScriptLint.Disk
