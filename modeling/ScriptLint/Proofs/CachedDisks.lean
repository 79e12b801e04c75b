import ScriptLint.Proofs.NormalPaths
import ScriptLint.Proofs.OverwrittenFiles
import ScriptLint.Proofs.RememberedAnswers

/-! Asking a disk through a cache. A slash behind a path asks for a directory, and a path may be too
long, but its components say neither. So the cache may answer wrongly about such paths; all others lead
where their components do. -/
namespace ScriptLint

namespace Path

theorem text_of_component? {w : Text} {c : Component} (h : component? w = some c) : c.text = w := by
  unfold component? at h
  split at h
  · cases h
  · split at h <;> cases h
    · rename_i hdots
      exact hdots.symm
    · rfl

theorem parts_eq_filter (p : Path) :
    parts p.text = p.components.filter fun c => c != .root && c != .current := by
  have hlead : p.lead.filter (fun c => c != .root && c != .current) = [] := by
    unfold lead
    cases p.isAbsolute <;> cases p.startsWithDot <;> rfl
  rw [components_eq, List.filter_append, hlead, List.nil_append, List.filter_eq_self.2]
  intro c hc
  have hstep := isStep_of_mem_parts hc
  cases c with
  | root | current => exact hstep.elim
  | parent | name n => rfl

/-- A path that is short enough and does not end with a slash or a dot. -/
structure IsPlain (p : Path) : Prop where
  short : p.text.size < Disk.maxPathSize
  last : ∃ init last, Text.splitWhere isSeparator p.text = init ++ [last] ∧
    (component? last).isSome = true

end Path

namespace Disk

variable {d : Disk} {p q : Path}

/-! Paths that their components decide. -/

/-- A step that goes nowhere only asks for what any next step asks for. -/
theorem step_bind_step {α : Type} {names : List Text} {segment : Text}
    (h : Path.component? segment = none) (next : Text) (k : List Text → Except FileError α) :
    (d.step names segment >>= fun names => d.step names next >>= k) = d.step names next >>= k := by
  have hnowhere : (segment = [] || segment = ['.']) = true := by
    unfold Path.component? at h
    split at h
    · rename_i hsegment
      simpa using hsegment
    · split at h <;> cases h
  cases hfile : (d.fileAt? (d.place names)).isSome with
  | true => simp only [step, hfile, if_true]; rfl
  | false =>
    cases hdirectory : d.isDirectoryAt (d.place names) with
    | false => simp only [step, hfile, hdirectory]; rfl
    | true =>
      have hstep : d.step names segment = .ok names := by
        simp [step, hfile, hdirectory, hnowhere]
      rw [hstep]
      rfl

theorem foldlM_step_eq {init : List Text} {last : Text} (hlast : (Path.component? last).isSome = true)
    (names : List Text) :
    (init ++ [last]).foldlM d.step names =
      ((init ++ [last]).filterMap Path.component?).foldlM (fun names c => d.step names c.text)
        names := by
  induction init generalizing names with
  | nil =>
    obtain ⟨c, hc⟩ := Option.isSome_iff_exists.1 hlast
    simp [hc, Path.text_of_component? hc]
  | cons segment init ih =>
    cases hsegment : Path.component? segment with
    | some c =>
      simp only [List.cons_append, List.foldlM_cons, List.filterMap_cons_some hsegment,
        Path.text_of_component? hsegment, ih]
    | none =>
      rw [List.cons_append, List.foldlM_cons, List.filterMap_cons_none hsegment]
      simp only [ih]
      obtain ⟨c, cs, hcs⟩ : ∃ c cs, (init ++ [last]).filterMap Path.component? = c :: cs := by
        refine List.exists_cons_of_ne_nil fun hnil => ?_
        rw [List.filterMap_eq_nil_iff] at hnil
        rw [hnil last (by simp)] at hlast
        cases hlast
      simp only [hcs, List.foldlM_cons]
      exact step_bind_step hsegment _ _

theorem follow_eq (hp : p.IsPlain) :
    d.follow p = (Path.parts p.text).foldlM (fun names c => d.step names c.text)
      (if p.isAbsolute then [] else d.working) := by
  obtain ⟨init, last, hsplit, hlast⟩ := hp.last
  have hnonempty : p.text.isEmpty = false := by
    cases htext : p.text with
    | nil =>
      have hend := congrArg List.getLast? (htext ▸ hsplit)
      rw [List.getLast?_concat] at hend
      obtain rfl : [] = last := Option.some.inj hend
      cases hlast
    | cons c t => rfl
  have hshort := hp.short
  rw [follow, hnonempty, if_neg (by simp), if_neg (by omega), hsplit, foldlM_step_eq hlast, Path.parts,
    hsplit]

theorem locate_congr (d : Disk) (hp : p.IsPlain) (hq : q.IsPlain) (h : p.components = q.components) :
    d.locate p = d.locate q := by
  have habsolute : p.isAbsolute = q.isAbsolute := by
    rw [Bool.eq_iff_iff, Path.isAbsolute_iff, Path.isAbsolute_iff, h]
  rw [locate, locate, follow_eq hp, follow_eq hq, Path.parts_eq_filter, Path.parts_eq_filter, h,
    habsolute]

/-- About plain paths with the same components a disk answers alike. -/
theorem access_congr (d : Disk) (hp : p.IsPlain) (hq : q.IsPlain) (h : p.components = q.components) :
    d.access.exists? p = d.access.exists? q ∧ d.access.isDirectory p = d.access.isDirectory q ∧
      d.access.read? p = d.access.read? q := by
  simp only [access, exists?, isFile, isDirectory, readText, readBytes, d.locate_congr hp hq h,
    and_self]

/-! Disks as stores. -/

theorem isFile_of_access (h : d.access.IsFile p) : d.isFile p = true := by
  have hexists : (d.isFile p || d.isDirectory p) = true := h.1
  have hfile : d.isDirectory p = false := h.2
  rwa [hfile, Bool.or_false] at hexists

def store : FileStore where
  State := Disk
  files := access
  write d p text := d.write p text.toList
  exists?_write _ _ text h := congrFun (exists?_write (isFile_of_access h) text.toList)
  isDirectory_write _ _ text h := congrFun (isDirectory_write (isFile_of_access h) text.toList)
  list_write _ _ text h := congrFun (list_write (isFile_of_access h) text.toList)

def slashDisk : Disk := ⟨["work".toList], [(.inside ["a.js".toList], "".toUTF8)], []⟩

def slashOperations : List FileOperation :=
  [.ask (.exists? (.ofString "a.js")), .ask (.exists? (.ofString "a.js/"))]

/-- The cache says that there is something at the path with the slash. -/
theorem cachedAnswers_ne_answers_slash :
    store.Rewrites slashDisk slashOperations ∧
      store.cachedAnswers slashDisk .empty slashOperations ≠
        store.answers slashDisk slashOperations :=
  ⟨trivial, by decide⟩

end Disk

end ScriptLint
