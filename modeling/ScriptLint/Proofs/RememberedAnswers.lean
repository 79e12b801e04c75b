import Mathlib
import ScriptLint.Files.Cache

/-! Asking files through a cache. While files are only rewritten, and what was read is forgotten
after each write, what is remembered stays right. But answers are remembered by the components of
paths, so questions are answered through the cache as they are without it if and only if the files
answer alike about paths with the same components. -/
namespace ScriptLint

/-- Files answer alike about paths that have the same components. -/
structure FileAccess.Componentwise (files : FileSystem) : Prop where
  exists? : ∀ {p q : Path}, p.components = q.components → files.exists? p = files.exists? q
  isDirectory : ∀ {p q : Path},
    p.components = q.components → files.isDirectory p = files.isDirectory q
  read? : ∀ {p q : Path}, p.components = q.components → files.read? p = files.read? q

def FileAccess.IsFile (files : FileSystem) (p : Path) : Prop :=
  files.exists? p = true ∧ files.isDirectory p = false

/-- Files that can be rewritten. Which files and directories there are, and which of them match a
pattern, does not depend on what the files hold. -/
structure FileStore where
  State : Type
  files : State → FileSystem
  write : State → Path → String → State
  exists?_write : ∀ s p text, (files s).IsFile p →
    ∀ q, (files (write s p text)).exists? q = (files s).exists? q
  isDirectory_write : ∀ s p text, (files s).IsFile p →
    ∀ q, (files (write s p text)).isDirectory q = (files s).isDirectory q
  list_write : ∀ s p text, (files s).IsFile p →
    ∀ pattern, (files (write s p text)).list pattern = (files s).list pattern

inductive FileQuestion where
  | exists? (p : Path)
  | isDirectory (p : Path)
  | read? (p : Path)
  | list (pattern : Text)
  | declarations (specifier : Text) (directory : Path)

inductive FileAnswer where
  | truth (b : Bool)
  | contents (text : Option String)
  | paths (ps : List Path)
  | definition (d : Option TypeDefinition)
  deriving DecidableEq

namespace FileQuestion

def answer (files : FileSystem) : FileQuestion → FileAnswer
  | exists? p => .truth (files.exists? p)
  | isDirectory p => .truth (files.isDirectory p)
  | read? p => .contents (files.read? p)
  | list pattern => .paths (files.list pattern)
  | declarations specifier directory =>
    .definition (TypeDefinition.find? files specifier directory)

def ask (files : FileSystem) : FileQuestion → Cached FileAnswer
  | exists? p => .truth <$> (Cached.access files).exists? p
  | isDirectory p => .truth <$> (Cached.access files).isDirectory p
  | read? p => .contents <$> (Cached.access files).read? p
  | list pattern => .paths <$> (Cached.access files).list pattern
  | declarations specifier directory =>
    .definition <$> Cached.declarations files specifier directory

end FileQuestion

inductive FileOperation where
  | ask (q : FileQuestion)
  /-- Replaces what a file holds and forgets what was read. -/
  | rewrite (p : Path) (text : String)

namespace FileStore

variable (store : FileStore)

def answers : store.State → List FileOperation → List FileAnswer
  | _, [] => []
  | s, .ask q :: ops => q.answer (store.files s) :: answers s ops
  | s, .rewrite p text :: ops => answers (store.write s p text) ops

def cachedAnswers : store.State → FileCache → List FileOperation → List FileAnswer
  | _, _, [] => []
  | s, c, .ask q :: ops =>
    let (a, c) := (q.ask (store.files s)).run c
    a :: cachedAnswers s c ops
  | s, c, .rewrite p text :: ops => cachedAnswers (store.write s p text) c.forgetContents ops

def Rewrites : store.State → List FileOperation → Prop
  | _, [] => True
  | s, .ask _ :: ops => Rewrites s ops
  | s, .rewrite p text :: ops =>
    (store.files s).IsFile p ∧ Rewrites (store.write s p text) ops

inductive Reaches : store.State → store.State → Prop
  | refl (s : store.State) : Reaches s s
  | rewrite {s s' : store.State} {p : Path} (text : String) : (store.files s).IsFile p →
      Reaches (store.write s p text) s' → Reaches s s'

end FileStore

/-- Remembered answers are those that would be given now. -/
def Remembers {κ ι α : Type} [BEq κ] (entries : List (κ × α)) (key : ι → κ) (answer : ι → α) :
    Prop :=
  ∀ x a, entries.lookup (key x) = some a → a = answer x

namespace Remembers

variable {κ ι α : Type} [BEq κ] {entries : List (κ × α)} {key : ι → κ} {answer : ι → α}

theorem nil : Remembers ([] : List (κ × α)) key answer := by
  intro x a h
  simp at h

theorem cons [LawfulBEq κ] (h : Remembers entries key answer) {x : ι}
    (hx : ∀ y, key y = key x → answer y = answer x) :
    Remembers ((key x, answer x) :: entries) key answer := by
  intro y a hy
  rw [List.lookup_cons] at hy
  split at hy
  next hkey =>
    rw [← Option.some.inj hy, hx y (LawfulBEq.eq_of_beq hkey)]
  next => exact h y a hy

end Remembers

structure FileCache.Faithful (files : FileSystem) (c : FileCache) : Prop where
  existing : Remembers c.existing Path.components files.exists?
  directories : Remembers c.directories Path.components files.isDirectory
  contents : Remembers c.contents Path.components files.read?
  listings : Remembers c.listings id files.list
  declarations : Remembers c.declarations (fun x : Text × Path => (x.1, x.2.components))
    fun x => TypeDefinition.find? files x.1 x.2

theorem FileCache.Faithful.empty (files : FileSystem) : FileCache.empty.Faithful files :=
  ⟨.nil, .nil, .nil, .nil, .nil⟩

/-- Whatever a cache rightly holds, a computation gives one answer and leaves the cache right. -/
def Cached.Gives {α : Type} (files : FileSystem) (x : Cached α) (a : α) : Prop :=
  ∀ c : FileCache, c.Faithful files → (x.run c).1 = a ∧ (x.run c).2.Faithful files

namespace Cached

variable {α β : Type} {files : FileSystem}

theorem Gives.pure {a b : α} (h : a = b) : Gives files (pure a) b :=
  fun _ hc => ⟨h, hc⟩

theorem Gives.bind {x : Cached α} {f : α → Cached β} {a : α} {b : β} (hx : Gives files x a)
    (hf : Gives files (f a) b) : Gives files (x >>= f) b := by
  intro c hc
  obtain ⟨hval, hnext⟩ := hx c hc
  have := hf _ hnext
  rwa [← hval] at this

theorem run_map (f : α → β) (x : Cached α) (c : FileCache) :
    (f <$> x).run c = (f (x.run c).1, (x.run c).2) := rfl

theorem Gives.map {x : Cached α} {a : α} (f : α → β) (hx : Gives files x a) :
    Gives files (f <$> x) (f a) :=
  fun c hc => ⟨congrArg f (hx c hc).1, (hx c hc).2⟩

theorem run_remember {κ : Type} [BEq κ] (entries : FileCache → List (κ × α)) (key : κ) (a : α)
    (store : FileCache → List (κ × α) → FileCache) (c : FileCache) :
    (remember entries key a store).run c = match (entries c).lookup key with
      | some hit => (hit, c)
      | none => (a, store c ((key, a) :: entries c)) := by
  cases hlookup : (entries c).lookup key <;> simp only [remember, hlookup, StateT.run_bind,
    StateT.run_get, pure_bind] <;> rfl

theorem gives_remember {κ ι : Type} [BEq κ] {entries : FileCache → List (κ × α)} (key : ι → κ)
    {answer : ι → α} {store : FileCache → List (κ × α) → FileCache} (x : ι)
    (hright : ∀ c, c.Faithful files → Remembers (entries c) key answer)
    (hstore : ∀ c, c.Faithful files →
      (store c ((key x, answer x) :: entries c)).Faithful files) :
    Gives files (remember entries (key x) (answer x) store) (answer x) := by
  intro c hc
  rw [run_remember]
  cases hlookup : (entries c).lookup (key x) with
  | some hit => exact ⟨hright c hc x hit hlookup, hc⟩
  | none => exact ⟨rfl, hstore c hc⟩

section

variable (hfiles : files.Componentwise)
include hfiles

theorem gives_exists? (p : Path) : Gives files ((access files).exists? p) (files.exists? p) :=
  gives_remember Path.components p (fun _ hc => hc.existing) fun _ hc =>
    { hc with existing := hc.existing.cons fun _ h => hfiles.exists? h }

theorem gives_isDirectory (p : Path) :
    Gives files ((access files).isDirectory p) (files.isDirectory p) :=
  gives_remember Path.components p (fun _ hc => hc.directories) fun _ hc =>
    { hc with directories := hc.directories.cons fun _ h => hfiles.isDirectory h }

theorem gives_read? (p : Path) : Gives files ((access files).read? p) (files.read? p) :=
  gives_remember Path.components p (fun _ hc => hc.contents) fun _ hc =>
    { hc with contents := hc.contents.cons fun _ h => hfiles.read? h }

omit hfiles in
theorem gives_list (pattern : Text) :
    Gives files ((access files).list pattern) (files.list pattern) :=
  gives_remember id pattern (fun _ hc => hc.listings) fun _ hc =>
    { hc with listings := hc.listings.cons fun _ h => congrArg files.list h }

theorem gives_packageCandidates (own typed : Path) :
    Gives files (TypeDefinition.packageCandidates (access files) own typed)
      (TypeDefinition.packageCandidates files own typed) := by
  unfold TypeDefinition.packageCandidates
  refine (gives_read? hfiles _).bind ((gives_isDirectory hfiles own).bind ?_)
  cases hown : files.isDirectory own with
  | true => exact (gives_list _).bind (.pure rfl)
  | false => exact .pure rfl

theorem gives_readFirst? (ps : List Path) :
    Gives files (TypeDefinition.readFirst? (access files) ps)
      (TypeDefinition.readFirst? files ps) := by
  induction ps with
  | nil => exact .pure rfl
  | cons p ps ih =>
    unfold TypeDefinition.readFirst?
    refine (gives_read? hfiles p).bind ?_
    cases hread : files.read? p with
    | some text => exact .pure rfl
    | none => exact ih

theorem gives_readFirst?_or (candidates : List Path) {rest : Cached (Option TypeDefinition)}
    {rest' : Option TypeDefinition} (hrest : Gives files rest rest') :
    Gives files
      (TypeDefinition.readFirst? (access files) candidates >>= fun found => match found with
        | some found => pure (some found)
        | none => rest)
      (match (TypeDefinition.readFirst? files candidates : Option TypeDefinition) with
        | some found => some found
        | none => rest') := by
  refine (gives_readFirst? hfiles candidates).bind ?_
  cases (TypeDefinition.readFirst? files candidates : Option TypeDefinition) with
  | some found => exact .pure rfl
  | none => exact hrest

theorem gives_findIn? (package : Text) (subpath : Option Text) (ds : List Path) :
    Gives files (TypeDefinition.findIn? (access files) package subpath ds)
      (TypeDefinition.findIn? files package subpath ds) := by
  induction ds with
  | nil => exact .pure rfl
  | cons d ds ih =>
    unfold TypeDefinition.findIn?
    dsimp only
    refine (gives_isDirectory hfiles _).bind ?_
    cases hmodules : files.isDirectory (d.joinString "node_modules") with
    | false => exact ih
    | true =>
      -- From the candidates on, the search goes the same way for whole packages and for modules.
      cases subpath with
      | some sub => exact (Gives.pure rfl).bind (gives_readFirst?_or hfiles _ ih)
      | none =>
        exact (gives_packageCandidates hfiles _ _).bind (gives_readFirst?_or hfiles _ ih)

theorem gives_find? (specifier : Text) (directory : Path) :
    Gives files (TypeDefinition.find? (access files) specifier directory)
      (TypeDefinition.find? files specifier directory) := by
  unfold TypeDefinition.find?
  cases splitPackage? specifier with
  | some parts => exact gives_findIn? hfiles parts.1 parts.2 _
  | none => exact .pure rfl

omit hfiles in
theorem find?_congr {specifier : Text} {d e : Path} (h : d.components = e.components) :
    TypeDefinition.find? files specifier d = TypeDefinition.find? files specifier e := by
  unfold TypeDefinition.find? Path.normalize
  rw [h]

theorem gives_declarations (specifier : Text) (directory : Path) :
    Gives files (declarations files specifier directory)
      (TypeDefinition.find? files specifier directory) := by
  intro c hc
  unfold declarations
  rw [StateT.run_bind, StateT.run_get, pure_bind]
  cases hlookup : c.declarations.lookup (specifier, directory.components) with
  | some hit => exact ⟨hc.declarations (specifier, directory) hit hlookup, hc⟩
  | none =>
    obtain ⟨hval, hnext⟩ := gives_find? hfiles specifier directory c hc
    refine ⟨hval, { hnext with declarations := ?_ }⟩
    have hkeys : ∀ y : Text × Path, (y.1, y.2.components) = (specifier, directory.components) →
        TypeDefinition.find? files y.1 y.2 = TypeDefinition.find? files specifier directory := by
      rintro ⟨spec, d⟩ hy
      obtain ⟨rfl, hd⟩ := Prod.mk.inj hy
      exact find?_congr hd
    have hcons := hnext.declarations.cons (x := (specifier, directory)) hkeys
    rw [← hval] at hcons
    exact hcons

theorem gives_ask (q : FileQuestion) : Gives files (q.ask files) (q.answer files) := by
  cases q with
  | exists? p => exact (gives_exists? hfiles p).map _
  | isDirectory p => exact (gives_isDirectory hfiles p).map _
  | read? p => exact (gives_read? hfiles p).map _
  | list pattern => exact (gives_list pattern).map _
  | declarations specifier directory => exact (gives_declarations hfiles specifier directory).map _

end

end Cached

namespace FileStore

variable {store : FileStore} {s : store.State} {c : FileCache}

theorem faithful_forgetContents {p : Path} {text : String} (hc : c.Faithful (store.files s))
    (hp : (store.files s).IsFile p) :
    c.forgetContents.Faithful (store.files (store.write s p text)) where
  existing q a h := (hc.existing q a h).trans (store.exists?_write s p text hp q).symm
  directories q a h := (hc.directories q a h).trans (store.isDirectory_write s p text hp q).symm
  contents := .nil
  listings pattern a h :=
    (hc.listings pattern a h).trans (store.list_write s p text hp pattern).symm
  declarations := .nil

theorem cachedAnswers_of_faithful {ops : List FileOperation}
    (hright : ∀ s', store.Reaches s s' → (store.files s').Componentwise)
    (hc : c.Faithful (store.files s)) (hops : store.Rewrites s ops) :
    store.cachedAnswers s c ops = store.answers s ops := by
  induction ops generalizing s c with
  | nil => rfl
  | cons op ops ih =>
    cases op with
    | ask q =>
      obtain ⟨hanswer, hnext⟩ := Cached.gives_ask (hright s (.refl s)) q c hc
      exact List.cons_eq_cons.2 ⟨hanswer, ih hright hnext hops⟩
    | rewrite p text =>
      exact ih (fun s' hs' => hright s' (.rewrite text hops.1 hs'))
        (faithful_forgetContents hc hops.1) hops.2

/-- The cache answers as the files do, whatever is asked and rewritten in whatever order. -/
def Transparent (store : FileStore) (s : store.State) : Prop :=
  ∀ ops, store.Rewrites s ops → store.cachedAnswers s .empty ops = store.answers s ops

theorem Transparent.of_reaches {s' : store.State} (h : store.Transparent s)
    (hs : store.Reaches s s') : store.Transparent s' := by
  induction hs with
  | refl => exact h
  | rewrite text hp _ ih => exact ih fun ops hops => h (.rewrite _ text :: ops) ⟨hp, hops⟩

/-- Asked about two paths with the same components, one after the other, the cache gives the answer
about the first one twice. -/
theorem Transparent.componentwise (h : store.Transparent s) : (store.files s).Componentwise := by
  constructor <;> intro p q hpq
  · have htwice := h [.ask (.exists? p), .ask (.exists? q)] trivial
    simpa [cachedAnswers, answers, FileQuestion.ask, FileQuestion.answer, Cached.access,
      Cached.run_map, Cached.run_remember, FileCache.empty, hpq, -StateT.run_map] using htwice
  · have htwice := h [.ask (.isDirectory p), .ask (.isDirectory q)] trivial
    simpa [cachedAnswers, answers, FileQuestion.ask, FileQuestion.answer, Cached.access,
      Cached.run_map, Cached.run_remember, FileCache.empty, hpq, -StateT.run_map] using htwice
  · have htwice := h [.ask (.read? p), .ask (.read? q)] trivial
    simpa [cachedAnswers, answers, FileQuestion.ask, FileQuestion.answer, Cached.access,
      Cached.run_map, Cached.run_remember, FileCache.empty, hpq, -StateT.run_map] using htwice

/-- From an empty cache on, whatever is asked and rewritten in whatever order, each question gets the
answer that the files give at that moment, if and only if the files, however they are rewritten,
answer alike about paths with the same components. -/
theorem cachedAnswers_eq_answers_iff (store : FileStore) (s : store.State) :
    (∀ ops, store.Rewrites s ops → store.cachedAnswers s .empty ops = store.answers s ops) ↔
      ∀ s', store.Reaches s s' → (store.files s').Componentwise :=
  ⟨fun h _ hs => (Transparent.of_reaches h hs).componentwise,
    fun h _ hops => cachedAnswers_of_faithful h (.empty _) hops⟩

end FileStore

namespace MemoryFiles

def above (path : Path) : List Path :=
  (path.ancestors.drop 1).takeWhile fun p => !p.text.isEmpty

/-- Files stand in the order of paths, and the directories above them are there. -/
structure Ordered (m : MemoryFiles) : Prop where
  sorted : (m.files.map Prod.fst).Pairwise fun p q => q.le p = false
  rooted : ∀ f ∈ m.files, ∀ d ∈ above f.1, d ∈ m.directories

variable {m : MemoryFiles} {p : Path}

theorem map_fst_insertFile {files : List (Path × String)} {text : String}
    (hsorted : (files.map Prod.fst).Pairwise fun p q => q.le p = false)
    (hp : p ∈ files.map Prod.fst) :
    (insertFile p text files).map Prod.fst = files.map Prod.fst := by
  induction files with
  | nil => simp at hp
  | cons f rest ih =>
    obtain ⟨q, old⟩ := f
    obtain ⟨hfirst, hrest⟩ := List.pairwise_cons.1 hsorted
    unfold insertFile
    split
    next heq => rw [List.map_cons, List.map_cons, heq]
    next hne =>
      have hmem : p ∈ rest.map Prod.fst := (List.mem_cons.1 hp).resolve_left fun h => hne h.symm
      rw [if_neg (by simp [hfirst p hmem]), List.map_cons, List.map_cons, ih hrest hmem]

theorem isSome_read?_iff : (m.read? p).isSome = true ↔ p.normalize ∈ m.files.map Prod.fst := by
  rw [read?, List.lookup_isSome_iff, List.mem_map]
  simp only [beq_iff_eq, @eq_comm _ p.normalize]

section Rewriting

variable {text : String} (hm : m.Ordered) (hp : (m.read? p).isSome = true)
include hm hp

theorem map_fst_add : (m.add p text).files.map Prod.fst = m.files.map Prod.fst :=
  map_fst_insertFile hm.sorted (isSome_read?_iff.1 hp)

theorem mem_directories_add {d : Path} : d ∈ (m.add p text).directories ↔ d ∈ m.directories := by
  obtain ⟨f, hf, hpath⟩ := List.mem_map.1 (isSome_read?_iff.1 hp)
  have habove : d ∈ above p.normalize → d ∈ m.directories := by
    rw [← hpath]
    exact hm.rooted f hf d
  change d ∈ (m.directories ++ above p.normalize).eraseDups ↔ d ∈ m.directories
  rw [List.mem_eraseDups, List.mem_append]
  exact ⟨fun h => h.elim id habove, .inl⟩

theorem Ordered.add : (m.add p text).Ordered where
  sorted := by
    rw [map_fst_add hm hp]
    exact hm.sorted
  rooted f hf d hd := by
    have hkey : f.1 ∈ m.files.map Prod.fst := map_fst_add hm hp ▸ List.mem_map_of_mem hf
    obtain ⟨g, hg, hpath⟩ := List.mem_map.1 hkey
    exact (mem_directories_add hm hp).2 (hm.rooted g hg d (hpath ▸ hd))

theorem isDirectory_add (q : Path) : (m.add p text).isDirectory q = m.isDirectory q := by
  rw [Bool.eq_iff_iff]
  simp only [isDirectory, List.contains_iff_mem]
  exact mem_directories_add hm hp

theorem exists?_add (q : Path) : (m.add p text).exists? q = m.exists? q := by
  have hread : ((m.add p text).read? q).isSome = (m.read? q).isSome := by
    rw [Bool.eq_iff_iff, isSome_read?_iff, isSome_read?_iff, map_fst_add hm hp]
  rw [exists?, exists?, hread, isDirectory_add hm hp]

theorem list_add (pattern : Text) : (m.add p text).list pattern = m.list pattern := by
  unfold list
  rw [map_fst_add hm hp]

end Rewriting

theorem isSome_read?_of_isFile (h : m.access.IsFile p) : (m.read? p).isSome = true := by
  have hexists : ((m.read? p).isSome || m.isDirectory p) = true := h.1
  have hfile : m.isDirectory p = false := h.2
  rwa [hfile, Bool.or_false] at hexists

theorem componentwise_access (m : MemoryFiles) : m.access.Componentwise := by
  have hnormalize {p q : Path} (h : p.components = q.components) : p.normalize = q.normalize := by
    rw [Path.normalize, Path.normalize, h]
  constructor <;> intro p q h <;>
    simp only [access, exists?, isDirectory, read?, hnormalize h]

def store : FileStore where
  State := { m : MemoryFiles // m.Ordered }
  files m := m.1.access
  write m p text := if h : (m.1.read? p).isSome then ⟨m.1.add p text, m.2.add h⟩ else m
  exists?_write m p text h q := by
    rw [dif_pos (isSome_read?_of_isFile h)]
    exact exists?_add m.2 (isSome_read?_of_isFile h) q
  isDirectory_write m p text h q := by
    rw [dif_pos (isSome_read?_of_isFile h)]
    exact isDirectory_add m.2 (isSome_read?_of_isFile h) q
  list_write m p text h pattern := by
    rw [dif_pos (isSome_read?_of_isFile h)]
    exact list_add m.2 (isSome_read?_of_isFile h) pattern

/-- Files in memory are found by the normal forms of paths, so asking through the cache makes no
difference to them. -/
theorem transparent (m : { m : MemoryFiles // m.Ordered }) : store.Transparent m := fun _ hops =>
  FileStore.cachedAnswers_of_faithful (fun m' _ => m'.1.componentwise_access) (.empty _) hops

end MemoryFiles

end ScriptLint
