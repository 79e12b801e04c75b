import ScriptLint.Proofs.Traversal
import ScriptLint.Proofs.TreeLinks

/-! Which members of an object its node has as children, and where they stand. A known type names the
members to read, and the children are the objects under them; an object of any other type keeps every
member that has a type. -/
namespace ScriptLint.Document

open Json

def objects : Json → List Object
  | .obj o => [o]
  | .arr vs => vs.filterMap Json.obj?
  | _ => []

def objectsUnder (o : Object) (name : String) : List Object := (o.get? name).elim [] objects

/-- The members that a node of a known type has its children under, in reading order. -/
def childFields : String → Option (List String)
  | "Program" | "BlockStatement" | "StaticBlock" | "ClassBody" => some ["body"]
  | "EmptyStatement" | "DebuggerStatement" | "PrivateIdentifier" | "JSXIdentifier" | "Literal"
  | "TemplateElement" | "ThisExpression" | "Super" => some []
  | "ExpressionStatement" | "ChainExpression" => some ["expression"]
  | "ReturnStatement" | "ThrowStatement" | "SpreadElement" | "UnaryExpression"
  | "UpdateExpression" | "AwaitExpression" | "YieldExpression" | "RestElement" =>
    some ["argument"]
  | "IfStatement" | "ConditionalExpression" => some ["test", "consequent", "alternate"]
  | "ForStatement" => some ["init", "test", "update", "body"]
  | "ForInStatement" | "ForOfStatement" => some ["left", "right", "body"]
  | "WhileStatement" => some ["test", "body"]
  | "DoWhileStatement" => some ["body", "test"]
  | "TryStatement" => some ["block", "handler", "finalizer"]
  | "CatchClause" => some ["param", "body"]
  | "SwitchStatement" => some ["discriminant", "cases"]
  | "SwitchCase" => some ["test", "consequent"]
  | "BreakStatement" | "ContinueStatement" => some ["label"]
  | "LabeledStatement" => some ["label", "body"]
  | "VariableDeclaration" => some ["declarations"]
  | "VariableDeclarator" => some ["id", "init"]
  | "FunctionDeclaration" | "FunctionExpression" | "ArrowFunctionExpression" =>
    some ["id", "params", "body"]
  | "ClassDeclaration" | "ClassExpression" => some ["id", "superClass", "body"]
  | "MethodDefinition" | "PropertyDefinition" | "ClassProperty" => some ["key", "value"]
  | "ImportDeclaration" => some ["specifiers", "source"]
  | "ImportDefaultSpecifier" | "ImportNamespaceSpecifier" => some ["local"]
  | "ImportSpecifier" => some ["imported", "local"]
  | "ExportNamedDeclaration" => some ["declaration", "specifiers", "source"]
  | "ExportDefaultDeclaration" => some ["declaration"]
  | "ExportAllDeclaration" => some ["exported", "source"]
  | "ExportSpecifier" => some ["local", "exported"]
  | "Identifier" => some ["typeAnnotation"]
  | "TemplateLiteral" => some ["quasis", "expressions"]
  | "TaggedTemplateExpression" => some ["tag", "quasi"]
  | "ArrayExpression" | "ArrayPattern" => some ["elements"]
  | "ObjectExpression" | "ObjectPattern" => some ["properties"]
  | "Property" => some ["value", "key"]
  | "BinaryExpression" | "LogicalExpression" | "AssignmentExpression" | "AssignmentPattern" =>
    some ["left", "right"]
  | "CallExpression" | "NewExpression" => some ["callee", "arguments"]
  | "MemberExpression" => some ["object", "property"]
  | "SequenceExpression" => some ["expressions"]
  | "ImportExpression" => some ["source"]
  | "MetaProperty" => some ["meta", "property"]
  | _ => none

def samePlace (t : Text) (o : Object) (first second : String) : Bool :=
  let place (name : String) := ((o.get? name).bind Json.obj?).bind (span? t)
  (place first).isSome && place first == place second

/-- The member that repeats another one: the key of a shorthand property, and in a specifier the
second name where both are one place. -/
def repeatedField? (t : Text) (o : Object) (ty : String) : Option String :=
  match ty with
  | "Property" => if flag o "shorthand" then some "key" else none
  | "ImportSpecifier" => if samePlace t o "imported" "local" then some "local" else none
  | "ExportSpecifier" => if samePlace t o "local" "exported" then some "exported" else none
  | _ => none

def readFields (t : Text) (o : Object) (ty : String) : Option (List String) :=
  (childFields ty).map fun names => names.filter fun name => repeatedField? t o ty ≠ some name

theorem childFields_eq_some {ty : String} {names : List String} (h : childFields ty = some names) :
    names.Nodup ∧ ∀ name ∈ names, name ∉ skippedFields := by
  unfold childFields at h
  split at h
  all_goals first
    | cases h; decide
    | cases h

theorem readFields_pair {t : Text} {o : Object} {ty first second : String} {c : Bool}
    (hnames : childFields ty = some [first, second])
    (hrepeated : repeatedField? t o ty = if c then some second else none)
    (hne : first ≠ second) :
    readFields t o ty = some ([first] ++ if c then [] else [second]) := by
  rw [readFields, hnames, hrepeated]
  cases c <;> simp [hne.symm]

/-! Where the children stand. -/

def objectCells (address : List Nat) : Json → List Cell
  | .obj m => [⟨address, .obj m⟩]
  | .arr vs => vs.zipIdx.filterMap fun (v, i) => v.obj?.map fun m => ⟨i :: address, .obj m⟩
  | _ => []

def cellsUnder (o : Object) (name : String) : List Cell :=
  (o.get? name).elim [] (objectCells (slot o name))

theorem map_value_cellsUnder (o : Object) (name : String) :
    (cellsUnder o name).map Cell.value = (objectsUnder o name).map .obj := by
  unfold cellsUnder objectsUnder
  cases o.get? name with
  | none => rfl
  | some v =>
    cases v with
    | arr vs =>
      change (vs.zipIdx.filterMap _).map Cell.value = (vs.filterMap Json.obj?).map .obj
      rw [List.map_filterMap, List.map_filterMap]
      conv_rhs => rw [← List.zipIdx_map_fst 0 vs, List.filterMap_map]
      congr 1
      funext e
      change (e.1.obj?.map _).map Cell.value = e.1.obj?.map Json.obj
      rw [Option.map_map]
      rfl
    | _ => rfl

def typedMembers (o : Object) : List Json :=
  (o.filter fun f => !skippedFields.contains f.1).flatMap fun f =>
    match f.2 with
    | .arr vs => vs.filter isTyped
    | v => if isTyped v then [v] else []

theorem map_value_typedCells (o : Object) : (typedCells o).map Cell.value = typedMembers o := by
  unfold typedCells typedMembers
  conv_rhs => rw [← List.zipIdx_map_fst 0 o]
  rw [List.filter_map, List.flatMap_map, List.map_flatMap]
  congr 1
  funext e
  obtain ⟨⟨name, v⟩, i⟩ := e
  cases v with
  | arr vs =>
    change ((vs.zipIdx.filter _).map _).map Cell.value = vs.filter isTyped
    conv_rhs => rw [← List.zipIdx_map_fst 0 vs]
    rw [List.filter_map, List.map_map]
    rfl
  | obj m =>
    change (if isTyped (.obj m) then _ else _ : List Cell).map Cell.value = _
    simp only
    split <;> rfl
  | _ => rfl

theorem mapM_eq_self {ε α : Type} {f : α → Except ε α} {l : List α} (h : ∀ a ∈ l, f a = .ok a) :
    l.mapM f = .ok l := by
  induction l with
  | nil => rfl
  | cons a l ih =>
    rw [List.forall_mem_cons] at h
    rw [List.mapM_cons, h.1, ih h.2]
    rfl

theorem mapM_checked_typedCells (o : Object) :
    (typedCells o).mapM checked = .ok (typedCells o) := by
  refine mapM_eq_self fun c hc => ?_
  have hmem : c.value ∈ typedMembers o := by
    rw [← map_value_typedCells]
    exact List.mem_map_of_mem hc
  have htyped : isTyped c.value = true := by
    simp only [typedMembers, List.mem_flatMap] at hmem
    obtain ⟨⟨name, v⟩, -, hv⟩ := hmem
    dsimp only at hv
    split at hv
    · exact (List.mem_filter.1 hv).2
    · split at hv
      · rename_i h
        rwa [List.mem_singleton.1 hv]
      · cases hv
  unfold checked
  cases hvalue : c.value with
  | obj m => rfl
  | _ =>
    rw [hvalue] at htyped
    cases htyped

/-! What readings yield. -/

/-- The cells in the result of a reading are those from before and, after them, the objects under
some names. -/
def Yields {α : Type} (o : Object) (documents : α → List Cell) (before : List Cell)
    (names : List String) (x : Except LoadError α) : Prop :=
  ∀ a, x = .ok a → documents a = before ++ names.flatMap (cellsUnder o)

variable {α γ : Type} {o : Object} {ty : String} {documents : α → List Cell} {before : List Cell}
  {names names' : List String}

theorem Yields.bind {u : γ → List Cell} {x : Except LoadError γ} {f : γ → Except LoadError α}
    (hx : Yields o u [] names x) (hf : ∀ c, Yields o documents (before ++ u c) names' (f c)) :
    Yields o documents before (names ++ names') (x >>= f) := by
  intro a ha
  obtain ⟨c, hc, ha⟩ := bind_eq_ok.1 ha
  rw [hf c a ha, hx c hc]
  simp

theorem Yields.pure {a : α} (h : documents a = before) :
    Yields o documents before [] (pure a) := by
  intro a' ha'
  cases ha'
  simpa using h

theorem checked_eq_ok {c c' : Cell} (h : checked c = .ok c') : ∃ m, c.value = .obj m ∧ c' = c := by
  unfold checked at h
  split at h
  · rename_i m hm
    cases h
    exact ⟨m, hm, rfl⟩
  · cases h

theorem field_eq_ok {name : String} {v : Json} (h : field o ty name = .ok v) :
    o.get? name = some v := by
  unfold field at h
  split at h
  · rename_i hget
    cases h
    exact hget
  · cases h

theorem required_eq_ok {name : String} {v : Json} (h : required o ty name = .ok v) :
    o.get? name = some v := by
  obtain ⟨w, hfield, h⟩ := bind_eq_ok.1 h
  split at h
  · cases h
  · cases h
    exact field_eq_ok hfield

theorem items_eq_ok {name : String} {vs : List Json} (h : items o ty name = .ok vs) :
    o.get? name = some (.arr vs) := by
  obtain ⟨w, hfield, h⟩ := bind_eq_ok.1 h
  split at h
  · cases h
    exact field_eq_ok hfield
  · cases h

theorem forall₂_of_mapM {α β : Type} {f : α → Except LoadError β} {l : List α} {l' : List β}
    (h : l.mapM f = .ok l') : List.Forall₂ (fun a b => f a = .ok b) l l' := by
  induction l generalizing l' with
  | nil =>
    cases h
    exact .nil
  | cons a l ih =>
    rw [List.mapM_cons] at h
    obtain ⟨b, hb, h⟩ := bind_eq_ok.1 h
    obtain ⟨bs, hbs, h⟩ := bind_eq_ok.1 h
    cases h
    exact .cons hb (ih hbs)

abbrev checking (o : Object) (ty : String) : Reading (Except LoadError) Cell := ⟨checked, o, ty⟩

theorem child_eq_ok {name : String} {c : Cell} (h : (checking o ty).child name = .ok c) :
    ∃ m, o.get? name = some (.obj m) ∧ c = ⟨slot o name, .obj m⟩ := by
  obtain ⟨v, hv, h⟩ := bind_eq_ok.1 h
  obtain ⟨m, rfl, rfl⟩ := checked_eq_ok h
  exact ⟨m, required_eq_ok hv, rfl⟩

theorem yields_child (name : String) :
    Yields o (fun c => [c]) [] [name] ((checking o ty).child name) := by
  intro c hc
  obtain ⟨m, hget, rfl⟩ := child_eq_ok hc
  simp [cellsUnder, hget, objectCells]

theorem yields_nodes (name : String) : Yields o id [] [name] ((checking o ty).nodes name) := by
  intro cs h
  obtain ⟨items, hitems, hcs⟩ := bind_eq_ok.1 h
  have hall := forall₂_of_mapM hcs
  simp only [id_eq, List.nil_append, List.flatMap_cons, List.flatMap_nil, List.append_nil,
    cellsUnder, items_eq_ok hitems, Option.elim_some, objectCells]
  clear h hitems hcs
  generalize items.zipIdx = cells at hall ⊢
  induction hall with
  | nil => rfl
  | cons hc _ ih =>
    obtain ⟨m, hm, rfl⟩ := checked_eq_ok hc
    dsimp only at hm
    simp [ih, hm, Json.obj?]

theorem yields_optional (name : String) :
    Yields o Option.toList [] [name] ((checking o ty).optional name) := by
  intro c hc
  unfold Reading.optional at hc
  split at hc
  · rename_i hget
    cases hc
    simp [cellsUnder, hget]
  · rename_i hget
    cases hc
    simp [cellsUnder, hget, objectCells]
  · rename_i hget
    obtain ⟨w, hnode, rfl⟩ := map_eq_ok.1 hc
    obtain ⟨m, rfl, rfl⟩ := checked_eq_ok hnode
    simp [cellsUnder, hget, objectCells]

theorem yields_holes (name : String) :
    Yields o (fun cs => cs.flatMap Option.toList) [] [name] ((checking o ty).holes name) := by
  intro cs h
  obtain ⟨items, hitems, hcs⟩ := bind_eq_ok.1 h
  have hall := forall₂_of_mapM hcs
  simp only [List.nil_append, List.flatMap_cons, List.flatMap_nil, List.append_nil,
    cellsUnder, items_eq_ok hitems, Option.elim_some, objectCells]
  clear h hitems hcs
  generalize items.zipIdx = cells at hall ⊢
  induction hall with
  | nil => rfl
  | @cons entry e items vs hv _ ih =>
    obtain ⟨v, i⟩ := entry
    change (if v.isNull then _ else _) = _ at hv
    split at hv
    · rename_i hnull
      cases hv
      have hnone : v.obj? = none := by cases v <;> simp_all [Json.isNull, Json.obj?]
      simp [ih, hnone]
    · obtain ⟨w, hnode, rfl⟩ := map_eq_ok.1 hv
      obtain ⟨m, hm, rfl⟩ := checked_eq_ok hnode
      dsimp only at hm
      simp [ih, hm, Json.obj?]

theorem yields_text (name : String) : Yields o (fun _ => []) [] [] ((checking o ty).text name) := by
  intro s _
  rfl

theorem yields_functionShape :
    Yields o (fun fn => fn.id.toList ++ fn.params ++ [fn.body]) [] ["id", "params", "body"]
      (checking o ty).functionShape := by
  refine Yields.bind (yields_optional "id") fun id => ?_
  refine Yields.bind (yields_nodes "params") fun params => ?_
  refine Yields.bind (yields_child "body") fun body => ?_
  exact Yields.pure (by simp)

theorem yields_classShape :
    Yields o (fun cls => cls.id.toList ++ cls.superClass.toList ++ [cls.body]) []
      ["id", "superClass", "body"] (checking o ty).classShape := by
  refine Yields.bind (yields_optional "id") fun id => ?_
  refine Yields.bind (yields_optional "superClass") fun superClass => ?_
  refine Yields.bind (yields_child "body") fun body => ?_
  exact Yields.pure (by simp)

theorem yields_sharedPair (t : Text) (first second : String) :
    Yields o (fun p => p.1 :: p.2.toList) []
      ([first] ++ if samePlace t o first second then [] else [second])
      ((checking o ty).sharedPair t first second) := by
  intro p hp
  obtain ⟨a, ha, hp⟩ := bind_eq_ok.1 hp
  obtain ⟨v, hv, hp⟩ := bind_eq_ok.1 hp
  obtain ⟨w, hw, hp⟩ := bind_eq_ok.1 hp
  change field o ty first = .ok v at hv
  change field o ty second = .ok w at hw
  obtain ⟨m, hm, rfl⟩ := child_eq_ok ha
  obtain rfl : v = .obj m := by simpa [hm] using (field_eq_ok hv).symm
  have hplace : samePlace t o first second =
      ((span? t m).isSome && span? t m == w.obj?.bind (span? t)) := by
    simp [samePlace, hm, field_eq_ok hw, Json.obj?]
  rw [hplace]
  change (if (span? t m).isSome && span? t m == w.obj?.bind (span? t) then _ else _) = _ at hp
  split at hp
  · rename_i hsame
    cases hp
    simp [hsame, cellsUnder, hm, objectCells]
  · rename_i hapart
    obtain ⟨b, hnode, hp⟩ := bind_eq_ok.1 hp
    obtain ⟨m', rfl, rfl⟩ := checked_eq_ok hnode
    cases hp
    rw [if_neg hapart]
    simp [cellsUnder, hm, field_eq_ok hw, objectCells]

theorem yields_key : Yields o Option.toList [] (if flag o "shorthand" then [] else ["key"])
    (checking o ty).key := by
  intro k hk
  unfold Reading.key at hk
  split at hk
  · rename_i hshorthand
    change flag o "shorthand" = true at hshorthand
    cases hk
    simp [hshorthand]
  · rename_i hlong
    change ¬flag o "shorthand" = true at hlong
    obtain ⟨c, hc, rfl⟩ := map_eq_ok.1 hk
    rw [if_neg hlong]
    exact yields_child "key" c hc

/-- A node of a known type has the objects under the members it reads as its children. -/
theorem yields_kind (t : Text) (o : Object) (ty : String) :
    (readFields t o ty = none ∧ cells t o ty = .ok (.other ty (typedCells o))) ∨
      ∃ names, readFields t o ty = some names ∧
        Yields o NodeKind.inReadingOrder [] names (cells t o ty) := by
  unfold cells Reading.kind
  dsimp only
  split
  all_goals first
    | right
      apply Exists.intro
      constructor
      rotate_left
      · repeat' first
          | with_reducible apply Yields.bind (yields_child ..); intro _
          | with_reducible apply Yields.bind (yields_nodes ..); intro _
          | with_reducible apply Yields.bind (yields_optional ..); intro _
          | with_reducible apply Yields.bind (yields_holes ..); intro _
          | with_reducible apply Yields.bind (yields_text ..); intro _
          | with_reducible apply Yields.bind (yields_sharedPair ..); intro _
          | with_reducible apply Yields.bind (yields_functionShape ..); intro _
          | with_reducible apply Yields.bind (yields_classShape ..); intro _
          | with_reducible apply Yields.bind (yields_key ..); intro _
          | with_reducible apply Yields.pure
        simp only [NodeKind.inReadingOrder_eq, NodeKind.traverse, FunctionShape.traverse,
          ClassShape.traverse, NodeKind.run_mapM_note, NodeKind.run_optionMapM_note,
          NodeKind.run_holes_note, NodeKind.run_note, NodeKind.run_pure_note,
          NodeKind.run_bind_note, List.append_nil, List.reverse_append, List.reverse_reverse,
          List.reverse_cons, List.reverse_nil, List.nil_append, List.cons_append, id_eq,
          List.append_assoc]
      · first
          | rfl
          | simpa using readFields_pair rfl rfl (by decide)
    | refine .inl ⟨?_, ?_⟩
      · unfold readFields childFields
        split
        all_goals first
          | rfl
          | contradiction
      · rw [mapM_checked_typedCells]
        rfl

theorem cells_of_known {t : Text} {o : Object} {ty : String} {k : NodeKind Cell}
    {names : List String} (h : cells t o ty = .ok k) (hty : childFields ty = some names) :
    k.inReadingOrder =
      (names.filter fun name => repeatedField? t o ty ≠ some name).flatMap (cellsUnder o) := by
  rcases yields_kind t o ty with ⟨hnone, -⟩ | ⟨names', hnames, hyields⟩
  · rw [readFields, hty] at hnone
    cases hnone
  · rw [readFields, hty, Option.map_some, Option.some.injEq] at hnames
    rw [hyields k h, ← hnames, List.nil_append]

theorem cells_of_unknown {t : Text} {o : Object} {ty : String} {k : NodeKind Cell}
    (h : cells t o ty = .ok k) (hty : childFields ty = none) :
    k.inReadingOrder = typedCells o := by
  rcases yields_kind t o ty with ⟨-, hkind⟩ | ⟨names, hnames, -⟩
  · rw [hkind, Except.ok.injEq] at h
    rw [← h, NodeKind.inReadingOrder_other]
  · rw [readFields, hty] at hnames
    cases hnames

theorem kind_eq_ok {t : Text} {o : Object} {ty : String} {k : NodeKind Json} :
    kind t o ty = .ok k ↔ ∃ k', cells t o ty = .ok k' ∧ k'.map Cell.value = k :=
  map_eq_ok

theorem children_of_known {t : Text} {o : Object} {ty : String} {k : NodeKind Json}
    {names : List String} (h : kind t o ty = .ok k) (hty : childFields ty = some names) :
    k.inReadingOrder = ((names.filter fun name => repeatedField? t o ty ≠ some name).flatMap
      (objectsUnder o)).map .obj := by
  obtain ⟨k', hk', rfl⟩ := kind_eq_ok.1 h
  rw [NodeKind.inReadingOrder_map, cells_of_known hk' hty, List.map_flatMap, List.map_flatMap]
  simp only [map_value_cellsUnder]

theorem children_of_unknown {t : Text} {o : Object} {ty : String} {k : NodeKind Json}
    (h : kind t o ty = .ok k) (hty : childFields ty = none) :
    k.inReadingOrder = typedMembers o := by
  obtain ⟨k', hk', rfl⟩ := kind_eq_ok.1 h
  rw [NodeKind.inReadingOrder_map, cells_of_unknown hk' hty, map_value_typedCells]

end ScriptLint.Document
