import ScriptLint.Proofs.IndexPaths
import ScriptLint.Proofs.StringLiterals

/-! Specifiers as rules write them. The name of a directory is put between the quotes of the literal as
it is, so the literal that is written denotes the directory exactly if its name needs no escapes. -/
namespace ScriptLint

open StringLiteral (read? codeUnits Plain)

def Patch.Writes (patch : Patch) (span : Span) (value : Text) : Prop :=
  ∃ e, patch = .single e ∧ e.span = span ∧ read? e.replacement.toList = some (codeUnits value, [])

theorem Patch.writes_single_iff {e : Edit} {value : Text} :
    (Patch.single e).Writes e.span value ↔
      read? e.replacement.toList = some (codeUnits value, []) := by
  constructor
  · rintro ⟨e', he, -, hread⟩
    cases he
    exact hread
  · exact fun hread => ⟨e, rfl, rfl, hread⟩

/-- Replacing the value of a literal works out exactly if the value can stand between the quotes of the
literal as it is. -/
theorem Source.writes_replaceString_iff {s : Source} {literal : NodeId} {us : List Nat}
    (hread : read? (s.nodeText literal) = some (us, [])) {quote : Char}
    (hquote : (s.nodeText literal).head? = some quote) (value : Text) :
    (s.replaceString literal value).Writes (s.tree.span literal) value ↔ Plain quote value := by
  obtain ⟨_, hhead, hmark⟩ := StringLiteral.exists_quote_of_read? hread
  obtain rfl := Option.some.inj (hhead.symm.trans hquote)
  rw [replaceString, hquote, Option.getD_some]
  refine Patch.writes_single_iff.trans ?_
  rw [String.toList_ofList]
  exact StringLiteral.read?_quoted_iff hmark value

/-- The name under which a request should ask for its module: without the index module in a directory,
or by the nearest directory with an index module. -/
inductive SourceFile.Renames (files : FileSystem) (f : SourceFile) (request : ModuleRequest) :
    Text → Prop where
  | directory {value : Text} : indexDirectory? request.specifier.toList = some value →
      Renames files f request value
  | nearest {index : Path} :
      NearestIndexImport.nearestIndex? files (NearestIndexImport.target f request)
        (NearestIndexImport.shared f (NearestIndexImport.target f request)) = some index →
      Renames files f request
        (NearestIndexImport.replacement f (NearestIndexImport.target f request) index)

variable {files : FileSystem} {f : SourceFile}

theorem IndexImportPath.exists_of_checkNode {id : NodeId} {x : Finding}
    (h : checkNode files f id = some x) :
    ∃ request value, f.tree.moduleRequest? id = some request ∧
      indexDirectory? request.specifier.toList = some value ∧
      x.fix = some (.safe (f.replaceString request.literal value)
        s!"Import \"{String.ofList value}\".") := by
  simp only [checkNode, Option.bind_eq_bind, Option.bind_eq_some_iff] at h
  obtain ⟨request, hrequest, value, hvalue, h⟩ := h
  split at h
  · cases h
  · split at h
    · cases h
    · cases h
      exact ⟨request, value, hrequest, hvalue, rfl⟩

/-- Whatever an import should name instead, the fix replaces the value of its literal by it, and what is
written denotes that name exactly if the name holds neither the quote of the literal nor a backslash
nor the end of a line. -/
theorem writes_iff_of_mem_check {x : Finding}
    (hx : x ∈ IndexImportPath.check () files f ∨ x ∈ NearestIndexImport.check () files f) :
    ∃ request value fix, (∃ id, f.tree.moduleRequest? id = some request) ∧
      f.Renames files request value ∧ x.fix = some fix ∧
      fix.description = s!"Import \"{String.ofList value}\"." ∧
      fix.patch = f.replaceString request.literal value ∧
      ∀ quote us, (f.nodeText request.literal).head? = some quote →
        read? (f.nodeText request.literal) = some (us, []) →
        (fix.patch.Writes (f.tree.span request.literal) value ↔ Plain quote value) := by
  rcases hx with hx | hx
  · obtain ⟨id, -, hx⟩ := List.mem_filterMap.1 hx
    obtain ⟨request, value, hrequest, hvalue, hfix⟩ := IndexImportPath.exists_of_checkNode hx
    exact ⟨request, value, _, ⟨id, hrequest⟩, .directory hvalue, hfix, rfl, rfl,
      fun quote us hquote hread => f.writes_replaceString_iff hread hquote value⟩
  · obtain ⟨id, -, hx⟩ := List.mem_filterMap.1 hx
    obtain ⟨request, index, isSafe, hrequest, -, -, hindex, hfix⟩ :=
      NearestIndexImport.exists_of_checkNode hx
    exact ⟨request, _, _, ⟨id, hrequest⟩, .nearest hindex, hfix, rfl, rfl,
      fun quote us hquote hread => f.writes_replaceString_iff hread hquote _⟩

/-! A directory with a quote in its name, imported through either quote. -/

def quotedDocument (stop : Nat) : Json := .obj [
  ("body", .arr [.obj [("range", .arr [.nat 0, .nat (stop + 1)]),
    ("source", .obj [("range", .arr [.nat 7, .nat stop]), ("type", .str "Literal"),
      ("value", .str "./it's/index")]),
    ("specifiers", .arr []), ("type", .str "ImportDeclaration")]]),
  ("sourceType", .str "module"), ("type", .str "Program")]

def quotedSource (literal : Text) (stop : Nat) : Source where
  path := "a.js"
  text := "import ".toList ++ literal ++ [';']
  tree :=
    { nodes := #[⟨.literal (.string "./it's/index") "", ⟨7, stop⟩⟩,
        ⟨.importDeclaration [] 0, ⟨0, stop + 1⟩⟩, ⟨.program [1] .esModule, ⟨0, stop + 1⟩⟩]
      children := #[[], [0], [1]]
      parents := #[some 1, some 2, none]
      root := 2 }
  tokens := ⟨#[], #[]⟩

def doubleQuotedSource : Source := quotedSource "\"./it's/index\"".toList 21

def singleQuotedSource : Source := quotedSource "'./it\\'s/index'".toList 22

def quotedFiles : FileSystem := (MemoryFiles.empty.add (.ofString "it's/index.js") "").access

def quotedFinding (stop : Nat) (quote : String) : Finding where
  span := ⟨7, stop⟩
  message := "Import \"./it's\" instead of \"./it's/index\"."
  fix := some (.safe (.single ⟨⟨7, stop⟩, s!"{quote}./it's{quote}"⟩) "Import \"./it's\".")

theorem ofDocument_quoted {literal : Text} {stop : Nat}
    (hnodes : Loader.load (quotedSource literal stop).text (quotedDocument stop) =
      .ok (quotedSource literal stop).tree.nodes)
    (htree : Tree.ofNodes (quotedSource literal stop).tree.nodes 2 =
      .ok (quotedSource literal stop).tree) :
    Source.ofDocument "a.js" (quotedSource literal stop).text (quotedDocument stop) =
      .ok (quotedSource literal stop) := by
  have htokens : TokenIndex.ofList
      (Loader.tokens (quotedSource literal stop).text (quotedDocument stop)) =
        (quotedSource literal stop).tokens := by cbv
  rw [Source.ofDocument_eq "a.js" hnodes htree, htokens]
  rfl

theorem ofDocument_doubleQuoted :
    Source.ofDocument "a.js" doubleQuotedSource.text (quotedDocument 21) =
      .ok doubleQuotedSource :=
  ofDocument_quoted (by decide) (by cbv)

theorem ofDocument_singleQuoted :
    Source.ofDocument "a.js" singleQuotedSource.text (quotedDocument 22) =
      .ok singleQuotedSource :=
  ofDocument_quoted (by decide) (by cbv)

theorem moduleRequest?_quoted {literal : Text} {stop id : Nat} {request : ModuleRequest}
    (h : (quotedSource literal stop).tree.moduleRequest? id = some request) :
    request = ⟨1, 0, "./it's/index"⟩ := by
  match id with
  | 0 | 2 | _ + 3 => cases h
  | 1 => exact (Option.some.inj h).symm

theorem writes_iff_of_mem_check_quoted :
    Source.ofDocument "a.js" doubleQuotedSource.text (quotedDocument 21) =
        .ok doubleQuotedSource ∧
      quotedFinding 21 "\"" ∈ IndexImportPath.check () quotedFiles (.ofSource doubleQuotedSource) ∧
      read? (doubleQuotedSource.nodeText 0) = some (codeUnits "./it's/index".toList, []) ∧
      (Patch.single ⟨⟨7, 21⟩, "\"./it's\""⟩).Writes ⟨7, 21⟩ "./it's".toList := by
  have hx : quotedFinding 21 "\"" ∈
      IndexImportPath.check () quotedFiles (.ofSource doubleQuotedSource) := by decide
  have hread : read? (doubleQuotedSource.nodeText 0) =
      some (codeUnits "./it's/index".toList, []) := by decide +kernel
  obtain ⟨request, value, fix, ⟨id, hrequest⟩, hvalue, hfix, -, hpatch, hiff⟩ :=
    writes_iff_of_mem_check (.inl hx)
  cases hfix
  obtain rfl := moduleRequest?_quoted hrequest
  have hname : value = "./it's".toList := by
    cases hvalue with
    | directory h => exact Option.some.inj (h.symm.trans (by decide))
    | @nearest index h =>
      obtain rfl : index = .ofString "it's" := Option.some.inj (h.symm.trans (by decide))
      decide
  subst hname
  exact ⟨ofDocument_doubleQuoted, hx, hread,
    (hiff '\x22' _ (by decide) hread).2 (by decide)⟩

theorem not_writes_singleQuoted :
    Source.ofDocument "a.js" singleQuotedSource.text (quotedDocument 22) =
        .ok singleQuotedSource ∧
      quotedFinding 22 "'" ∈ IndexImportPath.check () quotedFiles (.ofSource singleQuotedSource) ∧
      read? (singleQuotedSource.nodeText 0) = some (codeUnits "./it's/index".toList, []) ∧
      ¬(Patch.single ⟨⟨7, 22⟩, "'./it's'"⟩).Writes ⟨7, 22⟩ "./it's".toList := by
  refine ⟨ofDocument_singleQuoted, by decide +kernel, by decide +kernel, fun h => ?_⟩
  have hread := Patch.writes_single_iff.1 h
  exact absurd hread (by decide +kernel)

end ScriptLint
