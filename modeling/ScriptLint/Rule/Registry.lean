import ScriptLint.Rule.CommentStyle
import ScriptLint.Rule.Concurrency
import ScriptLint.Rule.ExportName
import ScriptLint.Rule.ImportName
import ScriptLint.Rule.ImportShape
import ScriptLint.Rule.IndexImport
import ScriptLint.Rule.Ordering
import ScriptLint.Rule.Padding
import ScriptLint.Rule.TypeExports

/-! All rules. -/
namespace ScriptLint.Rule

def all : List Rule :=
  [ImportName.rule, ExportName.rule, ImportShape.rule, TypeExports.rule, IndexImportPath.rule,
    NearestIndexImport.rule, PaddingAroundMultiline.rule, BlockPadding.rule,
    NoBlankLinesInChain.rule, PropertyOrder.rule, ImportOrder.rule, CommentStyle.rule,
    Concurrency.rule]

def find? (key : String) : Option Rule :=
  all.find? fun r => r.info.name == key || r.info.id == key

end ScriptLint.Rule
