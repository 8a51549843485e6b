import Mathlib.Data.Prod.Lex
import Mathlib.Data.String.Basic
import JlensEvolve.Contracts
import JlensEvolve.Library.Effect
import JlensEvolve.Library.KeyedSort
import JlensEvolve.Library.Splice
import JlensEvolve.Library.TextLines

/-!
`span_rewrite.py`: a plan names the texts it replaces, each of which has to
occur once in the source, and the replacements are made from the right.
-/

namespace JlensEvolve.SkillLoop.SpanRewrite

open Library Contracts

def languageExtensions : List (String × List String) :=
  [("c", [".c", ".h"]), ("c++", [".cc", ".cpp", ".cxx", ".h", ".hh", ".hpp"]), ("go", [".go"]),
    ("java", [".java"]), ("javascript", [".js", ".jsx", ".mjs", ".cjs"]), ("php", [".php"]),
    ("ruby", [".rb"]), ("rust", [".rs"]), ("typescript", [".ts", ".tsx", ".mts", ".cts"])]

def allowedExtensions : List String := languageExtensions.flatMap Prod.snd

def maxOperations : Nat := 4

def maxBundleFiles : Nat := 2

def maxSpanCombinedChars : Nat := 600

def maxSpanLines : Nat := 80

/-- `text.lower()`. No text that is compared with the result holds a letter that another
script lowers to. -/
def lower (text : String) : String := String.ofList (text.toList.map Char.toLower)

/-- `Path(file).parts`, for a path that is not absolute. -/
def pathParts (file : String) : List String :=
  ((file.toList.splitOn '/').map String.ofList).filter fun part => part ≠ "" ∧ part ≠ "."

def isAbsolute (file : String) : Bool := file.toList.head? == some '/'

/-- `Path(file).name`. -/
def pathName (file : String) : String := (pathParts file).getLastD ""

/-- `Path(file).suffix`. -/
def pathSuffix (file : String) : String :=
  let name := (pathName file).toList
  let last := name.length - (name.reverse.takeWhile fun c => c ≠ '.').length - 1
  if '.' ∈ name ∧ 0 < last ∧ last < name.length - 1 then String.ofList (name.drop last) else ""

def isTestPath (file : String) : Bool :=
  let name := lower (pathName file)
  ((pathParts file).any fun part => lower part ∈ ["test", "tests", "__tests__"]) ||
    "test_".toList <+: name.toList || contains name ".test." || contains name ".spec."

structure SpanEditIntent where
  defect : String
  trigger : String
  desiredBoundary : String
deriving DecidableEq

def SpanEditIntent.validate (intent : SpanEditIntent) : Except String Unit :=
  require (isText intent.defect = true ∧ isText intent.trigger = true ∧
    isText intent.desiredBoundary = true) "span edit intent fields must be non-empty"

structure SpanOperation where
  before : String
  after : String
deriving DecidableEq

/-- `len(value.splitlines())`. -/
def lineCount (value : String) : Nat :=
  (TextLines.splitKeep isLineBoundary value.toList).length

def SpanOperation.validate (operation : SpanOperation) : Except String Unit := do
  require (operation.before ≠ "") "span operation before field must be non-empty"
  require (operation.before ≠ operation.after) "span operation must change source"
  require (operation.before.length + operation.after.length ≤ maxSpanCombinedChars)
    "span operation exceeds 600 characters"
  require (lineCount operation.before ≤ maxSpanLines ∧ lineCount operation.after ≤ maxSpanLines)
    "span operation exceeds its bounded size"

structure SpanPlan where
  schemaVersion : Int
  file : String
  intent : SpanEditIntent
  operations : List SpanOperation
  diagnostic : String
deriving DecidableEq

namespace SpanPlan

variable (plan : SpanPlan)

def validate : Except String Unit := do
  require (plan.schemaVersion = 1) "unsupported span plan schema"
  require (isAbsolute plan.file = false ∧ pathParts plan.file ≠ [] ∧ ".." ∉ pathParts plan.file ∧
      lower (pathSuffix plan.file) ∈ allowedExtensions ∧ isTestPath plan.file = false)
    "span plan target is not an allowlisted source path"
  plan.intent.validate
  require (1 ≤ plan.operations.length ∧ plan.operations.length ≤ maxOperations)
    "span plan requires one to four operations"
  plan.operations.forM SpanOperation.validate
  require (isText plan.diagnostic = true) "span plan diagnostic must be non-empty"

def toJson : Json :=
  .obj [("schema_version", .int plan.schemaVersion), ("file", .str plan.file),
    ("intent", .obj [("defect", .str plan.intent.defect), ("trigger", .str plan.intent.trigger),
      ("desired_boundary", .str plan.intent.desiredBoundary)]),
    ("operations", .arr (plan.operations.map fun operation =>
      .obj [("before", .str operation.before), ("after", .str operation.after)])),
    ("diagnostic", .str plan.diagnostic)]

def fingerprint : String := plan.toJson.contentSha256

end SpanPlan

structure SpanBundlePlan where
  schemaVersion : Int
  plans : List SpanPlan
  diagnostic : String
deriving DecidableEq

namespace SpanBundlePlan

variable (bundle : SpanBundlePlan)

def validate : Except String Unit := do
  require (bundle.schemaVersion = 1) "unsupported span bundle schema"
  require (1 ≤ bundle.plans.length ∧ bundle.plans.length ≤ maxBundleFiles)
    "span bundle requires one or two files"
  require (bundle.plans.map SpanPlan.file).Nodup "span bundle file targets must be unique"
  bundle.plans.forM SpanPlan.validate
  require (isText bundle.diagnostic = true) "span bundle diagnostic must be non-empty"

def fingerprint : String :=
  (Json.obj [("schema_version", .int bundle.schemaVersion),
    ("plans", .arr (bundle.plans.map SpanPlan.toJson)),
    ("diagnostic", .str bundle.diagnostic)]).contentSha256

end SpanBundlePlan

/-- `source.find(selector, start)`. -/
def find (source selector : List Char) (start : Nat) : Option Nat :=
  (List.range' start (source.length + 1 - start)).find? fun offset =>
    selector <+: source.drop offset

theorem find_bounds {source selector : List Char} {start found : Nat}
    (h : find source selector start = some found) : start ≤ found ∧ found ≤ source.length := by
  have hmem := List.mem_of_find?_eq_some h
  rw [List.mem_range'_1] at hmem
  omega

/-- The loop of `_match_offsets` from an offset on. -/
def matchOffsetsFrom (source selector : List Char) (start : Nat) : List Nat :=
  match h : find source selector start with
  | none => []
  | some found => found :: matchOffsetsFrom source selector (found + 1)
termination_by source.length + 1 - start
decreasing_by
  have hbounds := find_bounds h
  omega

def matchOffsets (source selector : List Char) : List Nat := matchOffsetsFrom source selector 0

structure SpanMaterializationResult where
  before : String
  after : String
  accepted : Bool
  gates : List (String × Bool)
  planFingerprint : String
deriving DecidableEq

/-- One turn of the loop over the operations. -/
def resolveSpan (source : List Char) (operation : SpanOperation) :
    Except String (Splice.Edit Char) :=
  match matchOffsets source operation.before.toList with
  | [start] => .ok ⟨start, start + operation.before.length, operation.after.toList⟩
  | offsets => .error ("span selector must match exactly once; matches=" ++
      toString offsets.length)

/-- `(row.start, row.end)`. -/
def spanKey (edit : Splice.Edit Char) : Nat ×ₗ Nat := toLex (edit.start, edit.stop)

/-- The check of each span and the next one. -/
def checkNeighbours (ordered : List (Splice.Edit Char)) : Except String Unit :=
  (ordered.zip ordered.tail).forM fun pair =>
    require (pair.1.stop ≤ pair.2.start) "span operations overlap"

/-- `after.encode("utf-8").decode("utf-8") == after`. -/
def utf8Roundtrip (after : String) : Bool := String.fromUTF8? after.toUTF8 == some after

def gates (source after : String) : List (String × Bool) :=
  [("selectors_unique", true), ("non_overlapping", true), ("bounded_change", true),
    ("non_copy", after ≠ source), ("utf8_roundtrip", utf8Roundtrip after)]

def materializeSpanPlan (source : String) (plan : SpanPlan) :
    Except String SpanMaterializationResult := do
  plan.validate
  let resolved ← plan.operations.mapM (resolveSpan source.toList)
  let ordered := KeyedSort.sortBy spanKey resolved
  checkNeighbours ordered
  let after := String.ofList (Splice.fromRight source.toList ordered)
  require ((gates source after).all fun gate => gate.2)
    "span materialization gate rejected the plan"
  return ⟨source, after, true, gates source after, plan.fingerprint⟩

structure SpanBundleMaterializationResult where
  results : List (String × SpanMaterializationResult)
  accepted : Bool
  bundleFingerprint : String
deriving DecidableEq

/-- One turn of the loop over the plans of a bundle. -/
def materializeFile (sources : Dict String String) (plan : SpanPlan) :
    Except String (String × SpanMaterializationResult) := do
  match sources.get? plan.file with
  | none => .error ("span bundle source is unavailable: " ++ plan.file)
  | some source => do
    let result ← materializeSpanPlan source plan
    return (plan.file, result)

def materializeSpanBundle (sources : Dict String String) (bundle : SpanBundlePlan) :
    Except String SpanBundleMaterializationResult := do
  bundle.validate
  let results ← bundle.plans.mapM (materializeFile sources)
  require (results.length = bundle.plans.length ∧
    (results.all fun result => result.2.accepted) = true)
    "span bundle materialization was not atomic"
  return ⟨results, true, bundle.fingerprint⟩

end JlensEvolve.SkillLoop.SpanRewrite
