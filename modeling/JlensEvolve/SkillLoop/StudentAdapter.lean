import JlensEvolve.Evidence.Counterfactual
import JlensEvolve.Library.Difflib
import JlensEvolve.SkillLoop.SpanRewrite

/-!
`student_adapter.py`: a model answers with one edit of one file, the text it
searches for has to occur once, and the patch is what `difflib` finds between
the lines of the file before and after.
-/

namespace JlensEvolve.SkillLoop.SearchReplace

open Library Contracts Evidence

/-- `value.strip()`. -/
def strip (value : String) : String :=
  String.ofList ((value.toList.dropWhile isSpace).reverse.dropWhile isSpace).reverse

structure StructuredEdit where
  file : String
  search : String
  replace : String
  diagnostic : String
deriving DecidableEq

def StructuredEdit.validate (edit : StructuredEdit) : Except String Unit := do
  require (isText edit.file = true ∧ isText edit.search = true ∧ isText edit.diagnostic = true)
    "student edit fields must be non-empty"
  require (edit.search ≠ edit.replace) "student search and replacement are identical"

/-- `source.count(search)` from an offset on. -/
def countFrom (source search : List Char) (start : Nat) : Nat :=
  match h : SpanRewrite.find source search start with
  | none => 0
  | some found => 1 + countFrom source search (found + max 1 search.length)
termination_by source.length + 1 - start
decreasing_by
  have hbounds := SpanRewrite.find_bounds h
  omega

/-- `source.count(search)`. -/
def count (source search : String) : Nat := countFrom source.toList search.toList 0

/-- `source.replace(search, replacement, 1)`. -/
def replaceOnce (source search replacement : String) : String :=
  match SpanRewrite.find source.toList search.toList 0 with
  | none => source
  | some found => String.ofList (source.toList.take found ++ replacement.toList ++
      source.toList.drop (found + search.length))

/-- `source.splitlines(keepends=True)`. -/
def keepLines (source : String) : List (List Char) :=
  TextLines.splitKeep isLineBoundary source.toList

/-- `difflib.unified_diff` between the lines of the two texts. -/
def patchBetween (file before after : String) : String :=
  String.ofList (Difflib.unifiedDiff (keepLines before) (keepLines after)
    ("a/" ++ file).toList ("b/" ++ file).toList).flatten

/-- What the adapter finds outside itself: the targets it may edit, the file it reads, the check
of `git apply`, and the hash of a file's executable structure. -/
structure Checkout where
  allowed : List String
  readTarget : String → Except String String
  gitApplyCheck : String → Bool
  implementationFingerprint : String → String → Except String String

structure StudentAttempt where
  revisionId : String
  rawOutput : String
  rawOutputSha256 : String
  edit : Option StructuredEdit
  patch : String
  patchSha256 : Option String
  targetFile : Option String
  beforeSha256 : Option String
  afterSha256 : Option String
  implementationFingerprint : Option String
  structuralValid : Bool
  failureReason : Option String
  detail : String
deriving DecidableEq

/-- The answer of the model to one revision. -/
structure Answer where
  revisionId : String
  raw : String

def failure (answer : Answer) (reason detail : String) (edit : Option StructuredEdit)
    (patch : String) (targetFile beforeSha256 : Option String) : StudentAttempt where
  revisionId := answer.revisionId
  rawOutput := answer.raw
  rawOutputSha256 := sha256Text answer.raw
  edit := edit
  patch := patch
  patchSha256 := if patch = "" then none else some (sha256Text patch)
  targetFile := targetFile.orElse fun _ => edit.map StructuredEdit.file
  beforeSha256 := beforeSha256
  afterSha256 := none
  implementationFingerprint := none
  structuralValid := false
  failureReason := some reason
  detail := detail

def isTestPath (relative : String) : Bool := SpanRewrite.isTestPath relative

def classifyUnstructured (raw : String) : Option String :=
  let stripped := strip raw
  if stripped = "" then some "no-diff"
  else if contains stripped "\x60\x60\x60file" then some "full-file"
  else if contains stripped "--- a/" ∧ contains stripped "+++ b/" = false then some "bad-header"
  else if contains stripped "--- a/" ∧ contains stripped "@@" = false then some "malformed-hunk"
  else if contains stripped "\x7b" = false ∨ contains stripped "\x7d" = false then
    some "reasoning-only"
  else none

/-- The part of `run` that has read the edit and the file it names. -/
def apply (checkout : Checkout) (answer : Answer) (edit : StructuredEdit) (before : String) :
    Except String StudentAttempt :=
  let occurrences := count before edit.search
  if occurrences ≠ 1 then
    .ok (failure answer "apply-fail"
      ("search span must match exactly once; matches=" ++ toString occurrences) (some edit) ""
      none none)
  else
    let after := replaceOnce before edit.search edit.replace
    let patch := patchBetween edit.file before after
    if isText patch = false ∨ checkout.gitApplyCheck patch = false then
      .ok (failure answer "apply-fail" "constructed patch does not apply cleanly" (some edit) ""
        none none)
    else do
      let fingerprint ← checkout.implementationFingerprint edit.file after
      return {
        revisionId := answer.revisionId
        rawOutput := answer.raw
        rawOutputSha256 := sha256Text answer.raw
        edit := some edit
        patch := patch
        patchSha256 := some (sha256Text patch)
        targetFile := some edit.file
        beforeSha256 := some (sha256Text before)
        afterSha256 := some (sha256Text after)
        implementationFingerprint := some fingerprint
        structuralValid := true
        failureReason := none
        detail := edit.diagnostic }

/-- `StudentAdapter.run` on an answer, for what `StructuredEdit.from_model_output` makes of it. -/
def run (checkout : Checkout) (answer : Answer) (fromModelOutput : Except String StructuredEdit) :
    Except String StudentAttempt :=
  match classifyUnstructured answer.raw with
  | some preliminary => .ok (failure answer preliminary preliminary none "" none none)
  | none =>
    match fromModelOutput with
    | .error error => .ok (failure answer "malformed-hunk" error none "" none none)
    | .ok edit =>
      if edit.file ∉ checkout.allowed ∨ isTestPath edit.file = true then
        .ok (failure answer "wrong-target" ("target is not allowed: " ++ edit.file) (some edit) ""
          none none)
      else
        match checkout.readTarget edit.file with
        | .error error => .ok (failure answer "wrong-target" error (some edit) "" none none)
        | .ok before => apply checkout answer edit before

end JlensEvolve.SkillLoop.SearchReplace
