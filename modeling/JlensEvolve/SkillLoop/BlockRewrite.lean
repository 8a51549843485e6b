import JlensEvolve.Library.FinerLines
import JlensEvolve.Library.LineReaders
import JlensEvolve.SkillLoop.HunkExtraction
import JlensEvolve.SkillLoop.StudentAdapter
import JlensEvolve.SkillLoop.SymbolTree

/-!
`block_rewrite.py`: the student names a symbol and a range of lines inside it.
The range is compared with the line numbers of Python's parser, and the lines
are taken out of `splitlines`.
-/

namespace JlensEvolve.SkillLoop.BlockRewrite

open Library Contracts Evidence SearchReplace SymbolTree

structure LineBlockRewrite where
  file : String
  symbol : String
  startLine : Int
  endLine : Int
  replacement : String
  diagnostic : String
deriving DecidableEq

/-- `[A-Za-z_][A-Za-z0-9_]*`. -/
def isName : List Char → Bool
  | [] => false
  | c :: rest => (c.isAlpha || c == '_') && rest.all fun d => d.isAlphanum || d == '_'

/-- `_SYMBOL_NAME.fullmatch(symbol) is not None`. -/
def isSymbolName (symbol : String) : Bool := (symbol.toList.splitOn '.').all isName

def LineBlockRewrite.validate (rewrite : LineBlockRewrite) : Except String Unit := do
  require (isText rewrite.file = true ∧ isSymbolName rewrite.symbol = true ∧
    isText rewrite.replacement = true ∧ isText rewrite.diagnostic = true)
    "student line-block fields are invalid"
  require (1 ≤ rewrite.startLine ∧ rewrite.startLine ≤ rewrite.endLine)
    "student line-block range is invalid"

def isBlank (c : Char) : Bool := c == ' ' || c == '\t'

/-- The characters that both texts begin with. -/
def commonStart : List Char → List Char → List Char
  | c :: first, d :: second => if c = d then c :: commonStart first second else []
  | _, _ => []

def dedent (text : List Char) : List Char :=
  let lines := (text.splitOn '\n').map fun line => if line.all isBlank then [] else line
  let indents := (lines.filter (· ≠ [])).map fun line => line.takeWhile isBlank
  let margin := match indents with
    | [] => []
    | first :: others => others.foldl commonStart first
  ['\n'].intercalate (lines.map fun line => line.drop margin.length)

/-- `text.strip("\n")`. -/
def stripNewlines (text : List Char) : List Char :=
  (text.dropWhile (· = '\n')).rdropWhile (· = '\n')

/-- The lines of the replacement behind the indentation of the first line they replace. -/
def indented (indentation replacement : List Char) : List Char :=
  (HunkExtraction.splitLines (stripNewlines (dedent replacement) ++ ['\n'])).flatMap fun line =>
    if line = [] then ['\n'] else indentation ++ line ++ ['\n']

/-- What stands for the lines of the range, where `sourceLine` is the first of them. -/
def replacementText (rewrite : LineBlockRewrite) (sourceLine : List Char) : List Char :=
  indented (sourceLine.takeWhile isSpace) rewrite.replacement.toList

/-- The text with the range of lines replaced. -/
def edited (rewrite : LineBlockRewrite) (before : String) (sourceLine : List Char) : String :=
  String.ofList (((keepLines before).take (rewrite.startLine.toNat - 1)).flatten ++
    replacementText rewrite sourceLine ++
    ((keepLines before).drop rewrite.endLine.toNat).flatten)

/-- What `read_text` makes of the line ends of a file. -/
def universalNewlines : List Char → List Char
  | [] => []
  | c :: rest =>
    if c = '\r' then
      if rest.head? = some '\n' then universalNewlines rest else '\n' :: universalNewlines rest
    else c :: universalNewlines rest

/-- The lines as Python's parser counts them. -/
def parserLines (text : String) : List (List Char) := TextLines.splitKeep isNewline text.toList

theorem finer_isLineBoundary : TextLines.Finer isLineBoundary isNewline where
  newline := rfl
  ends := by
    intro c hc
    rw [isNewline, Bool.or_eq_true, beq_iff_eq, beq_iff_eq] at hc
    rcases hc with rfl | rfl <;> rfl

/-- `ast.parse`. The definitions that it finds lie within the lines of the text. -/
structure Parser where
  parse : String → Except String Body
  within : ∀ text module path node, parse text = .ok module → Leads module path node →
    node.endLineno ≤ (parserLines text).length

/-- The attempt for an edit that passes every check. -/
def accepted (answer : Answer) (rewrite : LineBlockRewrite) (before after fingerprint : String) :
    SearchReplace.StudentAttempt where
  revisionId := answer.revisionId
  rawOutput := answer.raw
  rawOutputSha256 := sha256Text answer.raw
  edit := none
  patch := patchBetween rewrite.file before after
  patchSha256 := some (sha256Text (patchBetween rewrite.file before after))
  targetFile := some rewrite.file
  beforeSha256 := some (sha256Text before)
  afterSha256 := some (sha256Text after)
  implementationFingerprint := some fingerprint
  structuralValid := true
  failureReason := none
  detail := rewrite.diagnostic

/-- The part of `run` that has read the file and parsed it. -/
def apply (parser : Parser) (checkout : Checkout) (answer : Answer) (rewrite : LineBlockRewrite)
    (before : String) (module : Body) : Except String SearchReplace.StudentAttempt :=
  let refuse := fun (detail patch : String) =>
    Except.ok (SearchReplace.failure answer "apply-fail" detail none patch (some rewrite.file)
      (some (sha256Text before)))
  match definition module (rewrite.symbol.toList.splitOn '.') with
  | none => refuse "line range must be inside the named symbol" ""
  | some symbol =>
    if rewrite.startLine < symbol.lineno ∨ rewrite.endLine > symbol.endLineno then
      refuse "line range must be inside the named symbol" ""
    else
      match (keepLines before)[rewrite.startLine.toNat - 1]? with
      | none => .error "list index out of range"
      | some sourceLine =>
        let after := edited rewrite before sourceLine
        if after = before then refuse "line-block replacement is identical to source" ""
        else
          match parser.parse after with
          | .error error => refuse ("line-block replacement breaks Python syntax: " ++ error) ""
          | .ok _ =>
            let patch := patchBetween rewrite.file before after
            if checkout.gitApplyCheck patch = false then
              refuse "constructed line-block patch does not apply cleanly" patch
            else do
              let fingerprint ← checkout.implementationFingerprint rewrite.file after
              return accepted answer rewrite before after fingerprint

def readSource (parser : Parser) (checkout : Checkout) (file : String) :
    Except String (String × Body) := do
  let text ← checkout.readTarget file
  let before := String.ofList (universalNewlines text.toList)
  let module ← parser.parse before
  return (before, module)

/-- `LineBlockRewriteAdapter.run` on an answer, for the fields that are decoded from it. Decoding
fails where a line number is no integer. -/
def run (parser : Parser) (checkout : Checkout) (answer : Answer)
    (fields : Except String LineBlockRewrite) : Except String SearchReplace.StudentAttempt :=
  match classifyUnstructured answer.raw with
  | some preliminary => .ok (SearchReplace.failure answer preliminary preliminary none "" none none)
  | none =>
    match fields.bind fun rewrite => rewrite.validate.map fun _ => rewrite with
    | .error error => .ok (SearchReplace.failure answer "malformed-hunk" error none "" none none)
    | .ok rewrite =>
      if rewrite.file ∉ checkout.allowed ∨ isTestPath rewrite.file = true ∨
          SpanRewrite.pathSuffix rewrite.file ≠ ".py" then
        .ok (SearchReplace.failure answer "wrong-target"
          ("target is not an allowed Python source: " ++ rewrite.file) none "" (some rewrite.file)
          none)
      else
        match readSource parser checkout rewrite.file with
        | .error error =>
          .ok (SearchReplace.failure answer "wrong-target" error none "" (some rewrite.file) none)
        | .ok (before, module) => apply parser checkout answer rewrite before module

end JlensEvolve.SkillLoop.BlockRewrite
