import JlensEvolve.Library.Splice
import JlensEvolve.Library.TextLines

/-!
The unified diff of one file. A line ends at a newline character and nowhere
else; a line of the file without one is marked by a line of its own. The header
of a hunk says on which lines it stands in both versions and how many lines of
each it shows, and it is applied there and nowhere else.
-/

namespace JlensEvolve.Library.UnifiedDiff

variable {α : Type}

inductive Mark where
  | context
  | removed
  | added
deriving DecidableEq

def Mark.char : Mark → Char
  | .context => ' '
  | .removed => '-'
  | .added => '+'

def oldLines (lines : List (Mark × α)) : List α :=
  (lines.filter fun line => line.1 ≠ .added).map Prod.snd

def newLines (lines : List (Mark × α)) : List α :=
  (lines.filter fun line => line.1 ≠ .removed).map Prod.snd

@[simp] theorem oldLines_append (first second : List (Mark × α)) :
    oldLines (first ++ second) = oldLines first ++ oldLines second := by
  simp [oldLines]

@[simp] theorem newLines_append (first second : List (Mark × α)) :
    newLines (first ++ second) = newLines first ++ newLines second := by
  simp [newLines]

structure Hunk (α : Type) where
  oldStart : Nat
  oldCount : Nat
  newStart : Nat
  newCount : Nat
  lines : List (Mark × α)
deriving DecidableEq

/-- How many lines precede the shown ones: an empty range names the line in front of it. -/
def position (start count : Nat) : Nat := if count = 0 then start else start - 1

/-- Where a range starts that so many lines precede. -/
def startAt (position count : Nat) : Nat := if count = 0 then position else position + 1

@[simp] theorem position_startAt (before count : Nat) :
    position (startAt before count) count = before := by
  unfold position startAt
  split <;> rfl

namespace Hunk

variable (hunk : Hunk α)

def oldPosition : Nat := position hunk.oldStart hunk.oldCount

def newPosition : Nat := position hunk.newStart hunk.newCount

/-- The lines of the old version give way to those of the new one. -/
def edit : Splice.Edit α :=
  ⟨hunk.oldPosition, hunk.oldPosition + (oldLines hunk.lines).length, newLines hunk.lines⟩

end Hunk

/-- Every hunk shows what the source has on the lines it names, and the lines it names in the
new version are those it gets to. -/
def Fits [DecidableEq α] (source : List α) : Nat → Nat → List (Hunk α) → Bool
  | _, _, [] => true
  | i, j, hunk :: rest =>
    decide (i ≤ hunk.oldPosition) && hunk.newPosition == j + (hunk.oldPosition - i) &&
      (oldLines hunk.lines).isPrefixOf (source.drop hunk.oldPosition) &&
      Fits source (hunk.oldPosition + (oldLines hunk.lines).length)
        (hunk.newPosition + (newLines hunk.lines).length) rest

def applyHunks [DecidableEq α] (source : List α) (hunks : List (Hunk α)) : Option (List α) :=
  if Fits source 0 0 hunks then some (Splice.allAtOnce source 0 (hunks.map Hunk.edit)) else none

def isLineFeed (c : Char) : Bool := c == '\n'

/-- The text of a line that a newline ends. -/
def terminated (line : List Char) : Option (List Char) :=
  if line.getLast? = some '\n' then some line.dropLast else none

/-- What follows the expected characters. -/
def expect (expected text : List Char) : Option (List Char) :=
  if expected <+: text then some (text.drop expected.length) else none

def readNat (text : List Char) : Option (Nat × List Char) :=
  if text.takeWhile Char.isDigit = [] then none
  else some (Nat.ofDigitChars 10 (text.takeWhile Char.isDigit) 0, text.dropWhile Char.isDigit)

/-- The count after the start of a range, which is one where it is left out. -/
def readCount : List Char → Option (Nat × List Char)
  | ',' :: text => readNat text
  | text => some (1, text)

/-- A range: its start, and its count. -/
def readRange (text : List Char) : Option ((Nat × Nat) × List Char) := do
  let (start, rest) ← readNat text
  let (count, rest) ← readCount rest
  if start = 0 ∧ count ≠ 0 then none else some ((start, count), rest)

/-- The line in front of the lines of a hunk. -/
def readHeader (line : List Char) : Option (Hunk (List Char)) := do
  let rest ← expect "@@ -".toList line
  let (old, rest) ← readRange rest
  let rest ← expect " +".toList rest
  let (new, rest) ← readRange rest
  let _ ← expect " @@".toList rest
  return ⟨old.1, old.2, new.1, new.2, []⟩

/-- The hunks read so far, the last first, and how many lines of each version the last one still
has to show. -/
structure Reading where
  hunks : List (Hunk (List Char))
  oldLeft : Nat
  newLeft : Nat

namespace Reading

variable (reading : Reading)

def openHunk (line : List Char) : Option Reading :=
  (readHeader line).map fun hunk => ⟨hunk :: reading.hunks, hunk.oldCount, hunk.newCount⟩

def addLine (mark : Mark) (text : List Char) : Option Reading :=
  match reading.hunks with
  | [] => none
  | hunk :: rest =>
    let old := if mark = .added then 0 else 1
    let new := if mark = .removed then 0 else 1
    if old ≤ reading.oldLeft ∧ new ≤ reading.newLeft then
      some ⟨{ hunk with lines := hunk.lines ++ [(mark, text ++ ['\n'])] } :: rest,
        reading.oldLeft - old, reading.newLeft - new⟩
    else none

/-- The line that says that the file has no newline there. -/
def dropNewline : Option Reading :=
  match reading.hunks with
  | [] => none
  | hunk :: rest =>
    match hunk.lines.getLast? with
    | none => none
    | some (mark, text) => do
      let bare ← terminated text
      return { reading with
        hunks := { hunk with lines := hunk.lines.dropLast ++ [(mark, bare)] } :: rest }

def readLine (line : List Char) : Option Reading :=
  match line with
  | '\\' :: _ => reading.dropNewline
  | '@' :: _ => if reading.oldLeft = 0 ∧ reading.newLeft = 0 then reading.openHunk line else none
  | ' ' :: text => reading.addLine .context text
  | '-' :: text => reading.addLine .removed text
  | '+' :: text => reading.addLine .added text
  | _ => none

end Reading

structure Diff where
  oldName : List Char
  newName : List Char
  hunks : List (Hunk (List Char))
deriving DecidableEq

/-- The diff after its lines are told apart. -/
def readLines : List (List Char) → Option Diff
  | old :: new :: rest => do
    let oldName ← expect "--- ".toList old
    let newName ← expect "+++ ".toList new
    let reading ← rest.foldlM Reading.readLine ⟨[], 0, 0⟩
    if reading.hunks ≠ [] ∧ reading.oldLeft = 0 ∧ reading.newLeft = 0 then
      some ⟨oldName, newName, reading.hunks.reverse⟩
    else none
  | _ => none

/-- A well-formed diff, read. -/
def read (patch : List Char) : Option Diff := do
  let lines ← (TextLines.splitKeep isLineFeed patch).mapM terminated
  readLines lines

def Diff.apply (diff : Diff) (text : List Char) : Option (List Char) :=
  (applyHunks (TextLines.splitKeep isLineFeed text) diff.hunks).map List.flatten

/-- A range, without its count where that is one. -/
def writeRange (start count : Nat) : List Char :=
  if count = 1 then Nat.toDigits 10 start
  else Nat.toDigits 10 start ++ ',' :: Nat.toDigits 10 count

def Hunk.header (hunk : Hunk α) : List Char :=
  "@@ -".toList ++ writeRange hunk.oldStart hunk.oldCount ++ " +".toList ++
    writeRange hunk.newStart hunk.newCount ++ " @@".toList

theorem Hunk.header_eq (hunk : Hunk α) : hunk.header =
    "@@ -".toList ++ writeRange hunk.oldStart hunk.oldCount ++ " +".toList ++
      writeRange hunk.newStart hunk.newCount ++ " @@".toList := rfl

def writeLine (line : Mark × List Char) : List Char := line.1.char :: line.2

/-- The lines of a hunk with their ends. -/
def Hunk.write (hunk : Hunk (List Char)) : List (List Char) :=
  (hunk.header ++ ['\n']) :: hunk.lines.map writeLine

theorem expect_append (expected rest : List Char) :
    expect expected (expected ++ rest) = some rest := by
  rw [expect, if_pos (List.prefix_append _ _), List.drop_left]

theorem readNat_append (n : Nat) {rest : List Char}
    (hrest : ∀ c ∈ rest.head?, c.isDigit = false) :
    readNat (Nat.toDigits 10 n ++ rest) = some (n, rest) := by
  have hdigits : ∀ c ∈ Nat.toDigits 10 n, c.isDigit = true := fun c hc =>
    Nat.isDigit_of_mem_toDigits (by omega) (by omega) hc
  have htake : rest.takeWhile Char.isDigit = [] := by
    cases rest with
    | nil => rfl
    | cons c others => rw [List.takeWhile_cons, hrest c rfl]; rfl
  have hdrop : rest.dropWhile Char.isDigit = rest := by
    cases rest with
    | nil => rfl
    | cons c others => rw [List.dropWhile_cons, hrest c rfl]; rfl
  unfold readNat
  rw [List.takeWhile_append_of_pos hdigits, List.dropWhile_append_of_pos hdigits, htake, hdrop,
    List.append_nil, if_neg Nat.toDigits_ne_nil, Nat.ofDigitChars_ten_toDigits]

theorem readCount_write {count : Nat} {rest : List Char}
    (hrest : ∀ c ∈ rest.head?, c.isDigit = false ∧ c ≠ ',') :
    readCount ((if count = 1 then [] else ',' :: Nat.toDigits 10 count) ++ rest) =
      some (count, rest) := by
  split
  · rename_i hone
    subst hone
    rw [List.nil_append]
    unfold readCount
    split
    · rename_i text
      exact absurd rfl (hrest ',' rfl).2
    · rfl
  · rw [List.cons_append, readCount]
    exact readNat_append count fun c hc => (hrest c hc).1

theorem readRange_write {start count : Nat} {rest : List Char} (hstart : start = 0 → count = 0)
    (hrest : ∀ c ∈ rest.head?, c.isDigit = false ∧ c ≠ ',') :
    readRange (writeRange start count ++ rest) = some ((start, count), rest) := by
  have hwrite : writeRange start count ++ rest = Nat.toDigits 10 start ++
      ((if count = 1 then [] else ',' :: Nat.toDigits 10 count) ++ rest) := by
    unfold writeRange
    split <;> simp
  have hhead : ∀ c ∈ ((if count = 1 then [] else ',' :: Nat.toDigits 10 count) ++ rest).head?,
      c.isDigit = false := by
    intro c hc
    split at hc
    · exact (hrest c hc).1
    · cases hc
      rfl
  have hvalid : ¬ (start = 0 ∧ count ≠ 0) := fun hbad => hbad.2 (hstart hbad.1)
  rw [hwrite, readRange, readNat_append start hhead]
  simp only [Option.bind_eq_bind, Option.bind_some, readCount_write hrest, if_neg hvalid]

/-- The counts of a hunk are those of its lines, and no line is number zero. -/
structure Counted (hunk : Hunk α) : Prop where
  old : hunk.oldCount = (oldLines hunk.lines).length
  new : hunk.newCount = (newLines hunk.lines).length
  oldStart : hunk.oldStart = 0 → hunk.oldCount = 0
  newStart : hunk.newStart = 0 → hunk.newCount = 0

theorem readHeader_header {hunk : Hunk (List Char)} (h : Counted hunk) :
    readHeader hunk.header = some { hunk with lines := [] } := by
  have hplus : ∀ c ∈ (" +".toList ++ (writeRange hunk.newStart hunk.newCount ++
      " @@".toList)).head?, c.isDigit = false ∧ c ≠ ',' := by
    intro c hc
    cases hc
    decide
  have hclose : ∀ c ∈ " @@".toList.head?, c.isDigit = false ∧ c ≠ ',' := by
    intro c hc
    cases hc
    decide
  have hheader : hunk.header = "@@ -".toList ++ (writeRange hunk.oldStart hunk.oldCount ++
      (" +".toList ++ (writeRange hunk.newStart hunk.newCount ++ " @@".toList))) := by
    rw [Hunk.header_eq]
    simp only [List.append_assoc]
  have hend : expect " @@".toList " @@".toList = some [] := by
    have happend := expect_append " @@".toList []
    rwa [List.append_nil] at happend
  rw [hheader, readHeader]
  simp only [expect_append, Option.bind_eq_bind, Option.bind_some,
    readRange_write h.oldStart hplus, readRange_write h.newStart hclose, hend]
  rfl

/-- A line of the format: a newline ends it, and there is none before. -/
def Whole (line : List Char) : Prop := ∃ text, '\n' ∉ text ∧ line = text ++ ['\n']

theorem splitKeep_whole {lines : List (List Char)} (h : ∀ line ∈ lines, Whole line)
    (rest : List Char) : TextLines.splitKeep isLineFeed (lines.flatten ++ rest) =
      lines ++ TextLines.splitKeep isLineFeed rest := by
  induction lines with
  | nil => rfl
  | cons line others ih =>
    obtain ⟨⟨text, hfree, rfl⟩, hothers⟩ := List.forall_mem_cons.mp h
    have htext : ∀ d ∈ text, isLineFeed d = false := by
      intro d hd
      rw [isLineFeed, beq_eq_false_iff_ne]
      rintro rfl
      exact hfree hd
    have hshape : ((text ++ ['\n']) :: others).flatten ++ rest =
        text ++ '\n' :: (others.flatten ++ rest) := by
      simp only [List.flatten_cons, List.append_assoc, List.cons_append, List.nil_append]
    rw [hshape, TextLines.splitKeep_line htext rfl, ih hothers]
    rfl

theorem mapM_terminated_of_ends {lines : List (List Char)}
    (h : ∀ line ∈ lines, line.getLast? = some '\n') :
    lines.mapM terminated = some (lines.map List.dropLast) := by
  induction lines with
  | nil => rfl
  | cons line rest ih =>
    obtain ⟨hline, hrest⟩ := List.forall_mem_cons.mp h
    rw [List.mapM_cons, terminated, if_pos hline, ih hrest]
    rfl

theorem Whole.getLast? {line : List Char} (h : Whole line) : line.getLast? = some '\n' := by
  obtain ⟨text, -, rfl⟩ := h
  exact List.getLast?_concat

theorem readLine_writeLine {line : Mark × List Char} (hwhole : Whole line.2)
    {hunk : Hunk (List Char)} {hunks : List (Hunk (List Char))} {old new : Nat} :
    Reading.readLine ⟨hunk :: hunks, (oldLines [line]).length + old,
        (newLines [line]).length + new⟩ (writeLine line).dropLast =
      some ⟨{ hunk with lines := hunk.lines ++ [line] } :: hunks, old, new⟩ := by
  obtain ⟨mark, text⟩ := line
  obtain ⟨bare, hfree, rfl⟩ := hwhole
  have hdrop : (writeLine (mark, bare ++ ['\n'])).dropLast = mark.char :: bare := by
    rw [writeLine, ← List.cons_append, List.dropLast_concat]
  rw [hdrop]
  cases mark <;> simp [Reading.readLine, Reading.addLine, Mark.char, oldLines, newLines]

theorem foldlM_lines {lines : List (Mark × List Char)} (hwhole : ∀ line ∈ lines, Whole line.2)
    (hunk : Hunk (List Char)) (hunks : List (Hunk (List Char))) (old new : Nat) :
    ((lines.map writeLine).map List.dropLast).foldlM Reading.readLine
        ⟨hunk :: hunks, (oldLines lines).length + old, (newLines lines).length + new⟩ =
      some ⟨{ hunk with lines := hunk.lines ++ lines } :: hunks, old, new⟩ := by
  induction lines generalizing hunk with
  | nil => simp [oldLines, newLines]
  | cons line rest ih =>
    obtain ⟨hline, hrest⟩ := List.forall_mem_cons.mp hwhole
    have hold : (oldLines (line :: rest)).length + old =
        (oldLines [line]).length + ((oldLines rest).length + old) := by
      rw [← List.singleton_append, oldLines_append, List.length_append, Nat.add_assoc]
    have hnew : (newLines (line :: rest)).length + new =
        (newLines [line]).length + ((newLines rest).length + new) := by
      rw [← List.singleton_append, newLines_append, List.length_append, Nat.add_assoc]
    rw [List.map_cons, List.map_cons, List.foldlM_cons, hold, hnew, readLine_writeLine hline]
    simp only [Option.bind_eq_bind, Option.bind_some, ih hrest, List.append_assoc,
      List.singleton_append]

theorem foldlM_hunks {hunks : List (Hunk (List Char))} (hcounted : ∀ hunk ∈ hunks, Counted hunk)
    (hwhole : ∀ hunk ∈ hunks, ∀ line ∈ hunk.lines, Whole line.2)
    (done : List (Hunk (List Char))) :
    ((hunks.flatMap Hunk.write).map List.dropLast).foldlM Reading.readLine ⟨done, 0, 0⟩ =
      some ⟨hunks.reverse ++ done, 0, 0⟩ := by
  induction hunks generalizing done with
  | nil => rfl
  | cons hunk rest ih =>
    obtain ⟨hcount, hcounts⟩ := List.forall_mem_cons.mp hcounted
    obtain ⟨hlines, hothers⟩ := List.forall_mem_cons.mp hwhole
    have hopen : Reading.readLine ⟨done, 0, 0⟩ (hunk.header ++ ['\n']).dropLast =
        some ⟨{ hunk with lines := [] } :: done, (oldLines hunk.lines).length + 0,
          (newLines hunk.lines).length + 0⟩ := by
      rw [List.dropLast_concat]
      have hat : ∃ tail, hunk.header = '@' :: tail := ⟨_, rfl⟩
      obtain ⟨tail, htail⟩ := hat
      have hread := readHeader_header hcount
      rw [htail] at hread ⊢
      simp only [Reading.readLine, Reading.openHunk, hread, and_self, if_true, Option.map_some,
        hcount.old, hcount.new, Nat.add_zero]
    rw [List.flatMap_cons, List.map_append, List.foldlM_append, Hunk.write, List.map_cons,
      List.foldlM_cons, hopen]
    simp only [Option.bind_eq_bind, Option.bind_some, foldlM_lines hlines, ih hcounts hothers,
      List.nil_append, List.reverse_cons, List.append_assoc, List.singleton_append]

/-- The lines of a diff with their ends. -/
def Diff.write (diff : Diff) : List (List Char) :=
  ("--- ".toList ++ diff.oldName ++ ['\n']) :: ("+++ ".toList ++ diff.newName ++ ['\n']) ::
    diff.hunks.flatMap Hunk.write

/-- A diff that can be written: names and lines have no newline inside, and the headers count the
lines. -/
structure Diff.Writable (diff : Diff) : Prop where
  oldName : '\n' ∉ diff.oldName
  newName : '\n' ∉ diff.newName
  hunks : diff.hunks ≠ []
  counted : ∀ hunk ∈ diff.hunks, Counted hunk
  whole : ∀ hunk ∈ diff.hunks, ∀ line ∈ hunk.lines, Whole line.2

theorem newline_notMem_digits (n : Nat) : '\n' ∉ Nat.toDigits 10 n := by
  intro hmem
  have hdigit := Nat.isDigit_of_mem_toDigits (by omega) (by omega) hmem
  exact absurd hdigit (by decide)

theorem newline_notMem_range (start count : Nat) : '\n' ∉ writeRange start count := by
  unfold writeRange
  split
  · exact newline_notMem_digits start
  · have hstart := newline_notMem_digits start
    have hcount := newline_notMem_digits count
    simp [hstart, hcount]

theorem Hunk.whole_header (hunk : Hunk α) : Whole (hunk.header ++ ['\n']) := by
  refine ⟨hunk.header, ?_, rfl⟩
  have hold := newline_notMem_range hunk.oldStart hunk.oldCount
  have hnew := newline_notMem_range hunk.newStart hunk.newCount
  rw [Hunk.header_eq]
  simp [hold, hnew]

theorem whole_writeLine {line : Mark × List Char} (h : Whole line.2) : Whole (writeLine line) := by
  obtain ⟨mark, text⟩ := line
  obtain ⟨bare, hfree, rfl⟩ := h
  refine ⟨mark.char :: bare, ?_, rfl⟩
  cases mark <;> simp [Mark.char, hfree]

theorem Diff.Writable.whole_write {diff : Diff} (h : diff.Writable) :
    ∀ line ∈ diff.write, Whole line := by
  have hold := h.oldName
  have hnew := h.newName
  refine List.forall_mem_cons.mpr ⟨⟨_, ?_, rfl⟩, List.forall_mem_cons.mpr ⟨⟨_, ?_, rfl⟩, ?_⟩⟩
  · simp [hold]
  · simp [hnew]
  · intro line hline
    obtain ⟨hunk, hhunk, hmem⟩ := List.mem_flatMap.mp hline
    obtain rfl | hlines := List.mem_cons.mp hmem
    · exact hunk.whole_header
    · obtain ⟨shown, hshown, rfl⟩ := List.mem_map.mp hlines
      exact whole_writeLine (h.whole hunk hhunk shown hshown)

theorem read_write {diff : Diff} (h : diff.Writable) : read diff.write.flatten = some diff := by
  have hsplit := splitKeep_whole h.whole_write []
  rw [List.append_nil] at hsplit
  have hends : ∀ line ∈ diff.write, line.getLast? = some '\n' := fun line hline =>
    (h.whole_write line hline).getLast?
  have hnonempty : diff.hunks.reverse ≠ [] := fun hnil => h.hunks (List.reverse_eq_nil_iff.mp hnil)
  have hold : expect "--- ".toList ("--- ".toList ++ diff.oldName) = some diff.oldName :=
    expect_append _ _
  have hnew : expect "+++ ".toList ("+++ ".toList ++ diff.newName) = some diff.newName :=
    expect_append _ _
  have hhunks := foldlM_hunks h.counted h.whole []
  rw [List.append_nil] at hhunks
  rw [read, hsplit, TextLines.splitKeep, List.append_nil, mapM_terminated_of_ends hends,
    Diff.write]
  simp only [List.map_cons, List.dropLast_concat, Option.bind_eq_bind, Option.bind_some, readLines,
    hold, hnew, hhunks, ne_eq, hnonempty, not_false_eq_true, and_self, if_true,
    List.reverse_reverse]

/-- Lines that stay unshown, and the shown ones behind them. -/
structure Change (α : Type) where
  gap : List α
  lines : List (Mark × α)

def oldText (changes : List (Change α)) : List α :=
  changes.flatMap fun change => change.gap ++ oldLines change.lines

def newText (changes : List (Change α)) : List α :=
  changes.flatMap fun change => change.gap ++ newLines change.lines

theorem oldText_cons (change : Change α) (rest : List (Change α)) :
    oldText (change :: rest) = change.gap ++ oldLines change.lines ++ oldText rest := rfl

theorem newText_cons (change : Change α) (rest : List (Change α)) :
    newText (change :: rest) = change.gap ++ newLines change.lines ++ newText rest := rfl

/-- The hunks of changes that stand one behind the other from a place of each version on. -/
def locate : Nat → Nat → List (Change α) → List (Hunk α)
  | _, _, [] => []
  | i, j, change :: rest =>
    ⟨startAt (i + change.gap.length) (oldLines change.lines).length,
      (oldLines change.lines).length,
      startAt (j + change.gap.length) (newLines change.lines).length,
      (newLines change.lines).length, change.lines⟩ ::
      locate (i + change.gap.length + (oldLines change.lines).length)
        (j + change.gap.length + (newLines change.lines).length) rest

theorem counted_locate (i j : Nat) (changes : List (Change α)) :
    ∀ hunk ∈ locate i j changes, Counted hunk := by
  have hstart : ∀ before count : Nat, startAt before count = 0 → count = 0 := by
    intro before count hzero
    unfold startAt at hzero
    split at hzero
    · assumption
    · omega
  induction changes generalizing i j with
  | nil => exact fun _ hmem => absurd hmem List.not_mem_nil
  | cons change rest ih =>
    exact List.forall_mem_cons.mpr ⟨⟨rfl, rfl, hstart _ _, hstart _ _⟩, ih _ _⟩

theorem lines_locate (i j : Nat) (changes : List (Change α)) :
    (locate i j changes).map Hunk.lines = changes.map Change.lines := by
  induction changes generalizing i j with
  | nil => rfl
  | cons change rest ih => rw [locate, List.map_cons, ih, List.map_cons]

theorem drop_add_of_drop {source first second : List α} {i : Nat}
    (h : source.drop i = first ++ second) : source.drop (i + first.length) = second := by
  rw [← List.drop_drop, h, List.drop_left]

section Apply

variable [DecidableEq α]

theorem locate_spec {source tail : List α} {changes : List (Change α)} {i j : Nat}
    (h : source.drop i = oldText changes ++ tail) :
    Fits source i j (locate i j changes) = true ∧
      Splice.allAtOnce source i ((locate i j changes).map Hunk.edit) =
        newText changes ++ tail := by
  induction changes generalizing i j with
  | nil => exact ⟨rfl, h⟩
  | cons change rest ih =>
    have hgap : source.drop i =
        change.gap ++ (oldLines change.lines ++ (oldText rest ++ tail)) := by
      rw [h, oldText_cons]
      simp only [List.append_assoc]
    have hlines := drop_add_of_drop hgap
    have hrest := drop_add_of_drop hlines
    obtain ⟨hfits, hsplice⟩ := ih (j := j + change.gap.length + (newLines change.lines).length)
      hrest
    have htake : (source.drop i).take (i + change.gap.length - i) = change.gap := by
      rw [Nat.add_sub_cancel_left, hgap, List.take_left]
    constructor
    · simp only [locate, Fits, Hunk.oldPosition, Hunk.newPosition, position_startAt, hlines,
        hfits, Bool.and_true, Bool.and_eq_true, decide_eq_true_eq, beq_iff_eq,
        List.isPrefixOf_iff_prefix]
      exact ⟨⟨Nat.le_add_right _ _, by omega⟩, List.prefix_append _ _⟩
    · rw [locate, List.map_cons, Splice.allAtOnce]
      simp only [Hunk.edit, Hunk.oldPosition, position_startAt, htake, hsplice]
      rw [newText_cons]
      simp only [List.append_assoc]

theorem applyHunks_locate (changes : List (Change α)) (tail : List α) :
    applyHunks (oldText changes ++ tail) (locate 0 0 changes) =
      some (newText changes ++ tail) := by
  have hsource : (oldText changes ++ tail).drop 0 = oldText changes ++ tail := rfl
  obtain ⟨hfits, hsplice⟩ := locate_spec (j := 0) hsource
  rw [applyHunks, hfits, if_pos rfl, hsplice]

end Apply

end JlensEvolve.Library.UnifiedDiff
