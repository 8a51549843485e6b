import Mathlib.Data.List.Infix
import JlensEvolve.Library.Json

/-!
The parts of `contracts.py` that the evidence and governance models share: the
text and digest checks, Python's `str` of a decoded value, and the receipt,
evidence and claim value objects with their constructor checks. A constructor
check is a Boolean here; what raises is the code that calls the constructor.
-/

namespace JlensEvolve.Contracts

open Library

/-- The characters `str.strip` removes: bidirectional types WS, B and S and
category Zs. -/
def isSpace (c : Char) : Bool :=
  let n := c.toNat
  (9 ≤ n && n ≤ 13) || (28 ≤ n && n ≤ 32) || n == 0x85 || n == 0xA0 || n == 0x1680 ||
    (0x2000 ≤ n && n ≤ 0x200A) || n == 0x2028 || n == 0x2029 || n == 0x202F ||
    n == 0x205F || n == 0x3000

/-- `isinstance(value, str) and value.strip()`, as `_require_text` asks. -/
def isText (value : String) : Bool := value.toList.any (fun c => !isSpace c)

theorem isText_append_left {first second : String} (h : isText first = true) :
    isText (first ++ second) = true := by
  simp only [isText, String.toList_append, List.any_append, Bool.or_eq_true] at *
  exact Or.inl h

/-- `_SHA256.fullmatch(value) is not None`. -/
def isSha256 (value : String) : Bool := Sha256.isSha256 value

/-- `payload.get(key)`: `None` when the key is absent or null. -/
def payloadGet (payload : List (String × Json)) (key : String) : Json :=
  (Json.field? payload key).getD .null

theorem payloadGet_cons (name key : String) (value : Json) (rest : List (String × Json)) :
    payloadGet ((name, value) :: rest) key =
      if name = key then value else payloadGet rest key := by
  unfold payloadGet
  rw [Json.field?_cons]
  split <;> rfl

@[simp] theorem payloadGet_nil (key : String) : payloadGet [] key = .null := rfl

/-- `repr` of a text: single quotes unless only they occur in it, and the
escapes of backslash, quotes and the common control characters. -/
def reprText (value : String) : String :=
  let quoteChar := if '\'' ∈ value.toList ∧ '"' ∉ value.toList then '"' else '\''
  let escape (c : Char) : String :=
    if c = '\\' then "\\\\"
    else if c = quoteChar then String.ofList ['\\', c]
    else if c = '\n' then "\\n"
    else if c = '\r' then "\\r"
    else if c = '\t' then "\\t"
    else if c.toNat < 32 ∨ c.toNat = 127 then "\\x" ++ String.ofList (Sha256.hexByte c.toNat)
    else String.ofList [c]
  String.ofList [quoteChar] ++ String.join (value.toList.map escape) ++ String.ofList [quoteChar]

mutual

/-- `repr(value)` of a decoded value. -/
def pyRepr : Json → String
  | .null => "None"
  | .bool value => if value then "True" else "False"
  | .int value => toString value
  | .float value => Json.floatRepr value
  | .str value => reprText value
  | .arr items => "[" ++ String.intercalate ", " (pyReprItems items) ++ "]"
  | .obj fields => "\x7b" ++ String.intercalate ", " (pyReprFields fields) ++ "\x7d"

def pyReprItems : List Json → List String
  | [] => []
  | item :: rest => pyRepr item :: pyReprItems rest

def pyReprFields : List (String × Json) → List String
  | [] => []
  | (key, value) :: rest => (reprText key ++ ": " ++ pyRepr value) :: pyReprFields rest

end

/-- `str(value)` of a decoded value. -/
def pyStr : Json → String
  | .str value => value
  | value => pyRepr value

/-- What `dict` takes as a key with its value; keys that are not texts are left
out here. -/
def pyPair : Json → Option (String × Json)
  | .arr [.str key, value] => some (key, value)
  | .obj [(key, _), (value, _)] => some (key, .str value)
  | .str text =>
    match text.toList with
    | [key, value] => some (String.ofList [key], .str (String.ofList [value]))
    | _ => none
  | _ => none

/-- `dict(value)`; `none` where it raises. -/
def pyDict : Json → Option (List (String × Json))
  | .obj fields => some fields
  | .arr items => (items.mapM pyPair).map fun pairs =>
    (pairs.foldl (fun (d : Dict String Json) pair => d.set pair.1 pair.2) Dict.empty).entries
  | .str "" => some []
  | _ => none

/-- `tuple(value)`; `none` where it raises. -/
def pyTuple : Json → Option (List Json)
  | .arr items => some items
  | .str text => some (text.toList.map fun c => .str (String.ofList [c]))
  | .obj fields => some (fields.map fun field => .str field.1)
  | _ => none

/-- `needle in haystack` on texts. -/
def contains (haystack needle : String) : Bool := needle.toList <:+: haystack.toList

theorem contains_trans {text middle part : String} (h : contains text middle = true)
    (hpart : contains middle part = true) : contains text part = true :=
  decide_eq_true ((of_decide_eq_true hpart).trans (of_decide_eq_true h))

theorem contains_append_right (before needle : String) :
    contains (before ++ needle) needle = true := by
  rw [contains, String.toList_append]
  exact decide_eq_true (List.suffix_append _ _).isInfix

theorem contains_append_left {before needle after : String} (h : contains before needle = true) :
    contains (before ++ after) needle = true := by
  rw [contains, String.toList_append]
  exact decide_eq_true ((of_decide_eq_true h).trans (List.prefix_append _ _).isInfix)

theorem not_contains_of_notMem {text part : String} {c : Char} (hpart : c ∈ part.toList)
    (htext : c ∉ text.toList) : contains text part = false := by
  rw [Bool.eq_false_iff]
  intro h
  exact htext ((of_decide_eq_true h).subset hpart)

def optionText : Option String → Json
  | some value => .str value
  | none => .null

/-- `value` in a condition. -/
def truthy : Json → Bool
  | .null => false
  | .bool value => value
  | .int value => value ≠ 0
  | .float value => value ≠ 0
  | .str value => value ≠ ""
  | .arr items => !items.isEmpty
  | .obj fields => !fields.isEmpty

/-- Equality of two tuples as sets. -/
def sameSet (first second : List String) : Prop := ∀ item, item ∈ first ↔ item ∈ second

instance (first second : List String) : Decidable (sameSet first second) :=
  decidable_of_iff ((∀ item ∈ first, item ∈ second) ∧ ∀ item ∈ second, item ∈ first)
    ⟨fun h item => ⟨h.1 item, h.2 item⟩, fun h => ⟨fun item => (h item).mp,
      fun item => (h item).mpr⟩⟩

inductive ClaimGrade where
  | E0
  | E1
  | E2
  | E3
deriving DecidableEq, Repr

def ClaimGrade.text : ClaimGrade → String
  | .E0 => "E0"
  | .E1 => "E1"
  | .E2 => "E2"
  | .E3 => "E3"

/-- Grades compare as their texts, which are in this order. -/
def ClaimGrade.rank : ClaimGrade → Nat
  | .E0 => 0
  | .E1 => 1
  | .E2 => 2
  | .E3 => 3

inductive ClaimClassification where
  | gain
  | neutral
  | regression
  | infraFailure
deriving DecidableEq, Repr

def ClaimClassification.text : ClaimClassification → String
  | .gain => "gain"
  | .neutral => "neutral"
  | .regression => "regression"
  | .infraFailure => "infra_failure"

structure Receipt where
  receiptId : String
  campaignId : String
  planId : String
  sequence : Int
  kind : String
  createdAt : String
  payload : List (String × Json)
  artifactSha256 : String
  supersedesReceiptId : Option String

def Receipt.postInit (receipt : Receipt) : Bool :=
  isText receipt.receiptId && isText receipt.campaignId && isText receipt.planId &&
    isText receipt.kind && isText receipt.createdAt && decide (1 ≤ receipt.sequence) &&
    isSha256 receipt.artifactSha256

def Receipt.toJson (receipt : Receipt) : Json :=
  .obj [("receipt_id", .str receipt.receiptId), ("campaign_id", .str receipt.campaignId),
    ("plan_id", .str receipt.planId), ("sequence", .int receipt.sequence),
    ("kind", .str receipt.kind), ("created_at", .str receipt.createdAt),
    ("payload", .obj receipt.payload), ("artifact_sha256", .str receipt.artifactSha256),
    ("supersedes_receipt_id", optionText receipt.supersedesReceiptId)]

def Receipt.contentSha256 (receipt : Receipt) : String := receipt.toJson.contentSha256

structure EvidenceEnvelope where
  evidenceId : String
  receiptIds : List String
  observerId : String
  grade : ClaimGrade
  payload : List (String × Json)
  artifactSha256 : String

def EvidenceEnvelope.postInit (envelope : EvidenceEnvelope) : Bool :=
  isText envelope.evidenceId && isText envelope.observerId && !envelope.receiptIds.isEmpty &&
    isSha256 envelope.artifactSha256

def EvidenceEnvelope.toJson (envelope : EvidenceEnvelope) : Json :=
  .obj [("evidence_id", .str envelope.evidenceId),
    ("receipt_ids", .arr (envelope.receiptIds.map .str)),
    ("observer_id", .str envelope.observerId), ("grade", .str envelope.grade.text),
    ("payload", .obj envelope.payload), ("artifact_sha256", .str envelope.artifactSha256)]

def EvidenceEnvelope.contentSha256 (envelope : EvidenceEnvelope) : String :=
  envelope.toJson.contentSha256

structure Claim where
  claimId : String
  candidateId : String
  grade : ClaimGrade
  classification : ClaimClassification
  evidenceIds : List String
  rationale : String
  supersedesClaimId : Option String
  counterfactualPairSha256 : Option String
  counterfactualReceiptIds : List String
deriving DecidableEq

/-- `Claim.__post_init__`; `legacyRead` admits an unbound E2 or E3 claim. -/
def Claim.postInit (claim : Claim) (legacyRead : Bool) : Bool :=
  isText claim.claimId && isText claim.candidateId && isText claim.rationale &&
    !claim.evidenceIds.isEmpty && claim.counterfactualPairSha256.all isSha256 &&
    claim.counterfactualReceiptIds.all isText &&
    (if 2 ≤ claim.grade.rank then
      if claim.counterfactualPairSha256.isNone then legacyRead
      else claim.evidenceIds.length == 4 && claim.counterfactualReceiptIds.length == 6
    else true)

theorem Claim.postInit_of_bound {claim : Claim} {sha256 : String}
    (hid : isText claim.claimId = true) (hcandidate : isText claim.candidateId = true) (hrationale : isText claim.rationale = true)
    (hpair : claim.counterfactualPairSha256 = some sha256) (hsha256 : isSha256 sha256 = true)
    (hreceipts : ∀ id ∈ claim.counterfactualReceiptIds, isText id = true)
    (hfour : claim.evidenceIds.length = 4) (hsix : claim.counterfactualReceiptIds.length = 6) :
    claim.postInit false = true := by
  have hsome : claim.evidenceIds.isEmpty = false := by
    cases hevidence : claim.evidenceIds with
    | nil => simp [hevidence] at hfour
    | cons id rest => rfl
  simp [Claim.postInit, hid, hcandidate, hrationale, hpair, hsha256, hfour, hsix, hsome,
    List.all_eq_true.mpr hreceipts]

/-- The hashed form, which leaves out an absent pair digest and an empty list
of counterfactual receipts. -/
def Claim.toJson (claim : Claim) : Json :=
  .obj ([("claim_id", .str claim.claimId), ("candidate_id", .str claim.candidateId),
      ("grade", .str claim.grade.text), ("classification", .str claim.classification.text),
      ("evidence_ids", .arr (claim.evidenceIds.map .str)), ("rationale", .str claim.rationale),
      ("supersedes_claim_id", optionText claim.supersedesClaimId)] ++
    (match claim.counterfactualPairSha256 with
      | some sha256 => [("counterfactual_pair_sha256", .str sha256)]
      | none => []) ++
    (if claim.counterfactualReceiptIds.isEmpty then []
      else [("counterfactual_receipt_ids", .arr (claim.counterfactualReceiptIds.map .str))]))

def Claim.contentSha256 (claim : Claim) : String := claim.toJson.contentSha256

end JlensEvolve.Contracts

/-!
What `datetime.fromisoformat` makes of a text. Which texts it accepts is left
open; a zoned value is an instant, a naive one a reading of an unknown clock.
Both count microseconds.
-/

namespace JlensEvolve

inductive Timestamp where
  | naive (wallClock : Int)
  | zoned (instant : Int)
deriving DecidableEq, Repr

/-- `datetime.fromisoformat`; `none` where it raises. -/
abbrev Fromisoformat := String → Option Timestamp

end JlensEvolve
