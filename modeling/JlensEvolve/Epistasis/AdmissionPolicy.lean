import JlensEvolve.Epistasis.Tasks
import JlensEvolve.Library.Json

/-!
The admission policy: a candidate is taken in when it is valid, loses no
protected metric its parent had, and repeats neither a text, nor a syntax tree,
nor too often a behaviour that was taken in before.
-/

namespace JlensEvolve.Epistasis

open Library

variable {Records Output : Type}

def sha256 (value : String) : String := Sha256.hexdigest (Json.utf8 value)

def sourceFingerprints (sandbox : Sandbox Records Output) (source : String) : String × String :=
  (sha256 source, sha256 ((sandbox.dump source).getD ("<invalid>:" ++ source)))

/-- The metric keys with a prefix, sorted. -/
def protectedKeys (metrics : Dict String Int) (start : String) : List String :=
  (metrics.keys.filter (startsWith · start)).insertionSort (· ≤ ·)

def behaviorSignature (metrics : Dict String Int) (start : String) : String :=
  sha256 (String.intercalate "|" ((protectedKeys metrics start).map fun key =>
    key ++ "=" ++ if 1 ≤ (metrics.get? key).getD 0 then "1" else "0"))

structure AdmissionDecision where
  accepted : Bool
  reasons : List String
  regressedCases : List String
  gainedCases : List String
  sourceHash : String
  astHash : String
  behaviorSignature : String

/-- `AdmissionPolicy`. The constructor refuses a limit below one. -/
structure AdmissionPolicy where
  protectedMetricPrefix : String
  behaviorEquivalentLimit : Nat
  sourceHashes : List String
  astHashes : List String
  behaviorCounts : Dict String Nat
  limit_pos : 1 ≤ behaviorEquivalentLimit

/-- `float(metrics.get(key, 0.0))`. -/
def metric (metrics : Dict String Int) (key : String) : Int := (metrics.get? key).getD 0

/-- The keys among `keys` whose metric was whole in the parent and is not any
more. -/
def regressed (metrics parentMetrics : Dict String Int) (keys : List String) : List String :=
  keys.filter fun key => 1 ≤ metric parentMetrics key ∧ metric metrics key < 1

namespace AdmissionPolicy

variable (policy : AdmissionPolicy) (sandbox : Sandbox Records Output)

theorem one_le_two : 1 ≤ 2 := by omega

/-- `AdmissionPolicy(behavior_equivalent_limit=2)`. -/
def fresh : AdmissionPolicy := ⟨casePrefix, 2, [], [], Dict.empty, one_le_two⟩

/-- The third of the novelty tests, each made only when the ones before it
pass. -/
def noveltyReasons (sourceHash astHash signature : String) : List String :=
  if sourceHash ∈ policy.sourceHashes then ["exact_duplicate"]
  else if astHash ∈ policy.astHashes then ["ast_duplicate"]
  else if policy.behaviorEquivalentLimit ≤ (policy.behaviorCounts.get? signature).getD 0 then
    ["behavior_duplicate_limit"]
  else []

/-- What `assess_and_register` finds, before anything is registered. -/
def assess (source : String) (metrics : Dict String Int)
    (parentMetrics : Option (Dict String Int)) : AdmissionDecision :=
  let hashes := sourceFingerprints sandbox source
  let signature := behaviorSignature metrics policy.protectedMetricPrefix
  let keys := protectedKeys metrics policy.protectedMetricPrefix
  let parent := parentMetrics.getD Dict.empty
  let lost := regressed metrics parent keys
  let gained := keys.filter fun key => metric parent key < 1 ∧ 1 ≤ metric metrics key
  let reasons :=
    (if (metrics.get? "evaluator_valid").getD 1 < 1 then ["evaluator_rejected"] else []) ++
    (if lost ≠ [] then ["parent_regression"] else []) ++
    policy.noveltyReasons hashes.1 hashes.2 signature
  ⟨reasons.isEmpty, reasons, lost, gained, hashes.1, hashes.2, signature⟩

/-- The entries that an accepted candidate leaves in the policy. -/
def register (decision : AdmissionDecision) : AdmissionPolicy :=
  { policy with
    sourceHashes := decision.sourceHash :: policy.sourceHashes
    astHashes := decision.astHash :: policy.astHashes
    behaviorCounts := policy.behaviorCounts.set decision.behaviorSignature
      ((policy.behaviorCounts.get? decision.behaviorSignature).getD 0 + 1) }

def assessAndRegister (source : String) (metrics : Dict String Int)
    (parentMetrics : Option (Dict String Int)) : AdmissionDecision × AdmissionPolicy :=
  let decision := policy.assess sandbox source metrics parentMetrics
  (decision, if decision.accepted then policy.register decision else policy)

theorem protectedMetricPrefix_assessAndRegister (source : String) (metrics : Dict String Int)
    (parentMetrics : Option (Dict String Int)) :
    (policy.assessAndRegister sandbox source metrics parentMetrics).2.protectedMetricPrefix =
      policy.protectedMetricPrefix := by
  simp only [assessAndRegister]
  split <;> rfl

theorem kept_of_accepted {source : String} {metrics parent : Dict String Int}
    (h : (policy.assessAndRegister sandbox source metrics (some parent)).1.accepted = true) :
    regressed metrics parent (protectedKeys metrics policy.protectedMetricPrefix) = [] := by
  simp only [assessAndRegister, assess, Option.getD_some, List.isEmpty_iff,
    List.append_eq_nil_iff] at h
  by_contra hlost
  have hreason := h.1.2
  rw [if_pos hlost] at hreason
  cases hreason

end AdmissionPolicy

end JlensEvolve.Epistasis
