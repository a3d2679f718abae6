import Mathlib.Data.Multiset.AddSub
import ComposeKube.Convert.Placement

/-!
# The node selector term of arbitrary constraints

`toNodeAffinity` for any record of constraints: operators that are not in its table,
node labels that are named like the operating system's or the architecture's own label,
no record at all.

The term asks for one requirement for each constraint, in some order that depends on
the loop over the node labels, and for the defaults that none of them stands for. So
the order is left out of the specification: constraints and requirements are multisets.

* `toNodeAffinity_eq` — the four places of the source that translate a constraint are
  one loop over all constraints.
* `coe_orderedConstraints` — every order visits the same constraints.
* `toNodeAffinity_term` — when the conversion fails, and what the term is.
-/

namespace ComposeKube

open Go

/-! ## Specification -/

/-- The signs of constraints, with the operators that they become. -/
def operatorTable : List (String × NodeSelectorOperator) :=
  [("==", .in_), ("!=", .notIn), (">", .gt), ("<", .lt)]

/-- A constraint that may be absent, under the label that it is about. -/
def optionalConstraint (key : String) (constraint : Option Latest.Constraint) :
    List (String × Latest.Constraint) :=
  constraint.toList.map fun c => (key, c)

/-- The constraints of a record, each with the label of the node that it is about. A
label may occur twice: as one of the three that the record has fields for, and among
the other labels. -/
def presentConstraints (constraints : Option Latest.Constraints) :
    Multiset (String × Latest.Constraint) :=
  match constraints with
  | none => 0
  | some c =>
    ↑(optionalConstraint kubernetesOs c.operatingSystem) +
      ↑(optionalConstraint kubernetesArch c.architecture) +
      ↑(optionalConstraint kubernetesHostname c.hostname) +
      c.matchLabels.entries.entries.map fun e => (e.1, e.2)

/-- The requirement says what the constraint on the label says. -/
structure IsRequirement (c : String × Latest.Constraint) (r : NodeSelectorRequirement) :
    Prop where
  key : r.key = c.1
  operator : (c.2.operator, r.operator) ∈ operatorTable
  values : r.values = some [c.2.value]

/-- A default: it is there when no requirement is about its label. -/
def defaultFor (own : Multiset NodeSelectorRequirement) (key value : String) :
    Multiset NodeSelectorRequirement :=
  if key ∈ own.map (·.key) then 0 else {{ key, operator := .in_, values := some [value] }}

/-! ## Constraints one by one -/

theorem toRequirementOperator_eq_ok_iff {sign : String} {operator : NodeSelectorOperator} :
    toRequirementOperator sign = .ok operator ↔ (sign, operator) ∈ operatorTable := by
  unfold toRequirementOperator operatorTable
  -- one case for each sign of the table, and one for all others
  split_ifs with heq hne hgt hlt
  · simp [heq, eq_comm]
  · simp [hne, eq_comm]
  · simp [hgt, eq_comm]
  · simp [hlt, eq_comm]
  · simp [heq, hne, hgt, hlt]

/-- A constraint becomes the requirement with its key, operator and value. -/
theorem toRequirement_eq_ok_iff {c : String × Latest.Constraint} {r : NodeSelectorRequirement} :
    toRequirement c.1 c.2 = .ok r ↔ IsRequirement c r := by
  constructor
  · intro h
    obtain ⟨operator, hoperator, hret⟩ := bind_eq_ok.mp h
    obtain rfl := pure_eq_ok.mp hret
    exact ⟨rfl, toRequirementOperator_eq_ok_iff.mp hoperator, rfl⟩
  · intro h
    obtain ⟨key, operator, values⟩ := r
    obtain ⟨rfl, hoperator, rfl⟩ := h
    exact bind_eq_ok.mpr ⟨operator, toRequirementOperator_eq_ok_iff.mpr hoperator, rfl⟩

/-- A constraint is accepted when its operator is known. -/
theorem exists_toRequirement_iff {c : String × Latest.Constraint} :
    (∃ r, toRequirement c.1 c.2 = .ok r) ↔ c.2.operator ∈ operatorTable.map Prod.fst := by
  constructor
  · rintro ⟨r, hr⟩
    exact List.mem_map_of_mem (toRequirement_eq_ok_iff.mp hr).operator
  · intro h
    obtain ⟨⟨sign, operator⟩, hmem, hsign⟩ := List.mem_map.mp h
    obtain rfl : sign = c.2.operator := hsign
    exact ⟨{ key := c.1, operator, values := some [c.2.value] },
      toRequirement_eq_ok_iff.mpr ⟨rfl, hmem, rfl⟩⟩

/-! ## The loop over all constraints -/

/-- The constraints in the order in which they are translated. -/
def orderedConstraints (ord : ServiceOrder) (constraints : Latest.Constraints) :
    List (String × Latest.Constraint) :=
  optionalConstraint kubernetesOs constraints.operatingSystem ++
    optionalConstraint kubernetesArch constraints.architecture ++
    optionalConstraint kubernetesHostname constraints.hostname ++
    ord.range .matchLabels constraints.matchLabels.entries

/-- The constraints in any order are the ones that are present. -/
theorem coe_orderedConstraints (ord : ServiceOrder) (constraints : Option Latest.Constraints) :
    (orderedConstraints ord (constraints.getD default) : Multiset (String × Latest.Constraint)) =
      presentConstraints constraints := by
  cases constraints with
  | none =>
    show Multiset.ofList (ord.range .matchLabels (∅ : Map Latest.Constraint)) = 0
    rw [ord.range_empty, Multiset.coe_nil]
  | some c =>
    simp only [Option.getD_some, orderedConstraints, presentConstraints, ← Multiset.coe_add,
      ord.coe_range]

theorem toRequirements_eq_mapM (key : String) (constraint : Option Latest.Constraint) :
    toRequirements key constraint =
      (optionalConstraint key constraint).mapM fun c => toRequirement c.1 c.2 := by
  cases constraint <;> rfl

/-- The source translates each optional constraint on its own and the node labels in a
loop. All of them together are one loop, which stops at the first error. -/
theorem toNodeAffinity_eq (ord : ServiceOrder) (constraints : Option Latest.Constraints) :
    toNodeAffinity ord constraints = do
      let requirements ← (orderedConstraints ord (constraints.getD default)).mapM
        fun c => toRequirement c.1 c.2
      return nodeAffinity (withDefaultRequirement kubernetesArch "amd64"
        (withDefaultRequirement kubernetesOs "linux" requirements)) := by
  simp only [toNodeAffinity, toRequirements_eq_mapM, orderedConstraints, List.mapM_append,
    bind_assoc, pure_bind]

theorem rel_of_forall₂ {α β : Type*} {R : α → β → Prop} {l : List α} {l' : List β}
    (h : List.Forall₂ R l l') : Multiset.Rel R ↑l ↑l' := by
  induction h with
  | nil => exact .zero
  | cons hR _ ih => exact .cons hR ih

/-- A default is added where no requirement has its key. -/
theorem coe_withDefaultRequirement (key value : String) (l : List NodeSelectorRequirement) :
    (withDefaultRequirement key value l : Multiset NodeSelectorRequirement) =
      ↑l + defaultFor ↑l key value := by
  unfold withDefaultRequirement defaultFor
  have hiff : hasRequirement l key = true ↔
      key ∈ (l : Multiset NodeSelectorRequirement).map (·.key) := by
    simp [hasRequirement]
  by_cases h : hasRequirement l key = true
  · rw [if_pos h, if_pos (hiff.mp h), add_zero]
  · rw [if_neg h, if_neg (mt hiff.mpr h), ← Multiset.coe_singleton, Multiset.coe_add]

/-- The defaults are about different labels, so neither decides about the other. -/
theorem defaultFor_add_defaultFor {key key' : String} (hne : key ≠ key') (value value' : String)
    (own : Multiset NodeSelectorRequirement) :
    defaultFor (own + defaultFor own key value) key' value' = defaultFor own key' value' := by
  have hnotMem : key' ∉ (defaultFor own key value).map (·.key) := by
    unfold defaultFor
    split
    · simp
    · simpa using hne.symm
  have hmem : key' ∈ (own + defaultFor own key value).map (·.key) ↔ key' ∈ own.map (·.key) := by
    rw [Multiset.map_add, Multiset.mem_add, or_iff_left hnotMem]
  unfold defaultFor at hmem ⊢
  simp only [hmem]

/-! ## The term -/

/-- **The conversion fails for an operator outside the table and for nothing else. The
one term of its result asks for each constraint once, and for the defaults of the labels
that no constraint is about.** -/
theorem toNodeAffinity_term (ord : ServiceOrder) (constraints : Option Latest.Constraints) :
    ((∃ err, toNodeAffinity ord constraints = .error err) ↔
      ∃ c ∈ presentConstraints constraints, c.2.operator ∉ operatorTable.map Prod.fst) ∧
    ∀ affinity, toNodeAffinity ord constraints = .ok affinity →
      ∃ term requirements own, affinity.requiredNodeSelectorTerms = some (some [term]) ∧
        term.matchExpressions = some requirements ∧
        Multiset.Rel IsRequirement (presentConstraints constraints) own ∧
        (requirements : Multiset NodeSelectorRequirement) =
          own + defaultFor own kubernetesOs "linux" + defaultFor own kubernetesArch "amd64" := by
  rw [toNodeAffinity_eq, ← coe_orderedConstraints ord]
  constructor
  · rw [exists_eq_error_iff, exists_bind_pure_eq_ok, exists_mapM_eq_ok_iff]
    simp only [exists_toRequirement_iff, Multiset.mem_coe, not_forall, exists_prop]
  · intro affinity h
    obtain ⟨own, hown, hret⟩ := bind_eq_ok.mp h
    obtain rfl := pure_eq_ok.mp hret
    have hrel :
        List.Forall₂ IsRequirement (orderedConstraints ord (constraints.getD default)) own :=
      (mapM_eq_ok_iff.mp hown).imp fun _ _ hr => toRequirement_eq_ok_iff.mp hr
    refine ⟨_, _, own, rfl, rfl, rel_of_forall₂ hrel, ?_⟩
    -- the second default is asked for after the first was added, which has another key
    rw [coe_withDefaultRequirement, coe_withDefaultRequirement,
      defaultFor_add_defaultFor (by decide)]

/-- A record with an operating system, and a node label that has the name of the
architecture's. -/
def notOnArm : Latest.Constraints :=
  { (default : Latest.Constraints) with
    operatingSystem := some { value := "windows", operator := "==" }
    matchLabels := some (Finmap.singleton kubernetesArch { value := "arm", operator := "!=" }) }

theorem toNodeAffinity_term_notOnArm :
    ∃ affinity, toNodeAffinity (RangeOrder.ascending _) (some notOnArm) = .ok affinity ∧
      ∃ term requirements own, affinity.requiredNodeSelectorTerms = some (some [term]) ∧
        term.matchExpressions = some requirements ∧
        Multiset.Rel IsRequirement (presentConstraints (some notOnArm)) own ∧
        (requirements : Multiset NodeSelectorRequirement) =
          own + defaultFor own kubernetesOs "linux" + defaultFor own kubernetesArch "amd64" := by
  have hok : toNodeAffinity (RangeOrder.ascending _) (some notOnArm) = .ok (nodeAffinity [
      { key := kubernetesOs, operator := .in_, values := some ["windows"] },
      { key := kubernetesArch, operator := .notIn, values := some ["arm"] }]) := by
    decide
  exact ⟨_, hok, (toNodeAffinity_term _ _).2 _ hok⟩

end ComposeKube
