import Mathlib.Data.List.Find
import ComposeKube.Convert.NodeTerm
import ComposeKube.Registry.Constraints

/-!
# The meaning of placement constraints

A list of placement constraints says where a service may run: on the nodes that
satisfy all of them. On the way to the cluster the list is folded into a record with
one place for each key, and the record is expanded into the requirements of a node
selector term, with defaults for the operating system and the architecture. A node
matches the term when its labels meet all requirements.

The last constraint on a key is the one that is recorded. The others are lost, so the
meaning is kept only if the last one implies them.

* `find_fromComposeConstraints` — what is recorded for a key.
* `mem_orderedConstraints`, `toNodeAffinity_requirements` — the constraints of a record,
  and their requirements.
* `requirementsMet_iff` — what they ask of each label.
* `toNodeAffinity_meaning_iff` — which lists keep their meaning.
-/

namespace ComposeKube

open Go

/-! ## Nodes -/

/-- The labels of a node. -/
abbrev NodeLabels := Map String

namespace NodeSelectorRequirement

/-- The number that a comparison is made with: the one value, if it is one. -/
def bound (r : NodeSelectorRequirement) : Option Int64 :=
  match r.values.elems with
  | [value] => parseInt64 value
  | _ => none

/-- What the operators ask of the value of a label, `none` without the label. -/
def Holds (r : NodeSelectorRequirement) (label : Option String) : Prop :=
  match r.operator with
  | .in_ => ∃ value, label = some value ∧ value ∈ r.values.elems
  -- also without the label
  | .notIn => ∀ value, label = some value → value ∉ r.values.elems
  | .exists_ => label.isSome = true
  | .doesNotExist => label = none
  | .gt => ∃ n b, label.bind parseInt64 = some n ∧ r.bound = some b ∧ b < n
  | .lt => ∃ n b, label.bind parseInt64 = some n ∧ r.bound = some b ∧ n < b

end NodeSelectorRequirement

/-- A term asks for all of its requirements; a term without any matches no node. -/
def NodeSelectorTerm.Matches (term : NodeSelectorTerm) (node : NodeLabels) : Prop :=
  term.matchExpressions.elems ≠ [] ∧
    ∀ r ∈ term.matchExpressions.elems, r.Holds (node.lookup r.key)

/-- The node is one of those that the affinity requires: one of the terms matches it. -/
def Affinity.Matches (affinity : Affinity) (node : NodeLabels) : Prop :=
  match affinity.requiredNodeSelectorTerms with
  -- no node affinity at all
  | none => True
  | some terms => ∃ term ∈ terms.elems, term.Matches node

/-! ## Constraints on nodes -/

/-- The label of a node that a key is about. -/
def NodeKey.kubernetesKey : NodeKey → String
  | os => kubernetesOs
  | arch => kubernetesArch
  | hostname => kubernetesHostname
  | label key => key

/-- What an operator asks of the value of a label. -/
def EqualityOperator.Holds (operator : EqualityOperator) (label : Option String)
    (value : String) : Prop :=
  match operator with
  | equal => label = some value
  | notEqual => label ≠ some value

namespace ConstraintText

/-- The label that the constraint is about. -/
def labelKey (c : ConstraintText) : String := c.key.kubernetesKey

/-- The node satisfies the constraint. -/
def Satisfied (c : ConstraintText) (node : NodeLabels) : Prop :=
  c.operator.Holds (node.lookup c.labelKey) c.value

/-- Every node that satisfies `c` satisfies `c'`, a constraint on the same label. -/
def Implies (c c' : ConstraintText) : Prop :=
  match c.operator, c'.operator with
  | .equal, .equal => c'.value = c.value
  | .equal, .notEqual => c'.value ≠ c.value
  | .notEqual, .equal => False
  | .notEqual, .notEqual => c'.value = c.value

/-- The constraint as it is recorded. -/
def recorded (c : ConstraintText) : Latest.Constraint :=
  { operator := c.operator.text, value := readValue c.value }

/-- Word characters and dots only. -/
structure Plain (c : ConstraintText) : Prop where
  label : ∀ l, c.key = .label l → WordsAndDots l
  value : WordsAndDots c.value

end ConstraintText

/-- The nodes that a list of constraints stands for. -/
structure SatisfiesAll (l : List ConstraintText) (node : NodeLabels) : Prop where
  constraints : ∀ c ∈ l, c.Satisfied node
  os : (∀ c ∈ l, c.labelKey ≠ kubernetesOs) → node.lookup kubernetesOs = some "linux"
  arch : (∀ c ∈ l, c.labelKey ≠ kubernetesArch) → node.lookup kubernetesArch = some "amd64"

/-- The last constraint on a label is read as it is written, and implies the others. -/
def LastImpliesAll (l : List ConstraintText) : Prop :=
  ∀ c ∈ l, ∀ last, lastWith ConstraintText.labelKey l c.labelKey = some last →
    last.value.toList.head? ≠ some '.' ∧ last.Implies c

/-! ## One label -/

/-- One constraint implies another when each label that meets it meets the other. -/
theorem implies_iff {c c' : ConstraintText} :
    c.Implies c' ↔ ∀ label, c.operator.Holds label c.value → c'.operator.Holds label c'.value := by
  unfold ConstraintText.Implies
  cases c.operator <;> cases c'.operator <;> simp only [EqualityOperator.Holds]
  · constructor
    · rintro h label rfl
      rw [h]
    · exact fun h => (Option.some.inj (h _ rfl)).symm
  · constructor
    · rintro h label rfl heq
      exact h (Option.some.inj heq).symm
    · exact fun h heq => h _ rfl (congrArg some heq).symm
  · -- a node without the label
    refine iff_of_false id fun h => ?_
    cases h none (by simp)
  · constructor
    · rintro h label hlabel
      rwa [h]
    · intro h
      by_contra hne
      exact h (some c'.value) (fun heq => hne (Option.some.inj heq)) rfl

/-- An operator tells values apart. -/
theorem EqualityOperator.value_eq_of_holds {operator : EqualityOperator} {value value' : String}
    (h : ∀ label, operator.Holds label value → operator.Holds label value') : value = value' := by
  cases operator with
  | equal => exact Option.some.inj (h (some value) rfl)
  | notEqual =>
    by_contra hne
    exact h (some value') (fun heq => hne (Option.some.inj heq).symm) rfl

theorem EqualityOperator.exists_holds (operator : EqualityOperator) (value : String) :
    ∃ label, operator.Holds label value := by
  cases operator with
  | equal => exact ⟨some value, rfl⟩
  | notEqual => exact ⟨none, by simp [EqualityOperator.Holds]⟩

theorem readValue_eq_self_iff {value : String} :
    readValue value = value ↔ value.toList.head? ≠ some '.' := by
  constructor
  · intro h hhead
    have hnot := List.head?_dropWhile_not (fun c => decide (c = '.')) value.toList
    have hread := congrArg String.toList h
    rw [readValue, String.toList_ofList] at hread
    rw [hread, hhead] at hnot
    exact absurd hnot (by decide)
  · exact readValue_eq_self

/-- **The recorded constraint stands for all** when it is read as it is written and
implies them. -/
theorem recorded_iff {last : ConstraintText} {cs : List ConstraintText} (hlast : last ∈ cs) :
    (∀ label, last.operator.Holds label (readValue last.value) ↔
        ∀ c ∈ cs, c.operator.Holds label c.value) ↔
      last.value.toList.head? ≠ some '.' ∧ ∀ c ∈ cs, last.Implies c := by
  rw [← readValue_eq_self_iff]
  constructor
  · intro h
    have hread : readValue last.value = last.value :=
      EqualityOperator.value_eq_of_holds fun label hlabel => (h label).mp hlabel last hlast
    rw [hread] at h
    exact ⟨hread, fun c hc => implies_iff.mpr fun label hlabel => (h label).mp hlabel c hc⟩
  · rintro ⟨hread, himplies⟩ label
    rw [hread]
    exact ⟨fun hlabel c hc => implies_iff.mp (himplies c hc) label hlabel, fun h => h last hlast⟩

/-! ## What is recorded -/

/-- Plain keys are about different labels: those of Kubernetes have a slash. -/
theorem kubernetesKey_inj {key key' : NodeKey} (h : ∀ l, key = .label l → WordsAndDots l)
    (h' : ∀ l, key' = .label l → WordsAndDots l) (heq : key.kubernetesKey = key'.kubernetesKey) :
    key = key' := by
  have hos : ¬WordsAndDots kubernetesOs := by decide
  have harch : ¬WordsAndDots kubernetesArch := by decide
  have hhostname : ¬WordsAndDots kubernetesHostname := by decide
  cases key <;> cases key' <;> simp only [NodeKey.kubernetesKey] at heq
  case label.label => rw [heq]
  case label.os l => exact absurd (heq ▸ h l rfl) hos
  case label.arch l => exact absurd (heq ▸ h l rfl) harch
  case label.hostname l => exact absurd (heq ▸ h l rfl) hhostname
  case os.label l => exact absurd (heq ▸ h' l rfl) hos
  case arch.label l => exact absurd (heq ▸ h' l rfl) harch
  case hostname.label l => exact absurd (heq ▸ h' l rfl) hhostname
  all_goals first | rfl | exact absurd heq (by decide)

section Recorded

variable {l : List ConstraintText} (hl : ∀ c ∈ l, c.Plain)

include hl

/-- A list of texts: for each key, the last one on it is left. -/
theorem find_foldl_addConstraint (key : NodeKey) (constraints : Latest.Constraints) :
    key.find ((l.map ConstraintText.text).foldl addConstraint constraints) =
      ((l.reverse.find? fun c => c.key = key).map ConstraintText.recorded).or
        (key.find constraints) := by
  induction l generalizing constraints with
  | nil => rfl
  | cons c rest ih =>
    obtain ⟨hc, hrest⟩ := List.forall_mem_cons.mp hl
    -- the constraint is recorded first and may be written over by the rest
    rw [List.map_cons, List.foldl_cons, ih hrest, addConstraint_text c hc.label hc.value,
      NodeKey.find_record, List.reverse_cons, List.find?_append, Option.map_or, Option.or_assoc]
    by_cases hkey : c.key = key
    · simp [hkey, ConstraintText.recorded]
    · simp [hkey]

/-- **What is recorded for a key** is the last constraint on its label. -/
theorem find_fromComposeConstraints (key : NodeKey) :
    key.find ((fromComposeConstraints (l.map ConstraintText.text)).getD default) =
      (l.reverse.find? fun c => c.key = key).map ConstraintText.recorded := by
  have hfold : (fromComposeConstraints (l.map ConstraintText.text)).getD default =
      (l.map ConstraintText.text).foldl addConstraint default := by
    cases l with
    | nil => rfl
    | cons c rest => rw [List.map_cons, fromComposeConstraints_cons, Option.getD_some]
  rw [hfold, find_foldl_addConstraint hl, NodeKey.find_default, Option.or_none]

/-- The last one on the key is the last one on the label. -/
theorem lastWith_labelKey_iff {c : ConstraintText} {k : String} :
    lastWith ConstraintText.labelKey l k = some c ↔
      c.labelKey = k ∧ (l.reverse.find? fun c' => c'.key = c.key) = some c := by
  -- on the list, the label and the key say the same
  have hcongr : c ∈ l → (l.reverse.find? fun c' => decide (c'.labelKey = c.labelKey)) =
      l.reverse.find? fun c' => decide (c'.key = c.key) := by
    intro hc
    refine List.find?_congr fun c' hc' => ?_
    rw [decide_eq_decide]
    constructor
    · exact kubernetesKey_inj (hl c' (List.mem_reverse.mp hc')).label (hl c hc).label
    · exact fun heq => congrArg NodeKey.kubernetesKey heq
  constructor
  · intro hlast
    obtain ⟨hmem, rfl⟩ := lastWith_eq_some hlast
    exact ⟨rfl, (hcongr hmem).symm.trans hlast⟩
  · rintro ⟨rfl, hlast⟩
    have hmem := List.mem_reverse.mp (List.mem_of_find?_eq_some hlast)
    exact (hcongr hmem).trans hlast

/-- The constraints that are recorded are the last ones on their labels. -/
theorem exists_find_iff {k : String} {constraint : Latest.Constraint} :
    (∃ key : NodeKey, key.kubernetesKey = k ∧
        key.find ((fromComposeConstraints (l.map ConstraintText.text)).getD default) =
          some constraint) ↔
      ∃ c, lastWith ConstraintText.labelKey l k = some c ∧ c.recorded = constraint := by
  simp only [find_fromComposeConstraints hl, Option.map_eq_some_iff, lastWith_labelKey_iff hl]
  constructor
  · rintro ⟨key, rfl, c, hfind, rfl⟩
    have hkey : c.key = key := by simpa using List.find?_some hfind
    subst hkey
    exact ⟨c, ⟨rfl, hfind⟩, rfl⟩
  · rintro ⟨c, ⟨rfl, hfind⟩, rfl⟩
    exact ⟨c.key, rfl, c, hfind, rfl⟩

end Recorded

/-! ## The requirements -/

/-- The requirement of a constraint with one of the two operators. -/
def requirementOf (key : String) (constraint : Latest.Constraint) : NodeSelectorRequirement :=
  { key
    operator := if constraint.operator = "==" then .in_ else .notIn
    values := some [constraint.value] }

/-- The requirement that a label has one value. -/
def valueRequirement (key value : String) : NodeSelectorRequirement :=
  { key, operator := .in_, values := some [value] }

theorem toRequirement_eq {key : String} {constraint : Latest.Constraint}
    (h : constraint.operator = "==" ∨ constraint.operator = "!=") :
    toRequirement key constraint = .ok (requirementOf key constraint) := by
  unfold toRequirement requirementOf
  rcases h with h | h <;> rw [h] <;> rfl

theorem mem_withDefaultRequirement {key value : String} {rs : List NodeSelectorRequirement}
    {r : NodeSelectorRequirement} :
    r ∈ withDefaultRequirement key value rs ↔
      r ∈ rs ∨ (∀ r' ∈ rs, r'.key ≠ key) ∧ r = valueRequirement key value := by
  have hhas : hasRequirement rs key = true ↔ ¬∀ r' ∈ rs, r'.key ≠ key := by
    simp [hasRequirement]
  unfold withDefaultRequirement
  by_cases h : hasRequirement rs key = true
  · simp [h, hhas.mp h]
  · have hnone := not_not.mp fun hnot => h (hhas.mpr hnot)
    rw [if_neg h, List.mem_append, List.mem_singleton, and_iff_right hnone]
    rfl

/-- The requirements of a record, without the defaults. -/
def recordRequirements (ord : ServiceOrder) (constraints : Latest.Constraints) :
    List NodeSelectorRequirement :=
  constraints.operatingSystem.toList.map (requirementOf kubernetesOs) ++
    constraints.architecture.toList.map (requirementOf kubernetesArch) ++
    constraints.hostname.toList.map (requirementOf kubernetesHostname) ++
    (ord.range .matchLabels constraints.matchLabels.entries).map fun e => requirementOf e.1 e.2

/-- The constraints that are translated are those that are recorded for a key. -/
theorem mem_orderedConstraints {ord : ServiceOrder} {constraints : Latest.Constraints} {k : String}
    {c : Latest.Constraint} :
    (k, c) ∈ orderedConstraints ord constraints ↔
      ∃ key : NodeKey, key.kubernetesKey = k ∧ key.find constraints = some c := by
  simp only [orderedConstraints, optionalConstraint, List.mem_append, List.mem_map,
    Option.mem_toList, Prod.mk.injEq, ord.mem_range]
  -- the three keys of their own, and the labels
  constructor
  · rintro (((⟨c, hc, rfl, rfl⟩ | ⟨c, hc, rfl, rfl⟩) | ⟨c, hc, rfl, rfl⟩) | hc)
    · exact ⟨.os, rfl, hc⟩
    · exact ⟨.arch, rfl, hc⟩
    · exact ⟨.hostname, rfl, hc⟩
    · exact ⟨.label k, rfl, (MapRef.lookup_entries ..).symm.trans hc⟩
  · rintro ⟨key, rfl, hc⟩
    cases key with
    | os => exact Or.inl (Or.inl (Or.inl ⟨c, hc, rfl, rfl⟩))
    | arch => exact Or.inl (Or.inl (Or.inr ⟨c, hc, rfl, rfl⟩))
    | hostname => exact Or.inl (Or.inr ⟨c, hc, rfl, rfl⟩)
    | label l => exact Or.inr ((MapRef.lookup_entries ..).trans hc)

theorem recordRequirements_eq (ord : ServiceOrder) (constraints : Latest.Constraints) :
    recordRequirements ord constraints =
      (orderedConstraints ord constraints).map fun c => requirementOf c.1 c.2 := by
  simp only [recordRequirements, orderedConstraints, optionalConstraint, List.map_append,
    List.map_map]
  rfl

/-- **The requirements of a record**, with the defaults after them. -/
theorem toNodeAffinity_requirements (ord : ServiceOrder) (constraints : Option Latest.Constraints)
    (h : ∀ (key : NodeKey) c, key.find (constraints.getD default) = some c →
      c.operator = "==" ∨ c.operator = "!=") :
    toNodeAffinity ord constraints =
      .ok (nodeAffinity (withDefaultRequirement kubernetesArch "amd64"
        (withDefaultRequirement kubernetesOs "linux"
          (recordRequirements ord (constraints.getD default))))) := by
  have hall : (orderedConstraints ord (constraints.getD default)).mapM
      (fun c => toRequirement c.1 c.2) =
        .ok (recordRequirements ord (constraints.getD default)) := by
    rw [recordRequirements_eq, mapM_eq_ok_iff, List.forall₂_map_right_iff, List.forall₂_same]
    rintro ⟨k, c⟩ hc
    obtain ⟨key, -, hfind⟩ := mem_orderedConstraints.mp hc
    exact toRequirement_eq (h key c hfind)
  rw [toNodeAffinity_eq, hall]
  rfl

/-- One requirement for each key that has a constraint. -/
theorem mem_recordRequirements {ord : ServiceOrder} {constraints : Latest.Constraints}
    {r : NodeSelectorRequirement} :
    r ∈ recordRequirements ord constraints ↔ ∃ (key : NodeKey) (c : Latest.Constraint),
      key.find constraints = some c ∧ r = requirementOf key.kubernetesKey c := by
  rw [recordRequirements_eq, List.mem_map]
  constructor
  · rintro ⟨⟨k, c⟩, hc, rfl⟩
    obtain ⟨key, rfl, hfind⟩ := mem_orderedConstraints.mp hc
    exact ⟨key, c, hfind, rfl⟩
  · rintro ⟨key, c, hfind, rfl⟩
    exact ⟨(key.kubernetesKey, c), mem_orderedConstraints.mpr ⟨key, rfl, hfind⟩, rfl⟩

theorem holds_requirementOf {k : String} {c : ConstraintText} {label : Option String} :
    (requirementOf k c.recorded).Holds label ↔
      c.operator.Holds label (readValue c.value) := by
  unfold NodeSelectorRequirement.Holds requirementOf ConstraintText.recorded
  cases c.operator with
  | equal => simp [EqualityOperator.Holds, EqualityOperator.text, Slice.elems]
  | notEqual =>
    simp only [EqualityOperator.Holds, EqualityOperator.text, Slice.elems]
    constructor
    · rintro h rfl
      exact h _ rfl (List.mem_singleton.mpr rfl)
    · rintro h value rfl hvalue
      exact h (congrArg some (List.mem_singleton.mp hvalue))

theorem holds_valueRequirement {k value : String} {label : Option String} :
    (valueRequirement k value).Holds label ↔ label = some value := by
  simp [NodeSelectorRequirement.Holds, valueRequirement, Slice.elems]

/-! ## The meaning, label by label -/

/-- What the requirements for a list ask of a label. -/
def Required (l : List ConstraintText) (k : String) (label : Option String) : Prop :=
  match lastWith ConstraintText.labelKey l k with
  | some last => last.operator.Holds label (readValue last.value)
  | none => (k = kubernetesOs → label = some "linux") ∧ (k = kubernetesArch → label = some "amd64")

/-- What the list itself asks of it. -/
def Constrained (l : List ConstraintText) (k : String) (label : Option String) : Prop :=
  (∀ c ∈ l.filter fun c => c.labelKey = k, c.operator.Holds label c.value) ∧
    (lastWith ConstraintText.labelKey l k = none →
      (k = kubernetesOs → label = some "linux") ∧ (k = kubernetesArch → label = some "amd64"))

/-- The constraints, label by label. -/
theorem satisfiesAll_iff {l : List ConstraintText} {node : NodeLabels} :
    SatisfiesAll l node ↔ ∀ k, Constrained l k (node.lookup k) := by
  constructor
  · rintro ⟨hconstraints, hos, harch⟩ k
    refine ⟨fun c hc => ?_, fun hnone => ⟨?_, ?_⟩⟩
    · rw [List.mem_filter, decide_eq_true_eq] at hc
      obtain ⟨hc, rfl⟩ := hc
      exact hconstraints c hc
    · rintro rfl
      exact hos (lastWith_eq_none.mp hnone)
    · rintro rfl
      exact harch (lastWith_eq_none.mp hnone)
  · intro h
    refine ⟨fun c hc => ?_, fun hos => ?_, fun harch => ?_⟩
    · exact (h c.labelKey).1 c (List.mem_filter.mpr ⟨hc, decide_eq_true rfl⟩)
    · exact ((h kubernetesOs).2 (lastWith_eq_none.mpr hos)).1 rfl
    · exact ((h kubernetesArch).2 (lastWith_eq_none.mpr harch)).2 rfl

/-- For one label the two agree when the last constraint on it stands for all. -/
theorem required_iff_constrained {l : List ConstraintText} {k : String} :
    (∀ label, Required l k label ↔ Constrained l k label) ↔
      ∀ last, lastWith ConstraintText.labelKey l k = some last →
        last.value.toList.head? ≠ some '.' ∧
          ∀ c ∈ l.filter fun c => c.labelKey = k, last.Implies c := by
  unfold Required Constrained
  cases hlast : lastWith ConstraintText.labelKey l k with
  | none =>
    have hfilter : (l.filter fun c => c.labelKey = k) = [] := by
      simpa using lastWith_eq_none.mp hlast
    simp [hfilter]
  | some last =>
    obtain ⟨hmem, hkey⟩ := lastWith_eq_some hlast
    have hfilter : last ∈ l.filter fun c => c.labelKey = k :=
      List.mem_filter.mpr ⟨hmem, decide_eq_true hkey⟩
    -- there is a constraint, so the defaults do not matter
    simp only [reduceCtorEq, false_imp_iff, and_true, Option.some.injEq, forall_eq']
    exact recorded_iff hfilter

/-- When the last constraint on each label is enough. -/
theorem lastImpliesAll_iff {l : List ConstraintText} :
    LastImpliesAll l ↔ ∀ k, ∀ label, Required l k label ↔ Constrained l k label := by
  simp only [required_iff_constrained]
  constructor
  · intro h k last hlast
    obtain ⟨hmem, rfl⟩ := lastWith_eq_some hlast
    refine ⟨(h last hmem last hlast).1, fun c hc => ?_⟩
    rw [List.mem_filter, decide_eq_true_eq] at hc
    exact (h c hc.1 last (hc.2 ▸ hlast)).2
  · intro h c hc last hlast
    obtain ⟨hdot, himplies⟩ := h c.labelKey last hlast
    exact ⟨hdot, himplies c (List.mem_filter.mpr ⟨hc, decide_eq_true rfl⟩)⟩

/-- Some node meets the requirements: each label can, and only those of the constraints
and of the defaults need a value. -/
theorem exists_required (l : List ConstraintText) :
    ∃ node : NodeLabels, ∀ k, Required l k (node.lookup k) := by
  -- a label is chosen for each key that is asked for, the others being free
  refine exists_map_of_forall (fun k => ?_)
    (kubernetesOs :: kubernetesArch :: l.map ConstraintText.labelKey) fun k hk => ?_
  · unfold Required
    cases lastWith ConstraintText.labelKey l k with
    | some last => exact last.operator.exists_holds (readValue last.value)
    | none =>
      by_cases hos : k = kubernetesOs
      · refine ⟨some "linux", fun _ => rfl, fun harch => ?_⟩
        exact absurd (hos.symm.trans harch) (by decide)
      · exact ⟨some "amd64", fun h => absurd h hos, fun _ => rfl⟩
  · rw [List.mem_cons, List.mem_cons, not_or, not_or] at hk
    obtain ⟨hos, harch, hkey⟩ := hk
    unfold Required
    rw [lastWith_eq_none_iff_notMem.mpr hkey]
    exact ⟨fun h => absurd h hos, fun h => absurd h harch⟩

/-- The requirements of the term for a list of texts. -/
def termRequirements (ord : ServiceOrder) (l : List ConstraintText) :
    List NodeSelectorRequirement :=
  withDefaultRequirement kubernetesArch "amd64" <|
    withDefaultRequirement kubernetesOs "linux" <|
      recordRequirements ord ((fromComposeConstraints (l.map ConstraintText.text)).getD default)

section Plain

variable {l : List ConstraintText} (hl : ∀ c ∈ l, c.Plain)

include hl

/-- The conversion of a list of texts succeeds. -/
theorem toNodeAffinity_texts (ord : ServiceOrder) :
    toNodeAffinity ord (fromComposeConstraints (l.map ConstraintText.text)) =
      .ok (nodeAffinity (termRequirements ord l)) := by
  refine toNodeAffinity_requirements ord _ fun key constraint hfind => ?_
  obtain ⟨c, -, rfl⟩ := (exists_find_iff hl).mp ⟨key, rfl, hfind⟩
  unfold ConstraintText.recorded
  cases c.operator with
  | equal => exact Or.inl rfl
  | notEqual => exact Or.inr rfl

/-- The requirements come from the last constraint on each label. -/
theorem mem_recordRequirements_texts {ord : ServiceOrder} {r : NodeSelectorRequirement} :
    r ∈ recordRequirements ord
        ((fromComposeConstraints (l.map ConstraintText.text)).getD default) ↔
      ∃ k c, lastWith ConstraintText.labelKey l k = some c ∧ r = requirementOf k c.recorded := by
  rw [mem_recordRequirements]
  constructor
  · rintro ⟨key, constraint, hfind, rfl⟩
    obtain ⟨c, hlast, rfl⟩ := (exists_find_iff hl).mp ⟨key, rfl, hfind⟩
    exact ⟨_, c, hlast, rfl⟩
  · rintro ⟨k, c, hlast, rfl⟩
    obtain ⟨key, rfl, hfind⟩ := (exists_find_iff hl).mpr ⟨c, hlast, rfl⟩
    exact ⟨key, _, hfind, rfl⟩

/-- No requirement is about a label without constraints. -/
theorem forall_recordRequirements_ne {ord : ServiceOrder} {k : String} :
    (∀ r ∈ recordRequirements ord
        ((fromComposeConstraints (l.map ConstraintText.text)).getD default), r.key ≠ k) ↔
      lastWith ConstraintText.labelKey l k = none := by
  constructor
  · intro h
    by_contra hsome
    obtain ⟨c, hlast⟩ := Option.ne_none_iff_exists'.mp hsome
    exact h _ ((mem_recordRequirements_texts hl).mpr ⟨k, c, hlast, rfl⟩) rfl
  · rintro hnone r hr rfl
    obtain ⟨k, c, hlast, rfl⟩ := (mem_recordRequirements_texts hl).mp hr
    cases hnone.symm.trans hlast

/-- **The requirements of the term**: the last constraint on each label, and the defaults. -/
theorem mem_termRequirements {ord : ServiceOrder} {r : NodeSelectorRequirement} :
    r ∈ termRequirements ord l ↔
      (∃ k c, lastWith ConstraintText.labelKey l k = some c ∧ r = requirementOf k c.recorded) ∨
      (lastWith ConstraintText.labelKey l kubernetesOs = none ∧
        r = valueRequirement kubernetesOs "linux") ∨
      (lastWith ConstraintText.labelKey l kubernetesArch = none ∧
        r = valueRequirement kubernetesArch "amd64") := by
  unfold termRequirements
  set base := recordRequirements ord
    ((fromComposeConstraints (l.map ConstraintText.text)).getD default)
  -- the first default is not about the architecture
  have harch : (∀ r ∈ withDefaultRequirement kubernetesOs "linux" base, r.key ≠ kubernetesArch) ↔
      ∀ r ∈ base, r.key ≠ kubernetesArch := by
    simp only [mem_withDefaultRequirement]
    constructor
    · exact fun h r hr => h r (Or.inl hr)
    · rintro h r (hr | ⟨-, rfl⟩)
      · exact h r hr
      · show kubernetesOs ≠ kubernetesArch
        decide
  rw [mem_withDefaultRequirement, harch, mem_withDefaultRequirement,
    mem_recordRequirements_texts hl, forall_recordRequirements_ne hl,
    forall_recordRequirements_ne hl, or_assoc]

/-- **What the requirements ask of each label.** -/
theorem requirementsMet_iff (ord : ServiceOrder) (node : NodeLabels) :
    (∀ r ∈ termRequirements ord l, r.Holds (node.lookup r.key)) ↔
      ∀ k, Required l k (node.lookup k) := by
  unfold Required
  -- the requirements are those of the last constraints, and two defaults
  constructor
  · intro h k
    cases hlast : lastWith ConstraintText.labelKey l k with
    | some last =>
      exact holds_requirementOf.mp
        (h _ ((mem_termRequirements hl).mpr (Or.inl ⟨k, last, hlast, rfl⟩)))
    | none =>
      refine ⟨?_, ?_⟩
      · rintro rfl
        exact holds_valueRequirement.mp
          (h _ ((mem_termRequirements hl).mpr (Or.inr (Or.inl ⟨hlast, rfl⟩))))
      · rintro rfl
        exact holds_valueRequirement.mp
          (h _ ((mem_termRequirements hl).mpr (Or.inr (Or.inr ⟨hlast, rfl⟩))))
  · intro h r hr
    rcases (mem_termRequirements hl).mp hr with ⟨k, c, hlast, rfl⟩ | ⟨hnone, rfl⟩ | ⟨hnone, rfl⟩
    · have hk := h k
      rw [hlast] at hk
      exact holds_requirementOf.mpr hk
    · have hk := h kubernetesOs
      rw [hnone] at hk
      exact holds_valueRequirement.mpr (hk.1 rfl)
    · have hk := h kubernetesArch
      rw [hnone] at hk
      exact holds_valueRequirement.mpr (hk.2 rfl)

/-- There is always a requirement for the operating system. -/
theorem termRequirements_ne_nil (ord : ServiceOrder) : termRequirements ord l ≠ [] := by
  cases hlast : lastWith ConstraintText.labelKey l kubernetesOs with
  | some last =>
    exact List.ne_nil_of_mem ((mem_termRequirements hl).mpr (Or.inl ⟨_, last, hlast, rfl⟩))
  | none =>
    exact List.ne_nil_of_mem ((mem_termRequirements hl).mpr (Or.inr (Or.inl ⟨hlast, rfl⟩)))

theorem matches_termRequirements_iff (ord : ServiceOrder) (node : NodeLabels) :
    (nodeAffinity (termRequirements ord l)).Matches node ↔
      ∀ k, Required l k (node.lookup k) := by
  rw [← requirementsMet_iff hl ord]
  constructor
  · rintro ⟨term, hterm, -, hmet⟩
    obtain rfl := List.mem_singleton.mp hterm
    exact hmet
  · intro hmet
    exact ⟨_, List.mem_singleton.mpr rfl, termRequirements_ne_nil hl ord, hmet⟩

end Plain

/-- **The meaning of a list of constraints** is kept exactly when the last constraint on
each label is read as it is written and implies the others. -/
theorem toNodeAffinity_meaning_iff (ord : ServiceOrder) (l : List ConstraintText)
    (hl : ∀ c ∈ l, c.Plain) :
    ∃ affinity, toNodeAffinity ord (fromComposeConstraints (l.map ConstraintText.text)) =
        .ok affinity ∧
      ((∀ node, affinity.Matches node ↔ SatisfiesAll l node) ↔ LastImpliesAll l) := by
  refine ⟨_, toNodeAffinity_texts hl ord, ?_⟩
  -- some node matches, so the two meanings agree on all nodes only label by label
  obtain ⟨node, hnode⟩ := exists_required l
  simp only [matches_termRequirements_iff hl ord, satisfiesAll_iff]
  rw [forall_lookup_congr_iff hnode, lastImpliesAll_iff]

/-- The constraint `node.hostname != name`. -/
def notOn (name : String) : ConstraintText where
  key := .hostname
  before := [' ']
  operator := .notEqual
  after := [' ']
  value := name
  before_blank := forall_mem_space
  after_blank := forall_mem_space

/-- The constraint `node.hostname == name`. -/
def onHost (name : String) : ConstraintText := { notOn name with operator := .equal }

/-- Two constraints on the host, of which the last implies the first, and one on a label. -/
def pinnedHost : List ConstraintText := [notOn "a", securityHigh, onHost "b"]

theorem lastImpliesAll_pinnedHost : LastImpliesAll pinnedHost := by
  intro c hc last hlast
  simp only [pinnedHost, List.mem_cons, List.not_mem_nil, or_false] at hc
  rcases hc with rfl | rfl | rfl
  · obtain rfl : onHost "b" = last := Option.some.inj hlast
    exact ⟨by decide, (by decide : "a" ≠ "b")⟩
  · obtain rfl : securityHigh = last := Option.some.inj hlast
    exact ⟨by decide, rfl⟩
  · obtain rfl : onHost "b" = last := Option.some.inj hlast
    exact ⟨by decide, rfl⟩

/-- The list keeps its meaning. -/
theorem toNodeAffinity_meaning_pinnedHost :
    ∃ affinity, toNodeAffinity (RangeOrder.ascending RangeLoop)
        (fromComposeConstraints ["node.hostname != a", "node.labels.security == high",
          "node.hostname == b"]) = .ok affinity ∧
      ∀ node, affinity.Matches node ↔ SatisfiesAll pinnedHost node := by
  have hplain : ∀ c ∈ pinnedHost, c.Plain := by
    intro c hc
    simp only [pinnedHost, List.mem_cons, List.not_mem_nil, or_false] at hc
    rcases hc with rfl | rfl | rfl
    · exact ⟨fun l hl => (by cases hl), by decide⟩
    · refine ⟨fun l hl => ?_, by decide⟩
      cases hl
      decide
    · exact ⟨fun l hl => (by cases hl), by decide⟩
  obtain ⟨affinity, hok, hmeaning⟩ :=
    toNodeAffinity_meaning_iff (RangeOrder.ascending RangeLoop) pinnedHost hplain
  exact ⟨affinity, hok, hmeaning.mpr lastImpliesAll_pinnedHost⟩

/-- A node for the defaults with a host name. -/
def linuxNode (name : String) : NodeLabels :=
  Map.set (Map.set (Map.set ∅ kubernetesOs (some "linux")) kubernetesArch (some "amd64"))
    kubernetesHostname (some name)

/-- **An exclusion is lost**: of two excluded hosts only the second is excluded. -/
theorem toNodeAffinity_exclusion_lost :
    [notOn "a", notOn "b"].map ConstraintText.text =
        ["node.hostname != a", "node.hostname != b"] ∧
      ∃ affinity, toNodeAffinity (RangeOrder.ascending RangeLoop)
          (fromComposeConstraints ["node.hostname != a", "node.hostname != b"]) = .ok affinity ∧
        affinity.Matches (linuxNode "a") ∧
        ¬SatisfiesAll [notOn "a", notOn "b"] (linuxNode "a") := by
  refine ⟨by decide, nodeAffinity [
    { key := kubernetesHostname, operator := .notIn, values := some ["b"] },
    { key := kubernetesOs, operator := .in_, values := some ["linux"] },
    { key := kubernetesArch, operator := .in_, values := some ["amd64"] }], by decide, ?_, ?_⟩
  · -- only the second exclusion is left, which the node satisfies
    refine ⟨_, List.mem_singleton.mpr rfl, by decide, ?_⟩
    have hhostname : (linuxNode "a").lookup kubernetesHostname = some "a" := by decide
    have hos : (linuxNode "a").lookup kubernetesOs = some "linux" := by decide
    have harch : (linuxNode "a").lookup kubernetesArch = some "amd64" := by decide
    intro r hr
    rcases List.mem_cons.mp hr with rfl | hr
    · rintro value hvalue hmem
      obtain rfl := Option.some.inj (hhostname.symm.trans hvalue)
      exact absurd hmem (by decide)
    rcases List.mem_cons.mp hr with rfl | hr
    · exact ⟨"linux", hos, List.mem_singleton.mpr rfl⟩
    · obtain rfl := List.mem_singleton.mp hr
      exact ⟨"amd64", harch, List.mem_singleton.mpr rfl⟩
  · intro h
    exact h.constraints (notOn "a") (List.mem_cons_self ..) (by decide)

end ComposeKube
