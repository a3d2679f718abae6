import ComposeKube.Lib.Fallible
import ComposeKube.Convert.Runtime

/-!
# Placement constraints

`placement.go`: node constraints become the required terms of a node affinity.
The requirements appear in the order in which they are appended: operating
system, architecture, host name, then the node labels in the order in which
the loop over `MatchLabels` visits them, then the defaults. Nothing sorts them
afterwards.
-/

namespace ComposeKube

open Go

def kubernetesOs : String := "beta.kubernetes.io/os"

def kubernetesArch : String := "beta.kubernetes.io/arch"

def kubernetesHostname : String := "kubernetes.io/hostname"

/-- `toRequirementOperator`. -/
def toRequirementOperator (sign : String) : Except String NodeSelectorOperator :=
  if sign = "==" then .ok .in_
  else if sign = "!=" then .ok .notIn
  else if sign = ">" then .ok .gt
  else if sign = "<" then .ok .lt
  else .error ("operator " ++ sign ++ " not supported")

/-- The requirement that one constraint becomes. -/
def toRequirement (key : String) (constraint : Latest.Constraint) :
    Except String NodeSelectorRequirement := do
  let operator ← toRequirementOperator constraint.operator
  return { key, operator, values := some [constraint.value] }

/-- An optional constraint appends one requirement or none. -/
def toRequirements (key : String) (constraint : Option Latest.Constraint) :
    Except String (List NodeSelectorRequirement) :=
  match constraint with
  | none => .ok []
  | some constraint => do return [← toRequirement key constraint]

/-- `hasRequirement`. -/
def hasRequirement (requirements : List NodeSelectorRequirement) (key : String) : Bool :=
  requirements.any fun r => r.key = key

/-- The default that is appended when no requirement names `key`. -/
def withDefaultRequirement (key value : String) (requirements : List NodeSelectorRequirement) :
    List NodeSelectorRequirement :=
  if hasRequirement requirements key then requirements
  else requirements ++ [{ key, operator := .in_, values := some [value] }]

/-- The affinity around a list of requirements. -/
def nodeAffinity (requirements : List NodeSelectorRequirement) : Affinity :=
  { (default : Affinity) with
    requiredNodeSelectorTerms :=
      some (some [{ (default : NodeSelectorTerm) with matchExpressions := some requirements }]) }

/-- `toNodeAffinity`; the result is never nil. -/
def toNodeAffinity (ord : ServiceOrder) (constraints : Option Latest.Constraints) :
    Except String Affinity := do
  let constraints := constraints.getD default
  let os ← toRequirements kubernetesOs constraints.operatingSystem
  let arch ← toRequirements kubernetesArch constraints.architecture
  let hostname ← toRequirements kubernetesHostname constraints.hostname
  let matchLabels ← (ord.range .matchLabels constraints.matchLabels.entries).mapM
    fun e => toRequirement e.1 e.2
  let requirements := os ++ arch ++ hostname ++ matchLabels
  let requirements := withDefaultRequirement kubernetesOs "linux" requirements
  let requirements := withDefaultRequirement kubernetesArch "amd64" requirements
  return nodeAffinity requirements

/-! ## Dependence on the order of the node labels -/

theorem nodeAffinity_injective {r r' : List NodeSelectorRequirement}
    (h : nodeAffinity r = nodeAffinity r') : r = r' := by
  simpa [nodeAffinity] using h

theorem hasRequirement_perm {r r' : List NodeSelectorRequirement} (h : r.Perm r') (key : String) :
    hasRequirement r key = hasRequirement r' key := by
  unfold hasRequirement
  rw [Bool.eq_iff_iff, List.any_eq_true, List.any_eq_true]
  simp only [h.mem_iff]

/-- The default goes at the end, whatever the order of the rest. -/
theorem withDefaultRequirement_eq (key value : String) (r : List NodeSelectorRequirement) :
    ∃ tail, ∀ r', r'.Perm r → withDefaultRequirement key value r' = r' ++ tail := by
  by_cases h : hasRequirement r key = true
  · refine ⟨[], fun r' hperm => ?_⟩
    rw [withDefaultRequirement, hasRequirement_perm hperm, if_pos h, List.append_nil]
  · refine ⟨[{ key, operator := .in_, values := some [value] }], fun r' hperm => ?_⟩
    rw [withDefaultRequirement, hasRequirement_perm hperm, if_neg h]

/-- A successful conversion is a fixed head, the node labels' requirements in
the order of their loop, and a fixed tail. Every other order succeeds with the
same head and tail. -/
theorem toNodeAffinity_eq_ok {ord : ServiceOrder} {constraints : Option Latest.Constraints}
    {affinity : Affinity} (h : toNodeAffinity ord constraints = .ok affinity) :
    ∃ head tail, ∀ ord' : ServiceOrder,
      ∃ labels, ((ord'.range .matchLabels (constraints.getD default).matchLabels.entries).mapM
          fun e => toRequirement e.1 e.2) = .ok labels ∧
        toNodeAffinity ord' constraints = .ok (nodeAffinity (head ++ labels ++ tail)) := by
  unfold toNodeAffinity at h
  obtain ⟨os, hos, h⟩ := bind_eq_ok.mp h
  obtain ⟨arch, harch, h⟩ := bind_eq_ok.mp h
  obtain ⟨hostname, hhostname, h⟩ := bind_eq_ok.mp h
  obtain ⟨labels, hlabels, -⟩ := bind_eq_ok.mp h
  -- both defaults are appended or not for all orders alike
  obtain ⟨tail, htail⟩ := withDefaultRequirement_eq kubernetesOs "linux"
    (os ++ arch ++ hostname ++ labels)
  obtain ⟨tail', htail'⟩ := withDefaultRequirement_eq kubernetesArch "amd64"
    (os ++ arch ++ hostname ++ labels ++ tail)
  refine ⟨os ++ arch ++ hostname, tail ++ tail', fun ord' => ?_⟩
  obtain ⟨labels', hlabels', hperm⟩ := mapM_perm (ord.range_perm ord' _ _ _) hlabels
  have hperm' : (os ++ arch ++ hostname ++ labels').Perm (os ++ arch ++ hostname ++ labels) :=
    hperm.symm.append_left _
  refine ⟨labels', hlabels', ?_⟩
  unfold toNodeAffinity
  simp only [hos, harch, hhostname, hlabels', ok_bind]
  rw [htail _ hperm', htail' _ (hperm'.append_right tail), List.append_assoc _ tail tail']
  rfl

/-- Whether the conversion succeeds does not depend on the order. -/
theorem toNodeAffinity_ok_iff_order (ord ord' : ServiceOrder)
    (constraints : Option Latest.Constraints) :
    (∃ a, toNodeAffinity ord constraints = .ok a) ↔
      ∃ a, toNodeAffinity ord' constraints = .ok a := by
  constructor
  · rintro ⟨a, h⟩
    obtain ⟨_, _, hall⟩ := toNodeAffinity_eq_ok h
    obtain ⟨_, _, hok⟩ := hall ord'
    exact ⟨_, hok⟩
  · rintro ⟨a, h⟩
    obtain ⟨_, _, hall⟩ := toNodeAffinity_eq_ok h
    obtain ⟨_, _, hok⟩ := hall ord
    exact ⟨_, hok⟩

/-- With at most one node label the order does not matter. -/
theorem toNodeAffinity_of_atMostOne (ord ord' : ServiceOrder)
    {constraints : Option Latest.Constraints}
    (h : (constraints.getD default).matchLabels.entries.AtMostOne) :
    toNodeAffinity ord constraints = toNodeAffinity ord' constraints := by
  have hrange := ord.range_eq_of_atMostOne ord' .matchLabels h
  simp only [toNodeAffinity, hrange]

theorem toRequirement_keys {l : List (String × Latest.Constraint)}
    {r : List NodeSelectorRequirement} (h : (l.mapM fun e => toRequirement e.1 e.2) = .ok r) :
    r.map (·.key) = l.map Prod.fst := by
  induction mapM_eq_ok_iff.mp h with
  | nil => rfl
  | cons he hrest ih =>
    obtain ⟨operator, -, hret⟩ := bind_eq_ok.mp he
    obtain rfl := pure_eq_ok.mp hret
    rw [List.map_cons, List.map_cons, ih (mapM_eq_ok_iff.mpr hrest)]

/-- **With two node labels it does**: the affinity lists them in the order in
which they are visited. -/
theorem atMostOne_of_toNodeAffinity {constraints : Option Latest.Constraints} {affinity : Affinity}
    (hup : toNodeAffinity (RangeOrder.ascending _) constraints = .ok affinity)
    (hdown : toNodeAffinity (RangeOrder.descending _) constraints = .ok affinity) :
    (constraints.getD default).matchLabels.entries.AtMostOne := by
  obtain ⟨head, tail, hall⟩ := toNodeAffinity_eq_ok hup
  obtain ⟨labels, hlabels, hok⟩ := hall (RangeOrder.ascending _)
  obtain ⟨labels', hlabels', hok'⟩ := hall (RangeOrder.descending _)
  have heq : nodeAffinity (head ++ labels ++ tail) = nodeAffinity (head ++ labels' ++ tail) := by
    have h := Except.ok.inj (hup.symm.trans hok)
    have h' := Except.ok.inj (hdown.symm.trans hok')
    rw [← h, ← h']
  have hsame : labels = labels' :=
    List.append_cancel_left (List.append_cancel_right (nodeAffinity_injective heq))
  refine Map.atMostOne_of_ascending ?_
  have hkeys := toRequirement_keys hlabels
  rw [hsame] at hkeys
  exact hkeys.symm.trans (toRequirement_keys hlabels')

end ComposeKube
