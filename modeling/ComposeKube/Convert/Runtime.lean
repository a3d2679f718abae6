import ComposeKube.Lib.Data
import ComposeKube.Lib.Strings
import ComposeKube.Api.Compose

/-!
# What the conversion takes from its surroundings

`package convert` is deterministic but for the order in which Go visits maps
and the order in which `sort.Slice` leaves services of one name. It calls three
functions whose results it uses as they are: `resource.ParseQuantity`,
`Duration.Seconds` (a float64, truncated) and `strings.ToLower`. All of them
are fields of `Runtime`; the properties below are what their documentation
promises.
-/

namespace ComposeKube

open Go

/-- The loops of the conversion that range over a map. -/
inductive RangeLoop where
  /-- the inner loop of `mergeLabels`, for its first or second argument -/
  | labels (argument : Nat)
  /-- the loop of `toEnv` -/
  | environment
  /-- the loop of `toHostAliases` that groups host names by address -/
  | byHostnames
  /-- the loop of `toHostAliases` that builds the aliases -/
  | byIPs
  /-- the loop of `toNodeAffinity` over the node labels -/
  | matchLabels
  deriving DecidableEq

/-- The order in which one conversion of one service visits its maps. -/
abbrev ServiceOrder := RangeOrder RangeLoop

structure Runtime where
  /-- the iteration orders, for each service by its position in the sorted list -/
  order : Nat → ServiceOrder
  /-- `sort.Slice` by service name; it is not stable -/
  sortServices : List Latest.ServiceConfig → List Latest.ServiceConfig
  sortServices_perm : ∀ l, (sortServices l).Perm l
  sortServices_sorted : ∀ l, (sortServices l).Pairwise fun a b => a.name ≤ b.name
  /-- `resource.ParseQuantity` -/
  parseQuantity : String → Except String Quantity
  /-- `int64(duration.Seconds())` -/
  seconds : Int64 → Int64
  /-- `int32(duration.Seconds())` -/
  seconds32 : Int64 → Int32
  /-- `strings.ToLower` -/
  toLower : String → String
  toLower_ascii : ∀ s : String, (∀ c ∈ s.toList, c.toNat < 128) → toLower s = asciiLower s

namespace Runtime

variable (rt : Runtime)

/-- With distinct names the sorted order is unique, so sorting twice is sorting once. -/
theorem sortServices_idem {l : List Latest.ServiceConfig} (hnames : (l.map (·.name)).Nodup) :
    rt.sortServices (rt.sortServices l) = rt.sortServices l := by
  have hnames' : ((rt.sortServices (rt.sortServices l)).map (·.name)).Nodup :=
    (((rt.sortServices_perm _).trans (rt.sortServices_perm l)).map _).nodup_iff.mpr hnames
  exact eq_of_perm_of_sorted (·.name) (rt.sortServices_perm _) hnames'
    (rt.sortServices_sorted _) (rt.sortServices_sorted _)

/-- A runtime: maps are visited in ascending order, the sort is stable,
quantities are whole numbers, and durations are truncated to whole seconds. -/
def reference : Runtime where
  order _ := RangeOrder.ascending RangeLoop
  sortServices := sortBy (·.name)
  sortServices_perm := sortBy_perm _
  sortServices_sorted := sortBy_pairwise _
  parseQuantity s :=
    match parseInt64 s with
    | some n => .ok { nanos := n.toInt * 10 ^ 9, encoding := s }
    | none => .error "unable to parse quantity's suffix"
  seconds d := d / 1000000000
  seconds32 d := (d / 1000000000).toInt32
  toLower := asciiLower
  toLower_ascii _ _ := rfl

end Runtime

end ComposeKube
