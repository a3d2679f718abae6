import ComposeKube.Lib.Data
import ComposeKube.Lib.History
import ComposeKube.Lib.Polling

/-!
# Waiting for the end of an uninstallation

`WaitForUninstallCompletion` of `uninstall.go` runs one waiter after the other. A waiter
lists what it waits for, again and again, until nothing is left, a list fails or the
context is done. The next installation starts as soon as all of them have returned.

The cluster changes while the waiters look at it, and the context may be done at any
moment. Time is counted in lists and sleeps, and the answer to a list is any function of
the moment.

All waiters but one go round again when a list is not empty. The waiter for the
aggregated API looks through the list for its own label. It sleeps where it finds one,
but its `continue` is that of the loop over the list, and so it always returns after its
first list.

* `passChecks_ok`, `waitForNoAPIAggregation_ok` — what a waiter has seen when it returns
  without an error.
* `waitForUninstallCompletion_clean_iff` — when this is the end of the uninstallation.
* `waitForUninstallCompletion_returns` — a context that expires ends the wait.
-/

namespace ComposeKube

open Go History Polling

/-! ## Lists -/

def fryKey : String := "com.docker.fry"

def composeFry : String := "compose"

def composeAPIServerFry : String := "compose.api"

def everythingSelector : String :=
  fryKey ++ " in (" ++ composeFry ++ ", " ++ composeAPIServerFry ++ ")"

/-- The client sets, made with `NewForConfig`. -/
inductive ClientSet where
  | apps
  | rbac
  | aggregator
  | core
  | apiextensions
  deriving DecidableEq

inductive ListedResource where
  | deployments
  | clusterRoleBindings
  | clusterRoles
  | roleBindings
  | apiServices
  | secrets
  | services
  | serviceAccounts
  | customResourceDefinitions
  deriving DecidableEq

/-- A `List`; cluster-wide resources have no namespace. -/
structure ListRequest where
  resource : ListedResource
  namespace_ : Option String
  labelSelector : String
  deriving DecidableEq

/-- An item of a list, as far as it is looked at. -/
structure ListedItem where
  labels : MapRef String

/-- An error of a client; `notFound` is what `IsNotFound` says. -/
structure ClientError where
  notFound : Bool
  message : String

abbrev ListAnswer := Except ClientError (List ListedItem)

/-- The errors of a waiter. -/
inductive WaitError where
  | deadlineExceeded
  | client (err : ClientError)

/-- What the waiters meet: the client sets, the answer to a list at each moment, and the
moment at which the context is done. -/
structure UninstallEnv where
  newForConfig : ClientSet → Option ClientError
  list : Nat → ListRequest → ListAnswer
  expiry : Option Nat

/-- Where a waiter is: the moment, and the lists that it has made, with their answers. -/
structure Watch where
  clock : Nat
  lists : List (ListRequest × ListAnswer)

namespace UninstallEnv

variable (env : UninstallEnv)

/-- `isDone`. -/
def isDone (w : Watch) : Bool :=
  match env.expiry with
  | none => false
  | some moment => moment ≤ w.clock

/-- The watch after a list. -/
def listed (request : ListRequest) (w : Watch) : Watch where
  clock := w.clock + 1
  lists := w.lists ++ [(request, env.list w.clock request)]

end UninstallEnv

/-- `time.Sleep`. -/
def Watch.sleep (w : Watch) : Watch := { w with clock := w.clock + 1 }

/-! ## Waiters -/

/-- One of the lists that a waiter makes in a pass. -/
structure ListCheck where
  request : ListRequest
  /-- A list that is not found ends the wait. -/
  notFoundEnds : Bool

/-- The lists of a pass, in their order; `none` goes round again. -/
def passChecks (env : UninstallEnv) :
    List ListCheck → Watch → Option (Except WaitError Unit) × Watch
  | [], w => (some (.ok ()), w)
  | check :: rest, w =>
    let w' := env.listed check.request w
    match env.list w.clock check.request with
    | .error err =>
      if check.notFoundEnds && err.notFound then (some (.ok ()), w')
      else (some (.error (.client err)), w')
    | .ok items => if items.length > 0 then (none, w'.sleep) else passChecks env rest w'

/-- A pass begins with a look at the context. -/
def passUnlessDone (env : UninstallEnv)
    (pass : Watch → Option (Except WaitError Unit) × Watch) (w : Watch) :
    Option (Except WaitError Unit) × Watch :=
  if env.isDone w then (some (.error .deadlineExceeded), w) else pass w

/-- A waiter: it makes its client set, and then pass after pass. -/
def waitWith (env : UninstallEnv) (clientSet : ClientSet)
    (pass : Watch → Option (Except WaitError Unit) × Watch) (fuel : Nat) (w : Watch) :
    Option (Except WaitError Unit × Watch) :=
  match env.newForConfig clientSet with
  | some err => some (.error (.client err), w)
  | none => poll (passUnlessDone env pass) fuel w

/-- A list with `listOptions`. -/
def selectedRequest (resource : ListedResource) (ns : Option String) : ListRequest where
  resource := resource
  namespace_ := ns
  labelSelector := everythingSelector

def noCrdChecks : List ListCheck := [⟨selectedRequest .customResourceDefinitions none, false⟩]

def noAppsChecks (ns : String) : List ListCheck := [⟨selectedRequest .deployments (some ns), false⟩]

/-- Without RBAC the first list is not found. -/
def noRbacChecks : List ListCheck :=
  [⟨selectedRequest .clusterRoleBindings none, true⟩, ⟨selectedRequest .clusterRoles none, false⟩,
    ⟨selectedRequest .roleBindings (some "kube-system"), false⟩]

def noCoreComponentsChecks (ns : String) : List ListCheck :=
  [⟨selectedRequest .secrets (some ns), false⟩, ⟨selectedRequest .services (some ns), false⟩,
    ⟨selectedRequest .serviceAccounts (some ns), false⟩]

/-- `waitForNoCrd`. -/
def waitForNoCrd (env : UninstallEnv) : Nat → Watch → Option (Except WaitError Unit × Watch) :=
  waitWith env .apiextensions (passChecks env noCrdChecks)

/-- `waitForNoApps`. -/
def waitForNoApps (env : UninstallEnv) (ns : String) :
    Nat → Watch → Option (Except WaitError Unit × Watch) :=
  waitWith env .apps (passChecks env (noAppsChecks ns))

/-- `waitForNoRbac`. -/
def waitForNoRbac (env : UninstallEnv) : Nat → Watch → Option (Except WaitError Unit × Watch) :=
  waitWith env .rbac (passChecks env noRbacChecks)

/-- `waitForNoCoreComponents`. -/
def waitForNoCoreComponents (env : UninstallEnv) (ns : String) :
    Nat → Watch → Option (Except WaitError Unit × Watch) :=
  waitWith env .core (passChecks env (noCoreComponentsChecks ns))

def apiServicesRequest : ListRequest where
  resource := .apiServices
  namespace_ := none
  labelSelector := ""

/-- `apisvc.Labels[fryKey] == composeAPIServerFry`. -/
def isComposeAPIService (item : ListedItem) : Bool :=
  item.labels.get? fryKey = some composeAPIServerFry

/-- The pass of `waitForNoAPIAggregation`. The inner loop goes on after each sleep, and
the pass returns after it. -/
def passAPIAggregation (env : UninstallEnv) (w : Watch) : Option (Except WaitError Unit) × Watch :=
  let w' := env.listed apiServicesRequest w
  match env.list w.clock apiServicesRequest with
  | .error err => (some (.error (.client err)), w')
  | .ok items =>
    (some (.ok ()), items.foldl (fun w item => if isComposeAPIService item then w.sleep else w) w')

/-- `waitForNoAPIAggregation`. -/
def waitForNoAPIAggregation (env : UninstallEnv) :
    Nat → Watch → Option (Except WaitError Unit × Watch) :=
  waitWith env .aggregator (passAPIAggregation env)

/-! ## All waiters -/

inductive UninstallWaiter where
  | noApps
  | noRbac
  | noAPIAggregation
  | noCoreComponents
  | noCrd
  deriving DecidableEq

def UninstallWaiter.wait (env : UninstallEnv) (ns : String) :
    UninstallWaiter → Nat → Watch → Option (Except WaitError Unit × Watch)
  | noApps => waitForNoApps env ns
  | noRbac => waitForNoRbac env
  | noAPIAggregation => waitForNoAPIAggregation env
  | noCoreComponents => waitForNoCoreComponents env ns
  | noCrd => waitForNoCrd env

/-- The waiters of `WaitForUninstallCompletion`. -/
def uninstallWaiters (skipCRD : Bool) : List UninstallWaiter :=
  [.noApps, .noRbac, .noAPIAggregation, .noCoreComponents] ++ if !skipCRD then [.noCrd] else []

/-- A waiter that has returned, with the lists that it has made. -/
structure WaiterRun where
  waiter : UninstallWaiter
  lists : List (ListRequest × ListAnswer)

/-- The loop of `WaitForUninstallCompletion`: the waiters that ran, and the error. -/
def runWaiters (env : UninstallEnv) (ns : String) (fuel : Nat) :
    List UninstallWaiter → Nat → Option (List WaiterRun × Except WaitError Unit)
  | [], _ => some ([], .ok ())
  | waiter :: rest, clock => do
    let (result, w) ← waiter.wait env ns fuel { clock, lists := [] }
    let run : WaiterRun := { waiter, lists := w.lists }
    match result with
    | .error err => return ([run], .error err)
    | .ok () =>
      let (runs, result) ← runWaiters env ns fuel rest w.clock
      return (run :: runs, result)

/-- `WaitForUninstallCompletion`. -/
def waitForUninstallCompletion (env : UninstallEnv) (ns : String) (skipCRD : Bool) (fuel : Nat) :
    Option (List WaiterRun × Except WaitError Unit) :=
  runWaiters env ns fuel (uninstallWaiters skipCRD) 0

/-! ## The end of an uninstallation -/

/-- What an uninstallation is about: what `everythingSelector` selects, and the API
services that it deletes. -/
def ListedItem.ComposeLabelled (resource : ListedResource) (item : ListedItem) : Prop :=
  match resource with
  | .apiServices => isComposeAPIService item = true
  | _ => item.labels.get? fryKey = some composeFry ∨
      item.labels.get? fryKey = some composeAPIServerFry

/-- The last list of its kind had this answer. -/
def LastList (lists : List (ListRequest × ListAnswer)) (request : ListRequest)
    (answer : ListAnswer) : Prop :=
  Since (· = (request, answer)) (fun l => l.1 = request) lists

/-- The lists that a waiter makes. -/
def UninstallWaiter.requests (ns : String) : UninstallWaiter → List ListRequest
  | noApps => (noAppsChecks ns).map (·.request)
  | noRbac => noRbacChecks.map (·.request)
  | noAPIAggregation => [apiServicesRequest]
  | noCoreComponents => (noCoreComponentsChecks ns).map (·.request)
  | noCrd => noCrdChecks.map (·.request)

/-- A waiter that has returned has seen the end: nothing was left in the last list of
each kind, or there is no RBAC. -/
def WaiterRun.Clean (ns : String) (run : WaiterRun) : Prop :=
  (∀ request ∈ run.waiter.requests ns, ∃ items, LastList run.lists request (.ok items) ∧
    ∀ item ∈ items, ¬item.ComposeLabelled request.resource) ∨
  run.waiter = .noRbac ∧ ∃ err, err.notFound = true ∧
    LastList run.lists (selectedRequest .clusterRoleBindings none) (.error err)

/-! ## One waiter -/

theorem lastList_append_singleton (lists : List (ListRequest × ListAnswer)) (request : ListRequest)
    (answer : ListAnswer) : LastList (lists ++ [(request, answer)]) request answer :=
  since_snoc.mpr (Or.inl rfl)

/-- A pass that ends well has found all lists empty, or has met one that is not found and
for which this is an end. -/
theorem passChecks_ok {env : UninstallEnv} {checks : List ListCheck} {w w' : Watch}
    (h : passChecks env checks w = (some (.ok ()), w')) :
    w'.lists = w.lists ++ checks.map (fun c => (c.request, .ok [])) ∨
      ∃ check ∈ checks, check.notFoundEnds = true ∧
        ∃ err, err.notFound = true ∧ LastList w'.lists check.request (.error err) := by
  induction checks generalizing w with
  | nil =>
    cases h
    exact Or.inl (List.append_nil _).symm
  | cons check rest ih =>
    unfold passChecks at h
    cases hlist : env.list w.clock check.request with
    | error err =>
      simp only [hlist] at h
      split at h
      · -- not found, which ends the wait for this list and for the others
        next hends =>
        rw [Bool.and_eq_true] at hends
        cases h
        refine Or.inr ⟨check, List.mem_cons_self .., hends.1, err, hends.2, ?_⟩
        rw [← hlist]
        exact lastList_append_singleton ..
      · cases h
    | ok items =>
      simp only [hlist] at h
      split at h
      · cases h
      · -- an empty list; the checks go on
        next hempty =>
        obtain rfl : items = [] := List.eq_nil_of_length_eq_zero (by omega)
        rcases ih h with hlists | ⟨check', hcheck', hrest⟩
        · refine Or.inl ?_
          rw [hlists, UninstallEnv.listed, hlist, List.append_assoc]
          rfl
        · exact Or.inr ⟨check', List.mem_cons_of_mem _ hcheck', hrest⟩

/-- The lists of one pass are the last ones of their kinds. -/
theorem lastList_of_pass {lists : List (ListRequest × ListAnswer)} {checks : List ListCheck}
    (hnodup : (checks.map (·.request)).Nodup) {check : ListCheck} (hcheck : check ∈ checks) :
    LastList (lists ++ checks.map fun c => (c.request, .ok [])) check.request (.ok []) := by
  obtain ⟨before, after, rfl⟩ := List.append_of_mem hcheck
  refine ⟨lists ++ before.map (fun c => (c.request, .ok [])), _,
    after.map (fun c => (c.request, .ok [])), by simp, rfl, ?_⟩
  intro l hl hrequest
  obtain ⟨other, hother, rfl⟩ := List.mem_map.mp hl
  rw [List.map_append, List.map_cons, List.nodup_append] at hnodup
  refine (List.nodup_cons.mp hnodup.2.1).1 ?_
  rw [← hrequest]
  exact List.mem_map_of_mem hother

/-- A waiter that returns without an error does so in a pass. -/
theorem waitWith_ok {env : UninstallEnv} {clientSet : ClientSet}
    {pass : Watch → Option (Except WaitError Unit) × Watch} {I : Watch → Prop}
    (hpass : ∀ w w', I w → pass w = (none, w') → I w') {fuel : Nat} {w w' : Watch}
    (hw : I w) (h : waitWith env clientSet pass fuel w = some (.ok (), w')) :
    ∃ w₀, I w₀ ∧ pass w₀ = (some (.ok ()), w') := by
  unfold waitWith at h
  split at h
  · cases h
  · have hpass' : ∀ w w', I w → passUnlessDone env pass w = (none, w') → I w' := by
      intro w w' hw hp
      unfold passUnlessDone at hp
      split at hp
      · cases hp
      · exact hpass w w' hw hp
    obtain ⟨w₀, hw₀, hlast⟩ := poll_last hpass' hw h
    unfold passUnlessDone at hlast
    split at hlast
    · cases hlast
    · exact ⟨w₀, hw₀, hlast⟩

theorem waitWith_passChecks_ok {env : UninstallEnv} {clientSet : ClientSet}
    {checks : List ListCheck} (hnodup : (checks.map (·.request)).Nodup) {fuel : Nat} {w w' : Watch}
    (h : waitWith env clientSet (passChecks env checks) fuel w = some (.ok (), w')) :
    (∀ check ∈ checks, LastList w'.lists check.request (.ok [])) ∨
      ∃ check ∈ checks, check.notFoundEnds = true ∧
        ∃ err, err.notFound = true ∧ LastList w'.lists check.request (.error err) := by
  obtain ⟨w₀, -, hpass⟩ := waitWith_ok (I := fun _ => True) (fun _ _ _ _ => trivial) trivial h
  rcases passChecks_ok hpass with hlists | hend
  · refine Or.inl fun check hcheck => ?_
    rw [hlists]
    exact lastList_of_pass hnodup hcheck
  · exact Or.inr hend

theorem lists_foldl_sleep (items : List ListedItem) (w : Watch) :
    (items.foldl (fun w item => if isComposeAPIService item then w.sleep else w) w).lists =
      w.lists := by
  induction items generalizing w with
  | nil => rfl
  | cons item rest ih =>
    rw [List.foldl_cons, ih]
    split <;> rfl

/-- The waiter for the aggregated API returns after the list that it makes when it starts,
whatever is in it. -/
theorem waitForNoAPIAggregation_ok {env : UninstallEnv} {fuel clock : Nat} {w' : Watch}
    (h : waitForNoAPIAggregation env fuel ⟨clock, []⟩ = some (.ok (), w')) :
    ∃ items, env.list clock apiServicesRequest = .ok items ∧
      w'.lists = [(apiServicesRequest, .ok items)] := by
  -- no pass goes round again, so that the last pass is the first
  have hpass : ∀ w w', w = ⟨clock, []⟩ → passAPIAggregation env w = (none, w') →
      w' = (⟨clock, []⟩ : Watch) := by
    intro w w' _ hp
    unfold passAPIAggregation at hp
    dsimp only at hp
    split at hp <;> cases hp
  obtain ⟨w₀, rfl, hlast⟩ := waitWith_ok hpass rfl h
  unfold passAPIAggregation at hlast
  cases hlist : env.list clock apiServicesRequest with
  | error err =>
    simp only [hlist] at hlast
    cases hlast
  | ok items =>
    simp only [hlist] at hlast
    cases hlast
    refine ⟨items, rfl, ?_⟩
    rw [lists_foldl_sleep, UninstallEnv.listed, hlist]
    rfl

/-! ## Each waiter -/

theorem clean_of_lastList {ns : String} {run : WaiterRun}
    (h : ∀ request ∈ run.waiter.requests ns, LastList run.lists request (.ok [])) :
    run.Clean ns :=
  Or.inl fun request hrequest => ⟨[], h request hrequest, nofun⟩

/-- A waiter whose lists are all looked at has seen the end when it returns. -/
theorem clean_of_checks {env : UninstallEnv} {ns : String} {clientSet : ClientSet}
    (checks : List ListCheck) {waiter : UninstallWaiter} {fuel : Nat} {w w' : Watch}
    (hrequests : waiter.requests ns = checks.map (·.request))
    (hnodup : (checks.map (·.request)).Nodup)
    (hends : ∀ check ∈ checks, check.notFoundEnds = true →
      waiter = .noRbac ∧ check.request = selectedRequest .clusterRoleBindings none)
    (h : waitWith env clientSet (passChecks env checks) fuel w = some (.ok (), w')) :
    WaiterRun.Clean ns { waiter, lists := w'.lists } := by
  rcases waitWith_passChecks_ok hnodup h with hall | ⟨check, hcheck, hend, err, herr, hlast⟩
  · refine clean_of_lastList fun request hrequest => ?_
    rw [hrequests] at hrequest
    obtain ⟨check, hcheck, rfl⟩ := List.mem_map.mp hrequest
    exact hall check hcheck
  · obtain ⟨hwaiter, hrequest⟩ := hends check hcheck hend
    rw [hrequest] at hlast
    exact Or.inr ⟨hwaiter, err, herr, hlast⟩

/-- **The waiters that go round again return at the end.** -/
theorem clean_of_wait {env : UninstallEnv} {ns : String} {waiter : UninstallWaiter} {fuel : Nat}
    {w w' : Watch} (hwaiter : waiter ≠ .noAPIAggregation)
    (h : waiter.wait env ns fuel w = some (.ok (), w')) :
    WaiterRun.Clean ns { waiter, lists := w'.lists } := by
  cases waiter with
  | noAPIAggregation => exact absurd rfl hwaiter
  | noApps =>
    exact clean_of_checks (noAppsChecks ns) rfl (by simp [noAppsChecks]) (by simp [noAppsChecks]) h
  | noRbac => exact clean_of_checks noRbacChecks rfl (by decide) (by simp [noRbacChecks]) h
  | noCoreComponents =>
    exact clean_of_checks (noCoreComponentsChecks ns) rfl
      (by simp [noCoreComponentsChecks, selectedRequest]) (by simp [noCoreComponentsChecks]) h
  | noCrd => exact clean_of_checks noCrdChecks rfl (by decide) (by simp [noCrdChecks]) h

theorem lastList_singleton_iff {request : ListRequest} {answer answer' : ListAnswer} :
    LastList [(request, answer)] request answer' ↔ answer' = answer := by
  show Since (· = (request, answer')) (fun l => l.1 = request) ([] ++ [(request, answer)]) ↔ _
  rw [since_snoc]
  constructor
  · rintro (h | ⟨-, h⟩)
    · cases h
      rfl
    · exact absurd h (not_since_nil _ _)
  · rintro rfl
    exact Or.inl rfl

/-- The other one has, when its list had nothing to wait for. -/
theorem clean_noAPIAggregation_iff {ns : String} {items : List ListedItem} :
    WaiterRun.Clean ns { waiter := .noAPIAggregation, lists := [(apiServicesRequest, .ok items)] } ↔
      ∀ item ∈ items, isComposeAPIService item = false := by
  constructor
  · rintro (h | ⟨hrbac, -⟩)
    · obtain ⟨items', hlast, hclean⟩ := h apiServicesRequest (List.mem_singleton.mpr rfl)
      obtain rfl : items' = items := Except.ok.inj (lastList_singleton_iff.mp hlast)
      intro item hitem
      exact Bool.eq_false_iff.mpr (hclean item hitem)
    · cases hrbac
  · intro h
    refine Or.inl fun request hrequest => ?_
    obtain rfl := List.mem_singleton.mp hrequest
    refine ⟨items, lastList_singleton_iff.mpr rfl, fun item hitem => ?_⟩
    exact Bool.eq_false_iff.mp (h item hitem)

/-- What the cluster lists to a waiter that starts at this moment has no API service of the
installation. -/
def UninstallEnv.AggregationGone (env : UninstallEnv) (moment : Nat) : Prop :=
  ∀ items, env.list moment apiServicesRequest = .ok items →
    ∀ item ∈ items, isComposeAPIService item = false

/-- The waiter for the aggregated API has seen the end when there was nothing to wait for at
its start. -/
theorem clean_waitForNoAPIAggregation_iff {env : UninstallEnv} {ns : String} {fuel clock : Nat}
    {w : Watch} (h : waitForNoAPIAggregation env fuel ⟨clock, []⟩ = some (.ok (), w)) :
    WaiterRun.Clean ns ⟨.noAPIAggregation, w.lists⟩ ↔ env.AggregationGone clock := by
  obtain ⟨items, hlist, hlists⟩ := waitForNoAPIAggregation_ok h
  rw [hlists, clean_noAPIAggregation_iff, UninstallEnv.AggregationGone, hlist]
  simp

/-! ## The whole wait -/

/-- When the wait ends well, the first waiter has returned without an error, and the others
end well from that moment on. -/
theorem runWaiters_cons_ok {env : UninstallEnv} {ns : String} {fuel : Nat}
    {waiter : UninstallWaiter} {rest : List UninstallWaiter} {clock : Nat} {runs : List WaiterRun}
    (h : runWaiters env ns fuel (waiter :: rest) clock = some (runs, .ok ())) :
    ∃ w runs', waiter.wait env ns fuel ⟨clock, []⟩ = some (.ok (), w) ∧
      runWaiters env ns fuel rest w.clock = some (runs', .ok ()) ∧
      runs = ⟨waiter, w.lists⟩ :: runs' := by
  unfold runWaiters at h
  obtain ⟨⟨result, w⟩, hwait, h⟩ := Option.bind_eq_some_iff.mp h
  cases result with
  | error err => cases h
  | ok =>
    obtain ⟨⟨runs', result'⟩, hrest, h⟩ := Option.bind_eq_some_iff.mp h
    cases h
    exact ⟨w, runs', hwait, hrest, rfl⟩

/-- A success has run every waiter. -/
theorem runWaiters_waiters {env : UninstallEnv} {ns : String} {fuel : Nat}
    {waiters : List UninstallWaiter} {clock : Nat} {runs : List WaiterRun}
    (h : runWaiters env ns fuel waiters clock = some (runs, .ok ())) :
    runs.map (·.waiter) = waiters := by
  induction waiters generalizing clock runs with
  | nil =>
    cases h
    rfl
  | cons waiter rest ih =>
    obtain ⟨w, runs', -, hrest, rfl⟩ := runWaiters_cons_ok h
    exact congrArg (waiter :: ·) (ih hrest)

/-- Without the waiter for the aggregated API, the end of the wait is the end of the
uninstallation. -/
theorem clean_of_runWaiters {env : UninstallEnv} {ns : String} {fuel : Nat}
    {waiters : List UninstallWaiter} (hwaiters : .noAPIAggregation ∉ waiters) {clock : Nat}
    {runs : List WaiterRun} (h : runWaiters env ns fuel waiters clock = some (runs, .ok ())) :
    ∀ run ∈ runs, run.Clean ns := by
  induction waiters generalizing clock runs with
  | nil =>
    cases h
    exact nofun
  | cons waiter rest ih =>
    obtain ⟨w, runs', hwait, hrest, rfl⟩ := runWaiters_cons_ok h
    rw [List.mem_cons, not_or] at hwaiters
    exact List.forall_mem_cons.mpr
      ⟨clean_of_wait (Ne.symm hwaiters.1) hwait, ih hwaiters.2 hrest⟩

/-- **The end of the wait is the end of the uninstallation, exactly when the aggregated
API was gone at the start of its waiter**: when the waiters for the deployments and for the
roles had returned. -/
theorem waitForUninstallCompletion_clean_iff {env : UninstallEnv} {ns : String} {skipCRD : Bool}
    {fuel : Nat} {runs : List WaiterRun}
    (h : waitForUninstallCompletion env ns skipCRD fuel = some (runs, .ok ())) :
    runs.map (·.waiter) = uninstallWaiters skipCRD ∧
      ∃ apps rbac, waitForNoApps env ns fuel ⟨0, []⟩ = some (.ok (), apps) ∧
        waitForNoRbac env fuel ⟨apps.clock, []⟩ = some (.ok (), rbac) ∧
        ((∀ run ∈ runs, run.Clean ns) ↔ env.AggregationGone rbac.clock) := by
  refine ⟨runWaiters_waiters h, ?_⟩
  obtain ⟨apps, _, happs, happsRest, rfl⟩ := runWaiters_cons_ok h
  obtain ⟨rbac, _, hrbac, hrbacRest, rfl⟩ := runWaiters_cons_ok happsRest
  obtain ⟨aggregation, _, haggregation, hruns, rfl⟩ := runWaiters_cons_ok hrbacRest
  refine ⟨apps, rbac, happs, hrbac, ?_⟩
  -- the waiters before and after that of the aggregated API go round again
  have hrest := clean_of_runWaiters (by cases skipCRD <;> decide) hruns
  simp only [List.forall_mem_cons]
  rw [clean_waitForNoAPIAggregation_iff haggregation]
  constructor
  · exact fun hclean => hclean.2.2.1
  · exact fun hgone => ⟨clean_of_wait UninstallWaiter.noConfusion happs,
      clean_of_wait UninstallWaiter.noConfusion hrbac, hgone, hrest⟩

/-- An API service of the installation. -/
def composeAPIService : ListedItem where
  labels := some (Finmap.singleton fryKey composeAPIServerFry)

/-- A cluster in which every list has an item at first, and later only these API services
are left. -/
def clusterWith (apiServices : List ListedItem) : UninstallEnv where
  newForConfig _ := none
  list moment request :=
    if moment = 0 then .ok [composeAPIService]
    else if request = apiServicesRequest then .ok apiServices
    else .ok []
  expiry := none

/-- The wait for the first waiter's second list, in a cluster that is empty by then. -/
theorem waitForUninstallCompletion_clean_empty :
    ∃ runs, waitForUninstallCompletion (clusterWith []) "docker" false 2 = some (runs, .ok ()) ∧
      ∀ run ∈ runs, run.Clean "docker" := by
  refine ⟨_, rfl, ?_⟩
  obtain ⟨-, apps, rbac, happs, hrbac, hiff⟩ :=
    @waitForUninstallCompletion_clean_iff (clusterWith []) "docker" false 2 _ rfl
  refine hiff.mpr ?_
  -- two lists and a sleep for the deployments, then three lists for the roles
  cases happs
  cases hrbac
  intro items hitems
  cases hitems
  exact nofun

/-- **The wait ends while the aggregated API is still there.** -/
theorem waitForUninstallCompletion_early :
    ∃ runs run, waitForUninstallCompletion (clusterWith [composeAPIService]) "docker" false 2 =
        some (runs, .ok ()) ∧ run ∈ runs ∧ run.waiter = .noAPIAggregation ∧
      run.lists = [(apiServicesRequest, .ok [composeAPIService])] ∧ ¬run.Clean "docker" := by
  refine ⟨_, ⟨.noAPIAggregation, [(apiServicesRequest, .ok [composeAPIService])]⟩, rfl, ?_, rfl,
    rfl, fun hclean => ?_⟩
  · exact List.mem_cons_of_mem _ (List.mem_cons_of_mem _ (List.mem_cons_self ..))
  · have hgone := clean_noAPIAggregation_iff.mp hclean composeAPIService (List.mem_cons_self ..)
    exact absurd hgone (by decide)

/-! ## The wait has an end -/

/-- A pass that goes round again has taken time. -/
theorem clock_passChecks {env : UninstallEnv} {checks : List ListCheck} {w w' : Watch}
    (h : passChecks env checks w = (none, w')) : w.clock < w'.clock := by
  induction checks generalizing w with
  | nil => cases h
  | cons check rest ih =>
    unfold passChecks at h
    -- every list takes time, and so does the pause before the next pass
    cases hlist : env.list w.clock check.request with
    | error err =>
      simp only [hlist] at h
      split at h <;> cases h
    | ok items =>
      simp only [hlist] at h
      split at h
      · cases h
        show w.clock < w.clock + 1 + 1
        omega
      · have hrest : w.clock + 1 < w'.clock := ih h
        omega

/-- A wait with a deadline returns. -/
theorem waitWith_returns {env : UninstallEnv} {moment : Nat} (hexpiry : env.expiry = some moment)
    {pass : Watch → Option (Except WaitError Unit) × Watch}
    (hpass : ∀ w w', pass w = (none, w') → w.clock < w'.clock) (clientSet : ClientSet) (w : Watch) :
    ∃ fuel x, waitWith env clientSet pass fuel w = some x := by
  unfold waitWith
  split
  · exact ⟨0, _, rfl⟩
  · -- the time that is left is the measure
    refine exists_poll_of_measure (fun w => moment - w.clock) ?_ w
    intro w w' hp
    unfold passUnlessDone at hp
    split at hp
    · cases hp
    · next hnotDone =>
      have hlater := hpass w w' hp
      have hbefore : w.clock < moment := by
        simpa [UninstallEnv.isDone, hexpiry] using hnotDone
      omega

/-- More fuel does not change what a wait returns. -/
theorem waitWith_mono {env : UninstallEnv} {clientSet : ClientSet}
    {pass : Watch → Option (Except WaitError Unit) × Watch} {fuel fuel' : Nat}
    (hle : fuel ≤ fuel') {w : Watch} {x : Except WaitError Unit × Watch}
    (h : waitWith env clientSet pass fuel w = some x) :
    waitWith env clientSet pass fuel' w = some x := by
  unfold waitWith at h ⊢
  split at h
  · exact h
  · exact poll_mono hle h

namespace UninstallWaiter

theorem wait_eq_waitWith (env : UninstallEnv) (ns : String) (waiter : UninstallWaiter) :
    ∃ clientSet pass, (∀ w w', pass w = (none, w') → w.clock < w'.clock) ∧
      waiter.wait env ns = waitWith env clientSet pass := by
  cases waiter with
  | noApps => exact ⟨_, _, fun _ _ => clock_passChecks, rfl⟩
  | noRbac => exact ⟨_, _, fun _ _ => clock_passChecks, rfl⟩
  | noCoreComponents => exact ⟨_, _, fun _ _ => clock_passChecks, rfl⟩
  | noCrd => exact ⟨_, _, fun _ _ => clock_passChecks, rfl⟩
  | noAPIAggregation =>
    refine ⟨_, passAPIAggregation env, fun w w' hp => ?_, rfl⟩
    unfold passAPIAggregation at hp
    dsimp only at hp
    split at hp <;> cases hp

theorem wait_returns {env : UninstallEnv} {moment : Nat} (hexpiry : env.expiry = some moment)
    (ns : String) (waiter : UninstallWaiter) (w : Watch) :
    ∃ fuel x, waiter.wait env ns fuel w = some x := by
  obtain ⟨clientSet, pass, hpass, hwait⟩ := waiter.wait_eq_waitWith env ns
  rw [hwait]
  exact waitWith_returns hexpiry hpass clientSet w

theorem wait_mono {env : UninstallEnv} {ns : String} {waiter : UninstallWaiter} {fuel fuel' : Nat}
    (hle : fuel ≤ fuel') {w : Watch} {x : Except WaitError Unit × Watch}
    (h : waiter.wait env ns fuel w = some x) : waiter.wait env ns fuel' w = some x := by
  obtain ⟨clientSet, pass, -, hwait⟩ := waiter.wait_eq_waitWith env ns
  rw [hwait] at h ⊢
  exact waitWith_mono hle h

end UninstallWaiter

theorem runWaiters_mono {env : UninstallEnv} {ns : String} {fuel fuel' : Nat} (hle : fuel ≤ fuel')
    {waiters : List UninstallWaiter} {clock : Nat} {x : List WaiterRun × Except WaitError Unit}
    (h : runWaiters env ns fuel waiters clock = some x) :
    runWaiters env ns fuel' waiters clock = some x := by
  induction waiters generalizing clock x with
  | nil => exact h
  | cons waiter rest ih =>
    unfold runWaiters at h ⊢
    obtain ⟨⟨result, w⟩, hwait, h⟩ := Option.bind_eq_some_iff.mp h
    refine Option.bind_eq_some_iff.mpr ⟨(result, w), UninstallWaiter.wait_mono hle hwait, ?_⟩
    cases result with
    | error err => exact h
    | ok =>
      obtain ⟨y, hrest, h⟩ := Option.bind_eq_some_iff.mp h
      exact Option.bind_eq_some_iff.mpr ⟨y, ih hrest, h⟩

/-- The waiters return, one after the other. -/
theorem runWaiters_returns {env : UninstallEnv} {moment : Nat} (hexpiry : env.expiry = some moment)
    (ns : String) (waiters : List UninstallWaiter) (clock : Nat) :
    ∃ fuel x, runWaiters env ns fuel waiters clock = some x := by
  induction waiters generalizing clock with
  | nil => exact ⟨0, _, rfl⟩
  | cons waiter rest ih =>
    obtain ⟨fuel, ⟨result, w⟩, hwait⟩ := waiter.wait_returns hexpiry ns ⟨clock, []⟩
    cases result with
    | error err =>
      refine ⟨fuel, ([⟨waiter, w.lists⟩], .error err), ?_⟩
      rw [runWaiters, hwait]
      rfl
    | ok =>
      obtain ⟨fuel', ⟨runs, result'⟩, hrest⟩ := ih w.clock
      -- enough for the waiter and for the others
      refine ⟨max fuel fuel', (⟨waiter, w.lists⟩ :: runs, result'), ?_⟩
      unfold runWaiters
      refine Option.bind_eq_some_iff.mpr ⟨_, UninstallWaiter.wait_mono (le_max_left ..) hwait, ?_⟩
      exact Option.bind_eq_some_iff.mpr ⟨_, runWaiters_mono (le_max_right ..) hrest, rfl⟩

/-- **A context that expires ends the wait**, with an error or without. -/
theorem waitForUninstallCompletion_returns {env : UninstallEnv} {moment : Nat}
    (hexpiry : env.expiry = some moment) (ns : String) (skipCRD : Bool) :
    ∃ fuel x, waitForUninstallCompletion env ns skipCRD fuel = some x :=
  runWaiters_returns hexpiry ns (uninstallWaiters skipCRD) 0

end ComposeKube
