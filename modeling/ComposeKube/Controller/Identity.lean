import ComposeKube.Lib.Transition
import ComposeKube.Convert.Stack
import ComposeKube.Controller.OwnerCache

/-!
# Under whose identity a spec is applied

The controller impersonates the owner of a stack. Owners are cached: the stack
listener marks the entry of a stack as dirty when the stack changes, and a
reconciliation of a dirty stack asks the API server again unless the entry is
clean. The informer updates its store before it calls the listener, and events
of children trigger reconciliations as well, so a reconciliation can see a new
version of a stack while the entry of an older one still looks clean.

* `identityInv_step` — what one step of the controller keeps.
* `applied_owner` — runs in which the listener has seen every version by the
  time its owner is looked up.
* `applied_outdated_owner` — a run in which it has not.
-/

namespace ComposeKube

open Go Transition

/-! ## The controller -/

/-- What the stack informer tells its listener. -/
inductive Notification where
  | changed (key : String) (version : Nat)
  | deleted (key : String)

/-- Where the reconcile loop is. A reconciliation has read a version of a stack
and looks its owner up, with a number of attempts left, or applies its
difference with a config; the flag says that the lookup was answered by
NotFound. A deletion takes the same two steps. -/
inductive Loop where
  | idle
  | resolving (key : String) (version : Nat) (stack : Internal.Stack) (steps : Nat)
  | applying (key : String) (version : Nat) (stack : Internal.Stack)
      (config : ImpersonationConfig) (notFound : Bool)
  | resolvingDeletion (key : String) (steps : Nat)
  | deleting (key : String) (config : ImpersonationConfig)

/-- The stored versions of every stack, oldest first, and the parts of the
controller: the informer's store, the notifications that its listener has not
seen, the key that the listener is about to enqueue, the queues, the owner
cache and the reconcile loop. -/
structure ControllerState where
  versions : String → List Internal.Stack
  informer : String → Option Nat
  pending : List Notification
  listener : Option String
  reconcileQueue : List String
  deletionQueue : List String
  ownerCache : StackOwnerCache
  loop : Loop

inductive ControllerEvent where
  /-- the API server stores a version of a stack -/
  | store (key : String) (stack : Internal.Stack)
  /-- the informer's store takes a version over, or resyncs it -/
  | deliver (key : String) (version : Nat)
  /-- the informer's store drops a stack -/
  | drop (key : String)
  /-- the listener is called -/
  | callback
  /-- the listener has enqueued -/
  | enqueue
  /-- a child of the stack has changed -/
  | childEvent (key : String)
  /-- the loop takes a key from one of its queues -/
  | take (key : String)
  | takeDeletion (key : String)
  /-- the loop looks an owner up -/
  | lookup (answer : OwnerAnswer)
  /-- the loop has applied a difference -/
  | applied (retry : Bool)

/-- `getWithRetries`: four attempts, with a pause between them. -/
def ownerLookupSteps : Nat := 4

/-- After an attempt that failed: NotFound ends the retries. -/
def afterFailure (err : OwnerError) (steps : Nat) (again : Nat → Loop) : Loop :=
  match err, steps with
  | .notFound, _ => .idle
  | .failed _, 0 => .idle
  | .failed _, steps + 1 => again (steps + 1)

/-- The API server answers with the owner of the newest version. -/
def OwnerAnswer.Truthful (versions : List Internal.Stack) (answer : OwnerAnswer) : Prop :=
  ∀ owner, answer = .found owner →
    ∃ stack, versions.getLast? = some stack ∧ stack.spec.owner = owner

inductive ControllerStep : ControllerState → ControllerEvent → ControllerState → Prop
  | store {s : ControllerState} {key : String} {stack : Internal.Stack} :
      ControllerStep s (.store key stack)
        { s with versions := Function.update s.versions key (s.versions key ++ [stack]) }
  | deliver {s : ControllerState} {key : String} {version : Nat}
      (hversion : version < (s.versions key).length) :
      ControllerStep s (.deliver key version)
        { s with
          informer := Function.update s.informer key (some version)
          pending := s.pending ++ [.changed key version] }
  | drop {s : ControllerState} {key : String} :
      ControllerStep s (.drop key)
        { s with
          informer := Function.update s.informer key none
          pending := s.pending ++ [.deleted key] }
  /-- `onAdd` and `onUpdate`: the entry is marked first, then the key is sent. -/
  | onUpdate {s : ControllerState} {key : String} {version : Nat} {rest : List Notification}
      (hpending : s.pending = .changed key version :: rest) (hlistener : s.listener = none) :
      ControllerStep s .callback
        { s with
          pending := rest
          listener := some key
          ownerCache := s.ownerCache.setDirty key }
  | onDelete {s : ControllerState} {key : String} {rest : List Notification}
      (hpending : s.pending = .deleted key :: rest) (hlistener : s.listener = none) :
      ControllerStep s .callback
        { s with pending := rest, deletionQueue := s.deletionQueue ++ [key] }
  | enqueue {s : ControllerState} {key : String} (hlistener : s.listener = some key) :
      ControllerStep s .enqueue
        { s with listener := none, reconcileQueue := s.reconcileQueue ++ [key] }
  | childEvent {s : ControllerState} {key : String} :
      ControllerStep s (.childEvent key) { s with reconcileQueue := s.reconcileQueue ++ [key] }
  /-- `reconcileStack` does not find the stack. -/
  | takeMissing {s : ControllerState} {key : String} (hloop : s.loop = .idle)
      (hkey : key ∈ s.reconcileQueue) (hinformer : s.informer key = none) :
      ControllerStep s (.take key) { s with reconcileQueue := s.reconcileQueue.erase key }
  /-- `reconcileStack` has read the stack from the informer's store. -/
  | take {s : ControllerState} {key : String} {version : Nat} {stack : Internal.Stack}
      (hloop : s.loop = .idle) (hkey : key ∈ s.reconcileQueue)
      (hinformer : s.informer key = some version)
      (hstack : (s.versions key)[version]? = some stack) :
      ControllerStep s (.take key)
        { s with
          reconcileQueue := s.reconcileQueue.erase key
          loop := if stack.objectMeta.deletionTimestamp = none
            then .resolving key version stack ownerLookupSteps
            else .resolvingDeletion key ownerLookupSteps }
  | takeDeletion {s : ControllerState} {key : String} (hloop : s.loop = .idle)
      (hkey : key ∈ s.deletionQueue) :
      ControllerStep s (.takeDeletion key)
        { s with
          deletionQueue := s.deletionQueue.erase key
          loop := .resolvingDeletion key ownerLookupSteps }
  /-- `getUpdater` for a reconciliation: a dirty stack does not accept a dirty entry. -/
  | lookup {s : ControllerState} {key : String} {version steps : Nat} {stack : Internal.Stack}
      {answer : OwnerAnswer} (hloop : s.loop = .resolving key version stack (steps + 1))
      (hanswer : answer.Truthful (s.versions key)) :
      ControllerStep s (.lookup answer)
        { s with
          ownerCache :=
            (s.ownerCache.getWithError key (!isStackDirty stack.status) answer).2
          loop :=
            match (s.ownerCache.getWithError key (!isStackDirty stack.status) answer).1 with
            | .ok config => .applying key version stack config
                (s.ownerCache.asksServer key (!isStackDirty stack.status) &&
                  answer = .notFound)
            | .error err => afterFailure err steps (.resolving key version stack) }
  /-- `getUpdater` for a deletion. -/
  | lookupDeletion {s : ControllerState} {key : String} {steps : Nat} {answer : OwnerAnswer}
      (hloop : s.loop = .resolvingDeletion key (steps + 1))
      (hanswer : answer.Truthful (s.versions key)) :
      ControllerStep s (.lookup answer)
        { s with
          ownerCache := (s.ownerCache.getWithError key true answer).2
          loop :=
            match (s.ownerCache.getWithError key true answer).1 with
            | .ok config => .deleting key config
            | .error err => afterFailure err steps (.resolvingDeletion key) }
  /-- The difference has been applied, or there was a conflict and the key is sent
  to the retry queue. -/
  | applied {s : ControllerState} {key : String} {version : Nat} {stack : Internal.Stack}
      {config : ImpersonationConfig} {notFound retry : Bool}
      (hloop : s.loop = .applying key version stack config notFound) :
      ControllerStep s (.applied retry)
        { s with
          reconcileQueue := if retry then s.reconcileQueue ++ [key] else s.reconcileQueue
          loop := .idle }
  /-- The children are gone and the entry is dropped, or the deletion has failed. -/
  | deleted {s : ControllerState} {key : String} {config : ImpersonationConfig} {retry : Bool}
      (hloop : s.loop = .deleting key config) :
      ControllerStep s (.applied retry)
        { s with
          ownerCache := if retry then s.ownerCache else s.ownerCache.remove key
          loop := .idle }

/-- Nothing is stored, and the controller has just started. -/
def startedController : ControllerState where
  versions _ := []
  informer _ := none
  pending := []
  listener := none
  reconcileQueue := []
  deletionQueue := []
  ownerCache := ∅
  loop := .idle

def controllerSystem : System ControllerState ControllerEvent where
  init s := s = startedController
  step := ControllerStep

/-! ## Versions and their owners -/

/-- The config is the owner of a version. -/
def ControllerState.OwnerOf (s : ControllerState) (key : String) (version : Nat)
    (config : ImpersonationConfig) : Prop :=
  ∃ stack, (s.versions key)[version]? = some stack ∧ stack.spec.owner = config

/-- The version is in the informer's store, or a reconciliation that looks its
owner up has read it from there. -/
def ControllerState.Held (s : ControllerState) (key : String) (version : Nat) : Prop :=
  s.informer key = some version ∨
    ∃ stack steps, s.loop = .resolving key version stack steps

/-- A reconciliation of this version is under way. -/
def Loop.Reads (loop : Loop) (key : String) (version : Nat) (stack : Internal.Stack) : Prop :=
  (∃ steps, loop = .resolving key version stack steps) ∨
    ∃ config notFound, loop = .applying key version stack config notFound

/-- A clean entry is as new as every version that is held, except for versions
that the listener has not heard of. -/
structure IdentityInv (s : ControllerState) : Prop where
  held : ∀ key i, s.Held key i → i < (s.versions key).length
  read : ∀ key i stack, s.loop.Reads key i stack → (s.versions key)[i]? = some stack
  clean : ∀ key e, s.ownerCache.lookup key = some e → e.dirty = false →
    ∃ j, s.OwnerOf key j e.config ∧
      ∀ i, s.Held key i → i ≤ j ∨ .changed key i ∈ s.pending
  applying : ∀ key i stack config, s.loop = .applying key i stack config false →
    isStackDirty stack.status = true → ∃ j, i ≤ j ∧ s.OwnerOf key j config

/-- The listener has been told of the version whose owner is looked up, if the
stack is dirty and its entry looks clean. -/
def ListenerCalled (s : ControllerState) : ControllerEvent → Prop
  | .lookup _ => ∀ key i stack steps e, s.loop = .resolving key i stack steps →
    isStackDirty stack.status = true → s.ownerCache.lookup key = some e → e.dirty = false →
    Notification.changed key i ∉ s.pending
  | _ => True

/-! ## What a step keeps -/

/-- Versions that are stored stay where they are. -/
theorem version_of_prefix {versions versions' : List Internal.Stack} {i : Nat}
    {stack : Internal.Stack} (h : versions <+: versions') (hi : versions[i]? = some stack) :
    versions'[i]? = some stack := by
  obtain ⟨newer, rfl⟩ := h
  rw [List.getElem?_append_left (List.getElem?_eq_some_iff.mp hi).1]
  exact hi

/-- Versions are only added. -/
theorem ControllerState.OwnerOf.mono {s s' : ControllerState} {key : String} {j : Nat}
    {config : ImpersonationConfig} (h : s.OwnerOf key j config)
    (hversions : s.versions key <+: s'.versions key) : s'.OwnerOf key j config := by
  obtain ⟨stack, hstack, howner⟩ := h
  exact ⟨stack, version_of_prefix hversions hstack, howner⟩

/-- A step that adds versions and notifications, and forgets what it likes of the
cache, the informer's store and the loop. -/
theorem IdentityInv.frame {s s' : ControllerState} (h : IdentityInv s)
    (hversions : ∀ key, s.versions key <+: s'.versions key)
    (hheld : ∀ key i, s'.Held key i → s.Held key i)
    (hread : ∀ key i stack, s'.loop.Reads key i stack → s.loop.Reads key i stack)
    (happlying : ∀ key i stack config, s'.loop = .applying key i stack config false →
      s.loop = .applying key i stack config false)
    (hclean : ∀ key e, s'.ownerCache.lookup key = some e → e.dirty = false →
      s.ownerCache.lookup key = some e ∧
        ∀ i, Notification.changed key i ∈ s.pending → .changed key i ∈ s'.pending) :
    IdentityInv s' where
  held key i hi := lt_of_lt_of_le (h.held key i (hheld key i hi)) (hversions key).length_le
  read key i stack hi :=
    version_of_prefix (hversions key) (h.read key i stack (hread key i stack hi))
  clean key e he hdirty := by
    obtain ⟨he', hpending⟩ := hclean key e he hdirty
    obtain ⟨j, howner, hj⟩ := h.clean key e he' hdirty
    exact ⟨j, howner.mono (hversions key),
      fun i hi => (hj i (hheld key i hi)).imp_right (hpending i)⟩
  applying key i stack config hloop hdirty := by
    obtain ⟨j, hij, howner⟩ := h.applying key i stack config (happlying _ _ _ _ hloop) hdirty
    exact ⟨j, hij, howner.mono (hversions key)⟩

/-- The loop has nothing in hand. -/
def Loop.Quiet (loop : Loop) : Prop := ∀ key i stack, ¬loop.Reads key i stack

/-- An idle loop has no stack in hand. -/
theorem Loop.quiet_idle : Loop.idle.Quiet := by
  rintro key i stack (⟨_, h⟩ | ⟨_, _, h⟩) <;> cases h

theorem Loop.quiet_resolvingDeletion (key : String) (steps : Nat) :
    (Loop.resolvingDeletion key steps).Quiet := by
  rintro key i stack (⟨_, h⟩ | ⟨_, _, h⟩) <;> cases h

theorem Loop.quiet_deleting (key : String) (config : ImpersonationConfig) :
    (Loop.deleting key config).Quiet := by
  rintro key i stack (⟨_, h⟩ | ⟨_, _, h⟩) <;> cases h

/-- The loop moves on. -/
theorem IdentityInv.setLoop {s : ControllerState} (h : IdentityInv s) {loop : Loop}
    (hresolving : ∀ key i stack steps, loop = .resolving key i stack steps → s.Held key i)
    (hread : ∀ key i stack, loop.Reads key i stack → (s.versions key)[i]? = some stack)
    (happlying : ∀ key i stack config, loop = .applying key i stack config false →
      isStackDirty stack.status = true → ∃ j, i ≤ j ∧ s.OwnerOf key j config) :
    IdentityInv { s with loop := loop } := by
  have hheld : ∀ key i, ControllerState.Held { s with loop := loop } key i → s.Held key i := by
    rintro key i (hi | ⟨stack, steps, hi⟩)
    · exact Or.inl hi
    · exact hresolving key i stack steps hi
  refine ⟨fun key i hi => h.held key i (hheld key i hi), hread, ?_, happlying⟩
  intro key e he hdirty
  obtain ⟨j, howner, hj⟩ := h.clean key e he hdirty
  exact ⟨j, howner, fun i hi => hj i (hheld key i hi)⟩

/-- To leave the stack alone keeps the invariant. -/
theorem IdentityInv.setLoop_quiet {s : ControllerState} (h : IdentityInv s) {loop : Loop}
    (hquiet : loop.Quiet) : IdentityInv { s with loop := loop } := by
  refine h.setLoop ?_ ?_ ?_
  · exact fun key i stack steps hi => absurd (Or.inl ⟨steps, hi⟩) (hquiet key i stack)
  · exact fun key i stack hi => absurd hi (hquiet key i stack)
  · exact fun key i stack config hi => absurd (Or.inr ⟨config, false, hi⟩) (hquiet key i stack)

/-- The queues have no part in it. -/
theorem IdentityInv.requeue {s : ControllerState} (h : IdentityInv s) (listener : Option String)
    (reconcileQueue deletionQueue : List String) :
    IdentityInv { s with listener, reconcileQueue, deletionQueue } :=
  ⟨h.held, h.read, h.clean, h.applying⟩

/-- The owner of the newest version is as new as every version that is held. -/
theorem IdentityInv.ownerOf_newest {s : ControllerState} (h : IdentityInv s) {key : String}
    {answer : OwnerAnswer} {owner : ImpersonationConfig}
    (hanswer : answer.Truthful (s.versions key)) (hfound : answer = .found owner) :
    ∃ j, s.OwnerOf key j owner ∧ ∀ i, s.Held key i → i ≤ j := by
  obtain ⟨stack, hlast, howner⟩ := hanswer owner hfound
  refine ⟨(s.versions key).length - 1, ⟨stack, ?_, howner⟩, fun i hi => ?_⟩
  · rw [← List.getLast?_eq_getElem?, hlast]
  · have hlength := h.held key i hi
    omega

/-- A new entry with the owner of the newest version. -/
theorem IdentityInv.insert_newest {s : ControllerState} (h : IdentityInv s) {key : String}
    {answer : OwnerAnswer} {owner : ImpersonationConfig}
    (hanswer : answer.Truthful (s.versions key)) (hfound : answer = .found owner) :
    IdentityInv { s with
      ownerCache := s.ownerCache.insert key { config := owner, dirty := false } } := by
  refine ⟨h.held, h.read, fun k e he hdirty => ?_, h.applying⟩
  by_cases hk : k = key
  · subst hk
    rw [Finmap.lookup_insert] at he
    cases he
    obtain ⟨j, howner, hj⟩ := h.ownerOf_newest hanswer hfound
    exact ⟨j, howner, fun i hi => Or.inl (hj i hi)⟩
  · rw [Finmap.lookup_insert_of_ne _ hk] at he
    exact h.clean k e he hdirty

/-- A lookup leaves the cache in order, whatever the answer. -/
theorem IdentityInv.getWithError {s : ControllerState} (h : IdentityInv s) {key : String}
    (acceptDirty : Bool) {answer : OwnerAnswer} (hanswer : answer.Truthful (s.versions key)) :
    IdentityInv { s with ownerCache := (s.ownerCache.getWithError key acceptDirty answer).2 } := by
  obtain ⟨v, -, -, hget⟩ | ⟨owner, hfound, hget⟩ | ⟨v, -, -, hget⟩ | ⟨err, hget⟩ :=
    s.ownerCache.getWithError_cases key acceptDirty answer
  · rw [hget]
    exact h
  · rw [hget]
    exact h.insert_newest hanswer hfound
  · rw [hget]
    exact h
  · rw [hget]
    exact h

/-- After a failed attempt the loop is idle, or tries again. -/
theorem afterFailure_cases (err : OwnerError) (steps : Nat) (again : Nat → Loop) :
    afterFailure err steps again = .idle ∨ ∃ n, afterFailure err steps again = again n := by
  cases err with
  | notFound => exact Or.inl rfl
  | failed err =>
    cases steps with
    | zero => exact Or.inl rfl
    | succ n => exact Or.inr ⟨n + 1, rfl⟩

/-- **The lookup of a reconciliation**: a dirty stack gets the owner of a version
that is as new as its own, unless the answer was NotFound. -/
theorem identityInv_lookup {s : ControllerState} (hs : IdentityInv s) {key : String}
    {version steps : Nat} {stack : Internal.Stack} {answer : OwnerAnswer}
    (ha : ListenerCalled s (.lookup answer))
    (hloop : s.loop = .resolving key version stack (steps + 1))
    (hanswer : answer.Truthful (s.versions key)) :
    IdentityInv { s with
      ownerCache := (s.ownerCache.getWithError key (!isStackDirty stack.status) answer).2
      loop :=
        match (s.ownerCache.getWithError key (!isStackDirty stack.status) answer).1 with
        | .ok config => .applying key version stack config
            (s.ownerCache.asksServer key (!isStackDirty stack.status) && answer = .notFound)
        | .error err => afterFailure err steps (.resolving key version stack) } := by
  have hcache := hs.getWithError (!isStackDirty stack.status) hanswer
  -- the version that is looked up is held by the loop
  have hheld : s.Held key version := Or.inr ⟨stack, steps + 1, hloop⟩
  have hread : (s.versions key)[version]? = some stack :=
    hs.read key version stack (Or.inl ⟨steps + 1, hloop⟩)
  cases hget : s.ownerCache.getWithError key (!isStackDirty stack.status) answer with
  | mk result data =>
    rw [hget] at hcache
    cases result with
    | ok config =>
      refine hcache.setLoop ?_ ?_ ?_
      · rintro _ _ _ _ ⟨⟩
      · rintro _ _ _ (⟨_, ⟨⟩⟩ | ⟨_, _, ⟨⟩⟩)
        exact hread
      · intro key' i stack' config' heq hdirty
        injection heq with hkey hversion hstack hconfig hanswered
        subst hkey hversion hstack hconfig
        obtain ⟨v, hv, hhit, hv'⟩ | ⟨owner, hfound, hv'⟩ | ⟨v, hasks, hnotFound, -⟩ | ⟨err, hv'⟩ :=
          s.ownerCache.getWithError_cases key (!isStackDirty stack.status) answer
        · -- a clean entry, of which the listener had nothing more to say
          cases hget.symm.trans hv'
          have hclean : v.dirty = false := by simpa [hdirty] using hhit
          obtain ⟨j, howner, hj⟩ := hs.clean key v hv hclean
          rcases hj version hheld with hle | hpending
          · exact ⟨j, hle, howner⟩
          · exact absurd hpending (ha key version stack (steps + 1) v hloop hdirty hv hclean)
        · cases hget.symm.trans hv'
          obtain ⟨j, howner, hj⟩ := hs.ownerOf_newest hanswer hfound
          exact ⟨j, hj version hheld, howner⟩
        · -- the entry was used for want of an answer, which the state says
          rw [hasks, hnotFound] at hanswered
          cases hanswered
        · cases hget.symm.trans hv'
    -- the loop gives up or tries again
    | error err =>
      rcases afterFailure_cases err steps (.resolving key version stack) with hidle | ⟨n, hagain⟩
      · dsimp only
        rw [hidle]
        exact hcache.setLoop_quiet Loop.quiet_idle
      · dsimp only
        rw [hagain]
        refine hcache.setLoop ?_ ?_ ?_
        · rintro _ _ _ _ ⟨⟩
          exact hheld
        · rintro _ _ _ (⟨_, ⟨⟩⟩ | ⟨_, _, ⟨⟩⟩)
          exact hread
        · rintro _ _ _ _ ⟨⟩

/-- The lookup of a deletion. -/
theorem identityInv_lookupDeletion {s : ControllerState} (hs : IdentityInv s) {key : String}
    {steps : Nat} {answer : OwnerAnswer} (hanswer : answer.Truthful (s.versions key)) :
    IdentityInv { s with
      ownerCache := (s.ownerCache.getWithError key true answer).2
      loop :=
        match (s.ownerCache.getWithError key true answer).1 with
        | .ok config => .deleting key config
        | .error err => afterFailure err steps (.resolvingDeletion key) } := by
  refine (hs.getWithError true hanswer).setLoop_quiet ?_
  cases (s.ownerCache.getWithError key true answer).1 with
  | ok config => exact Loop.quiet_deleting key config
  | error err =>
    rcases afterFailure_cases err steps (.resolvingDeletion key) with hidle | ⟨n, hagain⟩
    · dsimp only
      rw [hidle]
      exact Loop.quiet_idle
    · dsimp only
      rw [hagain]
      exact Loop.quiet_resolvingDeletion key n

/-- A version reaches the informer's store: the listener has yet to hear of it. -/
theorem identityInv_deliver {s : ControllerState} (hs : IdentityInv s) {key : String}
    {version : Nat} (hversion : version < (s.versions key).length) :
    IdentityInv { s with
      informer := Function.update s.informer key (some version)
      pending := s.pending ++ [.changed key version] } := by
  -- what is held now was held before, or is the new version
  have hheld : ∀ k i, (Function.update s.informer key (some version) k = some i ∨
      ∃ stack steps, s.loop = .resolving k i stack steps) →
      s.Held k i ∨ k = key ∧ i = version := by
    rintro k i (hi | hi)
    · by_cases hk : k = key
      · subst hk
        rw [Function.update_self] at hi
        exact Or.inr ⟨rfl, (Option.some.inj hi).symm⟩
      · rw [Function.update_of_ne hk] at hi
        exact Or.inl (Or.inl hi)
    · exact Or.inl (Or.inr hi)
  refine ⟨?_, hs.read, ?_, hs.applying⟩
  · intro k i hi
    rcases hheld k i hi with hi | ⟨rfl, rfl⟩
    · exact hs.held k i hi
    · exact hversion
  · intro k e he hdirty
    obtain ⟨j, howner, hj⟩ := hs.clean k e he hdirty
    refine ⟨j, howner, fun i hi => ?_⟩
    rcases hheld k i hi with hi | ⟨rfl, rfl⟩
    · exact (hj i hi).imp_right (List.mem_append_left _)
    · exact Or.inr (List.mem_append_right _ (List.mem_singleton_self _))

/-- A new version is stored after the others. -/
theorem identityInv_store {s : ControllerState} (hs : IdentityInv s) (key : String)
    (stack : Internal.Stack) :
    IdentityInv { s with
      versions := Function.update s.versions key (s.versions key ++ [stack]) } := by
  refine hs.frame (fun k => ?_) (fun _ _ h => h) (fun _ _ _ h => h) (fun _ _ _ _ h => h)
    (fun _ _ he _ => ⟨he, fun _ h => h⟩)
  by_cases hk : k = key
  · subst hk
    show s.versions k <+: Function.update s.versions k _ k
    rw [Function.update_self]
    exact List.prefix_append _ _
  · show s.versions k <+: Function.update s.versions key _ k
    rw [Function.update_of_ne hk]

/-- The informer's store drops a stack, of which nothing is held any more there. -/
theorem identityInv_drop {s : ControllerState} (hs : IdentityInv s) (key : String)
    (notification : Notification) :
    IdentityInv { s with
      informer := Function.update s.informer key none
      pending := s.pending ++ [notification] } := by
  refine hs.frame (fun k => List.prefix_rfl) (fun k i hi => ?_) (fun _ _ _ h => h)
    (fun _ _ _ _ h => h) (fun _ _ he _ => ⟨he, fun _ h => List.mem_append_left _ h⟩)
  rcases hi with hi | hi
  · by_cases hk : k = key
    · subst hk
      cases (Function.update_self k none s.informer).symm.trans hi
    · exact Or.inl ((Function.update_of_ne hk none s.informer).symm.trans hi)
  · exact Or.inr hi

/-- **One step of the controller**, of the API server or of the informer. -/
theorem identityInv_step {s s' : ControllerState} {a : ControllerEvent} (hs : IdentityInv s)
    (ha : ListenerCalled s a) (h : ControllerStep s a s') : IdentityInv s' := by
  cases h with
  | store => exact identityInv_store hs _ _
  | deliver hversion => exact identityInv_deliver hs hversion
  | drop => exact identityInv_drop hs _ _
  -- the entry is marked, and the update no longer pending
  | @onUpdate key version rest hpending hlistener =>
    refine hs.frame (fun k => List.prefix_rfl) (fun _ _ h => h) (fun _ _ _ h => h)
      (fun _ _ _ _ h => h) (fun k e he hdirty => ?_)
    obtain ⟨hk, he⟩ := StackOwnerCache.clean_of_setDirty he hdirty
    refine ⟨he, fun i hi => ?_⟩
    rw [hpending] at hi
    rcases List.mem_cons.mp hi with heq | hi
    · cases heq
      exact absurd rfl hk
    · exact hi
  | @onDelete key rest hpending hlistener =>
    refine hs.frame (fun k => List.prefix_rfl) (fun _ _ h => h) (fun _ _ _ h => h)
      (fun _ _ _ _ h => h) (fun k e he hdirty => ⟨he, fun i hi => ?_⟩)
    rw [hpending] at hi
    rcases List.mem_cons.mp hi with heq | hi
    · cases heq
    · exact hi
  | enqueue => exact hs.requeue _ _ _
  | childEvent => exact hs.requeue _ _ _
  | takeMissing => exact hs.requeue _ _ _
  -- the version comes from the informer; a stack on its way out needs no version
  | @take key version stack hloop hkey hinformer hstack =>
    have hnext : IdentityInv { s with
        loop := if stack.objectMeta.deletionTimestamp = none
          then .resolving key version stack ownerLookupSteps
          else .resolvingDeletion key ownerLookupSteps } := by
      split
      · refine hs.setLoop ?_ ?_ ?_
        · rintro _ _ _ _ ⟨⟩
          exact Or.inl hinformer
        · rintro _ _ _ (⟨_, ⟨⟩⟩ | ⟨_, _, ⟨⟩⟩)
          exact hstack
        · rintro _ _ _ _ ⟨⟩
      · exact hs.setLoop_quiet (Loop.quiet_resolvingDeletion _ _)
    exact hnext.requeue _ _ _
  | @takeDeletion key hloop hkey =>
    have hnext := hs.setLoop_quiet (Loop.quiet_resolvingDeletion key ownerLookupSteps)
    exact hnext.requeue _ _ _
  | lookup hloop hanswer => exact identityInv_lookup hs ha hloop hanswer
  | lookupDeletion hloop hanswer => exact identityInv_lookupDeletion hs hanswer
  | applied hloop =>
    have hnext := hs.setLoop_quiet Loop.quiet_idle
    exact hnext.requeue _ _ _
  | @deleted key config retry hloop =>
    have hnext := hs.setLoop_quiet Loop.quiet_idle
    refine hnext.frame (fun k => List.prefix_rfl) (fun _ _ h => h) (fun _ _ _ h => h)
      (fun _ _ _ _ h => h) (fun k e he hdirty => ⟨?_, fun _ h => h⟩)
    cases retry with
    | true => exact he
    | false => exact StackOwnerCache.lookup_of_remove he

/-! ## Runs -/

/-- **A changed spec is applied under an identity as new as the spec**, in runs in
which the listener has been called for a version before its owner is looked up
in an entry that still looks clean. -/
theorem applied_owner (s : ControllerState)
    (h : controllerSystem.ReachableUnder ListenerCalled s) (key : String) (i : Nat)
    (stack : Internal.Stack) (config : ImpersonationConfig)
    (hloop : s.loop = .applying key i stack config false)
    (hdirty : isStackDirty stack.status = true) :
    (s.versions key)[i]? = some stack ∧
      ∃ j newer, i ≤ j ∧ (s.versions key)[j]? = some newer ∧ newer.spec.owner = config := by
  -- at the start there is no version, no entry and no stack in hand
  have hinv : IdentityInv s := by
    refine h.induct ?_ fun s a s' hs ha hstep => identityInv_step hs ha hstep
    rintro s rfl
    refine ⟨?_, ?_, ?_, ?_⟩
    · rintro key i (hi | ⟨_, _, ⟨⟩⟩)
      cases hi
    · exact fun key i stack hi => absurd hi (Loop.quiet_idle key i stack)
    · intro key e he
      rw [show startedController.ownerCache = ∅ from rfl, Finmap.lookup_empty] at he
      cases he
    · rintro _ _ _ _ ⟨⟩
  obtain ⟨j, hij, newer, hnewer, howner⟩ := hinv.applying key i stack config hloop hdirty
  exact ⟨hinv.read key i stack (Or.inr ⟨config, false, hloop⟩), j, newer, hij, hnewer, howner⟩

/-- A version that waits for reconciliation, as its user left it. -/
def versionOf (user : String) : Internal.Stack :=
  { (default : Internal.Stack) with
    objectMeta := (stackOf []).objectMeta
    spec := { (default : Internal.StackSpec) with
      owner := { (default : ImpersonationConfig) with userName := user } }
    status := none }

/-- The first version is applied: its owner has been asked for, and is cached. -/
def appliesFirst : ControllerState :=
  { startedController with
    versions := Function.update (fun _ => []) "prod/app" [versionOf "alice"]
    informer := Function.update (fun _ => none) "prod/app" (some 0)
    ownerCache := Finmap.insert "prod/app"
      { config := (versionOf "alice").spec.owner, dirty := false } ∅
    loop := .applying "prod/app" 0 (versionOf "alice") (versionOf "alice").spec.owner false }

/-- The first version is stored, delivered and reconciled. -/
theorem appliesFirst_reachable : controllerSystem.ReachableUnder ListenerCalled appliesFirst := by
  -- stored, delivered, seen by the listener, queued, taken and looked up
  have hstored : controllerSystem.ReachableUnder ListenerCalled _ :=
    .step (.init rfl) (by trivial)
      (show ControllerStep _ (.store "prod/app" (versionOf "alice")) _ from .store)
  have hdelivered : controllerSystem.ReachableUnder ListenerCalled _ :=
    .step hstored (by trivial)
      (show ControllerStep _ (.deliver "prod/app" 0) _ from .deliver (by decide))
  have hcalled : controllerSystem.ReachableUnder ListenerCalled _ :=
    .step hdelivered (by trivial) (show ControllerStep _ .callback _ from .onUpdate rfl rfl)
  have hqueued : controllerSystem.ReachableUnder ListenerCalled _ :=
    .step hcalled (by trivial) (show ControllerStep _ .enqueue _ from .enqueue rfl)
  have htaken : controllerSystem.ReachableUnder ListenerCalled _ :=
    .step hqueued (by trivial) (show ControllerStep _ (.take "prod/app") _ from
      .take rfl (by decide) rfl (show _ = some (versionOf "alice") from rfl))
  refine .step htaken ?_ (show ControllerStep _ (.lookup (.found (versionOf "alice").spec.owner)) _
    from .lookup rfl ?_)
  · rintro key i stack steps e - - he -
    cases he
  · rintro owner ⟨⟩
    exact ⟨versionOf "alice", rfl, rfl⟩

/-- The condition holds in the run, and the first version is applied by its owner. -/
theorem applied_owner_appliesFirst :
    isStackDirty (versionOf "alice").status = true ∧
      ∃ j newer, 0 ≤ j ∧ (appliesFirst.versions "prod/app")[j]? = some newer ∧
        newer.spec.owner = (versionOf "alice").spec.owner :=
  ⟨rfl, (applied_owner appliesFirst appliesFirst_reachable "prod/app" 0 (versionOf "alice") _
    rfl rfl).2⟩

/-- **An outdated identity.** A second user updates the stack. The informer's store
has the new version and the listener has not been called for it when a child
changes: the new spec is applied as the first user. -/
theorem applied_outdated_owner :
    ∃ s, controllerSystem.Reachable s ∧
      s.loop = .applying "prod/app" 1 (versionOf "bob") (versionOf "alice").spec.owner false ∧
      isStackDirty (versionOf "bob").status = true ∧
      ∀ j newer, 1 ≤ j → (s.versions "prod/app")[j]? = some newer →
        newer.spec.owner ≠ (versionOf "alice").spec.owner := by
  have hidle : controllerSystem.Reachable _ :=
    .step appliesFirst_reachable.reachable trivial
      (show ControllerStep _ (.applied false) _ from .applied rfl)
  have hstored : controllerSystem.Reachable _ :=
    .step hidle trivial (show ControllerStep _ (.store "prod/app" (versionOf "bob")) _ from .store)
  have hdelivered : controllerSystem.Reachable _ :=
    .step hstored trivial
      (show ControllerStep _ (.deliver "prod/app" 1) _ from .deliver (by decide))
  have hchild : controllerSystem.Reachable _ :=
    .step hdelivered trivial (show ControllerStep _ (.childEvent "prod/app") _ from .childEvent)
  have htaken : controllerSystem.Reachable _ :=
    .step hchild trivial (show ControllerStep _ (.take "prod/app") _ from
      .take rfl (by decide) rfl (show _ = some (versionOf "bob") from rfl))
  refine ⟨_, .step htaken trivial
    (show ControllerStep _ (.lookup (.found (versionOf "bob").spec.owner)) _ from
      .lookup rfl ?_), rfl, rfl, ?_⟩
  · rintro owner ⟨⟩
    exact ⟨versionOf "bob", rfl, rfl⟩
  · intro j newer hj hnewer
    match j, hj, hnewer with
    | 1, _, hnewer =>
      cases (show some (versionOf "bob") = some newer from hnewer)
      decide

end ComposeKube
