import ComposeKube.Controller.Isolation
import ComposeKube.Controller.OwnerCache

/-!
# Deletion of secrets and config maps

When a stack goes, `deleteStackChildren` removes its children, then its secrets
and config maps, and forgets the owner in the end: without the owner there is no
updater, so what has not been deleted by then stays. Secrets and config maps are
deleted by label in one call. A user who may not do that gets them deleted one by
one, by the names in the spec.

The API may answer each call with any error. `deleteSecretsAndConfigMaps` looks at
the error of a collection call only to find out whether it is `Forbidden`; every
other error is dropped.

* `deleteEntries_eq_none_iff`, `mem_deleteEntries` — the loop over the names.
* `cleared_iff` — what has been deleted of one kind of objects.
* `deletion_complete_iff` — when nothing is forgotten.
-/

namespace ComposeKube

open Go

/-! ## Calls and their errors -/

/-- Errors of a delete call, as the updater tells them apart. -/
inductive DeleteError where
  | notFound
  | forbidden
  | other (message : String)
  deriving DecidableEq

namespace DeleteError

/-- `kerrors.IsNotFound`. -/
def isNotFound (e : DeleteError) : Bool := e = .notFound

/-- `kerrors.IsForbidden`. -/
def isForbidden (e : DeleteError) : Bool := e = .forbidden

end DeleteError

/-- The objects that the secrets and the configs of a stack become. -/
inductive FileObject where
  | secret
  | configMap
  deriving DecidableEq

/-- The calls of the updater. -/
inductive DeleteCall where
  | deleteCollection (object : FileObject) (namespace_ labelSelector : String)
  | delete (object : FileObject) (namespace_ name : String)
  deriving DecidableEq

/-- The kind of objects that a call is about. -/
def DeleteCall.object : DeleteCall → FileObject
  | deleteCollection object _ _ => object
  | delete object _ _ => object

/-- What the API answers to each call; `none` is success. -/
abbrev DeleteResults := DeleteCall → Option DeleteError

/-- The calls that have been made, and the error that is returned. -/
abbrev Deletion := List DeleteCall × Option DeleteError

/-- `labels.SelectorForStack`. -/
def selectorForStack (stackName : String) (serviceNames : List String) : String :=
  match serviceNames with
  | [] => Labels.forStackName ++ "=" ++ stackName
  | [serviceName] =>
    Labels.forStackName ++ "=" ++ stackName ++ "," ++ Labels.forServiceName ++ "=" ++ serviceName
  | serviceNames =>
    Labels.forStackName ++ "=" ++ stackName ++ "," ++ Labels.forServiceName ++ " in (" ++
      ",".intercalate serviceNames ++ ")"

/-! ## The updater -/

/-- The loop of `deleteSecretsNoCollection` and `deleteConfigMapsNoCollection`. -/
def deleteEntries (results : DeleteResults) (object : FileObject) (namespace_ : String) :
    List (String × Latest.FileObjectConfig) → Deletion
  | [] => ([], none)
  | (name, s) :: rest =>
    if s.external.external then deleteEntries results object namespace_ rest
    else
      let call := DeleteCall.delete object namespace_ name
      let continued := deleteEntries results object namespace_ rest
      match results call with
      | some err =>
        -- an object that is not there need not be deleted
        if !err.isNotFound then ([call], some err) else (call :: continued.1, continued.2)
      | none => (call :: continued.1, continued.2)

/-- `deleteSecretsNoCollection`. -/
def deleteSecretsNoCollection (ord : RangeOrder FileObject) (results : DeleteResults)
    (originalStack : Latest.Stack) : Deletion :=
  match originalStack.spec with
  | none => ([], none)
  | some spec => deleteEntries results .secret originalStack.objectMeta.namespace_
      (ord.range .secret spec.secrets.entries)

/-- `deleteConfigMapsNoCollection`. -/
def deleteConfigMapsNoCollection (ord : RangeOrder FileObject) (results : DeleteResults)
    (originalStack : Latest.Stack) : Deletion :=
  match originalStack.spec with
  | none => ([], none)
  | some spec => deleteEntries results .configMap originalStack.objectMeta.namespace_
      (ord.range .configMap spec.configs.entries)

/-- The collection call for the objects of a stack. -/
def collectionCall (originalStack : Latest.Stack) (object : FileObject) : DeleteCall :=
  .deleteCollection object originalStack.objectMeta.namespace_
    (selectorForStack originalStack.objectMeta.name [])

/-- The collection call, and what follows when it fails: one of the two halves of
`deleteSecretsAndConfigMaps`. -/
def deleteObjects (results : DeleteResults) (originalStack : Latest.Stack) (object : FileObject)
    (noCollection : Deletion) : Deletion :=
  let call := collectionCall originalStack object
  match results call with
  -- the inner `if` has no `else`: an error that is not `Forbidden` ends here
  | some err => if err.isForbidden then (call :: noCollection.1, noCollection.2) else ([call], none)
  | none => ([call], none)

/-- `deleteSecretsAndConfigMaps`. -/
def deleteSecretsAndConfigMaps (ord : RangeOrder FileObject) (results : DeleteResults)
    (originalStack : Latest.Stack) : Deletion :=
  let secrets := deleteObjects results originalStack .secret
    (deleteSecretsNoCollection ord results originalStack)
  match secrets.2 with
  | some err => (secrets.1, some err)
  | none =>
    let configMaps := deleteObjects results originalStack .configMap
      (deleteConfigMapsNoCollection ord results originalStack)
    (secrets.1 ++ configMaps.1, configMaps.2)

/-! ## The reconciler -/

/-- `resourceUpdater`, as far as deletions use it: the error of `applyStackDiff`, and
the API behind `deleteSecretsAndConfigMaps`. -/
structure ResourceUpdater where
  applyStackDiff : StackStateDiff → Option String
  results : DeleteResults

/-- What a deletion does, in order. -/
inductive DeletionEvent where
  | diffApplied (diff : StackStateDiff)
  | called (call : DeleteCall)
  | ownerRemoved (key : String)

/-- `deleteStackChildren`, given the caches and what `getUpdater` returns. -/
def deleteStackChildren (ord : RangeOrder ChildKind) (ord' : DiffOrder)
    (ord'' : RangeOrder FileObject) (caches : StackState)
    (getUpdater : Except String ResourceUpdater) (stack : Latest.Stack)
    (ownerCache : StackOwnerCache) :
    List DeletionEvent × StackOwnerCache :=
  match getUpdater with
  | .error _ => ([], ownerCache)
  | .ok updater =>
    let diff := deletionDiff ord ord' stack caches
    match updater.applyStackDiff diff with
    -- what has been applied by then is not an event: the difference as a whole was not
    | some _ => ([], ownerCache)
    | none =>
      let deletion := deleteSecretsAndConfigMaps ord'' updater.results stack
      match deletion.2 with
      | some _ => (.diffApplied diff :: deletion.1.map .called, ownerCache)
      | none =>
        (.diffApplied diff :: deletion.1.map .called ++ [.ownerRemoved (stackKey stack)],
          ownerCache.remove (stackKey stack))

/-! ## What is to be deleted -/

/-- The entries of the spec for a kind of objects. -/
def FileObject.entries (spec : Latest.StackSpec) : FileObject → MapRef Latest.FileObjectConfig
  | secret => spec.secrets
  | configMap => spec.configs

/-- The stack has an entry of the name that is not external. -/
def OwnEntry (stack : Latest.Stack) (object : FileObject) (name : String) : Prop :=
  ∃ spec s, stack.spec = some spec ∧ (object.entries spec).get? name = some s ∧
    s.external.external = false

/-- The object is gone after a call with this result. -/
def Gone (result : Option DeleteError) : Prop := result = none ∨ result = some .notFound

instance (result : Option DeleteError) : Decidable (Gone result) :=
  inferInstanceAs (Decidable (result = none ∨ result = some .notFound))

/-- The call that deletes one object of the stack. -/
def entryCall (stack : Latest.Stack) (object : FileObject) (name : String) : DeleteCall :=
  .delete object stack.objectMeta.namespace_ name

/-- The objects of the kind have been deleted: all at once, or one by one. -/
def Cleared (results : DeleteResults) (stack : Latest.Stack) (calls : List DeleteCall)
    (object : FileObject) : Prop :=
  (collectionCall stack object ∈ calls ∧ results (collectionCall stack object) = none) ∨
    ∀ name, OwnEntry stack object name →
      entryCall stack object name ∈ calls ∧ Gone (results (entryCall stack object name))

/-- The collection call is forbidden, and so is one of the calls instead of it, or it
fails in another way. -/
def FallbackFails (results : DeleteResults) (stack : Latest.Stack) (object : FileObject) : Prop :=
  results (collectionCall stack object) = some .forbidden ∧
    ∃ name, OwnEntry stack object name ∧ ¬Gone (results (entryCall stack object name))

/-- The collection call fails, not with `Forbidden`, and there is something to delete. -/
def Swallowed (results : DeleteResults) (stack : Latest.Stack) (object : FileObject) : Prop :=
  (∃ err, results (collectionCall stack object) = some err ∧ err ≠ .forbidden) ∧
    ∃ name, OwnEntry stack object name

/-! ## The loop over the names -/

section Entries

variable (results : DeleteResults) (object : FileObject) (namespace_ : String)

/-- One step of the loop at an entry that is not external. -/
theorem deleteEntries_cons_own (name : String) {s : Latest.FileObjectConfig}
    (hs : s.external.external = false) (rest : List (String × Latest.FileObjectConfig)) :
    deleteEntries results object namespace_ ((name, s) :: rest) =
      if Gone (results (.delete object namespace_ name)) then
        (.delete object namespace_ name :: (deleteEntries results object namespace_ rest).1,
          (deleteEntries results object namespace_ rest).2)
      else ([.delete object namespace_ name], results (.delete object namespace_ name)) := by
  rw [deleteEntries, if_neg (by simp [hs])]
  dsimp only
  cases hresult : results (.delete object namespace_ name) with
  | none => simp [Gone]
  | some err => cases err <;> simp [Gone, DeleteError.isNotFound]

/-- **The loop returns nil** when every object it comes to is gone. -/
theorem deleteEntries_eq_none_iff (entries : List (String × Latest.FileObjectConfig)) :
    (deleteEntries results object namespace_ entries).2 = none ↔
      ∀ e ∈ entries, e.2.external.external = false →
        Gone (results (.delete object namespace_ e.1)) := by
  induction entries with
  | nil => simp [deleteEntries]
  | cons e rest ih =>
    obtain ⟨name, s⟩ := e
    rw [List.forall_mem_cons, ← ih]
    cases hs : s.external.external with
    -- an external object is not deleted
    | true => simp [deleteEntries, hs]
    | false =>
      rw [deleteEntries_cons_own results object namespace_ name hs]
      by_cases hgone : Gone (results (.delete object namespace_ name))
      · simp [hgone]
      · have herr : results (.delete object namespace_ name) ≠ none := fun h => hgone (Or.inl h)
        simp [hgone, herr]

/-- Where it does, it has made all calls. -/
theorem mem_deleteEntries {entries : List (String × Latest.FileObjectConfig)}
    (h : (deleteEntries results object namespace_ entries).2 = none)
    {e : String × Latest.FileObjectConfig} (he : e ∈ entries)
    (hown : e.2.external.external = false) :
    .delete object namespace_ e.1 ∈ (deleteEntries results object namespace_ entries).1 := by
  induction entries with
  | nil => cases he
  | cons first rest ih =>
    -- the loop got past the first entry
    have hrest : (deleteEntries results object namespace_ rest).2 = none := by
      rw [deleteEntries_eq_none_iff] at h ⊢
      exact (List.forall_mem_cons.mp h).2
    obtain ⟨name, s⟩ := first
    cases hs : s.external.external with
    | true =>
      rw [deleteEntries, if_pos hs]
      refine ih hrest ((List.mem_cons.mp he).resolve_left ?_)
      rintro rfl
      rw [hs] at hown
      cases hown
    | false =>
      have hgone := (deleteEntries_eq_none_iff results object namespace_ _).mp h _
        List.mem_cons_self hs
      rw [deleteEntries_cons_own results object namespace_ name hs, if_pos hgone]
      rcases List.mem_cons.mp he with rfl | he
      · exact List.mem_cons_self
      · exact List.mem_cons_of_mem _ (ih hrest he)

/-- It makes calls of its own kind only. -/
theorem object_of_mem_deleteEntries {entries : List (String × Latest.FileObjectConfig)}
    {call : DeleteCall} (h : call ∈ (deleteEntries results object namespace_ entries).1) :
    call.object = object := by
  induction entries with
  | nil => simp [deleteEntries] at h
  | cons e rest ih =>
    obtain ⟨name, s⟩ := e
    cases hs : s.external.external with
    | true =>
      rw [deleteEntries, if_pos hs] at h
      exact ih h
    | false =>
      rw [deleteEntries_cons_own results object namespace_ name hs] at h
      split at h
      · rcases List.mem_cons.mp h with rfl | h
        · rfl
        · exact ih h
      · -- the loop stopped at this entry
        rw [List.mem_singleton.mp h]
        rfl

end Entries

/-! ## One kind of objects -/

section Objects

variable (ord : RangeOrder FileObject) (results : DeleteResults) (stack : Latest.Stack)

/-- The two functions that delete one by one. -/
def deleteNoCollection : FileObject → Deletion
  | .secret => deleteSecretsNoCollection ord results stack
  | .configMap => deleteConfigMapsNoCollection ord results stack

/-- The deletion one by one is a loop over the entries of the stack. -/
theorem deleteNoCollection_eq (object : FileObject) :
    deleteNoCollection ord results stack object =
      match stack.spec with
      | none => ([], none)
      | some spec => deleteEntries results object stack.objectMeta.namespace_
          (ord.range object (object.entries spec).entries) := by
  cases object <;> rfl

/-- The entries that the loop comes to. -/
theorem ownEntry_iff {spec : Latest.StackSpec} (hspec : stack.spec = some spec)
    {object : FileObject} {name : String} :
    OwnEntry stack object name ↔
      ∃ e ∈ ord.range object (object.entries spec).entries,
        e.1 = name ∧ e.2.external.external = false := by
  constructor
  · rintro ⟨spec', s, hspec', hs, hown⟩
    obtain rfl : spec' = spec := Option.some.inj (hspec'.symm.trans hspec)
    refine ⟨(name, s), ?_, rfl, hown⟩
    rw [ord.mem_range, MapRef.lookup_entries]
    exact hs
  · rintro ⟨⟨name, s⟩, hmem, rfl, hown⟩
    rw [ord.mem_range, MapRef.lookup_entries] at hmem
    exact ⟨spec, s, hspec, hmem, hown⟩

/-- It succeeds when every object of the stack's own is gone. -/
theorem deleteNoCollection_eq_none_iff (object : FileObject) :
    (deleteNoCollection ord results stack object).2 = none ↔
      ∀ name, OwnEntry stack object name → Gone (results (entryCall stack object name)) := by
  rw [deleteNoCollection_eq]
  cases hspec : stack.spec with
  | none => simp [OwnEntry, hspec]
  | some spec =>
    simp only [deleteEntries_eq_none_iff, ownEntry_iff ord stack hspec, entryCall]
    constructor
    · rintro h name ⟨e, he, rfl, hown⟩
      exact h e he hown
    · exact fun h e he hown => h e.1 ⟨e, he, rfl, hown⟩

/-- When it succeeds, each of them has been asked for. -/
theorem mem_deleteNoCollection {object : FileObject}
    (h : (deleteNoCollection ord results stack object).2 = none) {name : String}
    (hname : OwnEntry stack object name) :
    entryCall stack object name ∈ (deleteNoCollection ord results stack object).1 := by
  obtain ⟨spec, s, hspec, -⟩ := id hname
  obtain ⟨e, he, rfl, hown⟩ := (ownEntry_iff ord stack hspec).mp hname
  rw [deleteNoCollection_eq, hspec] at h ⊢
  exact mem_deleteEntries results object _ h he hown

theorem object_of_mem_deleteNoCollection {object : FileObject} {call : DeleteCall}
    (h : call ∈ (deleteNoCollection ord results stack object).1) : call.object = object := by
  rw [deleteNoCollection_eq] at h
  cases hspec : stack.spec with
  | none =>
    rw [hspec] at h
    cases h
  | some spec =>
    rw [hspec] at h
    exact object_of_mem_deleteEntries results object _ h

/-- One half of `deleteSecretsAndConfigMaps`. -/
def deletionHalf (object : FileObject) : Deletion :=
  deleteObjects results stack object (deleteNoCollection ord results stack object)

/-- Where the collection may not be deleted, the objects are deleted one by one. -/
theorem deletionHalf_of_forbidden {object : FileObject}
    (h : results (collectionCall stack object) = some .forbidden) :
    deletionHalf ord results stack object =
      (collectionCall stack object :: (deleteNoCollection ord results stack object).1,
        (deleteNoCollection ord results stack object).2) := by
  unfold deletionHalf deleteObjects
  dsimp only
  rw [h]
  rfl

/-- Success and an error that is not `Forbidden` are treated alike. -/
theorem deletionHalf_of_ne_forbidden {object : FileObject}
    (h : results (collectionCall stack object) ≠ some .forbidden) :
    deletionHalf ord results stack object = ([collectionCall stack object], none) := by
  unfold deletionHalf deleteObjects
  dsimp only
  cases hresult : results (collectionCall stack object) with
  | none => rfl
  | some err =>
    have herr : err ≠ .forbidden := fun heq => h (by rw [hresult, heq])
    simp [DeleteError.isForbidden, herr]

/-- **A half returns nil** unless its fallback fails. -/
theorem deletionHalf_eq_none_iff (object : FileObject) :
    (deletionHalf ord results stack object).2 = none ↔ ¬FallbackFails results stack object := by
  by_cases hforbidden : results (collectionCall stack object) = some .forbidden
  · rw [deletionHalf_of_forbidden ord results stack hforbidden, FallbackFails]
    simp [hforbidden, deleteNoCollection_eq_none_iff]
  · rw [deletionHalf_of_ne_forbidden ord results stack hforbidden, FallbackFails]
    simp [hforbidden]

/-- Each half deletes its own kind of object. -/
theorem object_of_mem_deletionHalf {object : FileObject} {call : DeleteCall}
    (h : call ∈ (deletionHalf ord results stack object).1) : call.object = object := by
  by_cases hforbidden : results (collectionCall stack object) = some .forbidden
  · rw [deletionHalf_of_forbidden ord results stack hforbidden] at h
    rcases List.mem_cons.mp h with rfl | h
    · rfl
    · exact object_of_mem_deleteNoCollection ord results stack h
  · rw [deletionHalf_of_ne_forbidden ord results stack hforbidden] at h
    rw [List.mem_singleton.mp h]
    rfl

/-- **What a half that returns nil has cleared**: everything, unless an error has been
swallowed. The calls of the other half do not matter. -/
theorem cleared_iff {object : FileObject} {calls : List DeleteCall}
    (h : (deletionHalf ord results stack object).2 = none)
    (hcalls : ∀ call, call.object = object →
      (call ∈ calls ↔ call ∈ (deletionHalf ord results stack object).1)) :
    Cleared results stack calls object ↔ ¬Swallowed results stack object := by
  unfold Cleared
  rw [hcalls _ rfl]
  have hentry : ∀ name, entryCall stack object name ∈ calls ↔
      entryCall stack object name ∈ (deletionHalf ord results stack object).1 :=
    fun name => hcalls _ rfl
  simp only [hentry]
  cases hresult : results (collectionCall stack object) with
  -- the collection is gone
  | none =>
    have hne : results (collectionCall stack object) ≠ some .forbidden := by simp [hresult]
    have hhalf := deletionHalf_of_ne_forbidden ord results stack hne
    simp [Swallowed, hresult, hhalf]
  | some err =>
    by_cases herr : err = .forbidden
    · -- every name has been dealt with
      subst herr
      have hhalf := deletionHalf_of_forbidden ord results stack hresult
      rw [hhalf] at h ⊢
      have hgone := (deleteNoCollection_eq_none_iff ord results stack object).mp h
      have hswallowed : ¬Swallowed results stack object := by
        rintro ⟨⟨err, heq, hne⟩, -⟩
        rw [hresult] at heq
        exact hne (Option.some.inj heq).symm
      refine iff_of_true (Or.inr fun name hname => ⟨?_, hgone name hname⟩) hswallowed
      exact List.mem_cons_of_mem _ (mem_deleteNoCollection ord results stack h hname)
    · -- no name has been looked at
      have hne : results (collectionCall stack object) ≠ some .forbidden := by
        simp [hresult, herr]
      have hhalf := deletionHalf_of_ne_forbidden ord results stack hne
      have hentry : ∀ name, entryCall stack object name ≠ collectionCall stack object :=
        fun _ heq => DeleteCall.noConfusion heq
      simp [Swallowed, hresult, herr, hhalf, hentry]

end Objects

/-! ## Both kinds -/

section Both

variable (ord : RangeOrder FileObject) (results : DeleteResults) (stack : Latest.Stack)

theorem deleteSecretsAndConfigMaps_eq :
    deleteSecretsAndConfigMaps ord results stack =
      match (deletionHalf ord results stack .secret).2 with
      | some err => ((deletionHalf ord results stack .secret).1, some err)
      | none => ((deletionHalf ord results stack .secret).1 ++
          (deletionHalf ord results stack .configMap).1,
          (deletionHalf ord results stack .configMap).2) := rfl

/-- **Both return nil** or an error is returned. -/
theorem deleteSecretsAndConfigMaps_eq_none_iff :
    (deleteSecretsAndConfigMaps ord results stack).2 = none ↔
      ∀ object, ¬FallbackFails results stack object := by
  have hall : (∀ object, ¬FallbackFails results stack object) ↔
      (deletionHalf ord results stack .secret).2 = none ∧
        (deletionHalf ord results stack .configMap).2 = none := by
    rw [deletionHalf_eq_none_iff, deletionHalf_eq_none_iff]
    constructor
    · exact fun h => ⟨h _, h _⟩
    · rintro ⟨hsecret, hconfigMap⟩ (_ | _)
      · exact hsecret
      · exact hconfigMap
  rw [deleteSecretsAndConfigMaps_eq, hall]
  cases (deletionHalf ord results stack .secret).2 <;> simp

/-- The calls for one kind of objects are those of its half. -/
theorem mem_deleteSecretsAndConfigMaps (h : (deleteSecretsAndConfigMaps ord results stack).2 = none)
    {object : FileObject} {call : DeleteCall} (hcall : call.object = object) :
    call ∈ (deleteSecretsAndConfigMaps ord results stack).1 ↔
      call ∈ (deletionHalf ord results stack object).1 := by
  have hfails := (deleteSecretsAndConfigMaps_eq_none_iff ord results stack).mp h
  have hsecret := (deletionHalf_eq_none_iff ord results stack .secret).mpr (hfails _)
  rw [deleteSecretsAndConfigMaps_eq, hsecret]
  dsimp only
  rw [List.mem_append]
  -- the other half has no call for these objects
  have hother : ∀ other, other ≠ object → call ∉ (deletionHalf ord results stack other).1 := by
    intro other hne hmem
    exact hne ((object_of_mem_deletionHalf ord results stack hmem).symm.trans hcall)
  cases object with
  | secret => simp [hother .configMap (by decide)]
  | configMap => simp [hother .secret (by decide)]

/-- **When nil means that nothing is left.** -/
theorem cleared_of_nil_iff :
    ((deleteSecretsAndConfigMaps ord results stack).2 = none →
        ∀ object, Cleared results stack (deleteSecretsAndConfigMaps ord results stack).1 object) ↔
      (∃ object, FallbackFails results stack object) ∨
        ∀ object, ¬Swallowed results stack object := by
  have hcleared : (deleteSecretsAndConfigMaps ord results stack).2 = none → ∀ object,
      (Cleared results stack (deleteSecretsAndConfigMaps ord results stack).1 object ↔
        ¬Swallowed results stack object) := by
    intro h object
    refine cleared_iff ord results stack ?_
      fun call hcall => mem_deleteSecretsAndConfigMaps ord results stack h hcall
    rw [deletionHalf_eq_none_iff]
    exact (deleteSecretsAndConfigMaps_eq_none_iff ord results stack).mp h object
  -- an error that is returned makes the implication hold for nothing
  by_cases h : (deleteSecretsAndConfigMaps ord results stack).2 = none
  · have hfails := (deleteSecretsAndConfigMaps_eq_none_iff ord results stack).mp h
    have hnone : ¬∃ object, FallbackFails results stack object :=
      fun ⟨object, hobject⟩ => hfails object hobject
    simp only [h, true_implies, hcleared h, hnone, false_or]
  · have hsome : ∃ object, FallbackFails results stack object := by
      by_contra hnone
      exact h ((deleteSecretsAndConfigMaps_eq_none_iff ord results stack).mpr
        fun object hobject => hnone ⟨object, hobject⟩)
    exact iff_of_true (fun hnone => absurd hnone h) (Or.inl hsome)

end Both

/-! ## The owner -/

/-- **When the owner is forgotten**: after the difference has been applied and
`deleteSecretsAndConfigMaps` has returned nil. -/
theorem ownerRemoved_iff {ord : RangeOrder ChildKind} {ord' : DiffOrder}
    {ord'' : RangeOrder FileObject} {caches : StackState}
    {getUpdater : Except String ResourceUpdater} {stack : Latest.Stack}
    {ownerCache : StackOwnerCache} {key : String} :
    .ownerRemoved key ∈
        (deleteStackChildren ord ord' ord'' caches getUpdater stack ownerCache).1 ↔
      key = stackKey stack ∧ ∃ updater, getUpdater = .ok updater ∧
        updater.applyStackDiff (deletionDiff ord ord' stack caches) = none ∧
        (deleteSecretsAndConfigMaps ord'' updater.results stack).2 = none ∧
        (deleteStackChildren ord ord' ord'' caches getUpdater stack ownerCache).1 =
          .diffApplied (deletionDiff ord ord' stack caches) ::
            (deleteSecretsAndConfigMaps ord'' updater.results stack).1.map .called ++
            [.ownerRemoved (stackKey stack)] := by
  unfold deleteStackChildren
  cases getUpdater with
  | error e => simp
  | ok updater =>
    dsimp only
    cases hdiff : updater.applyStackDiff (deletionDiff ord ord' stack caches) with
    | some e => simp
    | none =>
      cases hdeletion : (deleteSecretsAndConfigMaps ord'' updater.results stack).2 with
      | some e => simp [hdiff, hdeletion]
      | none => simp [hdiff, hdeletion]

/-- Without that event the cache stays as it is. -/
theorem ownerCache_of_not_removed {ord : RangeOrder ChildKind} {ord' : DiffOrder}
    {ord'' : RangeOrder FileObject} {caches : StackState}
    {getUpdater : Except String ResourceUpdater} {stack : Latest.Stack}
    {ownerCache : StackOwnerCache}
    (h : .ownerRemoved (stackKey stack) ∉
      (deleteStackChildren ord ord' ord'' caches getUpdater stack ownerCache).1) :
    (deleteStackChildren ord ord' ord'' caches getUpdater stack ownerCache).2 = ownerCache := by
  revert h
  -- the owner is removed in the last branch only
  unfold deleteStackChildren
  cases getUpdater with
  | error e => simp
  | ok updater =>
    dsimp only
    cases updater.applyStackDiff (deletionDiff ord ord' stack caches) with
    | some e => simp
    | none =>
      cases (deleteSecretsAndConfigMaps ord'' updater.results stack).2 with
      | some e => simp
      | none => simp

/-- **When nothing is forgotten.** For every stack and all answers of the API, two
things hold exactly when a fallback fails or no error of a collection call is
swallowed: `deleteSecretsAndConfigMaps` returns nil only if for both kinds the
collection call has succeeded or every entry that is not external is gone; and
`deleteStackChildren` removes the entry of the owner cache only after it has applied
the difference and this is so. -/
theorem deletion_complete_iff (ord'' : RangeOrder FileObject) (results : DeleteResults)
    (stack : Latest.Stack) :
    (((deleteSecretsAndConfigMaps ord'' results stack).2 = none → ∀ object,
        Cleared results stack (deleteSecretsAndConfigMaps ord'' results stack).1 object) ∧
      ∀ (ord : RangeOrder ChildKind) (ord' : DiffOrder) (caches : StackState)
        (getUpdater : Except String ResourceUpdater) (ownerCache : StackOwnerCache),
        (∀ updater, getUpdater = .ok updater → updater.results = results) →
        let run := deleteStackChildren ord ord' ord'' caches getUpdater stack ownerCache
        (run.2 ≠ ownerCache → .ownerRemoved (stackKey stack) ∈ run.1) ∧
        (.ownerRemoved (stackKey stack) ∈ run.1 → ∃ calls,
          run.1 = .diffApplied (deletionDiff ord ord' stack caches) :: calls.map .called ++
            [.ownerRemoved (stackKey stack)] ∧
          ∀ object, Cleared results stack calls object)) ↔
      (∃ object, FallbackFails results stack object) ∨
        ∀ object, ¬Swallowed results stack object := by
  rw [← cleared_of_nil_iff ord'' results stack]
  constructor
  · exact fun h => h.1
  · -- the owner cache adds no condition: the owner goes only where nil is returned
    intro h
    refine ⟨h, ?_⟩
    intro ord ord' caches getUpdater ownerCache hresults run
    constructor
    · intro hchanged
      by_contra hkept
      exact hchanged (ownerCache_of_not_removed hkept)
    · intro hremoved
      obtain ⟨-, updater, hupdater, -, hnone, hevents⟩ := ownerRemoved_iff.mp hremoved
      rw [hresults updater hupdater] at hnone hevents
      exact ⟨_, hevents, h hnone⟩

/-! ## An error that is swallowed -/

/-- A stack with one secret of its own. -/
def secretStack : Latest.Stack :=
  { webStack with
    spec := webStack.spec.map fun spec =>
      { spec with secrets := some ((∅ : Map Latest.SecretConfig).insert "token" default) } }

/-- **A secret is forgotten.** The API is out of order when the secrets are to be
deleted. The error is dropped, nil is returned, no call for the secret follows, and
the owner is removed, so that no later attempt can be made. -/
theorem deletion_forgets_secret :
    let results : DeleteResults := fun call =>
      if call.object = .secret then some (.other "etcdserver: request timed out") else none
    let updater : ResourceUpdater := { applyStackDiff := fun _ => none, results }
    (deleteSecretsAndConfigMaps (RangeOrder.ascending _) results secretStack).2 = none ∧
      OwnEntry secretStack .secret "token" ∧
      ¬Cleared results secretStack
        (deleteSecretsAndConfigMaps (RangeOrder.ascending _) results secretStack).1 .secret ∧
      ∀ ord ord' caches ownerCache, .ownerRemoved (stackKey secretStack) ∈
        (deleteStackChildren ord ord' (RangeOrder.ascending _) caches (.ok updater) secretStack
          ownerCache).1 := by
  intro results updater
  have hnone : (deleteSecretsAndConfigMaps (RangeOrder.ascending _) results secretStack).2 =
      none := rfl
  have hentry : OwnEntry secretStack .secret "token" := ⟨_, default, rfl, rfl, rfl⟩
  refine ⟨hnone, hentry, ?_, ?_⟩
  · rintro (⟨-, hsuccess⟩ | hall)
    · cases hsuccess
    · exact absurd (hall "token" hentry).2 (by decide)
  · intro ord ord' caches ownerCache
    exact ownerRemoved_iff.mpr ⟨rfl, updater, rfl, rfl, hnone, rfl⟩

end ComposeKube
