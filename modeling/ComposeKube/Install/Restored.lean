import ComposeKube.Install.NoLoss

/-!
# What an update restores

An update that returns no error has created every stack of the backup again, or says in
its map of errors which ones it has not. Each stack is created by the user it belongs to,
and by no one else: `Restore` takes the user from the annotation of the backup, and makes a
new client whenever the user changes.

The stacks can only be created again once the definition is gone that they were objects
of; `UninstallCRD` waits for that.

* `ends_restore` — a restoration that succeeds has visited the stack, and has been sent as
  its user.
* `update_restores` — the stack is there again, or is in the map of errors.
* `update_impersonates` — the stack is created as its user, with its compose file.
-/

namespace ComposeKube.Install

open Go Client

/-! ## The stack as it is restored -/

namespace KnownStack

variable (k : KnownStack)

/-- The restored stack has no annotation any more. -/
def restored : KnownStack := { k with user := "" }

end KnownStack

/-- Nobody else touches the stack before or after, and nobody else creates the definition
of the stacks again. -/
structure Untouched (env : Cluster → Cluster → Prop) (k : KnownStack) : Prop
    extends Undisturbed env k where
  restored : ∀ c c', env c c' → c.HasStack k.restored → c'.HasStack k.restored
  undefined : ∀ c c', env c c' → c.find stacksCRD = none → c'.find stacksCRD = none

/-- The stack is created as its user, and with its compose file. -/
def Request.CreatesAs (k : KnownStack) : Request → Prop
  | create user ns o => o.keyIn ns = k.key .stack →
      user = k.user ∧ o.composeFile = k.composeFile
  | _ => True

/-- Where no stack is created, none is created as somebody else. -/
theorem Request.CreatesNot.createsAs {r : Request} {k : KnownStack} (h : r.CreatesNot .stack) :
    r.CreatesAs k := by
  cases r with
  | create user ns o => exact fun hkey => absurd (congrArg Key.kind hkey) h
  | _ => trivial

/-- The annotation with the user is not restored. -/
theorem Object.user_withoutUser (o : Object) : o.withoutUser.user = "" := by
  have hnone : o.withoutUser.objectMeta.annotations.get? userAnnotationKey = none := by
    unfold Object.withoutUser
    cases o.objectMeta.annotations with
    | none => rfl
    | some annotations => exact Finmap.lookup_erase userAnnotationKey annotations
  rw [Object.user, hnone]
  rfl

/-- A copy of a backup describes the restored stack. -/
theorem KnownStack.Describes.asStack {k : KnownStack} {o : Object}
    (h : k.Describes .stackBackup o) (version : Nat) :
    k.restored.Describes .stack (o.asStack.withoutUser.stored o.objectMeta.namespace_ version) := by
  obtain ⟨objectMeta, content⟩ := o
  have hkind : content.kind = .stackBackup := h.kind
  have hkey : Key.mk content.kind objectMeta.namespace_ objectMeta.name =
      k.key .stackBackup := h.key
  cases content with
  | stackBackup spec status =>
    refine ⟨?_, h.composeFile, ?_⟩
    · injection hkey with _ hnamespace hname
      show Key.mk .stack objectMeta.namespace_ objectMeta.name = _
      rw [hnamespace, hname]
      rfl
    · -- what is restored has no user annotation of its own
      exact Object.user_withoutUser _
  -- only backups are described as backups
  | _ => cases hkind

/-! ## Up to the restoration -/

/-- The copy in a backup is not a stack. -/
theorem Object.asBackup_kind (o : Object) : o.asBackup.content.kind ≠ .stack := by
  obtain ⟨objectMeta, content⟩ := o
  cases content <;> exact fun h => nomatch h

/-- The wait only reads. -/
theorem sends_awaitErased (n : Nat) : Sends (Request.CreatesNot .stack) (awaitErased n) := by
  induction n with
  | zero => exact sends_pure _
  | succ n ih =>
    refine (sends_try (by trivial)).bind fun ans => ?_
    cases ans with
    | error err => exact sends_pure _
    | ok crd => exact ih

/-- What is done about an earlier backup, in each of the modes. -/
theorem sends_preparePrevious (mode : BackupMode) :
    Sends (Request.CreatesNot .stack) (preparePrevious mode) := by
  refine (sends_try (by trivial)).bind fun ans => ?_
  cases ans with
  | error err => exact sends_pure _
  | ok crd =>
    cases mode with
    | fail => exact sends_throw _
    | erase =>
      refine (sends_call (by trivial)).bind fun _ => ?_
      exact (sends_awaitErased 60).bind fun _ => sends_pure _
    -- the old backups stay, and the copies are added to them
    | merge => exact sends_pure _

/-- **A backup creates no stack**, in any mode. -/
theorem sends_backup (mode : BackupMode) (fuel : Nat) :
    Sends (Request.CreatesNot .stack) (backup mode fuel) := by
  have hcrd : Sends (Request.CreatesNot .stack) createBackupCrd := by
    refine (sends_call ?_).bind fun _ => sends_pure _
    exact fun h => nomatch h
  -- one stack: a creation, and an update where the name is taken
  have hcopy : ∀ stack, Sends (Request.CreatesNot .stack) (copyStackToBackupCrd stack) := by
    intro stack
    refine (sends_try ?_).bind fun ans => ?_
    · exact stack.asBackup_kind
    · cases ans with
      | ok _ => exact sends_pure _
      | error err =>
        refine sends_ite ((sends_try (by trivial)).bind fun ans => ?_) (sends_throw _)
        cases ans with
        | ok _ => exact sends_pure _
        | error err => exact sends_throw _
  have hpages : Sends (Request.CreatesNot .stack) (copyAllStacks fuel) := by
    refine sends_iterate (fun token => (sends_call (by trivial)).bind fun source => ?_) fuel []
    refine Sends.bind (sends_foldlM fun _ stack _ => hcopy stack) fun _ => ?_
    exact sends_ite (sends_pure _) (sends_pure _)
  refine (sends_call (by trivial)).bind fun _ => ?_
  refine (sends_preparePrevious mode).bind fun needsCreate => ?_
  have hrest : Sends (Request.CreatesNot .stack) (do call .newForConfig; copyAllStacks fuel) :=
    (sends_call (by trivial)).bind fun _ => hpages
  -- the definition of the backups may be there already
  cases needsCreate with
  | true => exact hcrd.bind fun _ => hrest
  | false => exact hrest

section Reinstall

variable {env : Cluster → Cluster → Prop} {w : Contract Cluster Request} {c : Cluster}

/-- A `Get` that does not find anything says the truth. -/
theorem find_of_notFound {c' : Cluster} {key : Key} {err : Err}
    (h : Serves env c (.get key) (.error err) c') (herr : err.isNotFound = true) :
    c'.find key = none := by
  cases h with
  | performed henv h =>
    obtain ⟨hget, rfl⟩ := Prod.mk.inj (Option.some.inj h)
    unfold Cluster.get at hget
    split at hget
    · cases hget
    · assumption
  -- a failure of another kind is not taken for an absence
  | failed henv htrue => exact htrue herr
  -- an answer that was lost is an unknown error, not a NotFound
  | lost henv h hunknown =>
    rw [Err.isNotFound, hunknown] at herr
    cases herr

/-- The definition of the stacks is gone when `UninstallCRD` has succeeded. -/
theorem ends_uninstallCRD (hw : w.Admits (apiServer env) Request.Reinstalls) (fuel : Nat)
    (hc : w.holds c) :
    Ends (apiServer env) w (uninstallCRD fuel) (fun _ c => c.find stacksCRD = none) c := by
  have hreads : ∀ r : Request, r.Reads → r.Reinstalls := fun _ h => h.reinstalls
  refine ends_bind.mpr (ends_call hw (hreads _ (by trivial)) hc fun _ c₁ _ hc₁ => ?_)
  refine ends_bind.mpr (ends_try hw (hreads _ (by trivial)) hc₁ fun ans c₂ h₂ hc₂ => ?_)
  cases ans with
  | error err =>
    refine ends_ite (fun hnotFound => ends_pure.mpr ⟨hc₂, ?_⟩) (fun _ => ends_throw.mpr hc₂)
    -- there was no definition
    exact find_of_notFound h₂ hnotFound
  | ok crd =>
    refine ends_bind.mpr (ends_call hw (hreads _ (by trivial)) hc₂ fun _ c₃ _ hc₃ => ?_)
    refine ends_bind.mpr (((sends_orphanAllStacks hreads reinstalls_delete_stack fuel).ends hw
      hc₃).mono fun _ c₄ hc₄ _ => ?_)
    refine ends_bind.mpr (((sends_ignoringNotFound reinstalls_delete_stacksCRD).ends hw
      hc₄).mono fun _ c₅ hc₅ _ => ?_)
    -- the wait, which only a NotFound ends without an error
    refine ends_iterate (fun _ c => w.holds c) (fun _ _ h => h) (fun _ c hc => ?_) hc₅
    refine ends_bind.mpr (ends_try hw (hreads _ (by trivial)) hc fun ans c' h' hc' => ?_)
    cases ans with
    | error err =>
      refine ends_ite (fun hnotFound => ends_pure.mpr ⟨hc', ?_⟩) (fun _ => ends_throw.mpr hc')
      exact find_of_notFound h' hnotFound
    | ok crd => exact ends_pure.mpr ⟨hc', hc'⟩

end Reinstall

/-! ## The restoration -/

/-- The stack is there again, or is in the map of errors. -/
def Restored (k : KnownStack) (stackErrs : Map StackError) (c : Cluster) : Prop :=
  c.HasStack k.restored ∨ k.fullname ∈ stackErrs

/-- What holds while stacks are restored: nothing is left of the old stacks, and the backup
is there. -/
def restoring (k : KnownStack) : Contract Cluster Request where
  holds c := c.HasBackup k ∧ c.find stacksCRD = none
  may _ r := r.CreatesAs k

/-- A request of `Restore`. -/
structure Request.RestoresAs (k : KnownStack) (r : Request) : Prop where
  adds : r.Adds
  creates : r.CreatesNot .customResourceDefinition
  as : r.CreatesAs k

/-- Backups are what a list of them is made of, and the one of the stack is the one that is
known. -/
structure KnownStack.Faithful (k : KnownStack) (o : Object) : Prop where
  kind : o.content.kind = .stackBackup
  describes : o.key = k.key .stackBackup → k.Describes .stackBackup o

/-- Where the loop has got to: the client is for the user of the configuration, and the
stack is restored once it has been visited. -/
structure Visiting (k : KnownStack) (visited : Prop) (state : RestoreState) (c : Cluster) :
    Prop where
  client : state.client = state.userName
  restored : visited → Restored k state.stackErrs c

section Restore

variable {env : Cluster → Cluster → Prop} {k : KnownStack} {c c' : Cluster} {r : Request}
  {ans : Answer r} {visited : Prop} {state : RestoreState}

/-- The definition of the stacks stays away while no definition is created. -/
theorem undefined_of_serves (henv : Untouched env k)
    (hr : r.CreatesNot .customResourceDefinition) (h : Serves env c r ans c')
    (hc : c.find stacksCRD = none) : c'.find stacksCRD = none := by
  obtain ⟨c₁, hc₁, heffect⟩ := effect_of_serves h
  exact none_of_effect heffect hr (henv.undefined c c₁ hc₁ hc)

/-- The requests of `Restore` keep to the contract. -/
theorem admits_restoresAs (henv : Untouched env k) :
    (restoring k).Admits (apiServer env) (Request.RestoresAs k) where
  may _ _ hr _ := hr.as
  keep _ _ _ _ hr hc h :=
    ⟨hasBackup_of_serves henv.toUndisturbed hr.adds.sparesBackups h hc.1,
      undefined_of_serves henv hr.creates h hc.2⟩

/-- A restored stack stays when objects are only added. -/
theorem Restored.serves (henv : Untouched env k) (hr : r.Adds) (h : Serves env c r ans c')
    {stackErrs : Map StackError} (hc : Restored k stackErrs c) : Restored k stackErrs c' := by
  refine hc.imp_left fun hc => ?_
  obtain ⟨c₁, hc₁, heffect⟩ := effect_of_serves h
  exact has_of_effect heffect (fun o _ => hr.leaves o) (fun o _ => hr.leaves o)
    (henv.restored c c₁ hc₁ hc)

/-- So does the state of the loop. -/
theorem Visiting.serves (henv : Untouched env k) (hr : r.Adds) (h : Serves env c r ans c')
    (hc : Visiting k visited state c) : Visiting k visited state c' :=
  ⟨hc.client, fun hvisited => (hc.restored hvisited).serves henv hr h⟩

/-- To make a client is no creation. -/
theorem restoresAs_newForConfig : Request.RestoresAs k .newForConfig := ⟨trivial, trivial, trivial⟩

/-- The client is for the user that is asked for. -/
theorem ends_clientFor (henv : Untouched env k) (userName : String)
    (hc : (restoring k).holds c) (hstate : Visiting k visited state c) :
    Ends (apiServer env) (restoring k) (clientFor state userName)
      (fun state c => Visiting k visited state c ∧ state.client = userName) c := by
  refine ends_ite (fun _ => ?_) (fun hsame => ends_pure.mpr ⟨hc, hstate, ?_⟩)
  · refine ends_bind.mpr (ends_adapt.mpr (ends_call (admits_restoresAs henv)
      restoresAs_newForConfig hc fun _ c₁ h₁ hc₁ => ends_pure.mpr ⟨hc₁, ⟨rfl, ?_⟩, rfl⟩))
    exact (hstate.serves henv (by trivial) h₁).restored
  · exact hstate.client.trans (not_not.mp hsame)

/-- The stack of a backup, as `Restore` creates it. -/
theorem KnownStack.Faithful.restoresAs {stack : Object} (h : k.Faithful stack) {user : String}
    (huser : user = stack.user) : Request.RestoresAs k
      (.create user stack.objectMeta.namespace_ stack.asStack.withoutUser) := by
  obtain ⟨objectMeta, content⟩ := stack
  obtain ⟨hkind, hdescribes⟩ := h
  cases content with
  | stackBackup spec status =>
    refine ⟨trivial, (fun h => nomatch h), fun hkey => ?_⟩
    injection hkey with _ hnamespace hname
    -- the name is that of the known stack, so that its backup is the known one
    have hbackup := hdescribes (by
      show Key.mk .stackBackup objectMeta.namespace_ objectMeta.name = _
      rw [show objectMeta.namespace_ = _ from hnamespace, show objectMeta.name = _ from hname]
      rfl)
    exact ⟨huser.trans hbackup.user, hbackup.composeFile⟩
  | _ => cases hkind

/-- One creation: the stack is there again, or its error is recorded. -/
theorem ends_createRestored (henv : Untouched env k) {stack : Object} (hstack : k.Faithful stack)
    (huser : state.client = stack.user) (hc : (restoring k).holds c)
    (hstate : Visiting k visited state c) :
    Ends (apiServer env) (restoring k) (createRestored state stack.asStack.withoutUser)
      (Visiting k (visited ∨ k.Describes .stackBackup stack)) c := by
  refine ends_bind.mpr (ends_adapt.mpr (ends_try (admits_restoresAs henv)
    (hstack.restoresAs huser) hc fun ans c₁ h₁ hc₁ => ?_))
  have hstate₁ := hstate.serves henv (by trivial) h₁
  cases ans with
  -- created, with no definition whose deletion could take it along
  | ok a =>
    refine ends_pure.mpr ⟨hc₁, hstate.client, ?_⟩
    rintro (hvisited | hdescribes)
    · exact hstate₁.restored hvisited
    · refine Or.inl (has_of_created h₁ hdescribes.asStack fun o ho => ?_)
      cases hc₁.2.symm.trans ho
  -- either all is given up, or the error is recorded under the stack's name
  | error err =>
    refine ends_ite (fun _ => ends_throw.mpr hc₁) (fun _ => ends_pure.mpr ⟨hc₁, hstate.client, ?_⟩)
    rintro (hvisited | hdescribes)
    · exact (hstate₁.restored hvisited).imp_right fun hmem => Finmap.mem_insert.mpr (Or.inr hmem)
    · refine Or.inr (Finmap.mem_insert.mpr (Or.inl ?_))
      exact hdescribes.fullname.symm

/-- One turn of the loop, with the client of the stack's user. -/
theorem ends_restoreStack (henv : Untouched env k) {stack : Object} (hstack : k.Faithful stack)
    (hc : (restoring k).holds c) (hstate : Visiting k visited state c) :
    Ends (apiServer env) (restoring k) (restoreStack true state stack)
      (Visiting k (visited ∨ k.Describes .stackBackup stack)) c := by
  refine ends_bind.mpr ((ends_clientFor henv _ hc hstate).mono fun state₁ c₁ hc₁ h₁ => ?_)
  exact ends_createRestored henv hstack h₁.2 hc₁ h₁.1

/-- One page of backups. -/
theorem ends_restoreStacks (henv : Untouched env k) {items : List Object}
    (hitems : ∀ o ∈ items, k.Faithful o) (hc : (restoring k).holds c)
    (hstate : Visiting k visited state c) :
    Ends (apiServer env) (restoring k) (items.foldlM (restoreStack true) state)
      (fun state c => (restoring k).holds c ∧
        Visiting k (visited ∨ ∃ o ∈ items, k.Describes .stackBackup o) state c) c := by
  refine ends_visits (k.Describes .stackBackup) (fun visited state c => (restoring k).holds c ∧
    Visiting k visited state c) ?_ (fun _ _ _ h => h.1) ?_ ⟨hc, hstate⟩
  · exact fun _ _ _ c himp h => ⟨h.1, h.2.client, fun hvisited => h.2.restored (himp hvisited)⟩
  · intro stack hstack visited state c h
    exact (ends_restoreStack henv (hitems stack hstack) h.1 h.2).mono fun _ _ hc₁ h₁ => ⟨hc₁, h₁⟩

/-- What is on a page of the backups, and on the later ones. -/
theorem faithful_page {token : List Object} {page : Page}
    (h : Serves env c (.list .stackBackup none false token) (.ok page) c') (hc' : c'.HasBackup k)
    (htoken : ∀ o ∈ token, k.Faithful o) : ∀ o ∈ page.items ++ page.continue_, k.Faithful o := by
  intro o ho
  have hmem := (perm_of_list h).mem_iff.mp ho
  split at hmem
  · obtain ⟨hitem, hlisted⟩ := List.mem_filter.mp hmem
    simp only [listed, Bool.and_eq_true, decide_eq_true_eq] at hlisted
    refine ⟨hlisted.1.1, fun hkey => ?_⟩
    -- there is only one object under a key
    obtain ⟨x, hx, hdescribes⟩ := hc'.object
    cases hx.symm.trans (Collection.find_eq_some_iff.mpr ⟨hitem, hkey⟩)
    exact hdescribes
  · exact htoken o hmem

/-- **A restoration that succeeds has visited the stack.** -/
theorem ends_restore (henv : Untouched env k) (baseUser : String) (fuel : Nat)
    (hc : (restoring k).holds c) :
    Ends (apiServer env) (restoring k) (restore baseUser true fuel) (Restored k) c := by
  have hlist : ∀ token, Request.RestoresAs k (.list .stackBackup none false token) :=
    fun _ => ⟨trivial, trivial, trivial⟩
  refine ends_bind.mpr (ends_adapt.mpr (ends_call (admits_restoresAs henv)
    restoresAs_newForConfig hc fun _ c₁ _ hc₁ => ?_))
  refine ends_bind.mpr (ends_adapt.mpr (ends_call (admits_restoresAs henv)
    restoresAs_newForConfig hc₁ fun _ c₂ _ hc₂ => ?_))
  -- the invariant of the loop over pages: the stack was visited or is on a page to come
  refine ends_iterate (fun next c => (restoring k).holds c ∧ (∀ o ∈ next.2, k.Faithful o) ∧
    ∃ visited, Visiting k visited next.1 c ∧
      (visited ∨ next.2 = [] ∨ ∃ o ∈ next.2, k.Describes .stackBackup o)) (fun _ _ h => h.1) ?_ ?_
  · rintro ⟨state, token⟩ c ⟨hc, htoken, visited, hstate, hnext⟩
    refine ends_bind.mpr (ends_adapt.mpr (ends_call (admits_restoresAs henv) (hlist token) hc
      fun page c₁ h₁ hc₁ => ?_))
    have hpage := visited_page h₁ hc₁.1 hnext
    have hfaithful := faithful_page h₁ hc₁.1 htoken
    refine ends_bind.mpr ((ends_restoreStacks henv
      (fun o ho => hfaithful o (List.mem_append_left _ ho)) hc₁
      (hstate.serves henv (by trivial) h₁)).mono fun state₂ c₂ hc₂ h₂ => ?_)
    refine ends_ite (fun hlast => ends_pure.mpr ⟨hc₂, ?_⟩) (fun _ => ends_pure.mpr ⟨hc₂, ?_⟩)
    · -- there is no further page
      exact h₂.2.restored (visited_last hlast hpage)
    · exact ⟨hc₂, fun o ho => hfaithful o (List.mem_append_right _ ho), _, h₂.2,
        hpage.imp_right Or.inr⟩
  · exact ⟨hc₂, (fun o ho => nomatch ho), False, ⟨rfl, False.elim⟩, Or.inr (Or.inl rfl)⟩

end Restore

/-! ## The update -/

/-- What holds all the time, and what may be sent. -/
def updating (k : KnownStack) : Contract Cluster Request where
  holds c := c.Keeps k
  may _ r := r.CreatesAs k

section Update

variable {env : Cluster → Cluster → Prop} {k : KnownStack} {c : Cluster}

/-- A reinstallation creates no stack. -/
theorem Request.Reinstalls.createsAs {r : Request} (h : r.Reinstalls) : r.CreatesAs k :=
  (h.creates.createsNot rfl).createsAs

/-- It keeps the copy. -/
theorem admits_hasBackup (henv : Undisturbed env k) :
    Contract.Admits (apiServer env) ⟨fun c => c.HasBackup k, fun _ r => r.CreatesAs k⟩
      Request.Reinstalls where
  may _ _ hr _ := hr.createsAs
  keep _ _ _ _ hr hc h := hasBackup_of_serves henv hr.spares h hc

/-- It does not create the definition of the stacks either. -/
theorem admits_restoring (henv : Untouched env k) :
    (restoring k).Admits (apiServer env) Request.Reinstalls where
  may _ _ hr _ := hr.createsAs
  keep _ _ _ _ hr hc h :=
    ⟨hasBackup_of_serves henv.toUndisturbed hr.spares h hc.1,
      undefined_of_serves henv (hr.creates.createsNot rfl) h hc.2⟩

/-- Nothing is left of the old stacks. -/
theorem ends_uninstallComposeCRD (henv : Untouched env k) (ns : String) (fuel : Nat)
    (hc : c.HasBackup k) :
    Ends (apiServer env) ⟨fun c => c.HasBackup k, fun _ r => r.CreatesAs k⟩
      (uninstallComposeCRD ns fuel) (fun _ c => (restoring k).holds c) c := by
  have hw := admits_hasBackup henv.toUndisturbed
  have huninstall : Sends Request.Reinstalls (uninstall ns true) :=
    (sends_uninstall ns true).mono fun _ h => h.reinstalls
  have hwait : ∀ skipCRD, Request.Reinstalls (.waitForUninstallCompletion ns skipCRD) :=
    fun _ => Request.Reads.reinstalls trivial
  refine ends_bind.mpr ((huninstall.ends hw hc).mono fun _ c₁ hc₁ _ => ?_)
  -- the waits may fail, which is ignored
  refine ends_bind.mpr (ends_try hw (hwait true) hc₁ fun _ c₂ _ hc₂ => ?_)
  refine ends_bind.mpr ((ends_uninstallCRD hw fuel hc₂).mono fun _ c₃ hc₃ hnone => ?_)
  refine ends_bind.mpr (ends_try hw (hwait false) hc₃ fun _ c₄ h₄ hc₄ => ?_)
  -- the last wait creates nothing, so that the definition is still away
  exact ends_pure.mpr ⟨hc₄, hc₄, undefined_of_serves henv (by trivial) h₄ hnone⟩

/-- After the reinstallation the copy is there, and the old definition is not. -/
theorem ends_reinstall_restoring (henv : Untouched env k) (cfg : UpdateConfig)
    (hc : c.HasStack k) :
    Ends (apiServer env) (updating k) (reinstall cfg) (fun _ c => (restoring k).holds c) c := by
  refine ends_phase ((ends_backup henv.toUndisturbed cfg.fuel hc).sends (sends_backup _ _))
    (fun _ => Or.inl) (fun _ _ h => h.createsAs) fun _ c₁ _ hc₁ => ?_
  refine ends_phase (ends_uninstallComposeCRD henv cfg.namespace_ cfg.fuel hc₁) (fun _ => Or.inr)
    (fun _ _ => id) fun _ c₂ _ hc₂ => ?_
  -- the new API server is installed without the controller
  have hrest : Sends Request.Reinstalls (do
      do_ cfg.install [cfg.installOptAPIAggregation, withoutController]
      awaitRunning 30) :=
    (sends_do_reinstalls _ _).bind fun _ => (sends_awaitRunning 30).mono fun _ h => h.reinstalls
  exact wp.weaken ((hrest.ends (admits_restoring henv) hc₂).mono fun _ _ hc₃ _ => hc₃)
    (fun _ h => Or.inr h.1) (fun _ _ => id)

/-- The controller is installed without touching the stacks. -/
theorem ends_controller (henv : Untouched env k) (cfg : UpdateConfig) {stackErrs : Map StackError}
    (hc : c.HasBackup k) (hrestored : Restored k stackErrs c) :
    Ends (apiServer env) (updating k)
      (do_ cfg.install [cfg.installOptAPIAggregation, withControllerOnly])
      (fun _ c => Restored k stackErrs c) c := by
  have hsends : Sends Request.Installs
      (do_ cfg.install [cfg.installOptAPIAggregation, withControllerOnly]) :=
    sends_do_controllerOnly rfl
  have hw : Contract.Admits (apiServer env)
      ⟨fun c => c.HasBackup k ∧ Restored k stackErrs c, fun _ r => r.CreatesAs k⟩
      Request.Installs := by
    refine ⟨fun _ _ hr _ => hr.reinstalls.createsAs, fun c r ans c' hr hc h => ⟨?_, ?_⟩⟩
    · exact hasBackup_of_serves henv.toUndisturbed hr.reinstalls.spares h hc.1
    · -- neither the stack nor its definition is of an installed kind
      refine hc.2.imp_left fun hstack => ?_
      obtain ⟨c₁, hc₁, heffect⟩ := effect_of_serves h
      refine has_of_effect heffect (fun o ho => ?_) (fun o ho => ?_) (henv.restored c c₁ hc₁ hstack)
      · exact hr.leaves (by rw [ho.kind]; rfl)
      · refine hr.leaves ?_
        rw [show o.content.kind = .customResourceDefinition from congrArg Key.kind ho]
        rfl
  exact wp.weaken ((hsends.ends hw ⟨hc, hrestored⟩).mono fun _ _ hc₁ _ => hc₁.2)
    (fun _ h => Or.inr h.1) (fun _ _ => id)

/-- **What an update comes to**: the stack is back, or it is among the errors. -/
theorem ends_update_restoring (henv : Untouched env k) (cfg : UpdateConfig) (hc : c.HasStack k) :
    Ends (apiServer env) (updating k) (update cfg)
      (fun errs c => ∃ stackErrs, errs = some stackErrs ∧ Restored k stackErrs c) c := by
  have hreads : Sends Request.Backs (checkedByDryRun cfg) :=
    (sends_checkedByDryRun cfg).mono fun _ h => Or.inl h.adds
  have hcreates : Sends (Request.CreatesAs k) (checkedByDryRun cfg) :=
    (sends_checkedByDryRun cfg).mono fun _ h => h.reinstalls.createsAs
  refine ends_phase ((hreads.ends (admits_backs henv.toUndisturbed) hc).sends hcreates)
    (fun _ => Or.inl) (fun _ _ => id) fun _ c₁ hc₁ _ => ?_
  refine ends_bind.mpr ((ends_adapt.mpr (ends_reinstall_restoring henv cfg hc₁)).mono
    fun _ c₂ _ hc₂ => ?_)
  -- the restoration may fail as a whole; the controller is installed all the same
  refine ends_phase (ends_lift.mpr (ends_restore henv cfg.baseUser cfg.fuel hc₂))
    (fun _ h => Or.inr h.1) (fun _ _ => id) fun restored c₃ hc₃ hrestored => ?_
  cases restored with
  | ok stackErrs =>
    refine ends_bind.mpr ((ends_adapt.mpr (ends_controller henv cfg hc₃.1
      (hrestored stackErrs rfl))).mono fun _ c₄ hc₄ h₄ => ?_)
    exact ends_pure.mpr ⟨hc₄, stackErrs, rfl, h₄⟩
  -- then the update ends in this error
  | error err =>
    have hcontroller := (sends_do_reinstalls cfg.install
      [cfg.installOptAPIAggregation, withControllerOnly]).ends
      (admits_hasBackup henv.toUndisturbed) hc₃.1
    refine ends_phase (ends_adapt.mpr hcontroller) (fun _ => Or.inr) (fun _ _ => id)
      fun _ c₄ hc₄ _ => ?_
    exact ends_throw.mpr (Or.inr hc₄)

end Update

/-- **An update restores the stacks**: when it returns without an error, a stack that
nobody else touches is there again, or the map that is returned has an error for it. -/
theorem update_restores {env : Cluster → Cluster → Prop} {k : KnownStack} {c c' : Cluster}
    (henv : Untouched env k) (cfg : UpdateConfig) (hc : c.HasStack k)
    {events : List (Σ r, Answer r)} {errs : MapRef StackError}
    (hrun : ((apiServer env).system _).Run ((update cfg).run, c) events (.done (.ok errs), c')) :
    c'.HasStack k.restored ∨ ∃ stackErrs, errs = some stackErrs ∧ k.fullname ∈ stackErrs := by
  have hdone := wp_run (ends_update_restoring henv cfg hc) hrun
  obtain ⟨stackErrs, rfl, hrestored⟩ := hdone.2 errs rfl
  exact hrestored.imp_right fun hmem => ⟨stackErrs, rfl, hmem⟩

/-- A cluster that nobody else writes to is untouched. -/
theorem untouched_eq (k : KnownStack) : Untouched Eq k where
  toUndisturbed := undisturbed_eq k
  restored _ _ h := h ▸ id
  undefined _ _ h := h ▸ id

/-- An update that nothing goes wrong with. -/
def webRun : List (Σ r, Answer r) × Prog Answer (Except (MapRef StackError × Err)
    (MapRef StackError)) × Cluster :=
  (update webUpdate).run.follow perform 200 webCluster

/-- The steps of the example are a run. -/
theorem run_webRun :
    ((apiServer Eq).system _).Run ((update webUpdate).run, webCluster) webRun.1 webRun.2 :=
  run_perform 200 _ _

/-- It ends without an error. -/
theorem webRun_done : ∃ errs, webRun.2.1 = .done (.ok errs) :=
  Prog.exists_done_of_toBool (by decide +kernel)

/-- In the example the stack is back or among the errors. -/
theorem update_restores_web : ∃ errs, webRun.2.1 = .done (.ok errs) ∧
    (webRun.2.2.HasStack knownWeb.restored ∨
      ∃ stackErrs, errs = some stackErrs ∧ knownWeb.fullname ∈ stackErrs) := by
  obtain ⟨errs, hdone⟩ := webRun_done
  have hrun := run_webRun
  rw [show webRun.2 = (.done (.ok errs), webRun.2.2) from Prod.ext hdone rfl] at hrun
  exact ⟨errs, hdone, update_restores (untouched_eq knownWeb) webUpdate webCluster_hasStack hrun⟩

/-- **A stack is created as its user**: no request of an update creates a stack that nobody
else touches as another user, or with another compose file. -/
theorem update_impersonates {env : Cluster → Cluster → Prop} {k : KnownStack} {c : Cluster}
    (henv : Untouched env k) (cfg : UpdateConfig) (hc : c.HasStack k)
    {events : List (Σ r, Answer r)} {x : Prog Answer _ × Cluster}
    (hrun : ((apiServer env).system _).Run ((update cfg).run, c) events x)
    {user ns : String} {o : Object} {ans : Answer (.create user ns o)}
    (hmem : ⟨.create user ns o, ans⟩ ∈ events)
    (hkey : o.keyIn ns = k.key .stack) :
    user = k.user ∧ o.composeFile = k.composeFile := by
  obtain ⟨_, _, hmay⟩ := may_of_mem (ends_update_restoring henv cfg hc) hrun hmem
  exact hmay hkey

/-- The request creates the stack of the example. -/
def createsWeb : Request → Bool
  | .create _ ns o => o.keyIn ns = knownWeb.key .stack
  | _ => false

/-- In the example the stack is created as its user. -/
theorem update_impersonates_web : ∃ user ns o ans,
    (⟨.create user ns o, ans⟩ : Σ r, Answer r) ∈ webRun.1 ∧
      user = "moby" ∧ o.composeFile = "version: '3'" := by
  have hany : webRun.1.any (fun event => createsWeb event.1) = true := by decide +kernel
  obtain ⟨⟨r, ans⟩, hmem, hr⟩ := List.any_eq_true.mp hany
  cases r with
  | create user ns o =>
    exact ⟨user, ns, o, ans, hmem, update_impersonates (untouched_eq knownWeb) webUpdate
      webCluster_hasStack run_webRun hmem (of_decide_eq_true hr)⟩
  | _ => cases hr

end ComposeKube.Install
