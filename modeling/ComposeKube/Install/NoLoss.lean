import ComposeKube.Install.Update

/-!
# An update loses no stack

`Update` deletes all stacks, and creates them again from a backup. It can fail at any
request, or be killed between two of them; nothing is undone then. What a user relies on is
that a stack that nobody else touches is always somewhere: among the stacks, or in the
backup.

Up to the end of `Backup` no request touches a stack, and when `Backup` has succeeded the
stack is in the backup: it was in one of the pages of the list. From then on no request
touches a backup.

* `ends_backup` — a backup that succeeds has the stack.
* `update_keeps_stack` — the stack is never lost.
-/

namespace ComposeKube.Install

open Go Client

/-! ## A stack that is somewhere -/

/-- What is known of a stack: where it is, what is in it, and whose it is. -/
structure KnownStack where
  namespace_ : String
  name : String
  composeFile : String
  user : String

namespace KnownStack

variable (k : KnownStack)

def key (kind : Kind) : Key := ⟨kind, k.namespace_, k.name⟩

def fullname : String := k.namespace_ ++ "/" ++ k.name

/-- The object is this stack, or a copy of it. -/
structure Describes (kind : Kind) (o : Object) : Prop where
  key : o.key = k.key kind
  composeFile : o.composeFile = k.composeFile
  user : o.user = k.user

end KnownStack

namespace Cluster

/-- The object under the key, if there is one, is not going to be deleted. -/
def Stays (c : Cluster) (key : Key) : Prop :=
  ∀ o, c.find key = some o → o.objectMeta.deletionTimestamp = none

/-- The stack is there, as an object of a kind, and stays; so does its definition. -/
structure Has (c : Cluster) (k : KnownStack) (kind : Kind) (definition : Key) : Prop where
  object : ∃ o, c.find (k.key kind) = some o ∧ k.Describes kind o
  stays : c.Stays (k.key kind)
  definition : c.Stays definition

abbrev HasStack (c : Cluster) (k : KnownStack) : Prop := c.Has k .stack stacksCRD

abbrev HasBackup (c : Cluster) (k : KnownStack) : Prop := c.Has k .stackBackup backupCRD

end Cluster

/-- Nobody else touches the stack, its backup or the definition of the backups. -/
structure Undisturbed (env : Cluster → Cluster → Prop) (k : KnownStack) : Prop where
  stack : ∀ c c', env c c' → c.HasStack k → c'.HasStack k
  backup : ∀ c c', env c c' → c.HasBackup k → c'.HasBackup k
  definition : ∀ c c', env c c' → c.Stays backupCRD → c'.Stays backupCRD

section Effects

variable {r : Request} {c c' : Cluster} {k : KnownStack} {kind : Kind} {definition key : Key}

/-- A request that leaves the object alone does not set its deletion going. -/
theorem stays_of_effect (h : Effect r c c') (hleaves : ∀ o : Object, o.key = key → r.Leaves o)
    (hc : c.Stays key) : c'.Stays key := by
  intro o ho
  cases hfind : c.find key with
  | some x =>
    -- it was there before, and is the same
    have hkey : x.key = key := Collection.find_key hfind
    subst hkey
    rw [find_of_effect h hfind (hleaves x rfl)] at ho
    exact hc o (hfind.trans ho)
  | none =>
    obtain ⟨user, ns, x, -, rfl⟩ := created_of_effect h hfind ho
    rfl

/-- A request that leaves the object and its definition alone keeps what is known. -/
theorem has_of_effect (h : Effect r c c') (hobject : ∀ o, k.Describes kind o → r.Leaves o)
    (hdefinition : ∀ o : Object, o.key = definition → r.Leaves o) (hc : c.Has k kind definition) :
    c'.Has k kind definition := by
  obtain ⟨o, ho, hdescribes⟩ := hc.object
  have hfind : c'.find o.key = some o :=
    find_of_effect h (hdescribes.key ▸ ho) (hobject o hdescribes)
  rw [hdescribes.key] at hfind
  refine ⟨⟨o, hfind, hdescribes⟩, fun x hx => ?_, stays_of_effect h hdefinition hc.definition⟩
  cases hfind.symm.trans hx
  exact hc.stays o ho

/-- To delete a key takes its object, and with a definition the objects of its kind. -/
theorem deletedWith_eq_false {o : Object} (hkey : o.key ≠ key)
    (hkind : instancesOf key ≠ some o.content.kind) : deletedWith key o = false := by
  simp [deletedWith, hkey, hkind]

end Effects

/-! ## The backup -/

/-- A request of `Backup`: at most the previous backup is deleted. -/
def Request.Backs (r : Request) : Prop := r.Adds ∨ r = .delete backupCRD

/-- A request that leaves all backups alone. -/
def Request.SparesBackups (r : Request) : Prop :=
  ∀ o : Object, o.content.kind = .stackBackup ∨ o.key = backupCRD → r.Leaves o

/-- What only adds leaves every object alone. -/
theorem Request.Adds.sparesBackups {r : Request} (h : r.Adds) : r.SparesBackups :=
  fun o _ => h.leaves o

/-- What a backup changes are backups and their definition. -/
theorem Request.Backs.leaves {r : Request} (h : r.Backs) {o : Object} (hkey : o.key ≠ backupCRD)
    (hkind : o.content.kind ≠ .stackBackup) : r.Leaves o := by
  rcases h with h | rfl
  · exact h.leaves o
  · refine deletedWith_eq_false hkey ?_
    show some Kind.stackBackup ≠ some o.content.kind
    exact fun heq => hkind (Option.some.inj heq).symm

/-- What describes the stack is of the kind that was asked for. -/
theorem KnownStack.Describes.kind {k : KnownStack} {kind : Kind} {o : Object}
    (h : k.Describes kind o) : o.content.kind = kind :=
  congrArg Key.kind h.key

/-- And it has the name of the stack, by which the backup is checked later. -/
theorem KnownStack.Describes.fullname {k : KnownStack} {kind : Kind} {o : Object}
    (h : k.Describes kind o) : o.fullname = k.fullname := by
  injection h.key with _ hnamespace hname
  rw [Object.fullname, hnamespace, hname]
  rfl

/-- A copy of a stack describes it. -/
theorem KnownStack.Describes.asBackup {k : KnownStack} {o : Object} (h : k.Describes .stack o)
    (version : Nat) :
    k.Describes .stackBackup (o.asBackup.stored o.objectMeta.namespace_ version) := by
  obtain ⟨objectMeta, content⟩ := o
  have hkind : content.kind = .stack := h.kind
  have hkey : Key.mk content.kind objectMeta.namespace_ objectMeta.name = k.key .stack := h.key
  cases content with
  -- the copy takes the specification over as it is
  | stack spec status =>
    refine ⟨?_, h.composeFile, h.user⟩
    injection hkey with _ hnamespace hname
    show Key.mk .stackBackup objectMeta.namespace_ objectMeta.name = _
    rw [hnamespace, hname]
    rfl
  -- only stacks are described as stacks
  | _ => cases hkind

section Backup

variable {env : Cluster → Cluster → Prop} {k : KnownStack} {c c' : Cluster} {r : Request}
  {ans : Answer r}

/-- While the backup is made, the stack stays. -/
theorem hasStack_of_serves (henv : Undisturbed env k) (hr : r.Backs)
    (h : Serves env c r ans c') (hc : c.HasStack k) : c'.HasStack k := by
  obtain ⟨c₁, hc₁, heffect⟩ := effect_of_serves h
  refine has_of_effect heffect (fun o ho => ?_) (fun o ho => ?_) (henv.stack c c₁ hc₁ hc)
  · -- a stack is not the definition of the backups
    refine hr.leaves (fun hkey => ?_) (by rw [ho.kind]; decide)
    have hkind := ho.kind
    rw [show o.content.kind = .customResourceDefinition from congrArg Key.kind hkey] at hkind
    cases hkind
  · -- nor is the definition of the stacks
    refine hr.leaves (by rw [ho]; decide) ?_
    rw [show o.content.kind = .customResourceDefinition from congrArg Key.kind ho]
    decide

/-- The definition of the backups stays while objects are only added. -/
theorem stays_of_serves (henv : Undisturbed env k) (hr : r.Adds) (h : Serves env c r ans c')
    (hc : c.Stays backupCRD) : c'.Stays backupCRD := by
  obtain ⟨c₁, hc₁, heffect⟩ := effect_of_serves h
  exact stays_of_effect heffect (fun o _ => hr.leaves o) (henv.definition c c₁ hc₁ hc)

/-- A backup stays through requests that spare it. -/
theorem hasBackup_of_serves (henv : Undisturbed env k) (hr : r.SparesBackups)
    (h : Serves env c r ans c') (hc : c.HasBackup k) : c'.HasBackup k := by
  obtain ⟨c₁, hc₁, heffect⟩ := effect_of_serves h
  refine has_of_effect heffect (fun o ho => hr o (Or.inl ho.kind)) (fun o ho => hr o (Or.inr ho)) ?_
  exact henv.backup c c₁ hc₁ hc

/-- The requests of a backup keep the stack, as the rules for phases need it. -/
theorem admits_backs (henv : Undisturbed env k) :
    (Contract.keeping Request (·.HasStack k)).Admits (apiServer env) Request.Backs where
  may _ _ _ _ := trivial
  keep _ _ _ _ hr hc hserves := hasStack_of_serves henv hr hserves hc

/-- To wait for the old definition to go away changes nothing. -/
theorem ends_awaitErased (henv : Undisturbed env k) (n : Nat) (hc : c.HasStack k) :
    Ends (apiServer env) (.keeping Request (·.HasStack k)) (awaitErased n) (fun _ _ => True) c := by
  induction n generalizing c with
  | zero => exact ends_pure.mpr ⟨hc, trivial⟩
  | succ n ih =>
    refine ends_bind.mpr (ends_try (admits_backs henv) (by exact Or.inl trivial) hc
      fun ans c₁ _ hc₁ => ?_)
    cases ans with
    -- an error, of whatever kind, ends the wait
    | error err => exact ends_pure.mpr ⟨hc₁, trivial⟩
    | ok o => exact ih hc₁

/-- A previous backup is never kept. -/
theorem ends_preparePrevious (henv : Undisturbed env k) (hc : c.HasStack k) :
    Ends (apiServer env) (.keeping Request (·.HasStack k)) (preparePrevious .erase)
      (fun needsCreate _ => needsCreate = true) c := by
  refine ends_bind.mpr (ends_try (admits_backs henv) (by exact Or.inl trivial) hc
    fun ans c₁ _ hc₁ => ?_)
  cases ans with
  -- nothing is left of an earlier backup
  | error err => exact ends_pure.mpr ⟨hc₁, rfl⟩
  -- it is erased, and the definition has to be created in any case
  | ok o =>
    refine ends_bind.mpr (ends_call (admits_backs henv) (by exact Or.inr rfl) hc₁
      fun _ c₂ _ hc₂ => ?_)
    refine ends_bind.mpr ((ends_awaitErased henv 60 hc₂).mono fun _ c₃ hc₃ _ => ?_)
    exact ends_pure.mpr ⟨hc₃, rfl⟩

/-- What was just created is there, and its deletion is not under way. -/
theorem has_of_created {user ns : String} {o a : Object} {kind : Kind} {definition : Key}
    (h : Serves env c (.create user ns o) (.ok a) c')
    (hdescribes : ∀ version, k.Describes kind (o.stored ns version))
    (hdefinition : c'.Stays definition) : c'.Has k kind definition := by
  obtain ⟨version, hfind⟩ := find_of_created h
  have hkey : o.keyIn ns = k.key kind := (hdescribes version).key
  rw [hkey] at hfind
  refine ⟨⟨_, hfind, hdescribes version⟩, fun x hx => ?_, hdefinition⟩
  cases hfind.symm.trans hx
  rfl

/-- When the definition has been created, it is there to stay. -/
theorem ends_createBackupCrd (henv : Undisturbed env k) (hc : c.HasStack k) :
    Ends (apiServer env) (.keeping Request (·.HasStack k)) createBackupCrd
      (fun _ c => c.Stays backupCRD) c := by
  refine ends_bind.mpr (ends_call (admits_backs henv) (by exact Or.inl trivial) hc
    fun a c₁ hserves hc₁ => ?_)
  refine ends_pure.mpr ⟨hc₁, fun o ho => ?_⟩
  obtain ⟨version, hfind⟩ := find_of_created hserves
  cases hfind.symm.trans ho
  rfl

/-- What holds while stacks are copied. -/
structure Copying (k : KnownStack) (copied : Prop) (c : Cluster) : Prop where
  stack : c.HasStack k
  definition : c.Stays backupCRD
  backup : copied → c.HasBackup k

/-- A request that only adds does not undo what was copied. -/
theorem Copying.serves (henv : Undisturbed env k) (hr : r.Adds) {copied : Prop}
    (hc : Copying k copied c) (h : Serves env c r ans c') : Copying k copied c' where
  stack := hasStack_of_serves henv (Or.inl hr) h hc.stack
  definition := stays_of_serves henv hr h hc.definition
  backup hcopied := hasBackup_of_serves henv hr.sparesBackups h (hc.backup hcopied)

/-- A collection cannot be updated. -/
theorem not_serves_putCollection {ns : String} {o : Object} {a : Unit}
    (h : Serves env c (.putCollection ns o) (.ok a) c') : False := by
  cases h with
  | performed henv h => cases h

/-- The stack is in the backup after its own turn. -/
theorem ends_copyStackToBackupCrd (henv : Undisturbed env k) {copied : Prop} (stack : Object)
    (hc : Copying k copied c) :
    Ends (apiServer env) (.keeping Request (·.HasStack k)) (copyStackToBackupCrd stack)
      (fun _ c => Copying k (copied ∨ k.Describes .stack stack) c) c := by
  refine ends_bind.mpr (ends_try (admits_backs henv) (by exact Or.inl trivial) hc.stack
    fun ans c₁ h₁ hc₁ => ?_)
  have hcopying := hc.serves henv (by trivial) h₁
  cases ans with
  -- the copy of this stack, beside those made before
  | ok a =>
    refine ends_pure.mpr ⟨hc₁, hc₁, hcopying.definition, ?_⟩
    rintro (hcopied | hdescribes)
    · exact hcopying.backup hcopied
    · exact has_of_created h₁ hdescribes.asBackup hcopying.definition
  | error err =>
    refine ends_ite (fun _ => ?_) (fun _ => ?_)
    · -- the name is taken: the update that the source tries next is never served, so that it
      -- ends in an error
      refine ends_bind.mpr (ends_try (admits_backs henv) (by exact Or.inl trivial) hc₁
        fun ans c₂ h₂ hc₂ => ?_)
      cases ans with
      | ok a => exact (not_serves_putCollection h₂).elim
      | error err => exact ends_throw.mpr hc₂
    · exact ends_throw.mpr hc₁

/-- One page: the stack is copied if it is on the page. -/
theorem ends_copyStacksToBackupCrd (henv : Undisturbed env k) {copied : Prop} (items : List Object)
    (hc : Copying k copied c) :
    Ends (apiServer env) (.keeping Request (·.HasStack k)) (copyStacksToBackupCrd items)
      (fun _ c => Copying k (copied ∨ ∃ o ∈ items, k.Describes .stack o) c) c := by
  refine ends_visits (k.Describes .stack) (fun copied _ c => Copying k copied c) ?_
    (fun _ _ _ h => h.stack) ?_ hc
  · exact fun _ _ _ c himp h => ⟨h.stack, h.definition, fun hcopied => h.backup (himp hcopied)⟩
  · exact fun stack _ copied _ c h => ends_copyStackToBackupCrd henv stack h

/-- What is on a page, and what is left for the next ones. -/
theorem perm_of_list {kind : Kind} {ns : Option String} {selected : Bool} {token : List Object}
    {page : Page} (h : Serves env c (.list kind ns selected token) (.ok page) c') :
    (page.items ++ page.continue_).Perm
      (if token.isEmpty then c'.objects.items.filter (listed kind ns selected) else token) := by
  cases h with
  | performed henv h =>
    cases h
    rw [List.append_nil]
  | page henv _ h => exact h

/-- A stack that is still to come is on this page or on a later one. -/
theorem exists_mem_page {kind : Kind} {definition : Key} {token : List Object} {page : Page}
    (h : Serves env c (.list kind none false token) (.ok page) c') (hc' : c'.Has k kind definition)
    (htoken : token = [] ∨ ∃ o ∈ token, k.Describes kind o) :
    ∃ o ∈ page.items ++ page.continue_, k.Describes kind o := by
  have hperm := perm_of_list h
  rcases htoken with rfl | ⟨o, ho, hdescribes⟩
  · -- the first page is made from what is there
    obtain ⟨o, ho, hdescribes⟩ := hc'.object
    refine ⟨o, hperm.mem_iff.mpr (List.mem_filter.mpr ⟨?_, ?_⟩), hdescribes⟩
    · exact (Collection.find_eq_some_iff.mp ho).1
    · simp [listed, hdescribes.kind]
  · -- a later page is made from what the token stands for
    refine ⟨o, hperm.mem_iff.mpr ?_, hdescribes⟩
    rw [if_neg]
    · exact ho
    · rw [List.isEmpty_iff]
      exact List.ne_nil_of_mem ho

/-- A stack that has been visited, or is still to come, is so after this page. -/
theorem visited_page {kind : Kind} {definition : Key} {token : List Object} {page : Page}
    {visited : Prop} (h : Serves env c (.list kind none false token) (.ok page) c')
    (hc' : c'.Has k kind definition)
    (hnext : visited ∨ token = [] ∨ ∃ o ∈ token, k.Describes kind o) :
    (visited ∨ ∃ o ∈ page.items, k.Describes kind o) ∨
      ∃ o ∈ page.continue_, k.Describes kind o := by
  rcases hnext with hvisited | htoken
  · exact Or.inl (Or.inl hvisited)
  · obtain ⟨o, ho, hdescribes⟩ := exists_mem_page h hc' htoken
    rcases List.mem_append.mp ho with hmem | hmem
    · exact Or.inl (Or.inr ⟨o, hmem, hdescribes⟩)
    · exact Or.inr ⟨o, hmem, hdescribes⟩

/-- With no page left, the stack has been visited. -/
theorem visited_last {rest : List Object} {visited : Prop} {D : Object → Prop}
    (hlast : rest.isEmpty = true) (h : visited ∨ ∃ o ∈ rest, D o) : visited := by
  refine h.resolve_right ?_
  rintro ⟨o, ho, -⟩
  rw [List.isEmpty_iff.mp hlast] at ho
  cases ho

/-- **The backup is complete**: page after page, either the stack was copied or it is on a page to
come. -/
theorem ends_copyAllStacks (henv : Undisturbed env k) (fuel : Nat) (hc : c.HasStack k)
    (hdefinition : c.Stays backupCRD) :
    Ends (apiServer env) (.keeping Request (·.HasStack k)) (copyAllStacks fuel)
      (fun _ c => c.HasBackup k) c := by
  -- the invariant of the loop; on the first page the token is empty
  refine ends_iterate (fun token c => ∃ copied, Copying k copied c ∧
    (copied ∨ token = [] ∨ ∃ o ∈ token, k.Describes .stack o))
    (fun _ _ ⟨_, h, _⟩ => h.stack) ?_ ⟨False, ⟨hc, hdefinition, False.elim⟩, Or.inr (Or.inl rfl)⟩
  rintro token c ⟨copied, hcopying, hnext⟩
  refine ends_bind.mpr (ends_call (admits_backs henv) (by exact Or.inl trivial) hcopying.stack
    fun page c₁ h₁ hc₁ => ?_)
  have hpage := visited_page h₁ hc₁ hnext
  have hcopying₁ := hcopying.serves henv (by trivial) h₁
  refine ends_bind.mpr ((ends_copyStacksToBackupCrd henv page.items hcopying₁).mono
    fun _ c₂ hc₂ hcopying₂ => ?_)
  refine ends_ite (fun hlast => ends_pure.mpr ⟨hc₂, ?_⟩) (fun hmore => ends_pure.mpr ⟨hc₂, ?_⟩)
  · -- there is no further page, so that the stack was on one of these
    exact hcopying₂.backup (visited_last hlast hpage)
  · exact ⟨_, hcopying₂, hpage.imp_right Or.inr⟩

/-- After a backup that returned, the stack has a copy. -/
theorem ends_backup (henv : Undisturbed env k) (fuel : Nat) (hc : c.HasStack k) :
    Ends (apiServer env) (.keeping Request (·.HasStack k)) (backup .erase fuel)
      (fun _ c => c.HasBackup k) c := by
  refine ends_bind.mpr (ends_call (admits_backs henv) (by exact Or.inl trivial) hc
    fun _ c₁ _ hc₁ => ?_)
  refine ends_bind.mpr ((ends_preparePrevious henv hc₁).mono fun needsCreate c₂ hc₂ hneeds => ?_)
  -- the old backups were erased, hence the definition is created anew
  subst hneeds
  refine ends_bind.mpr ((ends_createBackupCrd henv hc₂).mono fun _ c₃ hc₃ hdefinition => ?_)
  refine ends_bind.mpr (ends_call (admits_backs henv) (by exact Or.inl trivial) hc₃
    fun _ c₄ h₄ hc₄ => ?_)
  exact ends_copyAllStacks henv fuel hc₄ (stays_of_serves henv (by trivial) h₄ hdefinition)

end Backup

/-! ## After the backup -/

section Spares

variable {r : Request} {o : Object}

/-- Neither backups nor their definition are of a kind that is installed. -/
theorem not_installed (ho : o.content.kind = .stackBackup ∨ o.key = backupCRD) :
    o.content.kind.installed = false := by
  rcases ho with ho | ho
  · rw [ho]
    rfl
  · rw [show o.content.kind = .customResourceDefinition from congrArg Key.kind ho]
    rfl

/-- No key but their own takes the backups or their definition with it. -/
theorem deletedWith_of_spares {key : Key} (ho : o.content.kind = .stackBackup ∨ o.key = backupCRD)
    (hkind : key.kind ≠ .stackBackup) (hkey : key ≠ backupCRD) : deletedWith key o = false := by
  refine deletedWith_eq_false (fun h => ?_) (fun h => ?_)
  · rcases ho with ho | ho
    · exact hkind (h ▸ ho)
    · exact hkey (h.symm.trans ho)
  · unfold instancesOf at h
    split_ifs at h with hstacks hbackups
    · -- the definition of the stacks
      rcases ho with ho | ho
      · cases ho.symm.trans (Option.some.inj h).symm
      · cases (show o.content.kind = .customResourceDefinition from congrArg Key.kind ho).symm.trans
          (Option.some.inj h).symm
    · -- the definition of the backups, which is not deleted
      exact hkey hbackups

/-- A request of `Update` between the backup and the restoration. -/
structure Request.Reinstalls (r : Request) : Prop where
  spares : r.SparesBackups
  creates : r.CreatesInstalled

/-- A reinstallation may read. -/
theorem Request.Reads.reinstalls (h : r.Reads) : r.Reinstalls where
  spares := h.adds.sparesBackups
  creates := by
    cases r with
    | create _ _ _ => exact h.elim
    | _ => trivial

/-- An installation leaves alone what it does not install. -/
theorem Request.Installs.leaves (h : r.Installs) (ho : o.content.kind.installed = false) :
    r.Leaves o := by
  cases r with
  | update ns x =>
    -- the updated object would be of an installed kind
    intro hkey
    have hkind : x.content.kind = o.content.kind := congrArg Key.kind hkey
    have hinstalled : x.content.kind.installed = true := h
    rw [hkind, ho] at hinstalled
    cases hinstalled
  | delete _ => exact h.elim
  | deleteCollection _ _ => exact h.elim
  | _ => trivial

/-- A reinstallation installs. -/
theorem Request.Installs.reinstalls (h : r.Installs) : r.Reinstalls where
  spares _ ho := h.leaves (not_installed ho)
  creates := by
    cases r with
    | create _ _ _ => exact h
    | _ => trivial

/-- A reinstallation removes, with or without the definition of the stacks. -/
theorem Request.Removes.reinstalls {keepCRD : Bool} (h : r.Removes keepCRD) : r.Reinstalls where
  spares o ho := by
    cases r with
    | update _ _ => exact h.elim
    | delete key =>
      -- a service, an API service, or the definition of the stacks
      rcases h with h | h | ⟨-, rfl⟩
      · exact deletedWith_of_spares ho (by rw [h]; decide) (by rintro rfl; cases h)
      · exact deletedWith_of_spares ho (by rw [h]; decide) (by rintro rfl; cases h)
      · exact deletedWith_of_spares ho (by decide) (by decide)
    | deleteCollection kind ns =>
      have hkind : o.content.kind ≠ kind := by
        rintro rfl
        rw [Request.Removes, not_installed ho] at h
        cases h
      simp [Request.Leaves, inCollection, hkind]
    | _ => trivial
  creates := by
    cases r with
    | create _ _ _ => exact h.elim
    | _ => trivial

/-- To delete a stack spares its backup. -/
theorem reinstalls_delete_stack (ns name : String) :
    Request.Reinstalls (.delete ⟨.stack, ns, name⟩) where
  spares _ ho := deletedWith_of_spares ho (by intro h; cases h) (by intro h; cases h)
  creates := trivial

/-- So does to delete the definition of the stacks. -/
theorem reinstalls_delete_stacksCRD : Request.Reinstalls (.delete stacksCRD) where
  spares _ ho := deletedWith_of_spares ho (by decide) (by decide)
  creates := trivial

/-- The installer's own requests, as part of a reinstallation. -/
theorem sends_do_reinstalls (rt : InstallRuntime) (options : List InstallerOption) :
    Sends Request.Reinstalls (do_ rt options) :=
  sends_do (fun _ h => h.reinstalls) (fun _ h => h.reinstalls) rt options

end Spares

section Update

variable {env : Cluster → Cluster → Prop} {k : KnownStack} {c : Cluster}

/-- The stack is among the stacks, or in the backup. -/
def Cluster.Keeps (c : Cluster) (k : KnownStack) : Prop := c.HasStack k ∨ c.HasBackup k

/-- Requests that spare the backups keep the copy of the stack. -/
theorem admits_spares (henv : Undisturbed env k) :
    (Contract.keeping Request (·.HasBackup k)).Admits (apiServer env) Request.SparesBackups where
  may _ _ _ _ := trivial
  keep _ _ _ _ hr hc hserves := hasBackup_of_serves henv hr hserves hc

/-- **From the backup on, the copy is there**, and before it the stack itself. -/
theorem ends_reinstall (henv : Undisturbed env k) (cfg : UpdateConfig) (hc : c.HasStack k) :
    Ends (apiServer env) (.keeping Request (·.Keeps k)) (reinstall cfg)
      (fun _ c => c.HasBackup k) c := by
  -- first phase: the stack is there
  refine ends_phase (ends_backup henv cfg.fuel hc) (fun _ => Or.inl) (fun _ _ _ => trivial)
    fun _ c₁ _ hc₁ => ?_
  -- second phase: the copy is there
  refine wp.weaken (Ends.mono (Sends.ends (P := Request.SparesBackups) ?_
    (admits_spares henv) hc₁) fun _ _ hc₂ _ => hc₂) (fun _ => Or.inr) (fun _ _ _ => trivial)
  refine Sends.mono (P := Request.Reinstalls) ?_ fun _ h => h.spares
  refine Sends.bind ?_ fun _ => (sends_do_reinstalls _ _).bind fun _ => ?_
  · exact sends_uninstallComposeCRD (fun _ h => h.reinstalls) (fun _ h => h.reinstalls)
      reinstalls_delete_stack reinstalls_delete_stacksCRD _ _
  · exact (sends_awaitRunning 30).mono fun _ h => h.reinstalls

/-- **An update loses no stack**, wherever it ends. -/
theorem ends_update (henv : Undisturbed env k) (cfg : UpdateConfig) (hc : c.HasStack k) :
    Ends (apiServer env) (.keeping Request (·.Keeps k)) (update cfg) (fun _ _ => True) c := by
  have hreads : Sends Request.Backs (checkedByDryRun cfg) :=
    (sends_checkedByDryRun cfg).mono fun _ h => Or.inl h.adds
  -- the dry run reads
  refine ends_phase (hreads.ends (admits_backs henv) hc) (fun _ => Or.inl) (fun _ _ _ => trivial)
    fun _ c₁ hc₁ _ => ?_
  refine ends_bind.mpr ((ends_adapt.mpr (ends_reinstall henv cfg hc₁)).mono fun _ c₂ _ hc₂ => ?_)
  -- what follows the reinstallation spares the backups as well
  refine wp.weaken (Sends.ends ?_ (admits_spares henv) hc₂) (fun _ => Or.inr) (fun _ _ _ => trivial)
  refine Sends.bind (sends_lift ?_) fun restored => Sends.bind (sends_adapt ?_) fun _ => ?_
  · exact (sends_restore cfg.baseUser true cfg.fuel).mono fun _ h => h.sparesBackups
  · exact (sends_do_reinstalls _ _).mono fun _ h => h.spares
  · cases restored with
    | ok errs => exact sends_pure _
    | error err => exact sends_throw _

end Update

/-- **An update loses no stack**: wherever it has got to, and whatever has failed, a stack
that nobody else touches is among the stacks or in the backup, with its compose file and
its user. -/
theorem update_keeps_stack {env : Cluster → Cluster → Prop} {k : KnownStack} {c c' : Cluster}
    (henv : Undisturbed env k) (cfg : UpdateConfig) (hc : c.HasStack k)
    {events : List (Σ r, Answer r)} {p' : Prog Answer (Except _ (MapRef StackError))}
    (hrun : ((apiServer env).system _).Run ((update cfg).run, c) events (p', c')) :
    c'.HasStack k ∨ c'.HasBackup k :=
  (wp_run (ends_update henv cfg hc) hrun).holds

/-- A stack in the cluster that is updated below. -/
def knownWeb : KnownStack where
  namespace_ := "default"
  name := "web"
  composeFile := "version: '3'"
  user := "moby"

def webObject : Object where
  objectMeta := { (default : ObjectMeta) with
    name := knownWeb.name
    namespace_ := knownWeb.namespace_
    resourceVersion := "1"
    annotations := some ((∅ : Map String).insert userAnnotationKey knownWeb.user) }
  content := .stack { composeFile := knownWeb.composeFile } default

/-- `CRDCRD`, as it is found in the cluster. -/
def stacksDefinition : Object :=
  (newObject "stacks.compose.docker.com" "" none (.customResourceDefinition
    { group := "compose.docker.com"
      version := "v1beta1"
      plural := "stacks"
      singular := "stack"
      kind := "Stack"
      listKind := "StackList"
      scope := "Namespaced" })).stored "" 1

def webCluster : Cluster where
  objects := ⟨[stacksDefinition, webObject], by decide⟩
  version := 2
  groups := [composeGroupName]

def webUpdate : UpdateConfig where
  install := { sha1 := fun _ => "", decodeBase64 := fun _ => .ok [], imagePrefix := "docker" }
  dryRun := { runtime := Runtime.reference, loader := legacyLoader, order := .ascending _ }
  baseUser := ""
  namespace_ := "docker"
  tag := "v1"
  abortOnError := false
  fuel := 2

/-- A cluster that nobody else writes to is undisturbed. -/
theorem undisturbed_eq (k : KnownStack) : Undisturbed Eq k where
  stack _ _ h := h ▸ id
  backup _ _ h := h ▸ id
  definition _ _ h := h ▸ id

/-- The stack of the example is stored. -/
theorem find_webCluster : webCluster.find (knownWeb.key .stack) = some webObject :=
  Collection.find_eq_some_iff.mpr ⟨List.mem_cons_of_mem _ (List.mem_singleton_self _), rfl⟩

/-- It is there with its definition, and the deletion of neither is under way. -/
theorem webCluster_hasStack : webCluster.HasStack knownWeb where
  object := by
    refine ⟨webObject, find_webCluster, rfl, rfl, ?_⟩
    have hlookup : webObject.objectMeta.annotations.get? userAnnotationKey = some knownWeb.user :=
      Finmap.lookup_insert (∅ : Map String)
    rw [Object.user, hlookup]
    rfl
  stays o ho := by
    cases find_webCluster.symm.trans ho
    rfl
  definition o ho := by
    have hfind : webCluster.find stacksCRD = some stacksDefinition :=
      Collection.find_eq_some_iff.mpr ⟨List.mem_cons_self .., rfl⟩
    cases hfind.symm.trans ho
    rfl

/-- The update is killed while it installs the new version. -/
theorem update_keeps_stack_web :
    webCluster.HasStack knownWeb ∧
      ((((update webUpdate).run.follow perform 40 webCluster).2.2).HasStack knownWeb ∨
        (((update webUpdate).run.follow perform 40 webCluster).2.2).HasBackup knownWeb) :=
  ⟨webCluster_hasStack, update_keeps_stack (undisturbed_eq knownWeb) webUpdate webCluster_hasStack
    (run_perform 40 _ _)⟩

end ComposeKube.Install
