import ComposeKube.Lib.History
import ComposeKube.Api.Compose

/-!
# The owner cache

`stackownercache.go`: the cache of stack owners, which the listener marks and
the reconcile loop reads. An entry answers while it is clean, or to a caller
that accepts a dirty one; otherwise the API server is asked. The methods run
under one mutex, so the cache is a state machine over its data.

Its specification is in terms of the past: the last successful fetch of a key,
and whether the key has been marked since.

* `getWithError_cases` — where the config of a lookup comes from.
* `tracks_step` — the data agree with the past after every operation.
* `ownerCache_refines` — what a lookup says, after any sequence of operations.
-/

namespace ComposeKube

open Go History

/-! ## The cache -/

/-- `stackOwnerCacheEntry`. -/
structure StackOwnerCacheEntry where
  config : ImpersonationConfig
  dirty : Bool

/-- `stackOwnerCache`: its data. -/
abbrev StackOwnerCache := Map StackOwnerCacheEntry

/-- What the API server says when it is asked for an owner. -/
inductive OwnerAnswer where
  | found (owner : ImpersonationConfig)
  | notFound
  | failed (err : String)
  deriving DecidableEq

/-- Why there is no config. -/
inductive OwnerError where
  | notFound
  | failed (err : String)

namespace StackOwnerCache

/-- `remove`. -/
def remove (data : StackOwnerCache) (key : String) : StackOwnerCache := data.erase key

/-- `setDirty`. -/
def setDirty (data : StackOwnerCache) (key : String) : StackOwnerCache :=
  match data.lookup key with
  | some entry => data.insert key { entry with dirty := true }
  | none => data

/-- `getWithError`, given what the API server would say. -/
def getWithError (data : StackOwnerCache) (objKey : String) (acceptDirty : Bool)
    (answer : OwnerAnswer) : Except OwnerError ImpersonationConfig × StackOwnerCache :=
  let ask :=
    match answer with
    | .found owner => (.ok owner, data.insert objKey { config := owner, dirty := false })
    | .notFound =>
      match data.lookup objKey with
      | some v => (.ok v.config, data)
      | none => (.error .notFound, data)
    | .failed err => (.error (.failed err), data)
  match data.lookup objKey with
  | some v => if !v.dirty || acceptDirty then (.ok v.config, data) else ask
  | none => ask

/-- The cache does not answer itself, and the API server is asked. -/
def asksServer (data : StackOwnerCache) (objKey : String) (acceptDirty : Bool) : Bool :=
  match data.lookup objKey with
  | some v => v.dirty && !acceptDirty
  | none => true

/-- An entry is marked, if there is one. -/
theorem lookup_setDirty_self (data : StackOwnerCache) (key : String) :
    (data.setDirty key).lookup key =
      (data.lookup key).map fun entry => { entry with dirty := true } := by
  unfold setDirty
  cases hkey : data.lookup key with
  | none => exact hkey
  | some entry => exact Finmap.lookup_insert _

/-- The other entries stay as they are. -/
theorem lookup_setDirty_of_ne (data : StackOwnerCache) {key k : String} (hk : k ≠ key) :
    (data.setDirty key).lookup k = data.lookup k := by
  unfold setDirty
  cases data.lookup key with
  | none => rfl
  | some entry => exact Finmap.lookup_insert_of_ne _ hk

/-- A clean entry is one that was there, and not the one that was marked. -/
theorem clean_of_setDirty {data : StackOwnerCache} {key k : String} {e : StackOwnerCacheEntry}
    (h : (data.setDirty key).lookup k = some e) (hclean : e.dirty = false) :
    k ≠ key ∧ data.lookup k = some e := by
  by_cases hk : k = key
  · subst hk
    rw [lookup_setDirty_self, Option.map_eq_some_iff] at h
    obtain ⟨entry, -, rfl⟩ := h
    cases hclean
  · rw [lookup_setDirty_of_ne _ hk] at h
    exact ⟨hk, h⟩

/-- What is left after a removal was there before. -/
theorem lookup_of_remove {data : StackOwnerCache} {key k : String} {e : StackOwnerCacheEntry}
    (h : (data.remove key).lookup k = some e) : data.lookup k = some e := by
  by_cases hk : k = key
  · subst hk
    rw [remove, Finmap.lookup_erase] at h
    cases h
  · rwa [remove, Finmap.lookup_erase_ne hk] at h

/-- The cache answers itself. -/
theorem getWithError_of_not_asks {data : StackOwnerCache} {objKey : String} {acceptDirty : Bool}
    (h : data.asksServer objKey acceptDirty = false) (answer : OwnerAnswer) :
    ∃ v, data.lookup objKey = some v ∧
      data.getWithError objKey acceptDirty answer = (.ok v.config, data) := by
  unfold asksServer at h
  cases hv : data.lookup objKey with
  | none =>
    rw [hv] at h
    cases h
  | some v =>
    rw [hv] at h
    -- a clean entry, or one that may be dirty
    have hhit : (!v.dirty || acceptDirty) = true := by
      cases hdirty : v.dirty <;> cases acceptDirty <;> simp_all
    refine ⟨v, rfl, ?_⟩
    unfold getWithError
    rw [hv]
    exact if_pos hhit

/-- The API server is asked, and NotFound falls back to the entry. -/
theorem getWithError_of_asks {data : StackOwnerCache} {objKey : String} {acceptDirty : Bool}
    (h : data.asksServer objKey acceptDirty = true) (answer : OwnerAnswer) :
    data.getWithError objKey acceptDirty answer =
      match answer with
      | .found owner => (.ok owner, data.insert objKey { config := owner, dirty := false })
      | .notFound =>
        match data.lookup objKey with
        | some v => (.ok v.config, data)
        | none => (.error .notFound, data)
      | .failed err => (.error (.failed err), data) := by
  unfold asksServer at h
  unfold getWithError
  cases hv : data.lookup objKey with
  | none => rfl
  | some v =>
    rw [hv] at h
    have hmiss : ¬(!v.dirty || acceptDirty) = true := by
      cases hdirty : v.dirty <;> cases acceptDirty <;> simp_all
    simp only [if_neg hmiss]

/-- **Where the config of a lookup comes from**: from the cache, from the API
server, or from the cache because the stack is gone. Only an answer changes the
cache. -/
theorem getWithError_cases (data : StackOwnerCache) (objKey : String) (acceptDirty : Bool)
    (answer : OwnerAnswer) :
    (∃ v, data.lookup objKey = some v ∧ (v.dirty = false ∨ acceptDirty = true) ∧
      data.getWithError objKey acceptDirty answer = (.ok v.config, data)) ∨
    (∃ owner, answer = .found owner ∧ data.getWithError objKey acceptDirty answer =
      (.ok owner, data.insert objKey { config := owner, dirty := false })) ∨
    (∃ v : StackOwnerCacheEntry, data.asksServer objKey acceptDirty = true ∧ answer = .notFound ∧
      data.getWithError objKey acceptDirty answer = (.ok v.config, data)) ∨
    ∃ err, data.getWithError objKey acceptDirty answer = (.error err, data) := by
  cases hasks : data.asksServer objKey acceptDirty with
  | false =>
    obtain ⟨v, hv, hget⟩ := getWithError_of_not_asks hasks answer
    refine Or.inl ⟨v, hv, ?_, hget⟩
    cases hdirty : v.dirty with
    | false => exact Or.inl rfl
    | true => simpa [asksServer, hv, hdirty] using hasks
  | true =>
    rw [getWithError_of_asks hasks]
    cases answer with
    | found owner => exact Or.inr (Or.inl ⟨owner, rfl, rfl⟩)
    -- an entry that is there is used all the same
    | notFound =>
      cases hv : data.lookup objKey with
      | none => exact Or.inr (Or.inr (Or.inr ⟨_, rfl⟩))
      | some v => exact Or.inr (Or.inr (Or.inl ⟨v, rfl, rfl, rfl⟩))
    | failed err => exact Or.inr (Or.inr (Or.inr ⟨_, rfl⟩))

end StackOwnerCache

/-! ## The past of the cache -/

/-- The operations on the cache; a lookup comes with what the API server would say. -/
inductive CacheOp where
  | remove (key : String)
  | setDirty (key : String)
  | getWithError (key : String) (acceptDirty : Bool) (answer : OwnerAnswer)

/-- What an operation leaves in the past. A lookup leaves a trace when the API
server was asked and has named an owner. -/
inductive CacheEvent where
  | removed (key : String)
  | marked (key : String)
  | fetched (key : String) (config : ImpersonationConfig)

namespace StackOwnerCache

/-- The cache after an operation. -/
def apply (data : StackOwnerCache) : CacheOp → StackOwnerCache
  | .remove key => data.remove key
  | .setDirty key => data.setDirty key
  | .getWithError key acceptDirty answer => (data.getWithError key acceptDirty answer).2

/-- The trace of an operation. -/
def event (data : StackOwnerCache) : CacheOp → List CacheEvent
  | .remove key => [.removed key]
  | .setDirty key => [.marked key]
  | .getWithError key acceptDirty (.found owner) =>
    if data.asksServer key acceptDirty then [.fetched key owner] else []
  | .getWithError _ _ _ => []

/-- One operation on the data, with the past recorded. -/
def step (s : StackOwnerCache × List CacheEvent) (op : CacheOp) :
    StackOwnerCache × List CacheEvent :=
  (s.1.apply op, s.2 ++ s.1.event op)

/-- A sequence of operations on a new cache: its data, and the past. -/
def run (ops : List CacheOp) : StackOwnerCache × List CacheEvent := ops.foldl step (∅, [])

end StackOwnerCache

/-- The config is that of the last successful fetch of the key since its last
removal. -/
def LastFetch (past : List CacheEvent) (key : String) (config : ImpersonationConfig) : Prop :=
  Since (· = .fetched key config)
    (fun e => e = .removed key ∨ ∃ config', e = .fetched key config') past

/-- The key has been marked dirty since its last successful fetch. -/
def MarkedSince (past : List CacheEvent) (key : String) : Prop :=
  Since (· = .marked key) (fun e => ∃ config, e = .fetched key config) past

/-- The data agree with the past: there is an entry where there has been a fetch,
it holds what was fetched, and it is dirty where it has been marked since. -/
def Tracks (data : StackOwnerCache) (past : List CacheEvent) : Prop :=
  ∀ key, match data.lookup key with
    | none => ∀ config, ¬LastFetch past key config
    | some entry => LastFetch past key entry.config ∧ (entry.dirty = true ↔ MarkedSince past key)

/-- The last answer for a key, one event later. -/
theorem lastFetch_snoc {past : List CacheEvent} {event : CacheEvent} {key : String}
    {config : ImpersonationConfig} :
    LastFetch (past ++ [event]) key config ↔ event = .fetched key config ∨
      ¬(event = .removed key ∨ ∃ config', event = .fetched key config') ∧
        LastFetch past key config :=
  since_snoc

/-- Whether it was marked since, one event later. -/
theorem markedSince_snoc {past : List CacheEvent} {event : CacheEvent} {key : String} :
    MarkedSince (past ++ [event]) key ↔ event = .marked key ∨
      ¬(∃ config, event = .fetched key config) ∧ MarkedSince past key :=
  since_snoc

/-- An event of another key says nothing about this one. -/
theorem Tracks.of_other {data data' : StackOwnerCache} {past : List CacheEvent}
    {event : CacheEvent} (key : String) (h : Tracks data past)
    (hlookup : ∀ k, k ≠ key → data'.lookup k = data.lookup k)
    (hevent : event = .removed key ∨ event = .marked key ∨ ∃ config, event = .fetched key config)
    (hkey : match data'.lookup key with
      | none => ∀ config, ¬LastFetch (past ++ [event]) key config
      | some entry => LastFetch (past ++ [event]) key entry.config ∧
        (entry.dirty = true ↔ MarkedSince (past ++ [event]) key)) :
    Tracks data' (past ++ [event]) := by
  intro k
  by_cases hk : k = key
  · subst hk
    exact hkey
  · -- the event is of `key`, so it neither is nor ends anything of `k`
    have hfetched : ∀ config, event ≠ .fetched k config := by
      rintro config rfl
      rcases hevent with h | h | ⟨_, h⟩ <;> cases h
      exact hk rfl
    have hremoved : event ≠ .removed k := by
      rintro rfl
      rcases hevent with h | h | ⟨_, h⟩ <;> cases h
      exact hk rfl
    have hmarked : event ≠ .marked k := by
      rintro rfl
      rcases hevent with h | h | ⟨_, h⟩ <;> cases h
      exact hk rfl
    have hold := h k
    rw [hlookup k hk]
    simpa [lastFetch_snoc, markedSince_snoc, hfetched, hremoved, hmarked] using hold

/-- **One operation** keeps the data in agreement with the past. -/
theorem tracks_step {s : StackOwnerCache × List CacheEvent} (h : Tracks s.1 s.2) (op : CacheOp) :
    Tracks (StackOwnerCache.step s op).1 (StackOwnerCache.step s op).2 := by
  obtain ⟨data, past⟩ := s
  cases op with
  | remove key =>
    refine Tracks.of_other key h (fun k hk => ?_) (Or.inl rfl) ?_
    · exact Finmap.lookup_erase_ne hk
    · show match (data.remove key).lookup key with | none => _ | some entry => _
      rw [StackOwnerCache.remove, Finmap.lookup_erase]
      intro config
      simp [lastFetch_snoc]
  | setDirty key =>
    refine Tracks.of_other key h (fun k hk => data.lookup_setDirty_of_ne hk)
      (Or.inr (Or.inl rfl)) ?_
    show match (data.setDirty key).lookup key with | none => _ | some entry => _
    have hold := h key
    rw [StackOwnerCache.lookup_setDirty_self]
    cases hkey : data.lookup key with
    | none =>
      rw [hkey] at hold
      simpa [lastFetch_snoc] using hold
    | some entry =>
      rw [hkey] at hold
      simpa [lastFetch_snoc, markedSince_snoc] using hold.1
  | getWithError key acceptDirty answer =>
    cases hasks : data.asksServer key acceptDirty with
    | false =>
      obtain ⟨v, -, hget⟩ := StackOwnerCache.getWithError_of_not_asks hasks answer
      have hevent : data.event (.getWithError key acceptDirty answer) = [] := by
        cases answer <;> simp [StackOwnerCache.event, hasks]
      simpa [StackOwnerCache.step, StackOwnerCache.apply, hget, hevent] using h
    | true =>
      have hget := StackOwnerCache.getWithError_of_asks hasks answer
      cases answer with
      | found owner =>
        -- a new entry, and nothing has marked it yet
        have hevent : data.event (.getWithError key acceptDirty (.found owner)) =
            [.fetched key owner] := if_pos hasks
        simp only [StackOwnerCache.step, StackOwnerCache.apply, hget, hevent]
        refine Tracks.of_other key h (fun k hk => Finmap.lookup_insert_of_ne _ hk)
          (Or.inr (Or.inr ⟨owner, rfl⟩)) ?_
        rw [Finmap.lookup_insert]
        simp [lastFetch_snoc, markedSince_snoc]
      | notFound =>
        have hdata : (data.getWithError key acceptDirty .notFound).2 = data := by
          rw [hget]
          cases data.lookup key <;> rfl
        simpa [StackOwnerCache.step, StackOwnerCache.apply, StackOwnerCache.event, hdata] using h
      | failed err =>
        simpa [StackOwnerCache.step, StackOwnerCache.apply, StackOwnerCache.event, hget] using h

/-- **Every run** keeps the data in agreement with the past. -/
theorem tracks_run (ops : List CacheOp) :
    Tracks (StackOwnerCache.run ops).1 (StackOwnerCache.run ops).2 := by
  induction ops using List.reverseRecOn with
  | nil =>
    intro key
    exact fun config => not_since_nil _ _
  | append_singleton ops op ih =>
    rw [StackOwnerCache.run, List.foldl_append]
    exact tracks_step ih op

/-- There is one last answer. -/
theorem lastFetch_unique {past : List CacheEvent} {key : String}
    {config config' : ImpersonationConfig} (h : LastFetch past key config)
    (h' : LastFetch past key config') : config = config' := by
  obtain ⟨event, rfl, hevent⟩ := since_unique (fun e he => Or.inr ⟨config, he⟩)
    (fun e he => Or.inr ⟨config', he⟩) h h'
  cases hevent
  rfl

/-- An entry is what the last fetch has left, and whether it has been marked since. -/
theorem Tracks.lookup_of_lastFetch {data : StackOwnerCache} {past : List CacheEvent}
    (h : Tracks data past) {key : String} {config : ImpersonationConfig}
    (hfetch : LastFetch past key config) :
    ∃ entry, data.lookup key = some entry ∧ entry.config = config ∧
      (entry.dirty = true ↔ MarkedSince past key) := by
  have hkey := h key
  cases hlookup : data.lookup key with
  | none =>
    rw [hlookup] at hkey
    exact absurd hfetch (hkey config)
  | some entry =>
    rw [hlookup] at hkey
    exact ⟨entry, rfl, lastFetch_unique hkey.1 hfetch, hkey.2⟩

/-- Without an answer there is no entry. -/
theorem Tracks.lookup_of_not_lastFetch {data : StackOwnerCache} {past : List CacheEvent}
    (h : Tracks data past) {key : String} (hfetch : ∀ config, ¬LastFetch past key config) :
    data.lookup key = none := by
  have hkey := h key
  cases hlookup : data.lookup key with
  | none => rfl
  | some entry =>
    rw [hlookup] at hkey
    exact absurd hkey.1 (hfetch entry.config)

/-! ## The specification -/

/-- The key that an operation is about. -/
def CacheOp.key : CacheOp → String
  | .remove key => key
  | .setDirty key => key
  | .getWithError key _ _ => key

/-- An operation on one key leaves the entries of the others. -/
theorem lookup_apply_of_ne (data : StackOwnerCache) (op : CacheOp) {k : String}
    (hk : k ≠ op.key) : (data.apply op).lookup k = data.lookup k := by
  cases op with
  | remove key => exact Finmap.lookup_erase_ne hk
  | setDirty key => exact data.lookup_setDirty_of_ne hk
  | getWithError key acceptDirty answer =>
    show (data.getWithError key acceptDirty answer).2.lookup k = data.lookup k
    obtain ⟨v, -, -, hget⟩ | ⟨owner, -, hget⟩ | ⟨v, -, -, hget⟩ | ⟨err, hget⟩ :=
      data.getWithError_cases key acceptDirty answer
    · rw [hget]
    · rw [hget]
      exact Finmap.lookup_insert_of_ne _ hk
    · rw [hget]
    · rw [hget]

/-- The API server is asked exactly when there is no fetch to rely on. -/
theorem Tracks.asksServer_iff {data : StackOwnerCache} {past : List CacheEvent}
    (h : Tracks data past) (key : String) (acceptDirty : Bool) :
    data.asksServer key acceptDirty = true ↔
      (∀ config, ¬LastFetch past key config) ∨ MarkedSince past key ∧ acceptDirty = false := by
  have hkey := h key
  unfold StackOwnerCache.asksServer
  cases hlookup : data.lookup key with
  | none =>
    rw [hlookup] at hkey
    simp only [true_iff]
    exact Or.inl hkey
  | some entry =>
    rw [hlookup] at hkey
    have hfetched : ¬∀ config, ¬LastFetch past key config := fun hnone => hnone _ hkey.1
    simp only [hfetched, false_or, ← hkey.2, Bool.and_eq_true, Bool.not_eq_true']

/-- **The owner cache refines its specification.** After any sequence of
operations, a lookup of a key that has not been fetched, or that has been marked
since and must not be dirty, says what the API server says, and after NotFound
what was fetched last; any other lookup says what was fetched last, whatever the
API server would say. Only an owner that is fetched changes an entry, and no
operation changes that of another key. -/
theorem ownerCache_refines (ops : List CacheOp) (data : StackOwnerCache) (past : List CacheEvent)
    (hrun : StackOwnerCache.run ops = (data, past)) (key : String) (acceptDirty : Bool)
    (answer : OwnerAnswer) :
    ((∀ config, ¬LastFetch past key config) ∨ MarkedSince past key ∧ acceptDirty = false →
      data.asksServer key acceptDirty = true ∧
      (∀ owner, answer = .found owner →
        (data.getWithError key acceptDirty answer).1 = .ok owner) ∧
      (∀ err, answer = .failed err →
        (data.getWithError key acceptDirty answer).1 = .error (.failed err)) ∧
      (answer = .notFound →
        (∀ config, LastFetch past key config →
          (data.getWithError key acceptDirty answer).1 = .ok config) ∧
        ((∀ config, ¬LastFetch past key config) →
          (data.getWithError key acceptDirty answer).1 = .error .notFound))) ∧
    (∀ config, LastFetch past key config → ¬MarkedSince past key ∨ acceptDirty = true →
      data.asksServer key acceptDirty = false ∧
        ∀ answer', data.getWithError key acceptDirty answer' = (.ok config, data)) ∧
    ((∀ owner, answer ≠ .found owner) → (data.getWithError key acceptDirty answer).2 = data) ∧
    (∀ op k, k ≠ CacheOp.key op → (data.apply op).lookup k = data.lookup k) := by
  have htracks : Tracks data past := by
    have h := tracks_run ops
    rwa [hrun] at h
  refine ⟨?_, ?_, ?_, fun op k => lookup_apply_of_ne data op⟩
  · -- the server is asked: there was no answer yet, or it was marked and must be clean
    intro h
    have hasks : data.asksServer key acceptDirty = true :=
      (htracks.asksServer_iff key acceptDirty).mpr h
    have hget := StackOwnerCache.getWithError_of_asks hasks answer
    refine ⟨hasks, ?_, ?_, ?_⟩
    · rintro owner rfl
      rw [hget]
    · rintro err rfl
      rw [hget]
    · rintro rfl
      rw [hget]
      constructor
      · intro config hfetch
        obtain ⟨entry, hentry, rfl, -⟩ := htracks.lookup_of_lastFetch hfetch
        rw [hentry]
      · intro hnone
        rw [htracks.lookup_of_not_lastFetch hnone]
  · -- the entry is good enough, and nobody is asked
    intro config hfetch hclean
    have hasks : data.asksServer key acceptDirty = false := by
      rw [← Bool.not_eq_true, htracks.asksServer_iff key acceptDirty]
      rintro (hnone | ⟨hmarked, haccept⟩)
      · exact hnone config hfetch
      · rcases hclean with hclean | hclean
        · exact hclean hmarked
        · rw [haccept] at hclean
          cases hclean
    refine ⟨hasks, fun answer' => ?_⟩
    obtain ⟨v, hv, hget⟩ := StackOwnerCache.getWithError_of_not_asks hasks answer'
    obtain ⟨entry, hentry, hconfig, -⟩ := htracks.lookup_of_lastFetch hfetch
    rw [hv] at hentry
    cases hentry
    rw [hget, hconfig]
  · -- only an answer that was found is stored
    intro hanswer
    obtain ⟨v, -, -, hget⟩ | ⟨owner, hfound, -⟩ | ⟨v, -, -, hget⟩ | ⟨err, hget⟩ :=
      data.getWithError_cases key acceptDirty answer
    · rw [hget]
    · exact absurd hfound (hanswer owner)
    · rw [hget]
    · rw [hget]

/-- The owner of a stack is fetched, and the stack is updated. -/
def fetchAndUpdate : List CacheOp :=
  [.getWithError "ns/test" false (.found { userName := "test", groups := none, extra := none }),
    .setDirty "ns/test"]

/-- When the stack is gone, the config that was fetched is still there, for the
update and for the deletion of the children. -/
theorem ownerCache_refines_fetchAndUpdate :
    ∃ config, config.userName = "test" ∧
      ((StackOwnerCache.run fetchAndUpdate).1.getWithError "ns/test" false .notFound).1 =
        .ok config ∧
      ((StackOwnerCache.run fetchAndUpdate).1.getWithError "ns/test" true .notFound).1 =
        .ok config := by
  let owner : ImpersonationConfig := { userName := "test", groups := none, extra := none }
  have hrun : StackOwnerCache.run fetchAndUpdate = ((StackOwnerCache.run fetchAndUpdate).1,
      [.fetched "ns/test" owner, .marked "ns/test"]) := rfl
  have hfetch : LastFetch [.fetched "ns/test" owner, .marked "ns/test"] "ns/test" owner :=
    ⟨[], _, [.marked "ns/test"], rfl, rfl, by simp⟩
  have hmarked : MarkedSince [.fetched "ns/test" owner, .marked "ns/test"] "ns/test" :=
    ⟨[.fetched "ns/test" owner], _, [], rfl, rfl, by simp⟩
  -- the stack is gone: the marked entry is used, after the server was asked or without asking
  refine ⟨owner, rfl, ?_, ?_⟩
  · have h := (ownerCache_refines _ _ _ hrun "ns/test" false .notFound).1 (Or.inr ⟨hmarked, rfl⟩)
    exact (h.2.2.2 rfl).1 owner hfetch
  · have h := (ownerCache_refines _ _ _ hrun "ns/test" true .notFound).2.1 owner hfetch (Or.inr rfl)
    rw [h.2]

end ComposeKube
