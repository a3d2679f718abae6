import Mathlib.Data.Finset.Card
import Mathlib.Data.Finset.Range
import Mathlib.Logic.Function.Basic
import ComposeKube.Lib.History
import ComposeKube.Lib.Transition

/-!
# The signaler

`signaler.go`: a notification that is given once, through callbacks and channels. What
comes after it is notified at once.

Any number of goroutines use it. The data are behind a mutex, so that each locked section
is one step. `Signal` calls the callbacks after it has unlocked, one step each: it visits
the map itself, in any order, while others may delete entries from it. An entry that is
deleted before the loop gets to it is not visited. A callback may use the signaler; its
calls are those of some goroutine.

A send into a full channel blocks, and all sends are made with the mutex held. A
goroutine that is blocked in a send stops everyone: no section runs any more.

* `trackCallbacks_step` — the map holds what is registered and not unregistered since.
* `signalProgress_step` — what `Signal` has called before, in and after its loop.
* `lateCalls_step` — what `Register` has called itself.
* `tokens_step` — what has been sent into the channels, and that no send has blocked.
* `signaler_delivers_once` — all runs.
* `signal_returns` — the loop comes to its end.
-/

namespace ComposeKube

open History Transition

/-! ## The sections -/

/-- A channel of capacity one. How many tokens have been sent and received is recorded
next to its buffer. -/
structure SignalChan where
  buffered : Nat
  sent : Nat
  received : Nat

/-- `make(chan struct{}, 1)`. -/
def SignalChan.make : SignalChan where
  buffered := 0
  sent := 0
  received := 0

/-- A send; `none` when it blocks. -/
def SignalChan.send (c : SignalChan) : Option SignalChan :=
  if c.buffered < 1 then some { c with buffered := c.buffered + 1, sent := c.sent + 1 } else none

/-- A receive; `none` when it blocks. -/
def SignalChan.receive (c : SignalChan) : Option SignalChan :=
  if 0 < c.buffered then some { c with buffered := c.buffered - 1, received := c.received + 1 }
  else none

/-- `signaler`: callbacks are of type `F`, and channels are places in a list. The indices are
an `int` in Go: fewer than 2^63 registrations are made, and none comes round again. -/
structure Signaler (F : Type) where
  callbacks : Nat → Option F
  signals : List Nat
  triggered : Bool
  nextIndex : Nat

namespace Signaler

variable {F : Type}

/-- `newSignaler`. -/
def new : Signaler F where
  callbacks _ := none
  signals := []
  triggered := false
  nextIndex := 0

/-- The section of `Register`: the index, or `none` where the callback is to be called. -/
def register (s : Signaler F) (f : F) : Option (Nat × Signaler F) :=
  if s.triggered then none
  else
    some (s.nextIndex,
      { s with
        nextIndex := s.nextIndex + 1
        callbacks := Function.update s.callbacks s.nextIndex (some f) })

/-- The section of `Unregister`; the id may be any number. -/
def unregister (s : Signaler F) (id : Int) : Signaler F :=
  { s with callbacks := fun i => if (i : Int) = id then none else s.callbacks i }

/-- The section of `Channel`: `none` when its send blocks. The new channel is the last
one. -/
def channel (s : Signaler F) (channels : List SignalChan) :
    Option (Signaler F × List SignalChan) :=
  let res := channels.length
  if s.triggered then do
    let c ← SignalChan.make.send
    return (s, channels ++ [c])
  else
    return ({ s with signals := s.signals ++ [res] }, channels ++ [.make])

/-- The sends of `Signal`, one after the other. -/
def sendAll : List Nat → List SignalChan → Option (List SignalChan)
  | [], channels => some channels
  | c :: rest, channels => do
    let chan ← channels[c]?
    let chan ← chan.send
    sendAll rest (channels.set c chan)

/-- The section of the `Signal` that triggers: `none` when one of its sends blocks. -/
def signal (s : Signaler F) (channels : List SignalChan) :
    Option (Signaler F × List SignalChan) := do
  let channels ← sendAll s.signals channels
  return ({ s with triggered := true }, channels)

end Signaler

/-! ## Goroutines -/

/-- Where a goroutine is. -/
inductive SignalerPhase (F : Type) where
  /-- In no call, or before the section of one. -/
  | idle
  /-- In `Register`, with the callback to be called; the number tells late registrations
  apart. -/
  | calling (k : Nat) (f : F)
  /-- In the loop of `Signal`, which has visited these entries. -/
  | looping (visited : List Nat)

structure SignalerState (T F : Type) where
  signaler : Signaler F
  channels : List SignalChan
  phase : T → SignalerPhase F
  lateCount : Nat
  /-- A send has blocked, with the mutex held. -/
  blocked : Bool

/-- What happens in a step. -/
inductive SignalerEvent (T F : Type) where
  | registered (i : Nat) (f : F)
  | registeredLate (t : T) (k : Nat) (f : F)
  | calledByRegister (t : T) (k : Nat) (f : F)
  | unregistered (id : Int)
  | channel
  | triggered
  | signalled
  | calledBySignal (i : Nat) (f : F)
  | returned
  | received (c : Nat)
  | blocked

variable {T F : Type}

def SignalerState.new : SignalerState T F where
  signaler := .new
  channels := []
  phase _ := .idle
  lateCount := 0
  blocked := false

/-- The steps of all goroutines. -/
inductive SignalerStep [DecidableEq T] :
    SignalerState T F → SignalerEvent T F → SignalerState T F → Prop
  | register {s : SignalerState T F} {t : T} {f : F} {i : Nat} {signaler : Signaler F}
      (hidle : s.phase t = .idle) (hfree : s.blocked = false)
      (h : s.signaler.register f = some (i, signaler)) :
      SignalerStep s (.registered i f) { s with signaler }
  -- the signal has been given: the callback is called, after the section
  | registerLate {s : SignalerState T F} {t : T} {f : F} (hidle : s.phase t = .idle)
      (hfree : s.blocked = false) (h : s.signaler.register f = none) :
      SignalerStep s (.registeredLate t s.lateCount f)
        { s with
          phase := Function.update s.phase t (.calling s.lateCount f)
          lateCount := s.lateCount + 1 }
  | callLate {s : SignalerState T F} {t : T} {k : Nat} {f : F} (h : s.phase t = .calling k f) :
      SignalerStep s (.calledByRegister t k f) { s with phase := Function.update s.phase t .idle }
  | unregister {s : SignalerState T F} {t : T} {id : Int} (hidle : s.phase t = .idle)
      (hfree : s.blocked = false) :
      SignalerStep s (.unregistered id) { s with signaler := s.signaler.unregister id }
  | channel {s : SignalerState T F} {t : T} {signaler : Signaler F} {channels : List SignalChan}
      (hidle : s.phase t = .idle) (hfree : s.blocked = false)
      (h : s.signaler.channel s.channels = some (signaler, channels)) :
      SignalerStep s .channel { s with signaler, channels }
  | channelBlocks {s : SignalerState T F} {t : T} (hidle : s.phase t = .idle)
      (hfree : s.blocked = false) (h : s.signaler.channel s.channels = none) :
      SignalerStep s .blocked { s with blocked := true }
  -- only the first `Signal` triggers, and only its goroutine gets into the loop
  | signalAgain {s : SignalerState T F} {t : T} (hidle : s.phase t = .idle)
      (hfree : s.blocked = false) (htriggered : s.signaler.triggered = true) :
      SignalerStep s .signalled s
  | signal {s : SignalerState T F} {t : T} {signaler : Signaler F} {channels : List SignalChan}
      (hidle : s.phase t = .idle) (hfree : s.blocked = false)
      (htriggered : s.signaler.triggered = false)
      (h : s.signaler.signal s.channels = some (signaler, channels)) :
      SignalerStep s .triggered
        { s with signaler, channels, phase := Function.update s.phase t (.looping []) }
  | signalBlocks {s : SignalerState T F} {t : T} (hidle : s.phase t = .idle)
      (hfree : s.blocked = false) (htriggered : s.signaler.triggered = false)
      (h : s.signaler.signal s.channels = none) :
      SignalerStep s .blocked { s with blocked := true }
  -- any entry that is still in the map; the mutex is not held
  | callNext {s : SignalerState T F} {t : T} {visited : List Nat} {i : Nat} {f : F}
      (hloop : s.phase t = .looping visited) (hcallback : s.signaler.callbacks i = some f)
      (hnew : i ∉ visited) :
      SignalerStep s (.calledBySignal i f)
        { s with phase := Function.update s.phase t (.looping (i :: visited)) }
  | signalReturns {s : SignalerState T F} {t : T} {visited : List Nat}
      (hloop : s.phase t = .looping visited)
      (hall : ∀ i f, s.signaler.callbacks i = some f → i ∈ visited) :
      SignalerStep s .returned { s with phase := Function.update s.phase t .idle }
  -- a reader of a channel needs neither the mutex nor a goroutine of the signaler's users
  | receive {s : SignalerState T F} {c : Nat} {chan chan' : SignalChan}
      (hc : s.channels[c]? = some chan) (h : chan.receive = some chan') :
      SignalerStep s (.received c) { s with channels := s.channels.set c chan' }

def signalerSystem [DecidableEq T] : System (SignalerState T F) (SignalerEvent T F) where
  init s := s = .new
  step := SignalerStep

/-! ## What is delivered -/

/-- A call of the callback with an index, by the loop of `Signal`. -/
def SignalerEvent.isCallOf (i : Nat) : SignalerEvent T F → Bool
  | .calledBySignal j _ => j = i
  | _ => false

/-- The call of a late registration, by `Register`. -/
def SignalerEvent.isLateCallOf (k : Nat) : SignalerEvent T F → Bool
  | .calledByRegister _ j _ => j = k
  | _ => false

def signalCalls (events : List (SignalerEvent T F)) (i : Nat) : Nat :=
  events.countP (·.isCallOf i)

def registerCalls (events : List (SignalerEvent T F)) (k : Nat) : Nat :=
  events.countP (·.isLateCallOf k)

/-- A callback is registered, and has not been unregistered since. -/
def Registered (events : List (SignalerEvent T F)) (i : Nat) (f : F) : Prop :=
  Since (· = .registered i f) (· = .unregistered i) events

/-- A registered callback was unregistered before the trigger. -/
def Dropped (events : List (SignalerEvent T F)) (i : Nat) : Prop :=
  Happened (fun before e => e = .unregistered i ∧ (∃ f, .registered i f ∈ before) ∧
    .triggered ∉ before) events

/-! ## The past -/

theorem registered_mem {events : List (SignalerEvent T F)} {i : Nat} {f : F}
    (h : Registered events i f) : .registered i f ∈ events := by
  obtain ⟨before, _, after, rfl, rfl, -⟩ := h
  simp

theorem signalCalls_snoc (events : List (SignalerEvent T F)) (e : SignalerEvent T F) (i : Nat) :
    signalCalls (events ++ [e]) i = signalCalls events i + if e.isCallOf i then 1 else 0 := by
  unfold signalCalls
  rw [List.countP_append, List.countP_singleton]

theorem registerCalls_snoc (events : List (SignalerEvent T F)) (e : SignalerEvent T F) (k : Nat) :
    registerCalls (events ++ [e]) k =
      registerCalls events k + if e.isLateCallOf k then 1 else 0 := by
  unfold registerCalls
  rw [List.countP_append, List.countP_singleton]

/-! ## What a step does -/

namespace Signaler

variable {s s' : Signaler F} {f : F} {i : Nat}

/-- A registration before the signal: the callback is stored under the next index. -/
theorem register_eq_some (h : s.register f = some (i, s')) :
    s.triggered = false ∧ i = s.nextIndex ∧
      s' = { s with
        nextIndex := s.nextIndex + 1
        callbacks := Function.update s.callbacks s.nextIndex (some f) } := by
  unfold register at h
  split at h
  · cases h
  · next htriggered =>
    cases h
    exact ⟨Bool.eq_false_iff.mpr htriggered, rfl, rfl⟩

theorem register_eq_none (h : s.register f = none) : s.triggered = true := by
  unfold register at h
  split at h
  · assumption
  · cases h

theorem channel_of_triggered (h : s.triggered = true) (channels : List SignalChan) :
    s.channel channels = some (s, channels ++ [⟨1, 1, 0⟩]) := by
  unfold channel
  rw [if_pos h]
  rfl

theorem channel_of_not_triggered (h : s.triggered = false) (channels : List SignalChan) :
    s.channel channels =
      some ({ s with signals := s.signals ++ [channels.length] }, channels ++ [.make]) := by
  unfold channel
  rw [if_neg (Bool.eq_false_iff.mp h)]
  rfl

/-- A new channel changes the list of signals only. -/
theorem channel_eq_some {channels channels' : List SignalChan}
    (h : s.channel channels = some (s', channels')) : ∃ signals, s' = { s with signals } := by
  by_cases htriggered : s.triggered = true
  · rw [channel_of_triggered htriggered] at h
    cases h
    exact ⟨s.signals, rfl⟩
  · rw [channel_of_not_triggered (Bool.eq_false_iff.mpr htriggered)] at h
    cases h
    exact ⟨_, rfl⟩

theorem signal_eq_some {channels channels' : List SignalChan}
    (h : s.signal channels = some (s', channels')) :
    sendAll s.signals channels = some channels' ∧ s' = { s with triggered := true } := by
  obtain ⟨sent, hsent, hret⟩ := Option.bind_eq_some_iff.mp h
  cases hret
  exact ⟨hsent, rfl⟩

end Signaler

variable {s s' : SignalerState T F} {e : SignalerEvent T F} {events : List (SignalerEvent T F)}

section Steps

variable [DecidableEq T]

/-- Only the signal triggers. -/
theorem triggered_step (h : SignalerStep s e s') :
    s'.signaler.triggered = true ↔ e = .triggered ∨ s.signaler.triggered = true := by
  cases h with
  | register _ _ h =>
    obtain ⟨-, -, rfl⟩ := Signaler.register_eq_some h
    simp
  | channel _ _ h =>
    obtain ⟨_, rfl⟩ := Signaler.channel_eq_some h
    simp
  | signal _ _ _ h =>
    obtain ⟨-, rfl⟩ := Signaler.signal_eq_some h
    simp
  | _ => simp [Signaler.unregister]

/-- Indices are given out in ascending order. -/
theorem nextIndex_step (h : SignalerStep s e s') :
    s.signaler.nextIndex ≤ s'.signaler.nextIndex ∧ ∀ i f, e = .registered i f →
      s.signaler.triggered = false ∧ i = s.signaler.nextIndex ∧ i < s'.signaler.nextIndex := by
  cases h with
  | register _ _ h =>
    obtain ⟨htriggered, rfl, rfl⟩ := Signaler.register_eq_some h
    simp [htriggered]
  | channel _ _ h =>
    obtain ⟨_, rfl⟩ := Signaler.channel_eq_some h
    simp
  | signal _ _ _ h =>
    obtain ⟨-, rfl⟩ := Signaler.signal_eq_some h
    simp
  | _ => simp [Signaler.unregister]

/-- An entry of the map is the one that is registered, or was there and is not
unregistered. -/
theorem callbacks_step (h : SignalerStep s e s')
    (hfresh : s.signaler.callbacks s.signaler.nextIndex = none) (i : Nat) (f : F) :
    s'.signaler.callbacks i = some f ↔
      e = .registered i f ∨ e ≠ .unregistered i ∧ s.signaler.callbacks i = some f := by
  cases h with
  | @register t f' _ _ _ _ h =>
    obtain ⟨-, rfl, rfl⟩ := Signaler.register_eq_some h
    -- a new index, or one that was there
    by_cases hi : i = s.signaler.nextIndex
    · subst hi
      simp [hfresh]
    · have hne : s.signaler.nextIndex ≠ i := fun h => hi h.symm
      simp [Function.update_of_ne hi, hne]
  | @unregister t id =>
    by_cases hi : (i : Int) = id
    · simp [Signaler.unregister, hi]
    · have hne : id ≠ i := fun h => hi h.symm
      simp [Signaler.unregister, hi, hne]
  | channel _ _ h =>
    obtain ⟨_, rfl⟩ := Signaler.channel_eq_some h
    simp
  | signal _ _ _ h =>
    obtain ⟨-, rfl⟩ := Signaler.signal_eq_some h
    simp
  | _ => simp

end Steps

/-! ## The map of callbacks -/

/-- The data follow the past: the flag, the indices that have been given out, and the
callbacks. -/
structure TracksCallbacks (events : List (SignalerEvent T F)) (s : SignalerState T F) : Prop where
  triggered : s.signaler.triggered = true ↔ .triggered ∈ events
  index_lt : ∀ i f, .registered i f ∈ events → i < s.signaler.nextIndex
  unique : ∀ i f f', .registered i f ∈ events → .registered i f' ∈ events → f = f'
  callbacks : ∀ i f, s.signaler.callbacks i = some f ↔ Registered events i f

theorem TracksCallbacks.fresh (h : TracksCallbacks events s) :
    s.signaler.callbacks s.signaler.nextIndex = none := by
  cases hcallback : s.signaler.callbacks s.signaler.nextIndex with
  | none => rfl
  | some f =>
    have hlt := h.index_lt _ f (registered_mem ((h.callbacks _ f).mp hcallback))
    exact absurd hlt (Nat.lt_irrefl _)

theorem trackCallbacks_step [DecidableEq T] (h : TracksCallbacks events s)
    (hstep : SignalerStep s e s') : TracksCallbacks (events ++ [e]) s' where
  triggered := by
    rw [triggered_step hstep, h.triggered, List.mem_append, List.mem_singleton, or_comm,
      eq_comm]
  index_lt := by
    intro i f hmem
    obtain ⟨hle, hnew⟩ := nextIndex_step hstep
    rcases List.mem_append.mp hmem with hold | hlast
    · exact Nat.lt_of_lt_of_le (h.index_lt i f hold) hle
    · exact (hnew i f (List.mem_singleton.mp hlast).symm).2.2
  unique := by
    -- a new index is above all that have been given out
    have hfresh : ∀ i f f', .registered i f ∈ events → e ≠ .registered i f' := by
      intro i f f' hold hlast
      have hlt := h.index_lt i f hold
      have heq := ((nextIndex_step hstep).2 i f' hlast).2.1
      omega
    intro i f f' hmem hmem'
    rw [List.mem_append, List.mem_singleton] at hmem hmem'
    rcases hmem with hold | hlast
    · rcases hmem' with hold' | hlast'
      · exact h.unique i f f' hold hold'
      · exact absurd hlast'.symm (hfresh i f f' hold)
    · rcases hmem' with hold' | hlast'
      · exact absurd hlast.symm (hfresh i f' f hold')
      · cases hlast.trans hlast'.symm
        rfl
  callbacks := by
    intro i f
    rw [callbacks_step hstep h.fresh, h.callbacks, Registered, Registered, since_snoc]

/-! ## The loop of `Signal` -/

/-- The three stages of the signal, with what has been called. -/
inductive SignalProgress (events : List (SignalerEvent T F)) (s : SignalerState T F) : Prop
  | waiting (htriggered : s.signaler.triggered = false) (hreturned : .returned ∉ events)
      (hloops : ∀ t visited, s.phase t ≠ .looping visited) (hcalls : ∀ i, signalCalls events i = 0)
  | looping {t : T} {visited : List Nat} (htriggered : s.signaler.triggered = true)
      (hreturned : .returned ∉ events) (hloop : s.phase t = .looping visited)
      (honly : ∀ t' visited', s.phase t' = .looping visited' → t' = t)
      (hcalls : ∀ i, signalCalls events i = if i ∈ visited then 1 else 0)
  | returned (htriggered : s.signaler.triggered = true) (hreturned : .returned ∈ events)
      (hloops : ∀ t visited, s.phase t ≠ .looping visited) (hcalls : ∀ i, signalCalls events i ≤ 1)
      (hall : ∀ i f, s.signaler.callbacks i = some f → signalCalls events i = 1)

/-- Steps that neither trigger, call nor return. -/
theorem SignalProgress.frame (h : SignalProgress events s)
    (hcall : ∀ i, e.isCallOf i = false) (hreturn : e ≠ .returned)
    (htriggered : s'.signaler.triggered = s.signaler.triggered)
    (hphase : ∀ t visited, s'.phase t = .looping visited ↔ s.phase t = .looping visited)
    (hcallbacks : s.signaler.triggered = true → ∀ i f, s'.signaler.callbacks i = some f →
      s.signaler.callbacks i = some f) :
    SignalProgress (events ++ [e]) s' := by
  have hcalls : ∀ i, signalCalls (events ++ [e]) i = signalCalls events i := by
    intro i
    rw [signalCalls_snoc, hcall i]
    rfl
  have hreturned : (SignalerEvent.returned ∈ events ++ [e]) ↔ .returned ∈ events := by
    rw [List.mem_append, List.mem_singleton, or_iff_left (Ne.symm hreturn)]
  -- the stage stays what it is
  cases h with
  | waiting ht hr hloops hc =>
    refine .waiting (htriggered.trans ht) (mt hreturned.mp hr) ?_ fun i => (hcalls i).trans (hc i)
    exact fun t visited => mt (hphase t visited).mp (hloops t visited)
  | @looping t visited ht hr hloop honly hc =>
    refine .looping (htriggered.trans ht) (mt hreturned.mp hr) ((hphase t visited).mpr hloop) ?_
      fun i => (hcalls i).trans (hc i)
    exact fun t' visited' h => honly t' visited' ((hphase t' visited').mp h)
  | returned ht hr hloops hc hall =>
    refine .returned (htriggered.trans ht) (hreturned.mpr hr) ?_ ?_ ?_
    · exact fun t visited => mt (hphase t visited).mp (hloops t visited)
    · exact fun i => (hcalls i).symm ▸ hc i
    · exact fun i f h => (hcalls i).trans (hall i f (hcallbacks ht i f h))

/-- Who is in a phase after one goroutine has changed to another. -/
theorem update_phase_eq [DecidableEq T] {phase : T → SignalerPhase F} {t t' : T}
    {p q : SignalerPhase F} (h : Function.update phase t p t' = q) :
    t' = t ∧ p = q ∨ t' ≠ t ∧ phase t' = q := by
  by_cases ht : t' = t
  · subst ht
    rw [Function.update_self] at h
    exact Or.inl ⟨rfl, h⟩
  · rw [Function.update_of_ne ht] at h
    exact Or.inr ⟨ht, h⟩

/-- A goroutine that changes between two other phases does not change who is in this one. -/
theorem update_phase_iff [DecidableEq T] {phase : T → SignalerPhase F} {t : T}
    {p q : SignalerPhase F} (hold : phase t ≠ q) (hnew : p ≠ q) (t' : T) :
    Function.update phase t p t' = q ↔ phase t' = q := by
  by_cases ht : t' = t
  · subst ht
    rw [Function.update_self]
    exact iff_of_false hnew hold
  · rw [Function.update_of_ne ht]

/-- A goroutine that is in the loop is the only one, and what it has visited is what has
been called. -/
theorem SignalProgress.of_looping (h : SignalProgress events s) {t : T}
    {visited : List Nat} (hloop : s.phase t = .looping visited) :
    s.signaler.triggered = true ∧ .returned ∉ events ∧
      (∀ t' visited', s.phase t' = .looping visited' → t' = t) ∧
      ∀ i, signalCalls events i = if i ∈ visited then 1 else 0 := by
  cases h with
  | waiting _ _ hloops => exact absurd hloop (hloops t visited)
  | returned _ _ hloops => exact absurd hloop (hloops t visited)
  | @looping t₀ visited₀ ht hreturned hloop₀ honly hcalls =>
    obtain rfl := honly t visited hloop
    obtain rfl : visited = visited₀ := SignalerPhase.looping.inj (hloop.symm.trans hloop₀)
    exact ⟨ht, hreturned, honly, hcalls⟩

section Progress

variable [DecidableEq T] {t : T} {visited : List Nat}

/-- The loop begins, and nobody else is in one. -/
theorem SignalProgress.trigger (h : SignalProgress events s)
    (htriggered : s.signaler.triggered = false)
    (htriggered' : s'.signaler.triggered = true)
    (hphase : s'.phase = Function.update s.phase t (.looping [])) :
    SignalProgress (events ++ [.triggered]) s' := by
  cases h with
  | looping ht => exact absurd (ht.symm.trans htriggered) (by decide)
  | returned ht => exact absurd (ht.symm.trans htriggered) (by decide)
  | waiting _ hreturned hloops hcalls =>
    refine .looping htriggered' (by simp [hreturned]) (hphase ▸ Function.update_self t _ _) ?_ ?_
    · intro t' visited' hloop
      rw [hphase] at hloop
      rcases update_phase_eq hloop with ⟨ht, -⟩ | ⟨-, hloop⟩
      · exact ht
      · exact absurd hloop (hloops t' visited')
    · intro i
      rw [signalCalls_snoc, hcalls i]
      rfl

/-- The loop calls an entry that it has not visited. -/
theorem SignalProgress.call (h : SignalProgress events s) (hloop : s.phase t = .looping visited)
    {i : Nat} (hnew : i ∉ visited) (f : F) :
    SignalProgress (events ++ [.calledBySignal i f])
      { s with phase := Function.update s.phase t (.looping (i :: visited)) } := by
  obtain ⟨ht, hreturned, honly, hcalls⟩ := h.of_looping hloop
  refine .looping ht (by simp [hreturned]) (Function.update_self t _ _) ?_ ?_
  · intro t' visited' hloop'
    rcases update_phase_eq hloop' with ⟨ht', -⟩ | ⟨-, hloop'⟩
    · exact ht'
    · exact honly t' visited' hloop'
  · intro j
    rw [signalCalls_snoc, hcalls j]
    by_cases hj : j = i
    · subst hj
      simp [SignalerEvent.isCallOf, hnew]
    · have hne : i ≠ j := fun h => hj h.symm
      simp [SignalerEvent.isCallOf, hj, hne]

/-- The loop returns with all that is left in the map called. -/
theorem SignalProgress.finish (h : SignalProgress events s) (hloop : s.phase t = .looping visited)
    (hall : ∀ i f, s.signaler.callbacks i = some f → i ∈ visited) :
    SignalProgress (events ++ [.returned])
      { s with phase := Function.update s.phase t .idle } := by
  obtain ⟨ht, hreturned, honly, hcalls⟩ := h.of_looping hloop
  -- to return is not to call
  have hcalls' : ∀ i, signalCalls (events ++ [.returned]) i = if i ∈ visited then 1 else 0 := by
    intro i
    rw [signalCalls_snoc, hcalls i]
    rfl
  refine .returned ht (by simp) ?_ ?_ ?_
  · intro t' visited' hloop'
    rcases update_phase_eq hloop' with ⟨-, hidle⟩ | ⟨ht', hloop'⟩
    · cases hidle
    · exact ht' (honly t' visited' hloop')
  · intro i
    rw [hcalls' i]
    split <;> omega
  · intro i f hcallback
    rw [hcalls' i, if_pos (hall i f hcallback)]

/-- **The signal goes from stage to stage**, with each entry called at most once. -/
theorem signalProgress_step (h : SignalProgress events s) (hstep : SignalerStep s e s') :
    SignalProgress (events ++ [e]) s' := by
  cases hstep with
  -- after the trigger nothing is registered
  | register _ _ hregister =>
    obtain ⟨htriggered, -, rfl⟩ := Signaler.register_eq_some hregister
    refine h.frame (fun _ => rfl) nofun rfl (fun _ _ => Iff.rfl) fun ht => ?_
    rw [htriggered] at ht
    cases ht
  | registerLate hidle =>
    refine h.frame (fun _ => rfl) nofun rfl (fun t' visited => ?_) fun _ _ _ => id
    exact update_phase_iff (by simp [hidle]) (by simp) t'
  | callLate hcalling =>
    refine h.frame (fun _ => rfl) nofun rfl (fun t' visited => ?_) fun _ _ _ => id
    exact update_phase_iff (by simp [hcalling]) (by simp) t'
  -- callbacks may go away while the loop runs
  | unregister =>
    refine h.frame (fun _ => rfl) nofun rfl (fun _ _ => Iff.rfl) fun _ i f hcallback => ?_
    exact (Option.ite_none_left_eq_some.mp hcallback).2
  | channel _ _ hchannel =>
    obtain ⟨_, rfl⟩ := Signaler.channel_eq_some hchannel
    exact h.frame (fun _ => rfl) nofun rfl (fun _ _ => Iff.rfl) fun _ _ _ => id
  | signal _ _ htriggered hsignal =>
    obtain ⟨-, rfl⟩ := Signaler.signal_eq_some hsignal
    exact h.trigger htriggered rfl rfl
  | callNext hloop _ hnew => exact h.call hloop hnew _
  | signalReturns hloop hall => exact h.finish hloop hall
  | _ => exact h.frame (fun _ => rfl) nofun rfl (fun _ _ => Iff.rfl) fun _ _ _ => id

end Progress

/-- Before the trigger nothing has been called. -/
theorem SignalProgress.calls_eq_zero (h : SignalProgress events s)
    (htriggered : s.signaler.triggered = false) (i : Nat) : signalCalls events i = 0 := by
  cases h with
  | waiting _ _ _ hcalls => exact hcalls i
  | looping ht => exact absurd (ht.symm.trans htriggered) (by decide)
  | returned ht => exact absurd (ht.symm.trans htriggered) (by decide)

theorem SignalProgress.calls_le_one (h : SignalProgress events s) (i : Nat) :
    signalCalls events i ≤ 1 := by
  cases h with
  | waiting _ _ _ hcalls =>
    rw [hcalls i]
    exact Nat.zero_le 1
  | looping _ _ _ _ hcalls =>
    rw [hcalls i]
    split <;> omega
  | returned _ _ _ hcalls => exact hcalls i

/-- After the return, what is in the map has been called. -/
theorem SignalProgress.calls_eq_one (h : SignalProgress events s) (hreturned : .returned ∈ events)
    {i : Nat} {f : F} (hcallback : s.signaler.callbacks i = some f) :
    signalCalls events i = 1 := by
  cases h with
  | waiting _ hnot => exact absurd hreturned hnot
  | looping _ hnot => exact absurd hreturned hnot
  | returned _ _ _ _ hall => exact hall i f hcallback

theorem SignalProgress.returned_or_looping (h : SignalProgress events s)
    (htriggered : s.signaler.triggered = true) :
    .returned ∈ events ∨ ∃ t visited, s.phase t = .looping visited := by
  cases h with
  | waiting ht => exact absurd (htriggered.symm.trans ht) (by decide)
  | looping _ _ hloop => exact Or.inr ⟨_, _, hloop⟩
  | returned _ hreturned => exact Or.inl hreturned

/-- Only what is in the map is called. -/
theorem callbacks_of_call [DecidableEq T] (hstep : SignalerStep s e s') {i : Nat}
    (h : e.isCallOf i = true) : ∃ f, s.signaler.callbacks i = some f := by
  cases hstep with
  | @callNext _ _ j f _ hcallback =>
    obtain rfl : j = i := of_decide_eq_true h
    exact ⟨f, hcallback⟩
  | _ => cases h

/-- What is dropped before the trigger is out of the map, and has not been called. -/
def KeepsDropped (events : List (SignalerEvent T F)) (s : SignalerState T F) : Prop :=
  ∀ i, Dropped events i → s.signaler.callbacks i = none ∧ signalCalls events i = 0

theorem Dropped.registered {i : Nat} (h : Dropped events i) : ∃ f, .registered i f ∈ events := by
  obtain ⟨before, _, after, rfl, -, ⟨f, hmem⟩, -⟩ := h
  exact ⟨f, List.mem_append_left _ hmem⟩

theorem keepsDropped_step [DecidableEq T] (h : KeepsDropped events s)
    (htracks : TracksCallbacks events s) (hprogress : SignalProgress events s)
    (hstep : SignalerStep s e s') : KeepsDropped (events ++ [e]) s' := by
  intro i hdropped
  rcases happened_snoc.mp hdropped with hdropped | ⟨rfl, -, htriggered⟩
  · obtain ⟨hnone, hcalls⟩ := h i hdropped
    constructor
    · -- the index is not given out again
      cases hcallback : s'.signaler.callbacks i with
      | none => rfl
      | some f =>
        rcases (callbacks_step hstep htracks.fresh i f).mp hcallback with heq | ⟨-, hold⟩
        · obtain ⟨f', hmem⟩ := Dropped.registered hdropped
          have hlt := htracks.index_lt i f' hmem
          have hnew := ((nextIndex_step hstep).2 i f heq).2.1
          omega
        · rw [hnone] at hold
          cases hold
    · rw [signalCalls_snoc, hcalls]
      cases hcall : e.isCallOf i with
      | false => rfl
      | true =>
        obtain ⟨f, hcallback⟩ := callbacks_of_call hstep hcall
        rw [hnone] at hcallback
        cases hcallback
  · -- dropped just now, and before the signal
    have hbefore : s.signaler.triggered = false :=
      Bool.eq_false_iff.mpr fun ht => htriggered (htracks.triggered.mp ht)
    constructor
    · cases hcallback : s'.signaler.callbacks i with
      | none => rfl
      | some f =>
        rcases (callbacks_step hstep htracks.fresh i f).mp hcallback with heq | ⟨hne, -⟩
        · cases heq
        · exact absurd rfl hne
    · rw [signalCalls_snoc, hprogress.calls_eq_zero hbefore]
      rfl

/-! ## Late registrations -/

/-- What `Register` has called itself: a late registration is about to be called, or it
has been called once, by the goroutine that has registered it. -/
structure LateCalls (events : List (SignalerEvent T F)) (s : SignalerState T F) : Prop where
  count_lt : ∀ t k f, .registeredLate t k f ∈ events → k < s.lateCount
  unique : ∀ t t' k f f', .registeredLate t k f ∈ events → .registeredLate t' k f' ∈ events →
    t = t' ∧ f = f'
  fresh : ∀ k, s.lateCount ≤ k → registerCalls events k = 0
  calling : ∀ t k f, s.phase t = .calling k f →
    .registeredLate t k f ∈ events ∧ registerCalls events k = 0
  called : ∀ t k f, .registeredLate t k f ∈ events →
    s.phase t = .calling k f ∧ registerCalls events k = 0 ∨
      registerCalls events k = 1 ∧ .calledByRegister t k f ∈ events

/-- Steps that are not about late registrations. -/
theorem LateCalls.frame (h : LateCalls events s) (hcall : ∀ k, e.isLateCallOf k = false)
    (hregistered : ∀ t k f, e ≠ .registeredLate t k f) (hcount : s'.lateCount = s.lateCount)
    (hphase : ∀ t k f, s'.phase t = .calling k f ↔ s.phase t = .calling k f) :
    LateCalls (events ++ [e]) s' := by
  -- the event is neither a late registration nor a late call
  have hcalls : ∀ k, registerCalls (events ++ [e]) k = registerCalls events k := by
    intro k
    rw [registerCalls_snoc, hcall k]
    rfl
  have hmem : ∀ t k f, .registeredLate t k f ∈ events ++ [e] ↔ .registeredLate t k f ∈ events := by
    intro t k f
    rw [List.mem_append, List.mem_singleton, or_iff_left (Ne.symm (hregistered t k f))]
  constructor
  · intro t k f hlate
    rw [hcount]
    exact h.count_lt t k f ((hmem t k f).mp hlate)
  · intro t t' k f f' hlate hlate'
    exact h.unique t t' k f f' ((hmem t k f).mp hlate) ((hmem t' k f').mp hlate')
  · intro k hk
    rw [hcalls]
    exact h.fresh k (hcount ▸ hk)
  · intro t k f hcalling
    rw [hmem, hcalls]
    exact h.calling t k f ((hphase t k f).mp hcalling)
  · intro t k f hlate
    rw [hphase, hcalls]
    refine (h.called t k f ((hmem t k f).mp hlate)).imp_right fun hcalled => ?_
    exact ⟨hcalled.1, List.mem_append_left _ hcalled.2⟩

section Late

variable [DecidableEq T] {t : T} {f : F}

/-- A late registration gets a number of its own. -/
theorem LateCalls.register (h : LateCalls events s) (hidle : s.phase t = .idle) :
    LateCalls (events ++ [.registeredLate t s.lateCount f])
      { s with
        phase := Function.update s.phase t (.calling s.lateCount f)
        lateCount := s.lateCount + 1 } := by
  have hcalls : ∀ k, registerCalls (events ++ [.registeredLate t s.lateCount f]) k =
      registerCalls events k := fun k => registerCalls_snoc ..
  have hmem : ∀ t' k f', .registeredLate t' k f' ∈ events ++ [.registeredLate t s.lateCount f] →
      .registeredLate t' k f' ∈ events ∨ t' = t ∧ k = s.lateCount ∧ f' = f := by
    intro t' k f' hlate
    rcases List.mem_append.mp hlate with hold | hnew
    · exact Or.inl hold
    · cases List.mem_singleton.mp hnew
      exact Or.inr ⟨rfl, rfl, rfl⟩
  -- the number is a new one
  have hne : ∀ t' k f', .registeredLate t' k f' ∈ events → k ≠ s.lateCount :=
    fun t' k f' hlate => Nat.ne_of_lt (h.count_lt t' k f' hlate)
  constructor
  · intro t' k f' hlate
    rcases hmem t' k f' hlate with hold | ⟨-, rfl, -⟩
    · exact Nat.lt_succ_of_lt (h.count_lt t' k f' hold)
    · exact Nat.lt_succ_self _
  · intro t₁ t₂ k f₁ f₂ h₁ h₂
    rcases hmem t₁ k f₁ h₁ with hold₁ | ⟨rfl, rfl, rfl⟩
    · rcases hmem t₂ k f₂ h₂ with hold₂ | ⟨-, rfl, -⟩
      · exact h.unique t₁ t₂ k f₁ f₂ hold₁ hold₂
      · exact absurd rfl (hne _ _ _ hold₁)
    · rcases hmem t₂ _ f₂ h₂ with hold₂ | ⟨rfl, -, rfl⟩
      · exact absurd rfl (hne _ _ _ hold₂)
      · exact ⟨rfl, rfl⟩
  · intro k hk
    rw [hcalls]
    exact h.fresh k (Nat.le_of_succ_le hk)
  · intro t' k f' hcalling
    rw [hcalls]
    rcases update_phase_eq hcalling with ⟨rfl, hnew⟩ | ⟨-, hold⟩
    · cases hnew
      exact ⟨by simp, h.fresh _ (Nat.le_refl _)⟩
    · exact ⟨List.mem_append_left _ (h.calling t' k f' hold).1, (h.calling t' k f' hold).2⟩
  · intro t' k f' hlate
    rw [hcalls]
    rcases hmem t' k f' hlate with hold | ⟨rfl, rfl, rfl⟩
    · rcases h.called t' k f' hold with ⟨hcalling, hzero⟩ | ⟨hone, hcalled⟩
      · have ht : t' ≠ t := by
          rintro rfl
          rw [hidle] at hcalling
          cases hcalling
        exact Or.inl ⟨(Function.update_of_ne ht _ _).trans hcalling, hzero⟩
      · exact Or.inr ⟨hone, List.mem_append_left _ hcalled⟩
    · exact Or.inl ⟨Function.update_self .., h.fresh _ (Nat.le_refl _)⟩

/-- The call of a late registration is the only one with its number. -/
theorem LateCalls.call (h : LateCalls events s) {k : Nat} (hphase : s.phase t = .calling k f) :
    LateCalls (events ++ [.calledByRegister t k f])
      { s with phase := Function.update s.phase t .idle } := by
  obtain ⟨hlate, hzero⟩ := h.calling t k f hphase
  -- the one call that the registration makes
  have hself : registerCalls (events ++ [.calledByRegister t k f]) k = 1 := by
    rw [registerCalls_snoc, hzero]
    simp [SignalerEvent.isLateCallOf]
  have hother : ∀ k', k' ≠ k →
      registerCalls (events ++ [.calledByRegister t k f]) k' = registerCalls events k' := by
    intro k' hk
    rw [registerCalls_snoc]
    simp [SignalerEvent.isLateCallOf, hk.symm]
  have hmem : ∀ t' k' f', .registeredLate t' k' f' ∈ events ++ [.calledByRegister t k f] →
      .registeredLate t' k' f' ∈ events := by
    intro t' k' f' hlate'
    simpa using hlate'
  constructor
  · intro t' k' f' hlate'
    exact h.count_lt t' k' f' (hmem t' k' f' hlate')
  · intro t₁ t₂ k' f₁ f₂ h₁ h₂
    exact h.unique t₁ t₂ k' f₁ f₂ (hmem _ _ _ h₁) (hmem _ _ _ h₂)
  · intro k' hk'
    have hlt : k < k' := Nat.lt_of_lt_of_le (h.count_lt t k f hlate) hk'
    rw [hother k' (by omega)]
    exact h.fresh k' hk'
  · intro t' k' f' hcalling
    rcases update_phase_eq hcalling with ⟨-, hidle⟩ | ⟨ht, hcalling⟩
    · cases hidle
    · obtain ⟨hlate', hzero'⟩ := h.calling t' k' f' hcalling
      -- two goroutines do not call for the same registration
      have hk : k' ≠ k := by
        rintro rfl
        exact ht (h.unique _ _ _ _ _ hlate' hlate).1
      rw [hother k' hk]
      exact ⟨List.mem_append_left _ hlate', hzero'⟩
  · intro t' k' f' hmem'
    have hlate' := hmem t' k' f' hmem'
    by_cases hk : k' = k
    · subst hk
      obtain ⟨rfl, rfl⟩ := h.unique _ _ _ _ _ hlate' hlate
      exact Or.inr ⟨hself, by simp⟩
    · rw [hother k' hk]
      rcases h.called t' k' f' hlate' with ⟨hcalling, hzero'⟩ | ⟨hone, hcalled⟩
      · have ht : t' ≠ t := by
          rintro rfl
          cases hphase.symm.trans hcalling
          exact hk rfl
        exact Or.inl ⟨(Function.update_of_ne ht _ _).trans hcalling, hzero'⟩
      · exact Or.inr ⟨hone, List.mem_append_left _ hcalled⟩

theorem lateCalls_step (h : LateCalls events s) (hstep : SignalerStep s e s') :
    LateCalls (events ++ [e]) s' := by
  cases hstep with
  | registerLate hidle => exact h.register hidle
  | callLate hcalling => exact h.call hcalling
  | signal hidle =>
    refine h.frame (fun _ => rfl) nofun rfl fun t' k f => ?_
    exact update_phase_iff (by simp [hidle]) (by simp) t'
  | callNext hloop =>
    refine h.frame (fun _ => rfl) nofun rfl fun t' k f => ?_
    exact update_phase_iff (by simp [hloop]) (by simp) t'
  | signalReturns hloop =>
    refine h.frame (fun _ => rfl) nofun rfl fun t' k f => ?_
    exact update_phase_iff (by simp [hloop]) (by simp) t'
  | _ => exact h.frame (fun _ => rfl) nofun rfl fun _ _ _ => Iff.rfl

end Late

/-! ## Channels -/

/-- Nothing is sent before the trigger, and one token into each channel by then or when
the channel is made. -/
structure Tokens (s : SignalerState T F) : Prop where
  free : s.blocked = false
  nodup : s.signaler.triggered = false → s.signaler.signals.Nodup
  mem_signals : s.signaler.triggered = false → ∀ c,
    c ∈ s.signaler.signals ↔ c < s.channels.length
  made : s.signaler.triggered = false → ∀ chan ∈ s.channels, chan = .make
  sent : s.signaler.triggered = true → ∀ chan ∈ s.channels,
    chan.sent = 1 ∧ chan.received + chan.buffered = 1

/-- The sends into different new channels all go through. -/
theorem sendAll_of_make {signals : List Nat} (hnodup : signals.Nodup) {channels : List SignalChan}
    (h : ∀ c ∈ signals, channels[c]? = some .make) :
    ∃ channels', Signaler.sendAll signals channels = some channels' ∧
      ∀ c, channels'[c]? = if c ∈ signals then some ⟨1, 1, 0⟩ else channels[c]? := by
  induction signals generalizing channels with
  | nil => exact ⟨channels, rfl, by simp⟩
  | cons c rest ih =>
    obtain ⟨hnotMem, hrest⟩ := List.nodup_cons.mp hnodup
    have hc := h c (List.mem_cons_self ..)
    -- the channels of the rest are still as they were made
    have hmade : ∀ c' ∈ rest, (channels.set c ⟨1, 1, 0⟩)[c']? = some .make := by
      intro c' hc'
      rw [List.getElem?_set_ne (by rintro rfl; exact hnotMem hc')]
      exact h c' (List.mem_cons_of_mem _ hc')
    obtain ⟨channels', hsend, hget⟩ := ih hrest hmade
    refine ⟨channels', ?_, fun c' => ?_⟩
    · rw [Signaler.sendAll, hc]
      exact hsend
    · rw [hget c']
      by_cases hmem : c' ∈ rest
      · rw [if_pos hmem, if_pos (List.mem_cons_of_mem _ hmem)]
      · rw [if_neg hmem]
        by_cases heq : c' = c
        · subst heq
          have hlt := (List.getElem?_eq_some_iff.mp hc).1
          rw [if_pos (List.mem_cons_self ..), List.getElem?_set_self hlt]
        · rw [if_neg (by simp [heq, hmem]), List.getElem?_set_ne (Ne.symm heq)]

/-- The section of `Signal` goes through. -/
theorem Tokens.sends (h : Tokens s) (htriggered : s.signaler.triggered = false) :
    ∃ channels, Signaler.sendAll s.signaler.signals s.channels = some channels ∧
      ∀ chan ∈ channels, chan = ⟨1, 1, 0⟩ := by
  -- before the signal every channel is empty, with room for one
  have hmade : ∀ c ∈ s.signaler.signals, s.channels[c]? = some .make := by
    intro c hc
    have hlt := (h.mem_signals htriggered c).mp hc
    rw [List.getElem?_eq_getElem hlt, h.made htriggered _ (List.getElem_mem hlt)]
  obtain ⟨channels, hsend, hget⟩ := sendAll_of_make (h.nodup htriggered) hmade
  refine ⟨channels, hsend, fun chan hchan => ?_⟩
  obtain ⟨c, hc⟩ := List.mem_iff_getElem?.mp hchan
  rw [hget c] at hc
  by_cases hmem : c ∈ s.signaler.signals
  · rw [if_pos hmem] at hc
    exact (Option.some.inj hc).symm
  · -- every channel is in the list
    rw [if_neg hmem] at hc
    have hlt := (List.getElem?_eq_some_iff.mp hc).1
    exact absurd ((h.mem_signals htriggered c).mpr hlt) hmem

/-- No step finds a full channel. -/
theorem Tokens.ne_blocked [DecidableEq T] (h : Tokens s) (hstep : SignalerStep s e s') :
    e ≠ .blocked := by
  cases hstep with
  | channelBlocks _ _ hchannel =>
    by_cases htriggered : s.signaler.triggered = true
    · rw [Signaler.channel_of_triggered htriggered] at hchannel
      cases hchannel
    · rw [Signaler.channel_of_not_triggered (Bool.eq_false_iff.mpr htriggered)] at hchannel
      cases hchannel
  | signalBlocks _ _ htriggered hsignal =>
    obtain ⟨channels, hsend, -⟩ := h.sends htriggered
    rw [Signaler.signal, hsend] at hsignal
    cases hsignal
  | _ => nofun

/-- Steps that leave the channels as they are. -/
theorem Tokens.frame (h : Tokens s) (hfree : s'.blocked = s.blocked)
    (htriggered : s'.signaler.triggered = s.signaler.triggered)
    (hsignals : s'.signaler.signals = s.signaler.signals) (hchannels : s'.channels = s.channels) :
    Tokens s' where
  free := hfree.trans h.free
  nodup := by
    rw [htriggered, hsignals]
    exact h.nodup
  mem_signals := by
    rw [htriggered, hsignals, hchannels]
    exact h.mem_signals
  made := by
    rw [htriggered, hchannels]
    exact h.made
  sent := by
    rw [htriggered, hchannels]
    exact h.sent

/-- A new channel holds a token, or is one of those that will get one. -/
theorem Tokens.channel (h : Tokens s) {signaler : Signaler F} {channels : List SignalChan}
    (hchannel : s.signaler.channel s.channels = some (signaler, channels)) :
    Tokens { s with signaler, channels } := by
  -- after the signal a channel is made with its token
  by_cases htriggered : s.signaler.triggered = true
  · rw [Signaler.channel_of_triggered htriggered] at hchannel
    cases hchannel
    have hfalse : ¬s.signaler.triggered = false := by simp [htriggered]
    refine ⟨h.free, fun hf => absurd hf hfalse, fun hf => absurd hf hfalse,
      fun hf => absurd hf hfalse, fun _ chan hchan => ?_⟩
    rcases List.mem_append.mp hchan with hold | hnew
    · exact h.sent htriggered chan hold
    · rw [List.mem_singleton.mp hnew]
      exact ⟨rfl, rfl⟩
  · have hfalse := Bool.eq_false_iff.mpr htriggered
    rw [Signaler.channel_of_not_triggered hfalse] at hchannel
    cases hchannel
    refine ⟨h.free, fun _ => ?_, fun _ c => ?_, fun _ chan hchan => ?_,
      fun ht => absurd ht htriggered⟩
    · refine List.nodup_append.mpr ⟨h.nodup hfalse, by simp, ?_⟩
      intro c hc c' hc' heq
      have hlt := (h.mem_signals hfalse c).mp hc
      rw [heq, List.mem_singleton.mp hc'] at hlt
      exact Nat.lt_irrefl _ hlt
    · rw [List.mem_append, List.mem_singleton, h.mem_signals hfalse, List.length_append,
        List.length_singleton]
      omega
    · rcases List.mem_append.mp hchan with hold | hnew
      · exact h.made hfalse chan hold
      · exact List.mem_singleton.mp hnew

/-- A token goes from the buffer to who receives it. -/
theorem SignalChan.receive_eq_some {chan chan' : SignalChan} (h : chan.receive = some chan') :
    0 < chan.buffered ∧ chan'.sent = chan.sent ∧
      chan'.received + chan'.buffered = chan.received + chan.buffered := by
  unfold receive at h
  split at h
  · next hpos =>
    cases h
    refine ⟨hpos, rfl, ?_⟩
    show chan.received + 1 + (chan.buffered - 1) = chan.received + chan.buffered
    omega
  · cases h

theorem Tokens.receive (h : Tokens s) {c : Nat} {chan chan' : SignalChan}
    (hc : s.channels[c]? = some chan) (hreceive : chan.receive = some chan') :
    Tokens { s with channels := s.channels.set c chan' } := by
  obtain ⟨hpos, hsent, hsum⟩ := SignalChan.receive_eq_some hreceive
  have hmem : chan ∈ s.channels := List.mem_of_getElem? hc
  -- there is nothing to receive before the trigger
  have htriggered : s.signaler.triggered = true := by
    by_contra hne
    rw [h.made (Bool.eq_false_iff.mpr hne) chan hmem] at hpos
    exact absurd hpos (Nat.lt_irrefl 0)
  have hfalse : ¬s.signaler.triggered = false := by simp [htriggered]
  refine ⟨h.free, fun hf => absurd hf hfalse, fun hf => absurd hf hfalse,
    fun hf => absurd hf hfalse, fun _ other hother => ?_⟩
  rcases List.mem_or_eq_of_mem_set hother with hold | rfl
  · exact h.sent htriggered other hold
  · rw [hsent, hsum]
    exact h.sent htriggered chan hmem

/-- **Each channel gets one token, and its send does not block.** -/
theorem tokens_step [DecidableEq T] (h : Tokens s) (hstep : SignalerStep s e s') : Tokens s' := by
  have hne := h.ne_blocked hstep
  cases hstep with
  | register _ _ hregister =>
    obtain ⟨-, -, rfl⟩ := Signaler.register_eq_some hregister
    exact h.frame rfl rfl rfl rfl
  | channel _ _ hchannel => exact h.channel hchannel
  | signal _ _ htriggered hsignal =>
    obtain ⟨hsend, rfl⟩ := Signaler.signal_eq_some hsignal
    obtain ⟨channels, hsend', hchans⟩ := h.sends htriggered
    cases hsend.symm.trans hsend'
    refine ⟨h.free, nofun, nofun, nofun, fun _ chan hchan => ?_⟩
    rw [hchans chan hchan]
    exact ⟨rfl, rfl⟩
  | receive hc hreceive => exact h.receive hc hreceive
  -- no send finds a full channel
  | channelBlocks => exact absurd rfl hne
  | signalBlocks => exact absurd rfl hne
  | _ => exact h.frame rfl rfl rfl rfl

/-! ## All runs -/

/-- What holds at every moment of a run. -/
structure SignalerInvariant (events : List (SignalerEvent T F)) (s : SignalerState T F) :
    Prop where
  tracks : TracksCallbacks events s
  progress : SignalProgress events s
  dropped : KeepsDropped events s
  late : LateCalls events s
  tokens : Tokens s
  called : ∀ i f, .calledBySignal i f ∈ events → .registered i f ∈ events
  unblocked : .blocked ∉ events

theorem signalerInvariant_new :
    SignalerInvariant ([] : List (SignalerEvent T F)) (.new : SignalerState T F) where
  tracks := ⟨by simp [SignalerState.new, Signaler.new], nofun, nofun, fun i f =>
    iff_of_false nofun (not_since_nil _ _)⟩
  progress := .waiting rfl nofun nofun fun _ => rfl
  dropped := by
    rintro i ⟨before, _, after, h, -⟩
    cases before <;> cases h
  late := ⟨nofun, nofun, fun _ _ => rfl, nofun, nofun⟩
  tokens := ⟨rfl, fun _ => List.nodup_nil, fun _ _ => by simp [SignalerState.new, Signaler.new],
    fun _ => nofun, nofun⟩
  called := nofun
  unblocked := nofun

/-- A function that is registered has been called when its index has. -/
theorem SignalerInvariant.called_mem (h : SignalerInvariant events s) {i : Nat} {f : F}
    (hregistered : Registered events i f) (hcalls : signalCalls events i = 1) :
    .calledBySignal i f ∈ events := by
  have hpos : 0 < events.countP (·.isCallOf i) := Nat.lt_of_lt_of_eq Nat.zero_lt_one hcalls.symm
  obtain ⟨e, hmem, hcall⟩ := List.countP_pos_iff.mp hpos
  cases e with
  | calledBySignal j f' =>
    obtain rfl : j = i := of_decide_eq_true hcall
    rwa [h.tracks.unique j f f' (registered_mem hregistered) (h.called j f' hmem)]
  | _ => cases hcall

/-- The entries that the loop has not visited yet. -/
def unvisited (n : Nat) (visited : List Nat) : Finset Nat :=
  (Finset.range n).filter (· ∉ visited)

theorem unvisited_card_lt {n i : Nat} {visited : List Nat} (hi : i < n) (hnew : i ∉ visited) :
    (unvisited n (i :: visited)).card < (unvisited n visited).card := by
  apply Finset.card_lt_card
  refine (Finset.ssubset_iff_of_subset ?_).mpr ⟨i, ?_, ?_⟩
  · intro j hj
    simp only [unvisited, Finset.mem_filter, List.mem_cons, not_or] at hj ⊢
    exact ⟨hj.1, hj.2.2⟩
  · simp [unvisited, hi, hnew]
  · simp [unvisited]

section Runs

variable [DecidableEq T]

/-- The loop calls the function that is registered. -/
theorem TracksCallbacks.registered_of_call (h : TracksCallbacks events s)
    (hstep : SignalerStep s e s') {i : Nat} {f : F} (he : e = .calledBySignal i f) :
    .registered i f ∈ events := by
  cases hstep with
  | callNext _ hcallback =>
    cases he
    exact registered_mem ((h.callbacks i f).mp hcallback)
  | _ => cases he

/-- **The step lemma.** -/
theorem signalerInvariant_step (h : SignalerInvariant events s) (hstep : SignalerStep s e s') :
    SignalerInvariant (events ++ [e]) s' where
  tracks := trackCallbacks_step h.tracks hstep
  progress := signalProgress_step h.progress hstep
  dropped := keepsDropped_step h.dropped h.tracks h.progress hstep
  late := lateCalls_step h.late hstep
  tokens := tokens_step h.tokens hstep
  called := by
    intro i f hmem
    rcases List.mem_append.mp hmem with hold | hlast
    · exact List.mem_append_left _ (h.called i f hold)
    · have he : e = .calledBySignal i f := (List.mem_singleton.mp hlast).symm
      exact List.mem_append_left _ (h.tracks.registered_of_call hstep he)
  unblocked := by
    intro hmem
    rcases List.mem_append.mp hmem with hold | hlast
    · exact h.unblocked hold
    · exact h.tokens.ne_blocked hstep (List.mem_singleton.mp hlast).symm

/-- **The run lemma.** -/
theorem signalerInvariant_run (h : signalerSystem.Run .new events s) :
    SignalerInvariant events s := by
  induction h with
  | nil => exact signalerInvariant_new
  | snoc _ hstep ih => exact signalerInvariant_step ih hstep

/-- **The loop of `Signal` comes to its end**: nothing keeps it from its calls and its
return, and with each call there is one entry less to visit. -/
theorem signal_returns (hrun : signalerSystem.Run .new events s) {t : T} {visited : List Nat}
    (hloop : s.phase t = .looping visited) :
    ∃ calls s', signalerSystem.Run .new (events ++ calls ++ [.returned]) s' ∧
      ∀ e ∈ calls, ∃ i f, e = .calledBySignal i f := by
  induction hm : (unvisited s.signaler.nextIndex visited).card using Nat.strong_induction_on
    generalizing events s visited with
  | _ m ih =>
    -- with nothing left to visit the loop returns; otherwise it has a call to make
    by_cases hall : ∀ i f, s.signaler.callbacks i = some f → i ∈ visited
    · have hdone := hrun.snoc (.signalReturns hloop hall)
      exact ⟨[], _, (List.append_nil events).symm ▸ hdone, by simp⟩
    · push Not at hall
      obtain ⟨i, f, hcallback, hnew⟩ := hall
      have htracks := (signalerInvariant_run hrun).tracks
      have hi : i < s.signaler.nextIndex :=
        htracks.index_lt i f (registered_mem ((htracks.callbacks i f).mp hcallback))
      obtain ⟨calls, s', hrun', hcalls⟩ :=
        ih _ (hm ▸ unvisited_card_lt hi hnew) (.snoc hrun (.callNext hloop hcallback hnew))
          (Function.update_self t _ _) rfl
      refine ⟨.calledBySignal i f :: calls, s', by simpa using hrun', ?_⟩
      rintro e (_ | ⟨_, he⟩)
      · exact ⟨i, f, rfl⟩
      · exact hcalls e he

/-- What is delivered in a run: each callback and each channel is notified once. -/
structure DeliversOnce (events : List (SignalerEvent T F)) (s : SignalerState T F) : Prop where
  /-- An index is given out before the trigger, for one function. -/
  registered_early : ∀ past i f rest, events = past ++ .registered i f :: rest → .triggered ∉ past
  registered_unique : ∀ i f f', .registered i f ∈ events → .registered i f' ∈ events → f = f'
  /-- Once `Signal` has returned, it has called what is registered and not unregistered. -/
  called : ∀ i f, Registered events i f → .returned ∈ events →
    signalCalls events i = 1 ∧ .calledBySignal i f ∈ events
  called_at_most_once : ∀ i, signalCalls events i ≤ 1
  called_registered : ∀ i f, .calledBySignal i f ∈ events → .registered i f ∈ events
  /-- What is unregistered before the trigger is not called. -/
  dropped : ∀ i, Dropped events i → signalCalls events i = 0
  /-- After the trigger, `Register` is about to call the callback, or has called it. -/
  registered_late : ∀ past t k f rest, events = past ++ .registeredLate t k f :: rest →
    .triggered ∈ past
  called_late : ∀ t k f, .registeredLate t k f ∈ events →
    s.phase t = .calling k f ∧ registerCalls events k = 0 ∨
      registerCalls events k = 1 ∧ .calledByRegister t k f ∈ events
  /-- One token has been sent into a channel once the signal is given, and none before. -/
  sent : .triggered ∈ events → ∀ chan ∈ s.channels,
    chan.sent = 1 ∧ chan.received + chan.buffered = 1
  unsent : .triggered ∉ events → ∀ chan ∈ s.channels, chan = .make
  unblocked : .blocked ∉ events
  /-- A signal that is given returns, after some more calls. -/
  returns : .triggered ∈ events → .returned ∈ events ∨
    ∃ calls s', signalerSystem.Run .new (events ++ calls ++ [.returned]) s' ∧
      ∀ e ∈ calls, ∃ i f, e = .calledBySignal i f

/-- Which registrations are early and which are late. -/
theorem triggered_of_registered (hrun : signalerSystem.Run .new events s)
    {past rest : List (SignalerEvent T F)} (h : events = past ++ e :: rest) :
    (∀ i f, e = .registered i f → .triggered ∉ past) ∧
      ∀ t k f, e = .registeredLate t k f → .triggered ∈ past := by
  rw [h] at hrun
  obtain ⟨s₁, s₂, hpast, hstep, -⟩ := hrun.split
  have htriggered := (signalerInvariant_run hpast).tracks.triggered
  constructor
  · intro i f he hmem
    have hfalse := ((nextIndex_step hstep).2 i f he).1
    rw [htriggered.mpr hmem] at hfalse
    cases hfalse
  · intro t k f he
    cases hstep with
    | registerLate _ _ hregister => exact htriggered.mp (Signaler.register_eq_none hregister)
    | _ => cases he

/-- **The signal is delivered once**, in every run of any number of goroutines. -/
theorem signaler_delivers_once (hrun : signalerSystem.Run .new events s) :
    DeliversOnce events s := by
  have h := signalerInvariant_run hrun
  -- each part is one of the invariants of the run
  constructor
  case registered_early =>
    intro past i f rest hevents
    exact (triggered_of_registered hrun hevents).1 i f rfl
  case registered_unique => exact h.tracks.unique
  case called =>
    intro i f hregistered hreturned
    have hcallback := (h.tracks.callbacks i f).mpr hregistered
    have hcalls := h.progress.calls_eq_one hreturned hcallback
    exact ⟨hcalls, h.called_mem hregistered hcalls⟩
  case called_at_most_once => exact h.progress.calls_le_one
  case called_registered => exact h.called
  case dropped =>
    intro i hdropped
    exact (h.dropped i hdropped).2
  case registered_late =>
    intro past t k f rest hevents
    exact (triggered_of_registered hrun hevents).2 t k f rfl
  case called_late => exact h.late.called
  case sent =>
    intro htriggered
    exact h.tokens.sent (h.tracks.triggered.mpr htriggered)
  case unsent =>
    intro htriggered
    exact h.tokens.made (Bool.eq_false_iff.mpr (mt h.tracks.triggered.mp htriggered))
  case unblocked => exact h.unblocked
  case returns =>
    intro htriggered
    rcases h.progress.returned_or_looping (h.tracks.triggered.mpr htriggered) with
      hreturned | ⟨t, visited, hloop⟩
    · exact Or.inl hreturned
    · exact Or.inr (signal_returns hrun hloop)

end Runs

/-- One callback is registered and another one has been unregistered when the signal is
given; a third one and a channel come while it is in its loop. -/
theorem signaler_delivers_once_overlapping :
    ∃ (events : List (SignalerEvent Bool String)) (s : SignalerState Bool String),
      signalerSystem.Run .new events s ∧ .returned ∈ events ∧ Registered events 0 "kept" ∧
        Dropped events 1 ∧ .registeredLate true 0 "late" ∈ events ∧ s.channels.length = 2 ∧
        DeliversOnce events s := by
  let one : Nat → Option String := Function.update (fun _ => none) 0 (some "kept")
  let both : Nat → Option String := Function.update one 1 (some "dropped")
  let left : Nat → Option String := fun i => if (i : Int) = 1 then none else both i
  let idle : Bool → SignalerPhase String := fun _ => .idle
  let begun := Function.update idle false (.looping [])
  let late := Function.update begun true (.calling 0 "late")
  let called := Function.update late false (.looping [0])
  let calledLate := Function.update called true .idle
  -- the states before the trigger, and after it
  let s₁ : SignalerState Bool String := ⟨⟨one, [], false, 1⟩, [], idle, 0, false⟩
  let s₂ : SignalerState Bool String := ⟨⟨both, [], false, 2⟩, [], idle, 0, false⟩
  let s₃ : SignalerState Bool String := ⟨⟨left, [], false, 2⟩, [], idle, 0, false⟩
  let s₄ : SignalerState Bool String := ⟨⟨left, [0], false, 2⟩, [.make], idle, 0, false⟩
  let s₅ : SignalerState Bool String := ⟨⟨left, [0], true, 2⟩, [⟨1, 1, 0⟩], begun, 0, false⟩
  let s₆ : SignalerState Bool String := { s₅ with phase := late, lateCount := 1 }
  let s₇ : SignalerState Bool String := { s₆ with phase := called }
  let s₈ : SignalerState Bool String := { s₇ with phase := calledLate }
  let s₉ : SignalerState Bool String := { s₈ with channels := [⟨1, 1, 0⟩, ⟨1, 1, 0⟩] }
  have hkept : SignalerStep .new (.registered 0 "kept") s₁ := .register (t := true) rfl rfl rfl
  have hother : SignalerStep s₁ (.registered 1 "dropped") s₂ := .register (t := true) rfl rfl rfl
  have hdropped : SignalerStep s₂ (.unregistered 1) s₃ := .unregister (t := true) rfl rfl
  have hchannel : SignalerStep s₃ .channel s₄ := .channel (t := true) rfl rfl rfl
  have htriggered : SignalerStep s₄ .triggered s₅ := .signal (t := false) rfl rfl rfl rfl
  have hlate : SignalerStep s₅ (.registeredLate true 0 "late") s₆ := .registerLate rfl rfl rfl
  have hcalled : SignalerStep s₆ (.calledBySignal 0 "kept") s₇ :=
    .callNext (t := false) rfl rfl nofun
  have hcalledLate : SignalerStep s₇ (.calledByRegister true 0 "late") s₈ := .callLate rfl
  have hchannel' : SignalerStep s₈ .channel s₉ := .channel (t := true) rfl rfl rfl
  have hrun : signalerSystem.Run .new
      [.registered 0 "kept", .registered 1 "dropped", .unregistered 1, .channel, .triggered,
        .registeredLate true 0 "late", .calledBySignal 0 "kept", .calledByRegister true 0 "late",
        .channel] s₉ :=
    .snoc (.snoc (.snoc (.snoc (.snoc (.snoc (.snoc (.snoc (.snoc .nil hkept) hother) hdropped)
      hchannel) htriggered) hlate) hcalled) hcalledLate) hchannel'
  have hall : ∀ i f, left i = some f → i ∈ [0] := by
    intro i f hcallback
    have htracks := (signalerInvariant_run hrun).tracks
    have hlt : i < 2 :=
      htracks.index_lt i f (registered_mem ((htracks.callbacks i f).mp hcallback))
    obtain rfl | rfl : i = 0 ∨ i = 1 := by omega
    · simp
    · cases hcallback
  have hreturned := hrun.snoc (.signalReturns (t := false) rfl hall)
  refine ⟨_, _, hreturned, by simp, ?_, ?_, by simp, rfl, signaler_delivers_once hreturned⟩
  · exact ⟨[], _, _, rfl, rfl, by simp⟩
  · exact ⟨[.registered 0 "kept", .registered 1 "dropped"], _, _, rfl, rfl, ⟨"dropped", by simp⟩,
      by simp⟩

end ComposeKube
