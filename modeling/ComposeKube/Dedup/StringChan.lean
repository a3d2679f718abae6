import ComposeKube.Lib.Transition
import ComposeKube.Lib.UniqueQueue

/-!
# The deduplicating channel

Keys of stacks reach the reconcile loop through a channel that drops a key
which is waiting already. Two goroutines serve it: one takes strings from the
input and pushes them, the other pulls them and sends them to the output. The
set of waiting strings is guarded by a mutex, and the pull goroutine deletes a
string from it only after it has received it: a string pushed in between is
dropped, and the copy that has been received stands for it.

Together the two goroutines and the buffer are a queue of distinct strings:
what the pull goroutine has not deleted yet, the buffer, and what the push
goroutine has added and not sent.

* `represents_step` — each step is one of the queue's operations, or none.
* `underway_step` — what a step can do to a string that is underway.
* `position_step` — every step of the pull goroutine brings a string forward.
* `stringChan_lossless` — nothing is lost, and nothing is buffered twice.
-/

namespace ComposeKube

open Transition

/-! ## The channel and its goroutines -/

/-- Where the goroutine that pushes is: at the input, before the locked check, at
the send on `ch`; or its loop is over, and it has closed `ch`. -/
inductive PushLoop where
  | receiving
  | checking (v : String)
  | sending (v : String)
  | ended
  deriving DecidableEq

/-- Where the goroutine that pulls is: at the receive from `ch`, before the locked
deletion, at the send on the output; or its loop is over, and it has closed the
output. -/
inductive PullLoop where
  | receiving
  | deleting (v : String) (ok : Bool)
  | outputting (v : String)
  | ended
  deriving DecidableEq

/-- `StringChan` and its goroutines. The input and the output are not buffered. -/
structure StringChan where
  content : Finset String
  ch : List String
  inputClosed : Bool
  push : PushLoop
  pull : PullLoop

/-- `NewStringChan`. -/
def newStringChan : StringChan where
  content := ∅
  ch := []
  inputClosed := false
  push := .receiving
  pull := .receiving

inductive ChanEvent where
  /-- a sender sends on `In()`, and the push goroutine receives -/
  | input (v : String)
  /-- `Close` -/
  | close
  /-- the locked check of a push -/
  | added (v : String)
  | dropped (v : String)
  /-- the send on `ch`, into the buffer or to the pull goroutine that waits -/
  | sent (v : String)
  | handedOver (v : String)
  /-- the input is closed -/
  | pushEnds
  /-- the receive of a pull -/
  | received
  /-- the locked deletion of a pull -/
  | deleted
  /-- the reader receives from `Out()` -/
  | output (v : String)
  deriving DecidableEq

inductive ChanStep (bufferSize : Nat) : StringChan → ChanEvent → StringChan → Prop
  | input {c : StringChan} {v : String} (hopen : c.inputClosed = false)
      (hpush : c.push = .receiving) :
      ChanStep bufferSize c (.input v) { c with push := .checking v }
  | close {c : StringChan} (hopen : c.inputClosed = false) :
      ChanStep bufferSize c .close { c with inputClosed := true }
  | added {c : StringChan} {v : String} (hpush : c.push = .checking v) (hnew : v ∉ c.content) :
      ChanStep bufferSize c (.added v)
        { c with content := insert v c.content, push := .sending v }
  | dropped {c : StringChan} {v : String} (hpush : c.push = .checking v) (hold : v ∈ c.content) :
      ChanStep bufferSize c (.dropped v) { c with push := .receiving }
  | sent {c : StringChan} {v : String} (hpush : c.push = .sending v)
      (hroom : c.ch.length < bufferSize) :
      ChanStep bufferSize c (.sent v) { c with ch := c.ch ++ [v], push := .receiving }
  | handedOver {c : StringChan} {v : String} (hpush : c.push = .sending v) (hch : c.ch = [])
      (hpull : c.pull = .receiving) :
      ChanStep bufferSize c (.handedOver v)
        { c with push := .receiving, pull := .deleting v true }
  | pushEnds {c : StringChan} (hpush : c.push = .receiving) (hclosed : c.inputClosed = true) :
      ChanStep bufferSize c .pushEnds { c with push := .ended }
  | received {c : StringChan} {v : String} {rest : List String} (hpull : c.pull = .receiving)
      (hch : c.ch = v :: rest) :
      ChanStep bufferSize c .received { c with ch := rest, pull := .deleting v true }
  /-- `ch` is closed and empty: the zero value is received, and not ok. -/
  | receivedClosed {c : StringChan} (hpull : c.pull = .receiving) (hch : c.ch = [])
      (hpush : c.push = .ended) :
      ChanStep bufferSize c .received { c with pull := .deleting "" false }
  | deleted {c : StringChan} {v : String} {ok : Bool} (hpull : c.pull = .deleting v ok) :
      ChanStep bufferSize c .deleted
        { c with
          content := c.content.erase v
          pull := if ok then .outputting v else .ended }
  | output {c : StringChan} {v : String} (hpull : c.pull = .outputting v) :
      ChanStep bufferSize c (.output v) { c with pull := .receiving }

/-- The channel with its senders and its reader. -/
def stringChanSystem (bufferSize : Nat) : System StringChan ChanEvent where
  init c := c = newStringChan
  step := ChanStep bufferSize

/-! ## A queue of distinct strings -/

/-- What the push goroutine has added and not sent. -/
def PushLoop.reserved : PushLoop → List String
  | .sending v => [v]
  | _ => []

/-- What the pull goroutine has received and not deleted. -/
def PullLoop.reserved : PullLoop → List String
  | .deleting v true => [v]
  | _ => []

/-- The strings for which the channel has a place, oldest first. -/
def StringChan.reserved (c : StringChan) : List String :=
  c.pull.reserved ++ c.ch ++ c.push.reserved

/-- The pull goroutine has seen that `ch` is closed. -/
def PullLoop.ending : PullLoop → Bool
  | .deleting _ ok => !ok
  | .ended => true
  | _ => false

/-- The channel stands for a queue; `content` is the set of its strings. -/
structure Represents (q : UniqueQueue String) (c : StringChan) : Prop where
  reserved : c.reserved = q.items
  content : c.content = q.items.toFinset
  pushEnded : c.push = .ended → c.inputClosed = true
  pullEnding : c.pull.ending = true → c.ch = [] ∧ c.push = .ended

/-- What an event does to the queue. -/
def nextQueue (q : UniqueQueue String) : ChanEvent → UniqueQueue String
  | .added v => q.offer v
  | .dropped v => q.offer v
  | .deleted => q.poll
  | _ => q

theorem Represents.mem_content {q : UniqueQueue String} {c : StringChan} (h : Represents q c)
    {v : String} : v ∈ c.content ↔ v ∈ c.reserved := by
  rw [h.content, h.reserved, List.mem_toFinset]

/-- **The simulation**: a push offers to the queue at its locked check, a pull polls
it at its locked deletion, and no other step changes it. -/
theorem represents_step {bufferSize : Nat} {q : UniqueQueue String} {c c' : StringChan}
    {a : ChanEvent} (h : Represents q c) (hstep : ChanStep bufferSize c a c') :
    Represents (nextQueue q a) c' := by
  obtain ⟨content, ch, inputClosed, push, pull⟩ := c
  obtain ⟨hreserved, hcontent, hpushEnded, hpullEnding⟩ := h
  cases hstep with
  | input hopen hpush =>
    cases hpush
    exact ⟨hreserved, hcontent, nofun, fun hending => nomatch (hpullEnding hending).2⟩
  | close hopen => exact ⟨hreserved, hcontent, fun _ => rfl, hpullEnding⟩
  | @added v hpush hnew =>
    cases hpush
    have hnotMem : v ∉ q.items := by rwa [hcontent, List.mem_toFinset] at hnew
    refine ⟨?_, ?_, nofun, fun hending => nomatch (hpullEnding hending).2⟩
    · rw [nextQueue, UniqueQueue.items_offer_of_notMem hnotMem, ← hreserved]
      simp [StringChan.reserved, PushLoop.reserved]
    · rw [nextQueue, UniqueQueue.toFinset_offer hnotMem, ← hcontent]
  | @dropped v hpush hold =>
    cases hpush
    have hitem : v ∈ q.items := by rwa [hcontent, List.mem_toFinset] at hold
    rw [nextQueue, UniqueQueue.offer_of_mem hitem]
    exact ⟨hreserved, hcontent, nofun, fun hending => nomatch (hpullEnding hending).2⟩
  | sent hpush hroom =>
    cases hpush
    refine ⟨?_, hcontent, nofun, fun hending => nomatch (hpullEnding hending).2⟩
    show _ = q.items
    rw [← hreserved]
    simp [StringChan.reserved, PushLoop.reserved]
  | handedOver hpush hch hpull =>
    cases hpush
    cases hch
    cases hpull
    exact ⟨hreserved, hcontent, nofun, nofun⟩
  | pushEnds hpush hclosed =>
    cases hpush
    exact ⟨hreserved, hcontent, fun _ => hclosed, fun hending => nomatch (hpullEnding hending).2⟩
  | received hpull hch =>
    cases hpull
    cases hch
    exact ⟨hreserved, hcontent, hpushEnded, nofun⟩
  | receivedClosed hpull hch hpush =>
    cases hpull
    exact ⟨hreserved, hcontent, hpushEnded, fun _ => ⟨hch, hpush⟩⟩
  | @deleted v ok hpull =>
    cases hpull
    cases ok with
    | true =>
      have hitems : q.items = v :: (ch ++ push.reserved) := hreserved.symm
      refine ⟨(UniqueQueue.items_poll hitems).symm, ?_, hpushEnded, nofun⟩
      rw [nextQueue, UniqueQueue.toFinset_poll hitems, ← hcontent]
    | false =>
      -- nothing is left when `ch` is closed and empty
      obtain ⟨hch, hpush⟩ := hpullEnding rfl
      cases hch
      cases hpush
      have hitems : q.items = [] := hreserved.symm
      have hempty : q.poll.items = [] := by
        show q.items.tail = []
        rw [hitems, List.tail_nil]
      refine ⟨hempty.symm, ?_, hpushEnded, fun _ => ⟨rfl, rfl⟩⟩
      rw [nextQueue, hempty, hcontent, hitems]
      rfl
  | output hpull =>
    cases hpull
    exact ⟨hreserved, hcontent, hpushEnded, nofun⟩

/-- In every state that is reached the channel stands for a queue. -/
theorem exists_represents {bufferSize : Nat} {c : StringChan}
    (h : (stringChanSystem bufferSize).Reachable c) : ∃ q, Represents q c := by
  refine System.ReachableUnder.induct (I := fun c => ∃ q, Represents q c) ?_ ?_ h
  · rintro c rfl
    exact ⟨.empty, rfl, rfl, nofun, nofun⟩
  · rintro c a c' ⟨q, hq⟩ - hstep
    exact ⟨_, represents_step hq hstep⟩

theorem Represents.nodup_ch {q : UniqueQueue String} {c : StringChan} (h : Represents q c) :
    c.ch.Nodup := by
  have hnodup := q.nodup
  rw [← h.reserved] at hnodup
  exact hnodup.of_append_left.of_append_right

/-! ## Strings that are underway -/

/-- A copy of the string is in `ch` or in the hands of the pull goroutine. -/
def StringChan.Undelivered (c : StringChan) (v : String) : Prop :=
  c.pull = .deleting v true ∨ c.pull = .outputting v ∨ v ∈ c.ch

/-- A copy of the string is somewhere between the input and the output. -/
def StringChan.Underway (c : StringChan) (v : String) : Prop :=
  c.push = .checking v ∨ c.push = .sending v ∨ c.Undelivered v

/-- The string whose push takes effect: it is sent on `ch`, or dropped. -/
def ChanEvent.takesEffect : ChanEvent → Option String
  | .dropped v => some v
  | .sent v => some v
  | .handedOver v => some v
  | _ => none

/-- What is dropped as a duplicate has not been delivered. -/
theorem Represents.undelivered_of_checking {q : UniqueQueue String} {c : StringChan}
    (h : Represents q c) {v : String} (hpush : c.push = .checking v) (hold : v ∈ c.content) :
    c.Undelivered v := by
  have hreserved := h.mem_content.mp hold
  rw [StringChan.reserved, hpush] at hreserved
  rcases List.mem_append.mp hreserved with hmem | hmem
  · rcases List.mem_append.mp hmem with hmem | hmem
    · -- the window between the receive and the deletion
      left
      unfold PullLoop.reserved at hmem
      split at hmem
      · rename_i w hpull
        rw [hpull, List.mem_singleton.mp hmem]
      · cases hmem
    · exact Or.inr (Or.inr hmem)
  · cases hmem

/-- **A push takes effect**: a copy of its string is undelivered. -/
theorem undelivered_of_takesEffect {bufferSize : Nat} {q : UniqueQueue String}
    {c c' : StringChan} {a : ChanEvent} {v : String} (h : Represents q c)
    (hstep : ChanStep bufferSize c a c') (ha : a.takesEffect = some v) : c'.Undelivered v := by
  cases hstep with
  | dropped hpush hold =>
    cases ha
    exact h.undelivered_of_checking hpush hold
  | sent hpush hroom =>
    cases ha
    exact Or.inr (Or.inr (List.mem_append_right _ (List.mem_singleton_self v)))
  | handedOver hpush hch hpull =>
    cases ha
    exact Or.inl rfl
  | _ => cases ha

/-- Nothing gets underway that has not been input. -/
theorem underway_of_step {bufferSize : Nat} {c c' : StringChan} {a : ChanEvent} {v : String}
    (hstep : ChanStep bufferSize c a c') (h : c'.Underway v) : c.Underway v ∨ a = .input v := by
  obtain ⟨content, ch, inputClosed, push, pull⟩ := c
  cases hstep with
  | deleted hpull =>
    rename_i w ok
    cases ok <;> simp_all [StringChan.Underway, StringChan.Undelivered]
  | _ => grind [StringChan.Underway, StringChan.Undelivered]

/-- **Nothing that is underway is lost**: it stays underway until it is output. -/
theorem underway_step {bufferSize : Nat} {q : UniqueQueue String} {c c' : StringChan}
    {a : ChanEvent} {v : String} (hq : Represents q c) (hstep : ChanStep bufferSize c a c')
    (h : c.Underway v) : c'.Underway v ∨ a = .output v := by
  cases hstep with
  | @dropped w hpush hold =>
    have hw := hq.undelivered_of_checking hpush hold
    grind [StringChan.Underway, StringChan.Undelivered]
  | deleted hpull =>
    rename_i w ok
    cases ok <;> grind [StringChan.Underway, StringChan.Undelivered]
  | _ => grind [StringChan.Underway, StringChan.Undelivered]

/-! ## How far a string is from its output -/

/-- The steps of the pull goroutine, its reader included. -/
def ChanEvent.ofPull : ChanEvent → Bool
  | .handedOver _ => true
  | .received => true
  | .deleted => true
  | .output _ => true
  | _ => false

/-- How many steps the pull goroutine has to take until it has output the string:
three for each string in `ch` up to this one, and those for the string in hand. -/
def StringChan.position (c : StringChan) (v : String) : Nat :=
  match c.pull with
  | .deleting w true => if w = v then 2 else 3 * (c.ch.idxOf v + 1) + 2
  | .outputting w => if w = v then 1 else 3 * (c.ch.idxOf v + 1) + 1
  | _ => 3 * (c.ch.idxOf v + 1)

theorem StringChan.position_pos (c : StringChan) (v : String) : 0 < c.position v := by
  unfold StringChan.position
  split
  · split_ifs <;> omega
  · split_ifs <;> omega
  · omega

/-- A string that the pull goroutine does not have in hand is in `ch`. -/
theorem StringChan.Undelivered.mem_ch {c : StringChan} {v : String} (h : c.Undelivered v)
    (hdeleting : c.pull ≠ .deleting v true) (houtputting : c.pull ≠ .outputting v) : v ∈ c.ch :=
  (h.resolve_left hdeleting).resolve_left houtputting

/-- The pull goroutine is never stuck while it has a string to deliver. -/
theorem exists_pull_step (bufferSize : Nat) {q : UniqueQueue String} {c : StringChan} {v : String}
    (hq : Represents q c) (h : c.Undelivered v) :
    ∃ a c', a.ofPull = true ∧ ChanStep bufferSize c a c' := by
  cases hpull : c.pull with
  | receiving =>
    have hmem : v ∈ c.ch := h.mem_ch (by simp [hpull]) (by simp [hpull])
    obtain ⟨w, rest, hch⟩ := List.exists_cons_of_ne_nil (List.ne_nil_of_mem hmem)
    exact ⟨_, _, rfl, .received hpull hch⟩
  | deleting w ok => exact ⟨_, _, rfl, .deleted hpull⟩
  | outputting w => exact ⟨_, _, rfl, .output hpull⟩
  | ended =>
    have hmem : v ∈ c.ch := h.mem_ch (by simp [hpull]) (by simp [hpull])
    have hch := (hq.pullEnding (by rw [hpull]; rfl)).1
    rw [hch] at hmem
    cases hmem

/-- **Every step of the pull goroutine brings a string forward**, and no other step
puts it back. -/
theorem position_step {bufferSize : Nat} {q : UniqueQueue String} {c c' : StringChan}
    {a : ChanEvent} {v : String} (hq : Represents q c) (hstep : ChanStep bufferSize c a c')
    (h : c.Undelivered v) :
    a = .output v ∨ c'.Undelivered v ∧ c'.position v + a.ofPull.toNat ≤ c.position v := by
  obtain ⟨content, ch, inputClosed, push, pull⟩ := c
  cases hstep with
  | input => exact Or.inr ⟨h, le_refl _⟩
  | close => exact Or.inr ⟨h, le_refl _⟩
  | added => exact Or.inr ⟨h, le_refl _⟩
  | dropped => exact Or.inr ⟨h, le_refl _⟩
  | pushEnds => exact Or.inr ⟨h, le_refl _⟩
  | @sent w hpush hroom =>
    -- the new string queues up behind this one
    rcases h with hpull | hpull | hmem
    · cases hpull
      exact Or.inr ⟨Or.inl rfl, by simp [StringChan.position, ChanEvent.ofPull]⟩
    · cases hpull
      exact Or.inr ⟨Or.inr (Or.inl rfl), by simp [StringChan.position, ChanEvent.ofPull]⟩
    · refine Or.inr ⟨Or.inr (Or.inr (List.mem_append_left _ hmem)), ?_⟩
      have hidx : (ch ++ [w]).idxOf v = ch.idxOf v := List.idxOf_append_of_mem hmem
      simp only [StringChan.position, hidx]
      exact le_refl _
  | handedOver hpush hch hpull =>
    -- this would be before what is in `ch`
    cases hch
    cases hpull
    cases h.mem_ch nofun nofun
  | @received w rest hpull hch =>
    cases hpull
    cases hch
    have hmem : v ∈ w :: rest := h.mem_ch nofun nofun
    right
    by_cases hw : w = v
    · subst hw
      exact ⟨Or.inl rfl, by simp [StringChan.position, ChanEvent.ofPull]⟩
    · refine ⟨Or.inr (Or.inr ((List.mem_cons.mp hmem).resolve_left (Ne.symm hw))), ?_⟩
      simp only [StringChan.position, ChanEvent.ofPull, if_neg hw, List.idxOf_cons_ne rest hw,
        Bool.toNat_true]
      omega
  | receivedClosed hpull hch hpush =>
    cases hpull
    cases hch
    cases h.mem_ch nofun nofun
  | @deleted w ok hpull =>
    cases hpull
    cases ok with
    | true =>
      right
      by_cases hw : w = v
      · subst hw
        exact ⟨Or.inr (Or.inl rfl), by simp [StringChan.position, ChanEvent.ofPull]⟩
      · have hmem : v ∈ ch := h.mem_ch (by simp [hw]) nofun
        refine ⟨Or.inr (Or.inr hmem), ?_⟩
        simp only [StringChan.position, ChanEvent.ofPull, if_neg hw, if_true, Bool.toNat_true]
        omega
    | false =>
      have hch : ch = [] := (hq.pullEnding rfl).1
      cases hch
      cases h.mem_ch nofun nofun
  | @output w hpull =>
    cases hpull
    by_cases hw : w = v
    · exact Or.inl (congrArg _ hw)
    · have hmem : v ∈ ch := h.mem_ch nofun (by simp [hw])
      refine Or.inr ⟨Or.inr (Or.inr hmem), ?_⟩
      simp only [StringChan.position, ChanEvent.ofPull, if_neg hw, Bool.toNat_true]
      omega

/-! ## Runs -/

/-- As long as a string has not been output the pull goroutine has work, and it
has taken fewer steps than the position of the string. -/
theorem output_of_undelivered {bufferSize : Nat} {c c' : StringChan} {v : String}
    {events : List ChanEvent} (hc : (stringChanSystem bufferSize).Reachable c)
    (h : c.Undelivered v) (hrun : (stringChanSystem bufferSize).Run c events c') :
    .output v ∈ events ∨
      c'.Undelivered v ∧ c'.position v + events.countP ChanEvent.ofPull ≤ c.position v := by
  induction hrun with
  | nil => exact Or.inr ⟨h, le_refl _⟩
  | @snoc events c' c'' a hrun hstep ih =>
    rcases ih with hout | ⟨hundelivered, hle⟩
    · exact Or.inl (List.mem_append_left _ hout)
    obtain ⟨q, hq⟩ := exists_represents (hc.run hrun)
    rcases position_step hq hstep hundelivered with rfl | ⟨hundelivered', hle'⟩
    · exact Or.inl (List.mem_append_right _ (List.mem_singleton_self _))
    · refine Or.inr ⟨hundelivered', ?_⟩
      have hcount : (events ++ [a]).countP ChanEvent.ofPull =
          events.countP ChanEvent.ofPull + a.ofPull.toNat := by
        rw [List.countP_append, List.countP_singleton]
        cases a.ofPull <;> rfl
      omega

/-- Every input has been followed by an output of its string, or a copy is
underway. -/
theorem output_or_underway {bufferSize : Nat} {c : StringChan} {events : List ChanEvent}
    (hrun : (stringChanSystem bufferSize).Run newStringChan events c) :
    ∀ (before : List ChanEvent) (v : String) (after : List ChanEvent),
      events = before ++ .input v :: after → .output v ∈ after ∨ c.Underway v := by
  induction hrun with
  | nil =>
    intro before v after h
    cases before <;> cases h
  | @snoc events c c' a hrun hstep ih =>
    intro before v after h
    -- the last event is the input, or comes after it
    rcases List.eq_nil_or_concat after with rfl | ⟨after, b, rfl⟩
    · obtain ⟨-, ha⟩ := List.append_inj' h rfl
      cases ha
      right
      cases hstep
      exact Or.inl rfl
    · have hsplit : events ++ [a] = (before ++ .input v :: after) ++ [b] := by
        rw [h, List.concat_eq_append, List.append_assoc, List.cons_append]
      obtain ⟨hevents, ha⟩ := List.append_inj' hsplit rfl
      cases ha
      rcases ih before v after hevents with hout | hunderway
      · exact Or.inl (by rw [List.concat_eq_append]; exact List.mem_append_left _ hout)
      · obtain ⟨q, hq⟩ := exists_represents (System.ReachableUnder.run (.init rfl) hrun)
        rcases underway_step hq hstep hunderway with hunderway' | rfl
        · exact Or.inr hunderway'
        · exact Or.inl (by rw [List.concat_eq_append]; exact List.mem_append_right _ (by simp))

/-- What is underway or has been output was input. -/
theorem input_of_output {bufferSize : Nat} {c : StringChan} {events : List ChanEvent}
    (hrun : (stringChanSystem bufferSize).Run newStringChan events c) :
    ∀ v, c.Underway v ∨ .output v ∈ events → .input v ∈ events := by
  induction hrun with
  | nil =>
    rintro v (h | h)
    · rcases h with h | h | h | h | h <;> cases h
    · cases h
  | @snoc events c c' a hrun hstep ih =>
    intro v h
    rw [List.mem_append, List.mem_singleton]
    -- it was underway, had come out, or comes in with this event
    have hbefore : c.Underway v ∨ .output v ∈ events ∨ .input v = a := by
      rcases h with h | h
      · rcases underway_of_step hstep h with h | h
        · exact Or.inl h
        · exact Or.inr (Or.inr h.symm)
      · rcases List.mem_append.mp h with h | h
        · exact Or.inr (Or.inl h)
        · -- it was in the hands of the pull goroutine
          rw [List.mem_singleton] at h
          subst h
          cases hstep with
          | output hpull => exact Or.inl (Or.inr (Or.inr (Or.inr (Or.inl hpull))))
    rcases hbefore with h | h | h
    · exact Or.inl (ih v (Or.inl h))
    · exact Or.inl (ih v (Or.inr h))
    · exact Or.inr h

/-- The input is closed, and no string is on its way. -/
def StringChan.Drained (c : StringChan) : Prop :=
  c.inputClosed = true ∧ ∀ v, ¬c.Underway v

/-- When the output is closed everything has been drained. -/
theorem Represents.drained {q : UniqueQueue String} {c : StringChan} (h : Represents q c)
    (hended : c.pull = .ended) : c.Drained := by
  obtain ⟨hch, hpush⟩ := h.pullEnding (by rw [hended]; rfl)
  refine ⟨h.pushEnded hpush, ?_⟩
  intro v hunderway
  simp [StringChan.Underway, StringChan.Undelivered, hch, hpush, hended] at hunderway

/-- **The deduplicating channel loses nothing and buffers no duplicate.** For every
buffer size and every run: `ch` holds no string twice; where a push takes effect
a copy of its string is undelivered, and in whatever way the run goes on the
string is output, or the pull goroutine can go on and has not yet taken as many
steps as the position of the string says; and when the input is closed and
everything drained, as it is when the output is closed, the strings that were
output are those that were input, each input followed by an output. -/
theorem stringChan_lossless (bufferSize : Nat) (events : List ChanEvent) (c : StringChan)
    (hrun : (stringChanSystem bufferSize).Run newStringChan events c) :
    c.ch.Nodup ∧
    (∀ a c' v, ChanStep bufferSize c a c' → a.takesEffect = some v →
      c'.Undelivered v ∧
        ∀ later c'', (stringChanSystem bufferSize).Run c' later c'' → .output v ∈ later ∨
          later.countP ChanEvent.ofPull < c'.position v ∧
            ∃ b c₃, b.ofPull = true ∧ ChanStep bufferSize c'' b c₃) ∧
    (c.pull = .ended → c.Drained) ∧
    (c.Drained →
      (∀ v, .output v ∈ events ↔ .input v ∈ events) ∧
        ∀ before v after, events = before ++ .input v :: after → .output v ∈ after) := by
  have hreach : (stringChanSystem bufferSize).Reachable c := .run (.init rfl) hrun
  obtain ⟨q, hq⟩ := exists_represents hreach
  refine ⟨hq.nodup_ch, ?_, hq.drained, ?_⟩
  · -- the position of a value goes down with each step of the pull goroutine
    intro a c' v hstep ha
    have hundelivered := undelivered_of_takesEffect hq hstep ha
    have hreach' : (stringChanSystem bufferSize).Reachable c' := .step hreach trivial hstep
    refine ⟨hundelivered, ?_⟩
    intro later c'' hlater
    rcases output_of_undelivered hreach' hundelivered hlater with hout | ⟨hstill, hle⟩
    · exact Or.inl hout
    · obtain ⟨q'', hq''⟩ := exists_represents (hreach'.run hlater)
      have hpos := c''.position_pos v
      exact Or.inr ⟨by omega, exists_pull_step bufferSize hq'' hstill⟩
  · rintro ⟨-, hdrained⟩
    -- nothing is underway, so that every value came out after it came in
    have hfollowed : ∀ before v after, events = before ++ .input v :: after →
        .output v ∈ after := by
      intro before v after h
      exact (output_or_underway hrun before v after h).resolve_right (hdrained v)
    refine ⟨?_, hfollowed⟩
    intro v
    refine ⟨fun hout => input_of_output hrun v (Or.inr hout), fun hin => ?_⟩
    obtain ⟨before, after, h⟩ := List.append_of_mem hin
    rw [h]
    exact List.mem_append_right _ (List.mem_cons_of_mem _ (hfollowed before v after h))

/-- The string is sent again between its receive and its deletion: the second copy
is dropped, the first one is output after it, and the output gets closed. -/
theorem stringChan_lossless_window :
    ∃ events c, (stringChanSystem 1).Run newStringChan events c ∧ c.pull = .ended ∧
      events.count (.input "app") = 2 ∧ events.count (.output "app") = 1 ∧
      ∀ v, .output v ∈ events ↔ .input v ∈ events := by
  have hreceived : (stringChanSystem 1).Run newStringChan _ _ :=
    .snoc (.snoc (.snoc (.snoc .nil (ChanStep.input (v := "app") rfl rfl))
      (ChanStep.added rfl (by decide))) (ChanStep.sent rfl (by decide))) (ChanStep.received rfl rfl)
  have hdropped : (stringChanSystem 1).Run newStringChan _ _ :=
    .snoc (.snoc hreceived (ChanStep.input (v := "app") rfl rfl))
      (ChanStep.dropped rfl (by decide))
  have houtput : (stringChanSystem 1).Run newStringChan _ _ :=
    .snoc (.snoc hdropped (ChanStep.deleted rfl)) (ChanStep.output rfl)
  have hclosed : (stringChanSystem 1).Run newStringChan _ _ :=
    .snoc (.snoc (.snoc (.snoc houtput (ChanStep.close rfl)) (ChanStep.pushEnds rfl rfl))
      (ChanStep.receivedClosed rfl rfl rfl)) (ChanStep.deleted rfl)
  have hlossless := stringChan_lossless 1 _ _ hclosed
  exact ⟨_, _, hclosed, rfl, by decide, by decide, (hlossless.2.2.2 (hlossless.2.2.1 rfl)).1⟩

end ComposeKube
