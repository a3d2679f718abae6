import ComposeKube.Registry.LogReader
import ComposeKube.Registry.Signaler

/-!
# Following logs

`logstreamer.go`, for a request that follows. Three kinds of goroutines share the channel
`cs.c` and the signaler `cs.closer`:

* `forwardLogs` writes what comes out of the channel, and gives the signal when the client
  has gone away or cannot be written to;
* `watchPods` opens a log stream for every pod that is seen running, once, until it gets the
  signal;
* a reader for each stream, which registers the `Close` of its stream with the signaler.

The signaler is the one of `signaler.go`, with its goroutines: every step here that uses it
is a step there (`closer_step`), so that what is known of its runs holds here.

Watch events come in at any time, streams deliver and end as they like, opening a stream or
writing to the client may fail. The number of live readers is not read when following.

* `closer_run` — the signaler runs as it does on its own.
* `delivery_step` — what one step keeps of what is sent, written and flushed.
* `follow_delivers` — all runs.
-/

namespace ComposeKube

open Go Transition

/-! ## Streams and goroutines -/

/-- The log stream of a pod, as its reader has it. -/
structure PodStream where
  /-- what has come in and has not been read -/
  unread : Bytes
  /-- the pod has ended it -/
  ended : Bool
  /-- `Close` has been called -/
  closed : Bool

/-- The buffer is full, and there is no newline in it. -/
def PodStream.Overlong (stream : PodStream) : Prop :=
  bufferSize ≤ stream.unread.length ∧ newline ∉ stream.unread.take bufferSize

/-- `ReadSlice` returns an error. What is left of a stream may be lost when it is closed. -/
inductive PodStream.Fails (stream : PodStream) : Prop
  | ended (h : stream.ended = true) (hline : readSlice stream.unread = none)
  | closed (h : stream.closed = true)
  | overlong (h : stream.Overlong)

/-- Where a reader goroutine is; the number is the one that `Register` has returned. -/
inductive FollowPhase where
  | starting
  /-- in `Register`, after the signal: the callback is about to be called -/
  | registering
  | reading (id : Int)
  | sending (id : Int) (line : Bytes)
  /-- about to send the nil -/
  | waking (id : Int)
  | unregistering (id : Int)
  | exited

structure FollowReader where
  podName : String
  stream : PodStream
  phase : FollowPhase

/-- `logreader.Close()`. -/
def FollowReader.close (r : FollowReader) : FollowReader :=
  { r with stream := { r.stream with closed := true } }

inductive WatchEventType where
  | added
  | modified
  | deleted
  | error
  deriving DecidableEq

/-- An event of the pod watcher. -/
structure PodEvent where
  type : WatchEventType
  podName : String
  /-- the phase is `Running` -/
  running : Bool

/-- The event is about a pod that is to be streamed. -/
def PodEvent.wanted (ev : PodEvent) (watching : List String) : Bool :=
  (ev.type = .added || ev.type = .modified) && ev.running && ev.podName ∉ watching

/-- Where `watchPods` is; the number is the one of its abort channel. -/
inductive WatcherPhase where
  | starting
  | selecting (abort : Nat)
  /-- in `streamLogs` -/
  | opening (abort : Nat) (podName : String)
  | stopped

/-- Where `forwardLogs` is. -/
inductive ForwardPhase where
  | selecting
  | signalling
  /-- in the loop of `Signal` -/
  | signalled
  | returned
  deriving DecidableEq

/-- The goroutines that use the signaler. -/
inductive Actor where
  | server
  | watcher
  | reader (k : Nat)
  deriving DecidableEq

/-! ## The request -/

structure FollowState where
  /-- `cs.closer`; a callback is the number of the reader whose stream it closes -/
  closer : SignalerState Actor Nat
  server : ForwardPhase
  needFlush : Bool
  /-- a timer is running -/
  flusher : Bool
  watcher : WatcherPhase
  /-- what is in the `ResultChan` -/
  pods : List PodEvent
  watchClosed : Bool
  readers : List FollowReader
  /-- the keys of `cs.watching` -/
  watching : List String
  /-- `cs.c` -/
  channel : List (Option Bytes)
  /-- what has been written to the response, and how much of it has been flushed -/
  response : List Bytes
  flushed : Nat
  clientGone : Bool

namespace FollowState

/-- A request that has just come in. -/
def start : FollowState where
  closer := .new
  server := .selecting
  needFlush := false
  flusher := false
  watcher := .starting
  pods := []
  watchClosed := false
  readers := []
  watching := []
  channel := []
  response := []
  flushed := 0
  clientGone := false

/-- The head of the loop of `forwardLogs`: a timer is started where one is needed. -/
def loopHead (s : FollowState) : FollowState := { s with flusher := s.flusher || s.needFlush }

/-- A reader changes. -/
def setReader (s : FollowState) (k : Nat) (r : FollowReader) : FollowState :=
  { s with readers := s.readers.set k r }

/-- The signaler and its goroutines change. -/
def withCloser (s : FollowState) (closer : SignalerState Actor Nat) : FollowState :=
  { s with closer }

end FollowState

inductive FollowEvent where
  /-- a step of the signaler -/
  | closer (e : SignalerEvent Actor Nat)
  | watched
  | spun
  | refused
  | opened
  | read (k : Nat) (line : Bytes)
  | sent (k : Nat) (podName : String) (line : Bytes)
  | failed (k : Nat)
  | woke (k : Nat)
  | received
  | writeFailed
  | flushed
  | noticed
  -- what the goroutines do not do themselves
  | delivered (k : Nat) (bytes : Bytes)
  | streamEnded (k : Nat)
  | podEvent (ev : PodEvent)
  | watchEnded
  | clientClosed

/-- The steps of the goroutines, of the pods and of the client. -/
inductive FollowStep (req : LogRequest) : FollowState → FollowEvent → FollowState → Prop
  -- `forwardLogs`
  | flush {s : FollowState} (hserver : s.server = .selecting) (hflusher : s.flusher = true) :
      FollowStep req s .flushed
        { s with needFlush := false, flusher := false, flushed := s.response.length }.loopHead
  | receive {s : FollowState} {message : Option Bytes} {rest : List (Option Bytes)}
      (hserver : s.server = .selecting) (hchannel : s.channel = message :: rest) :
      FollowStep req s .received
        { s with
          channel := rest
          response := s.response ++ req.written message
          needFlush := s.needFlush || !(req.written message).isEmpty }.loopHead
  | writeFails {s : FollowState} {line : Bytes} {rest : List (Option Bytes)}
      (hserver : s.server = .selecting) (hchannel : s.channel = some line :: rest)
      (hkeeps : req.keeps line = true) :
      FollowStep req s .writeFailed { s with channel := rest, server := .signalling }
  | notice {s : FollowState} (hserver : s.server = .selecting) (hgone : s.clientGone = true) :
      FollowStep req s .noticed { s with server := .signalling }
  | signal {s : FollowState} {signaler : Signaler Nat} {channels : List SignalChan}
      (hserver : s.server = .signalling) (hidle : s.closer.phase .server = .idle)
      (hfree : s.closer.blocked = false) (htriggered : s.closer.signaler.triggered = false)
      (h : s.closer.signaler.signal s.closer.channels = some (signaler, channels)) :
      FollowStep req s (.closer .triggered)
        { s with
          server := .signalled
          closer :=
            { s.closer with
              signaler, channels
              phase := Function.update s.closer.phase .server (.looping []) } }
  | callback {s : FollowState} {visited : List Nat} {i k : Nat} {r : FollowReader}
      (hserver : s.server = .signalled) (hloop : s.closer.phase .server = .looping visited)
      (hcallback : s.closer.signaler.callbacks i = some k) (hnew : i ∉ visited)
      (hr : s.readers[k]? = some r) :
      FollowStep req s (.closer (.calledBySignal i k))
        ((s.setReader k r.close).withCloser
          { s.closer with
            phase := Function.update s.closer.phase .server (.looping (i :: visited)) })
  | signalReturns {s : FollowState} {visited : List Nat} (hserver : s.server = .signalled)
      (hloop : s.closer.phase .server = .looping visited)
      (hall : ∀ i f, s.closer.signaler.callbacks i = some f → i ∈ visited) :
      FollowStep req s (.closer .returned)
        { s with
          server := .returned
          closer := { s.closer with phase := Function.update s.closer.phase .server .idle } }
  -- `watchPods`
  | channel {s : FollowState} {signaler : Signaler Nat} {channels : List SignalChan}
      (hwatcher : s.watcher = .starting) (hidle : s.closer.phase .watcher = .idle)
      (hfree : s.closer.blocked = false)
      (h : s.closer.signaler.channel s.closer.channels = some (signaler, channels)) :
      FollowStep req s (.closer .channel)
        { s with
          watcher := .selecting s.closer.channels.length
          closer := { s.closer with signaler, channels } }
  | abort {s : FollowState} {c : Nat} {chan chan' : SignalChan}
      (hwatcher : s.watcher = .selecting c)
      (hc : s.closer.channels[c]? = some chan) (h : chan.receive = some chan') :
      FollowStep req s (.closer (.received c))
        { s with
          watcher := .stopped
          closer := { s.closer with channels := s.closer.channels.set c chan' } }
  | ignore {s : FollowState} {c : Nat} {ev : PodEvent} {rest : List PodEvent}
      (hwatcher : s.watcher = .selecting c) (hpods : s.pods = ev :: rest)
      (hwanted : ev.wanted s.watching = false) : FollowStep req s .watched { s with pods := rest }
  | want {s : FollowState} {c : Nat} {ev : PodEvent} {rest : List PodEvent}
      (hwatcher : s.watcher = .selecting c) (hpods : s.pods = ev :: rest)
      (hwanted : ev.wanted s.watching = true) :
      FollowStep req s .watched { s with pods := rest, watcher := .opening c ev.podName }
  -- a closed channel gives events without a type, which are ignored
  | spin {s : FollowState} {c : Nat} (hwatcher : s.watcher = .selecting c) (hpods : s.pods = [])
      (hclosed : s.watchClosed = true) : FollowStep req s .spun s
  | refuse {s : FollowState} {c : Nat} {podName : String}
      (hwatcher : s.watcher = .opening c podName) :
      FollowStep req s .refused { s with watcher := .selecting c }
  | open_ {s : FollowState} {c : Nat} {podName : String}
      (hwatcher : s.watcher = .opening c podName) :
      FollowStep req s .opened
        { s with
          watcher := .selecting c
          watching := s.watching ++ [podName]
          readers := s.readers ++
            [{ podName, stream := { unread := [], ended := false, closed := false },
               phase := .starting }] }
  -- the readers
  | register {s : FollowState} {k i : Nat} {r : FollowReader} {signaler : Signaler Nat}
      (hr : s.readers[k]? = some r) (hphase : r.phase = .starting)
      (hidle : s.closer.phase (.reader k) = .idle) (hfree : s.closer.blocked = false)
      (h : s.closer.signaler.register k = some (i, signaler)) :
      FollowStep req s (.closer (.registered i k))
        ((s.setReader k { r with phase := .reading i }).withCloser { s.closer with signaler })
  | registerLate {s : FollowState} {k : Nat} {r : FollowReader} (hr : s.readers[k]? = some r)
      (hphase : r.phase = .starting) (hidle : s.closer.phase (.reader k) = .idle)
      (hfree : s.closer.blocked = false) (h : s.closer.signaler.register k = none) :
      FollowStep req s (.closer (.registeredLate (.reader k) s.closer.lateCount k))
        ((s.setReader k { r with phase := .registering }).withCloser
          { s.closer with
            phase := Function.update s.closer.phase (.reader k) (.calling s.closer.lateCount k)
            lateCount := s.closer.lateCount + 1 })
  | callLate {s : FollowState} {k n : Nat} {r : FollowReader} (hr : s.readers[k]? = some r)
      (hphase : r.phase = .registering) (h : s.closer.phase (.reader k) = .calling n k) :
      FollowStep req s (.closer (.calledByRegister (.reader k) n k))
        ((s.setReader k { r.close with phase := .reading (-1) }).withCloser
          { s.closer with phase := Function.update s.closer.phase (.reader k) .idle })
  | read {s : FollowState} {k : Nat} {r : FollowReader} {id : Int} {line rest : Bytes}
      (hr : s.readers[k]? = some r) (hphase : r.phase = .reading id)
      (hline : readSlice r.stream.unread = some (line, rest)) :
      FollowStep req s (.read k line)
        (s.setReader k
          { r with stream := { r.stream with unread := rest }, phase := .sending id line })
  | send {s : FollowState} {k : Nat} {r : FollowReader} {id : Int} {line : Bytes}
      (hr : s.readers[k]? = some r) (hphase : r.phase = .sending id line)
      (hroom : s.channel.length < channelCapacity) :
      FollowStep req s (.sent k r.podName line)
        { s.setReader k { r with phase := .reading id } with
          channel := s.channel ++ [some (podLine r.podName line)] }
  | fail {s : FollowState} {k : Nat} {r : FollowReader} {id : Int} (hr : s.readers[k]? = some r)
      (hphase : r.phase = .reading id) (hfails : r.stream.Fails) :
      FollowStep req s (.failed k) (s.setReader k { r with phase := .waking id })
  | wake {s : FollowState} {k : Nat} {r : FollowReader} {id : Int} (hr : s.readers[k]? = some r)
      (hphase : r.phase = .waking id) (hroom : s.channel.length < channelCapacity) :
      FollowStep req s (.woke k)
        { s.setReader k { r with phase := .unregistering id } with
          channel := s.channel ++ [none] }
  | unregister {s : FollowState} {k : Nat} {r : FollowReader} {id : Int}
      (hr : s.readers[k]? = some r) (hphase : r.phase = .unregistering id)
      (hidle : s.closer.phase (.reader k) = .idle) (hfree : s.closer.blocked = false) :
      FollowStep req s (.closer (.unregistered id))
        ((s.setReader k { r with phase := .exited }).withCloser
          { s.closer with signaler := s.closer.signaler.unregister id })
  -- the pods and the client
  | deliver {s : FollowState} {k : Nat} {r : FollowReader} {bytes : Bytes}
      (hr : s.readers[k]? = some r) (hopen : r.stream.ended = false ∧ r.stream.closed = false) :
      FollowStep req s (.delivered k bytes)
        (s.setReader k { r with stream := { r.stream with unread := r.stream.unread ++ bytes } })
  | endStream {s : FollowState} {k : Nat} {r : FollowReader} (hr : s.readers[k]? = some r) :
      FollowStep req s (.streamEnded k)
        (s.setReader k { r with stream := { r.stream with ended := true } })
  | podEvent {s : FollowState} {ev : PodEvent} (hopen : s.watchClosed = false) :
      FollowStep req s (.podEvent ev) { s with pods := s.pods ++ [ev] }
  | endWatch {s : FollowState} : FollowStep req s .watchEnded { s with watchClosed := true }
  | close {s : FollowState} : FollowStep req s .clientClosed { s with clientGone := true }

def followSystem (req : LogRequest) : System FollowState FollowEvent where
  init s := s = .start
  step := FollowStep req

/-! ## The signaler -/

/-- The step of the signaler that an event is. -/
def FollowEvent.closer? : FollowEvent → Option (SignalerEvent Actor Nat)
  | .closer e => some e
  | _ => none

/-- What happens to the signaler. -/
def closerEvents (events : List FollowEvent) : List (SignalerEvent Actor Nat) :=
  events.filterMap FollowEvent.closer?

section Closer

variable {req : LogRequest} {s s' : FollowState} {event : FollowEvent}

/-- **Every step is one of the signaler, or leaves it as it is.** -/
theorem closer_step (h : FollowStep req s event s') :
    (∃ e, event = .closer e ∧ SignalerStep s.closer e s'.closer) ∨
      event.closer? = none ∧ s'.closer = s.closer := by
  cases h with
  | signal hserver hidle hfree htriggered h =>
    exact Or.inl ⟨_, rfl, .signal hidle hfree htriggered h⟩
  | callback hserver hloop hcallback hnew hr =>
    exact Or.inl ⟨_, rfl, .callNext hloop hcallback hnew⟩
  | signalReturns hserver hloop hall => exact Or.inl ⟨_, rfl, .signalReturns hloop hall⟩
  | channel hwatcher hidle hfree h => exact Or.inl ⟨_, rfl, .channel hidle hfree h⟩
  | abort hwatcher hc h => exact Or.inl ⟨_, rfl, .receive hc h⟩
  | register hr hphase hidle hfree h => exact Or.inl ⟨_, rfl, .register hidle hfree h⟩
  | registerLate hr hphase hidle hfree h => exact Or.inl ⟨_, rfl, .registerLate hidle hfree h⟩
  | callLate hr hphase h => exact Or.inl ⟨_, rfl, .callLate h⟩
  | unregister hr hphase hidle hfree => exact Or.inl ⟨_, rfl, .unregister hidle hfree⟩
  | _ => exact Or.inr ⟨rfl, rfl⟩

/-- **The signaler runs as it does on its own.** -/
theorem closer_run {events : List FollowEvent} (h : (followSystem req).Run .start events s) :
    signalerSystem.Run .new (closerEvents events) s.closer := by
  induction h with
  | nil => exact .nil
  | @snoc events s s' event _ hstep ih =>
    rw [closerEvents, List.filterMap_append]
    rcases closer_step hstep with ⟨e, rfl, hcloser⟩ | ⟨hnone, hsame⟩
    · exact .snoc ih hcloser
    · rw [List.filterMap_cons_none hnone, List.filterMap_nil, List.append_nil, hsame]
      exact ih

end Closer

/-! ## What has been sent -/

/-- The message that is sent in a step. -/
def FollowEvent.message? : FollowEvent → Option (Option Bytes)
  | .sent _ podName line => some (some (podLine podName line))
  | .woke _ => some none
  | _ => none

/-- The line that a reader sends in a step. -/
def FollowEvent.lineOf? (k : Nat) : FollowEvent → Option Bytes
  | .sent j _ line => if j = k then some line else none
  | _ => none

/-- What comes in on the stream of a reader in a step. -/
def FollowEvent.deliveryTo? (k : Nat) : FollowEvent → Option Bytes
  | .delivered j bytes => if j = k then some bytes else none
  | _ => none

/-- All messages that have been sent into the channel. -/
def sentMessages (events : List FollowEvent) : List (Option Bytes) :=
  events.filterMap FollowEvent.message?

/-- The lines that a reader has sent. -/
def sentLines (events : List FollowEvent) (k : Nat) : List Bytes :=
  events.filterMap (FollowEvent.lineOf? k)

/-- All that has come in on the stream of a reader. -/
def streamed (events : List FollowEvent) (k : Nat) : Bytes :=
  (events.filterMap (FollowEvent.deliveryTo? k)).flatten

/-- A line with its newline. -/
def IsWholeLine (line : Bytes) : Prop := ∃ text, line = text ++ [newline] ∧ newline ∉ text

/-- `ReadSlice` takes a line off the front. -/
theorem readSlice_eq_some {content line rest : Bytes} (h : readSlice content = some (line, rest)) :
    content = line ++ rest ∧ IsWholeLine line := by
  rcases content_cases content with hnone | ⟨text, rest', rfl, htext⟩
  · rw [readSlice_of_notMem hnone] at h
    cases h
  · rw [readSlice_line htext] at h
    split at h
    · cases h
      exact ⟨by simp, text, rfl, htext⟩
    · cases h

/-- The line that a reader is about to send. -/
def FollowReader.pending (r : FollowReader) : List Bytes :=
  match r.phase with
  | .sending _ line => [line]
  | _ => []

/-- What has come in is what has been sent, what is about to be sent and what has not been
read, in this order. -/
structure FollowReader.Accounts (r : FollowReader) (events : List FollowEvent) (k : Nat) :
    Prop where
  streamed : streamed events k = (sentLines events k ++ r.pending).flatten ++ r.stream.unread
  whole : ∀ line ∈ sentLines events k ++ r.pending, IsWholeLine line

/-- This holds of all readers, and nothing has come in for those that are not there yet. -/
structure ReadsInOrder (events : List FollowEvent) (readers : List FollowReader) : Prop where
  accounts : ∀ (k : Nat) (r : FollowReader), readers[k]? = some r → r.Accounts events k
  later : ∀ k, readers.length ≤ k → streamed events k = [] ∧ sentLines events k = []

/-- Neither a line of a reader nor something for it. -/
def FollowEvent.Silent (event : FollowEvent) (k : Nat) : Prop :=
  event.lineOf? k = none ∧ event.deliveryTo? k = none

section Reading

variable {events : List FollowEvent} {event : FollowEvent} {readers : List FollowReader}
  {k : Nat} {r r' : FollowReader}

/-- What was sent, one event later. -/
theorem sentLines_snoc : sentLines (events ++ [event]) k =
    sentLines events k ++ (event.lineOf? k).toList := by
  cases h : event.lineOf? k with
  | none => simp [sentLines, h]
  | some line => simp [sentLines, h]

theorem streamed_snoc : streamed (events ++ [event]) k =
    streamed events k ++ (event.deliveryTo? k).getD [] := by
  cases h : event.deliveryTo? k with
  | none => simp [streamed, h]
  | some bytes => simp [streamed, h]

theorem FollowEvent.Silent.sentLines (h : event.Silent k) :
    sentLines (events ++ [event]) k = sentLines events k := by
  rw [sentLines_snoc, h.1]
  exact List.append_nil _

theorem FollowEvent.Silent.streamed (h : event.Silent k) :
    streamed (events ++ [event]) k = streamed events k := by
  rw [streamed_snoc, h.2]
  exact List.append_nil _

/-- Events of other readers change nothing. -/
theorem FollowReader.Accounts.frame (h : r.Accounts events k) (hsilent : event.Silent k)
    (hpending : r'.pending = r.pending) (hunread : r'.stream.unread = r.stream.unread) :
    r'.Accounts (events ++ [event]) k := by
  constructor
  · rw [hsilent.streamed, hsilent.sentLines, hpending, hunread]
    exact h.streamed
  · rw [hsilent.sentLines, hpending]
    exact h.whole

/-- Nothing happens to the readers. -/
theorem ReadsInOrder.frame (h : ReadsInOrder events readers) (hsilent : ∀ k, event.Silent k) :
    ReadsInOrder (events ++ [event]) readers where
  accounts k r hr := (h.accounts k r hr).frame (hsilent k) rfl rfl
  later k hk := by
    rw [(hsilent k).streamed, (hsilent k).sentLines]
    exact h.later k hk

/-- Something happens to one reader. -/
theorem ReadsInOrder.set (h : ReadsInOrder events readers) (hr : readers[k]? = some r)
    (hsilent : ∀ j, j ≠ k → event.Silent j) (hk : r'.Accounts (events ++ [event]) k) :
    ReadsInOrder (events ++ [event]) (readers.set k r') where
  accounts j x hx := by
    rw [List.getElem?_set] at hx
    split at hx
    · next hkj =>
      subst hkj
      split at hx
      · cases hx
        exact hk
      · cases hx
    · next hkj => exact (h.accounts j x hx).frame (hsilent j (Ne.symm hkj)) rfl rfl
  later j hj := by
    rw [List.length_set] at hj
    have hlt := (List.getElem?_eq_some_iff.mp hr).1
    -- readers that are not there yet are not this one
    have hne : j ≠ k := by omega
    rw [(hsilent j hne).streamed, (hsilent j hne).sentLines]
    exact h.later j hj

/-- A reader goes on without reading or sending. -/
theorem ReadsInOrder.move (h : ReadsInOrder events readers) (hr : readers[k]? = some r)
    (hsilent : ∀ k, event.Silent k) (hpending : r'.pending = r.pending)
    (hunread : r'.stream.unread = r.stream.unread) :
    ReadsInOrder (events ++ [event]) (readers.set k r') :=
  h.set hr (fun j _ => hsilent j) ((h.accounts k r hr).frame (hsilent k) hpending hunread)

/-- A line is read: it waits to be sent. -/
theorem ReadsInOrder.read {id : Int} {line rest : Bytes} (h : ReadsInOrder events readers)
    (hr : readers[k]? = some r) (hphase : r.phase = .reading id)
    (hline : readSlice r.stream.unread = some (line, rest)) :
    ReadsInOrder (events ++ [.read k line]) (readers.set k
      { r with stream := { r.stream with unread := rest }, phase := .sending id line }) := by
  have hsilent : ∀ j, (FollowEvent.read k line).Silent j := fun _ => ⟨rfl, rfl⟩
  obtain ⟨hunread, hwhole⟩ := readSlice_eq_some hline
  obtain ⟨hstreamed, hlines⟩ := h.accounts k r hr
  -- nothing waits while a reader reads
  have hpending : r.pending = [] := by rw [FollowReader.pending, hphase]
  rw [hpending, List.append_nil] at hstreamed hlines
  refine h.set hr (fun j _ => hsilent j) ⟨?_, ?_⟩
  · rw [(hsilent k).streamed, (hsilent k).sentLines, hstreamed, hunread]
    simp [FollowReader.pending]
  · rw [(hsilent k).sentLines]
    intro x hx
    rcases List.mem_append.mp hx with hx | hx
    · exact hlines x hx
    · cases List.mem_singleton.mp hx
      exact hwhole

/-- A line is sent: it no longer waits. -/
theorem ReadsInOrder.send {id : Int} {line : Bytes} {podName : String}
    (h : ReadsInOrder events readers) (hr : readers[k]? = some r)
    (hphase : r.phase = .sending id line) :
    ReadsInOrder (events ++ [.sent k podName line]) (readers.set k
      { r with phase := .reading id }) := by
  obtain ⟨hstreamed, hlines⟩ := h.accounts k r hr
  have hpending : r.pending = [line] := by rw [FollowReader.pending, hphase]
  have hsent : sentLines (events ++ [.sent k podName line]) k = sentLines events k ++ [line] := by
    rw [sentLines_snoc]
    simp [FollowEvent.lineOf?]
  rw [hpending] at hstreamed hlines
  refine h.set hr (fun j hj => ⟨if_neg (Ne.symm hj), rfl⟩) ⟨?_, ?_⟩
  · rw [streamed_snoc, hsent, hstreamed]
    simp [FollowEvent.deliveryTo?, FollowReader.pending]
  · rw [hsent]
    simpa [FollowReader.pending] using hlines

/-- More of the log arrives. -/
theorem ReadsInOrder.deliver {bytes : Bytes} (h : ReadsInOrder events readers)
    (hr : readers[k]? = some r) :
    ReadsInOrder (events ++ [.delivered k bytes]) (readers.set k
      { r with stream := { r.stream with unread := r.stream.unread ++ bytes } }) := by
  obtain ⟨hstreamed, hlines⟩ := h.accounts k r hr
  refine h.set hr (fun j hj => ⟨rfl, if_neg (Ne.symm hj)⟩) ⟨?_, ?_⟩
  · rw [streamed_snoc, sentLines_snoc, hstreamed]
    simp [FollowEvent.deliveryTo?, FollowEvent.lineOf?, FollowReader.pending]
  · rw [sentLines_snoc]
    simpa [FollowEvent.lineOf?, FollowReader.pending] using hlines

/-- A new reader has nothing yet. -/
theorem ReadsInOrder.open_ (h : ReadsInOrder events readers) (hsilent : ∀ k, event.Silent k)
    (hpending : r.pending = []) (hunread : r.stream.unread = []) :
    ReadsInOrder (events ++ [event]) (readers ++ [r]) where
  accounts j x hx := by
    rw [List.getElem?_append] at hx
    split at hx
    · exact (h.accounts j x hx).frame (hsilent j) rfl rfl
    · -- the new reader, of which nothing has been sent
      next hlt =>
      have hlater := h.later j (Nat.le_of_not_lt hlt)
      rw [List.getElem?_singleton] at hx
      split at hx
      · cases hx
        constructor
        · rw [(hsilent j).streamed, (hsilent j).sentLines, hlater.1, hlater.2, hpending, hunread]
          rfl
        · rw [(hsilent j).sentLines, hlater.2, hpending]
          exact fun line hline => nomatch hline
      · cases hx
  later j hj := by
    rw [(hsilent j).streamed, (hsilent j).sentLines]
    rw [List.length_append] at hj
    exact h.later j (by omega)

end Reading

section Delivery

variable {req : LogRequest} {events : List FollowEvent} {event : FollowEvent}
  {s s' : FollowState}

/-- **The step lemma for the readers.** -/
theorem readsInOrder_step (h : ReadsInOrder events s.readers) (hstep : FollowStep req s event s') :
    ReadsInOrder (events ++ [event]) s'.readers := by
  have hsame : ∀ {r r' : FollowReader}, r'.phase = r.phase → r'.pending = r.pending := by
    intro r r' hphase
    rw [FollowReader.pending, FollowReader.pending, hphase]
  cases hstep with
  | callback _ _ _ _ hr => exact h.move hr (fun _ => ⟨rfl, rfl⟩) (hsame rfl) rfl
  | open_ => exact h.open_ (fun _ => ⟨rfl, rfl⟩) rfl rfl
  | register hr hphase =>
    exact h.move hr (fun _ => ⟨rfl, rfl⟩) (by simp [FollowReader.pending, hphase]) rfl
  | registerLate hr hphase =>
    exact h.move hr (fun _ => ⟨rfl, rfl⟩) (by simp [FollowReader.pending, hphase]) rfl
  | callLate hr hphase =>
    exact h.move hr (fun _ => ⟨rfl, rfl⟩) (by simp [FollowReader.pending, hphase]) rfl
  -- the three steps that move lines; in the others nothing is read or sent
  | read hr hphase hline => exact h.read hr hphase hline
  | send hr hphase => exact h.send hr hphase
  | fail hr hphase =>
    exact h.move hr (fun _ => ⟨rfl, rfl⟩) (by simp [FollowReader.pending, hphase]) rfl
  | wake hr hphase =>
    exact h.move hr (fun _ => ⟨rfl, rfl⟩) (by simp [FollowReader.pending, hphase]) rfl
  | unregister hr hphase =>
    exact h.move hr (fun _ => ⟨rfl, rfl⟩) (by simp [FollowReader.pending, hphase]) rfl
  | deliver hr => exact h.deliver hr
  | endStream hr => exact h.move hr (fun _ => ⟨rfl, rfl⟩) (hsame rfl) rfl
  | _ => exact h.frame fun _ => ⟨rfl, rfl⟩

/-! ## What has been written -/

/-- What is written is what has been sent. As long as `forwardLogs` is in its loop the rest
is in the channel; what has not been flushed will be. -/
structure ForwardsInOrder (req : LogRequest) (events : List FollowEvent) (s : FollowState) :
    Prop where
  selecting : s.server = .selecting →
    s.response ++ s.channel.flatMap req.written = (sentMessages events).flatMap req.written
  written : s.response <+: (sentMessages events).flatMap req.written
  timer : s.flushed < s.response.length → s.flusher = true

theorem sentMessages_snoc :
    sentMessages (events ++ [event]) = sentMessages events ++ event.message?.toList := by
  cases h : event.message? with
  | none => simp [sentMessages, h]
  | some message => simp [sentMessages, h]

/-- Nothing is sent, and nothing is received. -/
theorem ForwardsInOrder.frame (h : ForwardsInOrder req events s)
    (hmessage : event.message? = none)
    (hserver : s'.server = .selecting → s.server = .selecting) (hchannel : s'.channel = s.channel)
    (hresponse : s'.response = s.response) (hflushed : s'.flushed = s.flushed)
    (hflusher : s'.flusher = s.flusher) : ForwardsInOrder req (events ++ [event]) s' := by
  have hsent : sentMessages (events ++ [event]) = sentMessages events := by
    rw [sentMessages_snoc, hmessage]
    exact List.append_nil _
  constructor
  · intro hselecting
    rw [hsent, hchannel, hresponse]
    exact h.selecting (hserver hselecting)
  · rw [hsent, hresponse]
    exact h.written
  · rw [hflushed, hresponse, hflusher]
    exact h.timer

/-- A message is sent. -/
theorem ForwardsInOrder.send {message : Option Bytes} (h : ForwardsInOrder req events s)
    (hmessage : event.message? = some message) (hserver : s'.server = s.server)
    (hchannel : s'.channel = s.channel ++ [message]) (hresponse : s'.response = s.response)
    (hflushed : s'.flushed = s.flushed) (hflusher : s'.flusher = s.flusher) :
    ForwardsInOrder req (events ++ [event]) s' := by
  have hsent : sentMessages (events ++ [event]) = sentMessages events ++ [message] := by
    rw [sentMessages_snoc, hmessage]
    rfl
  constructor
  · intro hselecting
    rw [hsent, hchannel, hresponse, List.flatMap_append, List.flatMap_append,
      ← h.selecting (hserver.symm.trans hselecting), List.append_assoc]
  · rw [hsent, hresponse, List.flatMap_append]
    exact h.written.trans (List.prefix_append _ _)
  · rw [hflushed, hresponse, hflusher]
    exact h.timer

/-- A message is received, and written if it is to be. -/
theorem ForwardsInOrder.receive {message : Option Bytes} {rest : List (Option Bytes)}
    (h : ForwardsInOrder req events s) (hserver : s.server = .selecting)
    (hchannel : s.channel = message :: rest) :
    ForwardsInOrder req (events ++ [.received]) { s with
      channel := rest
      response := s.response ++ req.written message
      needFlush := s.needFlush || !(req.written message).isEmpty }.loopHead := by
  have hsent : sentMessages (events ++ [.received]) = sentMessages events := by
    rw [sentMessages_snoc]
    exact List.append_nil _
  have hall := h.selecting hserver
  rw [hchannel, List.flatMap_cons, ← List.append_assoc] at hall
  constructor
  · intro _
    rw [hsent]
    exact hall
  · rw [hsent, ← hall]
    exact List.prefix_append _ _
  · intro hlt
    show (s.flusher || (s.needFlush || !(req.written message).isEmpty)) = true
    -- either something is written now, or there is nothing new to be flushed
    cases hwritten : req.written message with
    | cons line lines => simp
    | nil =>
      have hold : s.flushed < s.response.length := by
        simpa [FollowState.loopHead, hwritten] using hlt
      rw [h.timer hold, Bool.true_or]

/-- **The step lemma for the response.** -/
theorem forwardsInOrder_step (h : ForwardsInOrder req events s)
    (hstep : FollowStep req s event s') : ForwardsInOrder req (events ++ [event]) s' := by
  cases hstep with
  | flush hserver hflusher =>
    have hsent : sentMessages (events ++ [.flushed]) = sentMessages events := by
      rw [sentMessages_snoc]
      exact List.append_nil _
    refine ⟨fun _ => ?_, ?_, fun hlt => absurd hlt (Nat.lt_irrefl _)⟩
    · rw [hsent]
      exact h.selecting hserver
    · rw [hsent]
      exact h.written
  | receive hserver hchannel => exact h.receive hserver hchannel
  -- the loop is left, and nothing more is written
  | @writeFails line rest hserver hchannel hkeeps =>
    have hsent : sentMessages (events ++ [.writeFailed]) = sentMessages events := by
      rw [sentMessages_snoc]
      exact List.append_nil _
    refine ⟨nofun, ?_, h.timer⟩
    rw [hsent]
    exact h.written
  | notice => exact h.frame rfl nofun rfl rfl rfl rfl
  | signal => exact h.frame rfl nofun rfl rfl rfl rfl
  | signalReturns => exact h.frame rfl nofun rfl rfl rfl rfl
  | send hr hphase hroom => exact h.send rfl rfl rfl rfl rfl rfl
  | wake hr hphase hroom => exact h.send rfl rfl rfl rfl rfl rfl
  | _ => exact h.frame rfl id rfl rfl rfl rfl

/-! ## Which pods are watched -/

/-- There is one reader for each pod in the map, and a stream is opened for a pod that is
not in it. Lines are sent under the name of their pod. -/
structure WatchesOnce (events : List FollowEvent) (s : FollowState) : Prop where
  names : s.watching = s.readers.map FollowReader.podName
  nodup : s.watching.Nodup
  opening : ∀ c podName, s.watcher = .opening c podName → podName ∉ s.watching
  sent : ∀ k podName line, .sent k podName line ∈ events → s.watching[k]? = some podName

/-- A reader keeps the name of its pod. -/
theorem map_podName_set {readers : List FollowReader} {k : Nat} {r r' : FollowReader}
    (hr : readers[k]? = some r) (hname : r'.podName = r.podName) :
    (readers.set k r').map FollowReader.podName = readers.map FollowReader.podName := by
  obtain ⟨hlt, rfl⟩ := List.getElem?_eq_some_iff.mp hr
  rw [List.map_set, hname]
  exact List.ext_getElem? fun j => by
    rw [List.getElem?_set]
    split
    · next hkj => simp [← hkj, hlt]
    · rfl

theorem WatchesOnce.frame (h : WatchesOnce events s)
    (hevent : ∀ k podName line, event ≠ .sent k podName line)
    (hwatching : s'.watching = s.watching)
    (hnames : s'.readers.map FollowReader.podName = s.readers.map FollowReader.podName)
    (hwatcher : ∀ c podName, s'.watcher = .opening c podName → podName ∉ s.watching) :
    WatchesOnce (events ++ [event]) s' where
  names := by rw [hwatching, hnames, h.names]
  nodup := by
    rw [hwatching]
    exact h.nodup
  opening := by
    rw [hwatching]
    exact hwatcher
  sent k podName line hmem := by
    rw [hwatching]
    rcases List.mem_append.mp hmem with hmem | hlast
    · exact h.sent k podName line hmem
    · exact absurd (List.mem_singleton.mp hlast).symm (hevent k podName line)

/-- **The step lemma for the pods that are watched.** -/
theorem watchesOnce_step (h : WatchesOnce events s) (hstep : FollowStep req s event s') :
    WatchesOnce (events ++ [event]) s' := by
  cases hstep with
  | callback _ _ _ _ hr => exact h.frame nofun rfl (map_podName_set hr rfl) h.opening
  | channel => exact h.frame nofun rfl rfl nofun
  | abort => exact h.frame nofun rfl rfl nofun
  | want hwatcher hpods hwanted =>
    refine h.frame nofun rfl rfl fun c podName heq => ?_
    cases heq
    simp only [PodEvent.wanted, Bool.and_eq_true, decide_eq_true_eq] at hwanted
    exact hwanted.2
  | refuse => exact h.frame nofun rfl rfl nofun
  | @open_ c podName hwatcher =>
    -- the pod was not watched when it was wanted, and only this goroutine adds any
    have hnew := h.opening c podName hwatcher
    constructor
    · show s.watching ++ [podName] = (s.readers ++ [_]).map FollowReader.podName
      rw [List.map_append, h.names]
      rfl
    · exact List.Nodup.append h.nodup (List.nodup_singleton _) (by simpa using hnew)
    · nofun
    · intro k name line hmem
      rcases List.mem_append.mp hmem with hmem | hlast
      · have hold := h.sent k name line hmem
        show (s.watching ++ [podName])[k]? = some name
        rw [List.getElem?_append_left (List.getElem?_eq_some_iff.mp hold).1]
        exact hold
      · cases List.mem_singleton.mp hlast
  | register hr => exact h.frame nofun rfl (map_podName_set hr rfl) h.opening
  | registerLate hr => exact h.frame nofun rfl (map_podName_set hr rfl) h.opening
  | callLate hr => exact h.frame nofun rfl (map_podName_set hr rfl) h.opening
  | read hr => exact h.frame nofun rfl (map_podName_set hr rfl) h.opening
  | @send k r id line hr hphase hroom =>
    refine ⟨?_, h.nodup, h.opening, ?_⟩
    · exact h.names.trans (Eq.symm (by exact map_podName_set hr rfl))
    intro j podName line' hmem
    rcases List.mem_append.mp hmem with hmem | hlast
    · exact h.sent j podName line' hmem
    · cases List.mem_singleton.mp hlast
      show s.watching[k]? = some r.podName
      rw [h.names, List.getElem?_map, hr]
      rfl
  | fail hr => exact h.frame nofun rfl (map_podName_set hr rfl) h.opening
  | wake hr => exact h.frame nofun rfl (map_podName_set hr rfl) h.opening
  | unregister hr => exact h.frame nofun rfl (map_podName_set hr rfl) h.opening
  | deliver hr => exact h.frame nofun rfl (map_podName_set hr rfl) h.opening
  | endStream hr => exact h.frame nofun rfl (map_podName_set hr rfl) h.opening
  | _ => exact h.frame nofun rfl rfl h.opening

/-! ## All runs -/

/-- What holds at every moment of a run. -/
structure FollowInvariant (req : LogRequest) (events : List FollowEvent) (s : FollowState) :
    Prop where
  reads : ReadsInOrder events s.readers
  forwards : ForwardsInOrder req events s
  watches : WatchesOnce events s

theorem followInvariant_start : FollowInvariant req [] .start where
  reads := ⟨nofun, fun _ _ => ⟨rfl, rfl⟩⟩
  forwards := ⟨fun _ => rfl, List.prefix_refl _, nofun⟩
  watches := ⟨rfl, List.nodup_nil, nofun, nofun⟩

/-- **The run lemma.** -/
theorem followInvariant_run (h : (followSystem req).Run .start events s) :
    FollowInvariant req events s := by
  induction h with
  | nil => exact followInvariant_start
  | snoc _ hstep ih =>
    exact ⟨readsInOrder_step ih.reads hstep, forwardsInOrder_step ih.forwards hstep,
      watchesOnce_step ih.watches hstep⟩

end Delivery

/-- What a request that follows has delivered. -/
structure FollowDelivers (req : LogRequest) (events : List FollowEvent) (s : FollowState) :
    Prop where
  /-- Each pod has one reader at most. -/
  once : (s.readers.map FollowReader.podName).Nodup
  /-- What a reader has sent are the first lines of its stream, under the name of its pod. -/
  lines : ∀ k, (sentLines events k).flatten <+: streamed events k ∧
    ∀ line ∈ sentLines events k, IsWholeLine line
  labelled : ∀ k podName line, .sent k podName line ∈ events →
    ∃ r, s.readers[k]? = some r ∧ r.podName = podName
  /-- What is written is what has been sent, in the same order, without what the filter
  drops. -/
  written : s.response <+: (sentMessages events).flatMap req.written
  /-- Nothing is lost while the client is there: the rest is in the channel. -/
  kept : s.server = .selecting →
    s.response ++ s.channel.flatMap req.written = (sentMessages events).flatMap req.written
  /-- A timer is running for what has not been flushed. -/
  timer : s.flushed < s.response.length → s.flusher = true

/-- **A request that follows delivers in order and once**, in every run of its goroutines. -/
theorem follow_delivers {req : LogRequest} {events : List FollowEvent} {s : FollowState}
    (hrun : (followSystem req).Run .start events s) : FollowDelivers req events s := by
  obtain ⟨hreads, hforwards, hwatches⟩ := followInvariant_run hrun
  refine ⟨hwatches.names ▸ hwatches.nodup, ?_, ?_, hforwards.written, hforwards.selecting,
    hforwards.timer⟩
  · intro k
    cases hr : s.readers[k]? with
    -- a reader that has not been started
    | none =>
      have hlater := hreads.later k (List.getElem?_eq_none_iff.mp hr)
      rw [hlater.1, hlater.2]
      exact ⟨List.prefix_refl _, nofun⟩
    | some r =>
      obtain ⟨hstreamed, hwhole⟩ := hreads.accounts k r hr
      refine ⟨?_, fun line hline => hwhole line (List.mem_append_left _ hline)⟩
      rw [hstreamed, List.flatten_append, List.append_assoc]
      exact List.prefix_append _ _
  · intro k podName line hmem
    have hname := hwatches.sent k podName line hmem
    rw [hwatches.names, List.getElem?_map] at hname
    exact Option.map_eq_some_iff.mp hname

/-- A request for the logs of a stack. -/
def followStack : LogRequest where
  namespace_ := "default"
  name := "stack"
  filter := none
  pods := []

/-- Two pods: the first line of one is read together with a part of its second line, and the
line of the other comes in between. Then the client goes away. -/
theorem exists_run_followStack : ∃ events s, (followSystem followStack).Run .start events s ∧
    s.server = .returned ∧ s.response =
      [podLine "web" [97, newline], podLine "db" [99, newline], podLine "web" [98, newline]] := by
  have hstart : (followSystem followStack).Run .start [] .start := .nil
  have hchannel := hstart.snoc (FollowStep.channel rfl rfl rfl rfl)
  -- both pods come up, and their readers register with the closer
  have hweb := ((hchannel.snoc (@FollowStep.podEvent _ _ ⟨.added, "web", true⟩ rfl)).snoc
    (FollowStep.want rfl rfl rfl)).snoc (FollowStep.open_ rfl)
  have hdb := ((hweb.snoc (@FollowStep.podEvent _ _ ⟨.added, "db", true⟩ rfl)).snoc
    (FollowStep.want rfl rfl rfl)).snoc (FollowStep.open_ rfl)
  have hreaders := (hdb.snoc (@FollowStep.register _ _ 0 _ _ _ rfl rfl rfl rfl rfl)).snoc
    (@FollowStep.register _ _ 1 _ _ _ rfl rfl rfl rfl rfl)
  have hdelivered := (hreaders.snoc
    (@FollowStep.deliver _ _ 0 _ [97, newline, 98] rfl ⟨rfl, rfl⟩)).snoc
    (@FollowStep.deliver _ _ 1 _ [99, newline] rfl ⟨rfl, rfl⟩)
  have hfirst := (hdelivered.snoc (@FollowStep.read _ _ 0 _ _ _ _ rfl rfl rfl)).snoc
    (@FollowStep.send _ _ 0 _ _ _ rfl rfl (by decide))
  have hsecond := (hfirst.snoc (@FollowStep.read _ _ 1 _ _ _ _ rfl rfl rfl)).snoc
    (@FollowStep.send _ _ 1 _ _ _ rfl rfl (by decide))
  -- the rest of the second line comes in
  have hthird := ((hsecond.snoc (@FollowStep.deliver _ _ 0 _ [newline] rfl ⟨rfl, rfl⟩)).snoc
    (@FollowStep.read _ _ 0 _ _ _ _ rfl rfl rfl)).snoc
    (@FollowStep.send _ _ 0 _ _ _ rfl rfl (by decide))
  have hwritten := ((hthird.snoc (FollowStep.receive rfl rfl)).snoc
    (FollowStep.receive rfl rfl)).snoc (FollowStep.receive rfl rfl)
  have hgone := (hwritten.snoc FollowStep.close).snoc (FollowStep.notice rfl rfl)
  have hsignal := hgone.snoc (FollowStep.signal rfl rfl rfl rfl rfl)
  have hcalled := (hsignal.snoc (@FollowStep.callback _ _ _ 0 0 _ rfl rfl rfl nofun rfl)).snoc
    (@FollowStep.callback _ _ _ 1 1 _ rfl rfl rfl (by decide) rfl)
  refine ⟨_, _, hcalled.snoc (FollowStep.signalReturns rfl rfl ?_), rfl, rfl⟩
  -- there is no other callback
  intro i f hcallback
  by_contra hi
  have hone : i ≠ 1 := fun h => hi (h ▸ List.mem_cons_self)
  have hzero : i ≠ 0 := fun h => hi (h ▸ List.mem_cons_of_mem _ List.mem_cons_self)
  have hnone : Function.update (Function.update (fun _ => none) 0 (some 0)) 1 (some 1) i =
      none := by
    rw [Function.update_of_ne hone, Function.update_of_ne hzero]
  cases hnone.symm.trans hcallback

theorem follow_delivers_followStack : ∃ events s,
    (followSystem followStack).Run .start events s ∧
      s.response = [podLine "web" [97, newline], podLine "db" [99, newline],
        podLine "web" [98, newline]] ∧
      FollowDelivers followStack events s := by
  obtain ⟨events, s, hrun, -, hresponse⟩ := exists_run_followStack
  exact ⟨events, s, hrun, hresponse, follow_delivers hrun⟩

end ComposeKube
