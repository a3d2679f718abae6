import Mathlib.Algebra.GroupWithZero.Nat
import ComposeKube.Lib.Data
import ComposeKube.Lib.Interleaving
import ComposeKube.Lib.Strings
import ComposeKube.Lib.Transition

/-!
# Serving logs

`logstreamer.go`, for a request that does not follow: `ServeHTTP` opens the log
streams of the pods, one reader goroutine for each. A reader sends its lines
into a channel of 100 places; at the end of its stream it decrements the number
of live readers and sends a nil to wake up the forwarder. `ServeHTTP` looks at
the number of live readers, and either answers that there is no running pod or
forwards what comes out of the channel, until it receives something when no
reader is live; then it drains the channel.

Readers run at any speed. The writer does not fail, and the client stays.

The test of `ServeHTTP` takes the number of readers that are live for the number
of readers that have been started. When all streams are short, their readers may
be through with them by then.

* `logStep_work`, `log_progress` — every request comes to its end.
* `logStep_inv`, `log_inv` — what one step keeps, and what holds in every run.
* `log_answered` — what is answered when a reader is live at the test.
* `response_lost` — what is answered when none is.
* `logs_delivered` — all runs.
-/

namespace ComposeKube

open Go Interleaving Transition

/-! ## Reading lines -/

def newline : UInt8 := 10

/-- The size of a `bufio.Reader`. -/
def bufferSize : Nat := 4096

/-- `ReadSlice` on what is left of a stream: a line and the rest, or an error,
because the stream ends (`io.EOF`) or the line does not fit (`ErrBufferFull`). -/
def readSlice (content : Bytes) : Option (Bytes × Bytes) :=
  match content.span (· ≠ newline) with
  | (_, []) => none
  | (text, delim :: rest) =>
    if text.length + 1 ≤ bufferSize then some (text ++ [delim], rest) else none

/-- A line is taken off the content. -/
theorem length_readSlice {content line rest : Bytes} (h : readSlice content = some (line, rest)) :
    rest.length < content.length := by
  unfold readSlice at h
  have hspan : (content.span (· ≠ newline)).1 ++ (content.span (· ≠ newline)).2 = content := by
    rw [List.span_eq_takeWhile_dropWhile]
    exact List.takeWhile_append_dropWhile
  split at h
  case h_1 => cases h
  case h_2 text delim rest' heq =>
    rw [heq] at hspan
    split at h
    case isFalse => cases h
    case isTrue =>
      cases h
      rw [← hspan]
      simp only [List.length_append, List.length_cons]
      omega

/-- The lines that a reader gets out of a stream. -/
def logLines (content : Bytes) : List Bytes :=
  match h : readSlice content with
  | none => []
  | some (line, rest) =>
    have := length_readSlice h
    line :: logLines rest
termination_by content.length

theorem logLines_of_none {content : Bytes} (h : readSlice content = none) :
    logLines content = [] := by
  unfold logLines
  split
  case h_1 => rfl
  case h_2 heq => cases h.symm.trans heq

/-- The first line, then the rest. -/
theorem logLines_of_some {content line rest : Bytes} (h : readSlice content = some (line, rest)) :
    logLines content = line :: logLines rest := by
  rw [logLines]
  split
  case h_1 heq => cases h.symm.trans heq
  case h_2 heq =>
    cases h.symm.trans heq
    rfl

/-- A line that ends with a newline and is shorter than the buffer. -/
def IsLogLine (line : Bytes) : Prop :=
  ∃ text, line = text ++ [newline] ∧ newline ∉ text ∧ line.length < bufferSize

theorem readSlice_append {line : Bytes} (h : IsLogLine line) (rest : Bytes) :
    readSlice (line ++ rest) = some (line, rest) := by
  obtain ⟨text, rfl, hnotMem, hlength⟩ := h
  have hspan : (text ++ [newline] ++ rest).span (· ≠ newline) = (text, newline :: rest) := by
    rw [List.append_assoc]
    exact span_append_cons hnotMem rest
  rw [List.length_append] at hlength
  unfold readSlice
  rw [hspan]
  exact if_pos (Nat.le_of_lt hlength)

/-- **A stream of lines is read line by line.** -/
theorem logLines_flatten {lines : List Bytes} (h : ∀ line ∈ lines, IsLogLine line) :
    logLines lines.flatten = lines := by
  induction lines with
  | nil => exact logLines_of_none rfl
  | cons line rest ih =>
    rw [List.flatten_cons, logLines_of_some (readSlice_append (h line List.mem_cons_self) _),
      ih fun l hl => h l (List.mem_cons_of_mem _ hl)]

/-! ## The request -/

/-- A pod of the stack, and the log stream that can be opened for it. -/
structure PodLogs where
  name : String
  stream : Option Bytes

/-- The pod's name and the contents of its stream, if it opens. -/
def PodLogs.source (pod : PodLogs) : Option (String × Bytes) :=
  pod.stream.map fun content => (pod.name, content)

/-- A request without `follow`. -/
structure LogRequest where
  namespace_ : String
  name : String
  filter : Option (Bytes → Bool)
  /-- the answer of `List` -/
  pods : List PodLogs

/-- `[]byte(s)`. -/
def bytesOf (s : String) : Bytes := s.toUTF8.data.toList

/-- `append([]byte(podName+" "), input...)`. -/
def podLine (podName : String) (input : Bytes) : Bytes := bytesOf (podName ++ " ") ++ input

/-- The answer when there is no live reader. -/
def LogRequest.noPods (req : LogRequest) : Bytes :=
  bytesOf ("Stack " ++ req.namespace_ ++ "/" ++ req.name ++
    " does not exist or has no running pods\n")

/-- `filter == nil || filter.Match(line)`. -/
def LogRequest.keeps (req : LogRequest) (line : Bytes) : Bool :=
  match req.filter with
  | none => true
  | some matches_ => matches_ line

/-- What is written for a message of the channel. -/
def LogRequest.written (req : LogRequest) : Option Bytes → List Bytes
  | none => []
  | some line => if req.keeps line then [line] else []

/-- Where a reader goroutine is. -/
inductive ReaderPhase where
  | reading (rest : Bytes)
  /-- it has decremented the number of live readers -/
  | waking
  | exited

/-- A reader goroutine, with the stream that it was started for. -/
structure Reader where
  podName : String
  content : Bytes
  phase : ReaderPhase

/-- Where `ServeHTTP` is. -/
inductive ServerPhase where
  | opening
  | forwarding
  /-- a message has been dealt with, and `nWatch` is to be loaded -/
  | checking
  | draining
  | returned
  deriving DecidableEq

structure LogState where
  unopened : List PodLogs
  readers : List Reader
  nWatch : Int
  /-- `cs.c` -/
  channel : List (Option Bytes)
  phase : ServerPhase
  /-- what has been written to the response -/
  response : List Bytes

/-- `make(chan []byte, 100)`. -/
def channelCapacity : Nat := 100

inductive LogEvent where
  | open_
  | test
  | read
  | finish
  | wake
  | receive
  | check
  | drain

/-- The steps of `ServeHTTP` and of its readers. -/
inductive LogStep (req : LogRequest) : LogState → LogEvent → LogState → Prop
  /-- the stream does not open -/
  | skip {s : LogState} {pod : PodLogs} {rest : List PodLogs} (hphase : s.phase = .opening)
      (hpods : s.unopened = pod :: rest) (hstream : pod.stream = none) :
      LogStep req s .open_ { s with unopened := rest }
  | open_ {s : LogState} {pod : PodLogs} {rest : List PodLogs} {content : Bytes}
      (hphase : s.phase = .opening) (hpods : s.unopened = pod :: rest)
      (hstream : pod.stream = some content) :
      LogStep req s .open_
        { s with
          unopened := rest, nWatch := s.nWatch + 1
          readers := s.readers ++ [{ podName := pod.name, content, phase := .reading content }] }
  /-- the test of `ServeHTTP`; `forwardLogs` is not called -/
  | testEmpty {s : LogState} (hphase : s.phase = .opening) (hpods : s.unopened = [])
      (hwatch : s.nWatch = 0) :
      LogStep req s .test { s with phase := .returned, response := s.response ++ [req.noPods] }
  | testLive {s : LogState} (hphase : s.phase = .opening) (hpods : s.unopened = [])
      (hwatch : s.nWatch ≠ 0) : LogStep req s .test { s with phase := .forwarding }
  /-- a reader sends a line, which blocks while the channel is full -/
  | read {s : LogState} {before after : List Reader} {r : Reader} {content line rest : Bytes}
      (hreaders : s.readers = before ++ r :: after) (hr : r.phase = .reading content)
      (hline : readSlice content = some (line, rest)) (hroom : s.channel.length < channelCapacity) :
      LogStep req s .read
        { s with
          readers := before ++ { r with phase := .reading rest } :: after
          channel := s.channel ++ [some (podLine r.podName line)] }
  /-- the reader is not counted any more before it sends its nil -/
  | finish {s : LogState} {before after : List Reader} {r : Reader} {content : Bytes}
      (hreaders : s.readers = before ++ r :: after) (hr : r.phase = .reading content)
      (hline : readSlice content = none) :
      LogStep req s .finish
        { s with
          readers := before ++ { r with phase := .waking } :: after, nWatch := s.nWatch - 1 }
  | wake {s : LogState} {before after : List Reader} {r : Reader}
      (hreaders : s.readers = before ++ r :: after) (hr : r.phase = .waking)
      (hroom : s.channel.length < channelCapacity) :
      LogStep req s .wake
        { s with
          readers := before ++ { r with phase := .exited } :: after
          channel := s.channel ++ [none] }
  | receive {s : LogState} {message : Option Bytes} {rest : List (Option Bytes)}
      (hphase : s.phase = .forwarding) (hchannel : s.channel = message :: rest) :
      LogStep req s .receive
        { s with
          phase := .checking, channel := rest, response := s.response ++ req.written message }
  | checkLive {s : LogState} (hphase : s.phase = .checking) (hwatch : s.nWatch ≠ 0) :
      LogStep req s .check { s with phase := .forwarding }
  /-- no reader is counted, so all lines are in the channel -/
  | checkDone {s : LogState} (hphase : s.phase = .checking) (hwatch : s.nWatch = 0) :
      LogStep req s .check { s with phase := .draining }
  | drain {s : LogState} {message : Option Bytes} {rest : List (Option Bytes)}
      (hphase : s.phase = .draining) (hchannel : s.channel = message :: rest) :
      LogStep req s .drain
        { s with channel := rest, response := s.response ++ req.written message }
  /-- the `default` case of the last `select` -/
  | drained {s : LogState} (hphase : s.phase = .draining) (hchannel : s.channel = []) :
      LogStep req s .drain { s with phase := .returned }

/-- A request that has just come in. -/
def LogState.start (req : LogRequest) : LogState :=
  { unopened := req.pods, readers := [], nWatch := 0, channel := [], phase := .opening,
    response := [] }

def logSystem (req : LogRequest) : System LogState LogEvent where
  init s := s = .start req
  step := LogStep req

/-! ## There is no endless run -/

def Reader.work (r : Reader) : Nat :=
  match r.phase with
  | .reading rest => 4 + 3 * (logLines rest).length
  | .waking => 3
  | .exited => 0

def PodLogs.work (pod : PodLogs) : Nat :=
  match pod.stream with
  | none => 1
  | some content => 5 + 3 * (logLines content).length

def ServerPhase.work : ServerPhase → Nat
  | opening => 2
  | forwarding => 1
  | checking => 2
  | draining => 1
  | returned => 0

/-- What is left to be done. -/
def LogState.work (s : LogState) : Nat :=
  (s.unopened.map PodLogs.work).sum + (s.readers.map Reader.work).sum + 2 * s.channel.length +
    s.phase.work

/-- **Every step leaves less to be done**, so there is no endless run. -/
theorem logStep_work {req : LogRequest} {s s' : LogState} {event : LogEvent}
    (h : LogStep req s event s') : s'.work < s.work := by
  -- every step takes something away: a pod, a line, a message or a phase
  cases h with
  | @skip pod rest hphase hpods hstream =>
    simp only [LogState.work, hpods, List.map_cons, List.sum_cons, PodLogs.work, hstream]
    omega
  | @open_ pod rest content hphase hpods hstream =>
    simp only [LogState.work, hpods, List.map_cons, List.sum_cons, PodLogs.work, hstream,
      List.map_append, List.sum_append, Reader.work, List.map_nil, List.sum_nil]
    omega
  | testEmpty hphase hpods hwatch =>
    simp only [LogState.work, hphase, ServerPhase.work]
    omega
  | testLive hphase hpods hwatch =>
    simp only [LogState.work, hphase, ServerPhase.work]
    omega
  | @read before after r content line rest hreaders hr hline hroom =>
    simp only [LogState.work, hreaders, List.map_append, List.sum_append, List.map_cons,
      List.sum_cons, Reader.work, hr, logLines_of_some hline, List.length_append, List.length_cons,
      List.length_nil]
    omega
  | @finish before after r content hreaders hr hline =>
    simp only [LogState.work, hreaders, List.map_append, List.sum_append, List.map_cons,
      List.sum_cons, Reader.work, hr]
    omega
  | @wake before after r hreaders hr hroom =>
    simp only [LogState.work, hreaders, List.map_append, List.sum_append, List.map_cons,
      List.sum_cons, Reader.work, hr, List.length_append, List.length_cons, List.length_nil]
    omega
  | @receive message rest hphase hchannel =>
    simp only [LogState.work, hphase, hchannel, ServerPhase.work, List.length_cons]
    omega
  | checkLive hphase hwatch =>
    simp only [LogState.work, hphase, ServerPhase.work]
    omega
  | checkDone hphase hwatch =>
    simp only [LogState.work, hphase, ServerPhase.work]
    omega
  | @drain message rest hphase hchannel =>
    simp only [LogState.work, hchannel, List.length_cons]
    omega
  | drained hphase hchannel =>
    simp only [LogState.work, hphase, ServerPhase.work]
    omega

/-! ## What the readers have sent -/

namespace Reader

/-- The reader has not decremented the number of live readers yet. -/
def live (r : Reader) : Bool :=
  match r.phase with
  | .reading _ => true
  | .waking => false
  | .exited => false

/-- The lines that the reader sends. -/
def lines (r : Reader) : List Bytes := (logLines r.content).map (podLine r.podName)

/-- The lines that it has still to send. -/
def remaining (r : Reader) : List Bytes :=
  match r.phase with
  | .reading rest => (logLines rest).map (podLine r.podName)
  | .waking => []
  | .exited => []

def source (r : Reader) : String × Bytes := (r.podName, r.content)

theorem remaining_of_not_live {r : Reader} (h : r.live = false) : r.remaining = [] := by
  unfold live at h
  unfold remaining
  split at h
  · cases h
  · rfl
  · rfl

end Reader

/-- The lines that have been taken out of the channel and those that are in it,
each with the number of its reader. -/
structure Sent (readers : List Reader) (channel : List (Option Bytes))
    (taken rest : List (Nat × Bytes)) : Prop where
  channel : channel.filterMap id = rest.map Prod.snd
  tagged : ∀ e ∈ taken ++ rest, e.1 < readers.length
  lines : ∀ i r, readers[i]? = some r → contributed i (taken ++ rest) ++ r.remaining = r.lines

section Sent

variable {readers : List Reader} {channel channel' : List (Option Bytes)}
  {taken rest : List (Nat × Bytes)}

/-- A reader goes on, and its next lines go into the channel. -/
theorem Sent.advance {before after : List Reader} {r r' : Reader} {new : List Bytes}
    (h : Sent (before ++ r :: after) channel taken rest) (hlines : r'.lines = r.lines)
    (hremaining : r.remaining = new ++ r'.remaining)
    (hchannel : channel'.filterMap id = channel.filterMap id ++ new) :
    Sent (before ++ r' :: after) channel' taken (rest ++ new.map (Prod.mk before.length)) where
  channel := by
    rw [hchannel, h.channel, List.map_append, List.map_map]
    simp [Function.comp_def]
  tagged e he := by
    rw [← List.append_assoc] at he
    rcases List.mem_append.mp he with he | he
    · simpa using h.tagged e he
    · obtain ⟨x, -, rfl⟩ := List.mem_map.mp he
      simp
  lines i q hq := by
    rw [← List.append_assoc, contributed_append]
    have hold := h.lines i
    -- the reader that moves, or another one
    by_cases hi : i = before.length
    · -- what it had still to send is split into what it sends now and the rest
      subst hi
      rw [getElem?_append_cons_self] at hq
      obtain rfl := Option.some.inj hq
      rw [contributed_map_self, hlines, ← hold r (getElem?_append_cons_self _ _ _), hremaining,
        List.append_assoc]
    · rw [getElem?_append_cons_of_ne before after r' r hi] at hq
      rw [contributed_map_of_ne (Ne.symm hi), List.append_nil]
      exact hold q hq

/-- A new reader has sent nothing. -/
theorem Sent.start (h : Sent readers channel taken rest) {r : Reader}
    (hr : r.remaining = r.lines) : Sent (readers ++ [r]) channel taken rest where
  channel := h.channel
  tagged e he := by
    rw [List.length_append]
    exact Nat.lt_succ_of_lt (h.tagged e he)
  lines i q hq := by
    rcases Nat.lt_trichotomy i readers.length with hi | hi | hi
    · rw [List.getElem?_append_left hi] at hq
      exact h.lines i q hq
    · -- no line is attributed to a number that has not been given yet
      rw [hi, getElem?_append_cons_self] at hq
      obtain rfl := Option.some.inj hq
      rw [contributed_eq_nil fun e he => by have := h.tagged e he; omega, hr, List.nil_append]
    · rw [List.getElem?_append_right (by omega), List.getElem?_eq_none (by simp; omega)] at hq
      cases hq

/-- The forwarder takes a message out of the channel. -/
theorem Sent.take {message : Option Bytes} (h : Sent readers (message :: channel) taken rest)
    (req : LogRequest) :
    ∃ taken' rest', Sent readers channel taken' rest' ∧ (taken'.map Prod.snd).filter req.keeps =
      (taken.map Prod.snd).filter req.keeps ++ req.written message := by
  obtain ⟨hrest, htagged, hlines⟩ := h
  cases message with
  | none => exact ⟨taken, rest, ⟨hrest, htagged, hlines⟩, (List.append_nil _).symm⟩
  | some line =>
    -- the first line of the channel is the first that is attributed
    cases rest with
    | nil => cases hrest
    | cons e rest =>
      obtain ⟨hline, hrest⟩ := List.cons.inj hrest
      rw [List.append_cons] at htagged hlines
      refine ⟨taken ++ [e], rest, ⟨hrest, htagged, hlines⟩, ?_⟩
      rw [List.map_append, List.filter_append]
      show _ ++ [e.2].filter req.keeps = _ ++ if req.keeps line then [line] else []
      rw [show line = e.2 from hline, List.filter_singleton, Bool.cond_eq_ite]

/-- When the channel is empty and all readers are done, everything has been
taken. -/
theorem Sent.interleaves (h : Sent readers [] taken rest)
    (hdone : ∀ r ∈ readers, r.live = false) :
    Interleaves (readers.map Reader.lines) (taken.map Prod.snd) := by
  obtain rfl : rest = [] := List.map_eq_nil_iff.mp h.channel.symm
  have htagged := h.tagged
  have hlines := h.lines
  rw [List.append_nil] at htagged hlines
  refine ⟨taken, rfl, ?_, fun i l hl => ?_⟩
  · rw [List.length_map]
    exact htagged
  · rw [List.getElem?_map] at hl
    obtain ⟨r, hr, rfl⟩ := Option.map_eq_some_iff.mp hl
    have hremaining := Reader.remaining_of_not_live (hdone r (List.mem_of_getElem? hr))
    rw [← hlines i r hr, hremaining, List.append_nil]

end Sent

/-! ## The invariant -/

/-- What holds at every step of a request. -/
structure LogInv (req : LogRequest) (s : LogState) : Prop where
  sources : s.readers.map Reader.source ++ s.unopened.filterMap PodLogs.source =
    req.pods.filterMap PodLogs.source
  count : s.nWatch = s.readers.countP Reader.live
  unanswered : s.phase = .opening → s.response = []
  opened : s.phase ≠ .opening → s.unopened = []
  started : s.phase ≠ .opening → s.phase ≠ .returned → s.readers ≠ []
  /-- while the forwarder waits, something will come -/
  woken : s.phase = .forwarding → s.channel ≠ [] ∨ ∃ r ∈ s.readers, r.phase ≠ .exited
  /-- what is drained is all there is -/
  finished : s.phase = .draining → ∀ r ∈ s.readers, r.live = false
  sent : ∃ taken rest, Sent s.readers s.channel taken rest ∧
    (s.phase ≠ .returned → s.response = (taken.map Prod.snd).filter req.keeps)

theorem logInv_start (req : LogRequest) : LogInv req (.start req) where
  sources := rfl
  count := rfl
  unanswered _ := rfl
  opened h := absurd rfl h
  started h := absurd rfl h
  woken h := nomatch h
  finished h := nomatch h
  sent := ⟨[], [], ⟨rfl, nofun, nofun⟩, fun _ => rfl⟩

/-- The readers are live as long as they are counted. -/
theorem LogInv.exists_live {req : LogRequest} {s : LogState} (h : LogInv req s)
    (hwatch : s.nWatch ≠ 0) : ∃ r ∈ s.readers, r.live = true := by
  rw [h.count] at hwatch
  exact List.countP_pos_iff.mp (by omega)

/-- With the counter at zero no reader lives. -/
theorem LogInv.not_live {req : LogRequest} {s : LogState} (h : LogInv req s)
    (hwatch : s.nWatch = 0) : ∀ r ∈ s.readers, r.live = false := by
  rw [h.count] at hwatch
  intro r hr
  simpa using List.countP_eq_zero.mp (by omega) r hr

theorem Reader.not_exited_of_live {r : Reader} (h : r.live = true) : r.phase ≠ .exited := by
  intro hphase
  rw [Reader.live, hphase] at h
  cases h

/-- A step of a reader: it goes on to `r'` and sends the lines `new`. -/
theorem LogInv.advance {req : LogRequest} {s : LogState} (hs : LogInv req s)
    {before after : List Reader} {r r' : Reader} {nWatch : Int} {channel : List (Option Bytes)}
    (new : List Bytes) (hreaders : s.readers = before ++ r :: after)
    (hsource : r'.source = r.source) (hlive : r'.live = true → r.live = true)
    (hcount : nWatch + r.live.toNat = s.nWatch + r'.live.toNat)
    (hremaining : r.remaining = new ++ r'.remaining)
    (hchannel : channel.filterMap id = s.channel.filterMap id ++ new)
    (hwoken : channel ≠ [] ∨ r'.phase ≠ .exited) :
    LogInv req { s with readers := before ++ r' :: after, nWatch, channel } := by
  obtain ⟨taken, rest, hsent, hresponse⟩ := hs.sent
  rw [hreaders] at hsent
  -- the lines of a reader are those of its pod
  have hlines : r'.lines = r.lines :=
    congrArg (fun source : String × Bytes => (logLines source.2).map (podLine source.1)) hsource
  refine ⟨?_, ?_, hs.unanswered, hs.opened, fun _ _ => by simp, fun _ => ?_,
    fun hdraining q hq => ?_, ?_⟩
  · rw [← hs.sources, hreaders]
    simp [hsource]
  · -- the counter goes with the readers that live
    have hold := hs.count
    rw [hreaders] at hold
    simp only [List.countP_append, List.countP_cons] at hold ⊢
    cases hr : r.live <;> cases hr' : r'.live <;>
      simp only [hr, hr', Bool.toNat_true, Bool.toNat_false, if_true, if_false,
        Bool.false_eq_true] at hold hcount ⊢ <;> omega
  · rcases hwoken with hne | hexited
    · exact Or.inl hne
    · exact Or.inr ⟨r', by simp, hexited⟩
  · have hold := hs.finished hdraining
    rw [hreaders] at hold
    rcases List.mem_append.mp hq with hq | hq
    · exact hold q (List.mem_append_left _ hq)
    · rcases List.mem_cons.mp hq with rfl | hq
      · -- a reader that is done does not come back
        by_contra hq
        rw [Bool.not_eq_false] at hq
        have hr := hold r (List.mem_append_right _ List.mem_cons_self)
        rw [hlive hq] at hr
        cases hr
      · exact hold q (List.mem_append_right _ (List.mem_cons_of_mem _ hq))
  · exact ⟨taken, _, hsent.advance hlines hremaining hchannel, hresponse⟩

/-- Until the server has returned, the response is what has been taken. -/
theorem LogInv.response_eq {req : LogRequest} {s : LogState} (hs : LogInv req s)
    (hreturned : s.phase ≠ .returned) :
    ∃ taken rest, Sent s.readers s.channel taken rest ∧
      s.response = (taken.map Prod.snd).filter req.keeps := by
  obtain ⟨taken, rest, hsent, hresponse⟩ := hs.sent
  exact ⟨taken, rest, hsent, hresponse hreturned⟩

theorem LogInv.response_take {req : LogRequest} {s : LogState} (hs : LogInv req s)
    (hreturned : s.phase ≠ .returned) {message : Option Bytes} {channel : List (Option Bytes)}
    (hchannel : s.channel = message :: channel) :
    ∃ taken rest, Sent s.readers channel taken rest ∧
      s.response ++ req.written message = (taken.map Prod.snd).filter req.keeps := by
  obtain ⟨taken, rest, hsent, hresponse⟩ := hs.response_eq hreturned
  rw [hchannel] at hsent
  obtain ⟨taken', rest', hsent', htaken'⟩ := hsent.take req
  exact ⟨taken', rest', hsent', by rw [htaken', hresponse]⟩

/-- A step of the server, between its test and its return. -/
theorem LogInv.serve {req : LogRequest} {s : LogState} (hs : LogInv req s)
    (hopening : s.phase ≠ .opening) (hreturned : s.phase ≠ .returned) {phase : ServerPhase}
    {channel : List (Option Bytes)} {response : List Bytes} (hphase : phase ≠ .opening)
    (hsent : ∃ taken rest, Sent s.readers channel taken rest ∧
      response = (taken.map Prod.snd).filter req.keeps)
    (hwoken : phase = .forwarding → ∃ r ∈ s.readers, r.live = true)
    (hfinished : phase = .draining → ∀ r ∈ s.readers, r.live = false) :
    LogInv req { s with channel, phase, response } := by
  obtain ⟨taken, rest, hsent, hresponse⟩ := hsent
  refine ⟨hs.sources, hs.count, fun h => absurd h hphase, fun _ => hs.opened hopening,
    fun _ _ => hs.started hopening hreturned, fun h => ?_, hfinished,
    taken, rest, hsent, fun _ => hresponse⟩
  obtain ⟨r, hr, hlive⟩ := hwoken h
  exact Or.inr ⟨r, hr, Reader.not_exited_of_live hlive⟩

/-- **What one step keeps.** -/
theorem logStep_inv {req : LogRequest} {s s' : LogState} {event : LogEvent} (hs : LogInv req s)
    (h : LogStep req s event s') : LogInv req s' := by
  obtain ⟨taken, rest, hsent, hresponse⟩ := hs.sent
  cases h with
  | @skip pod unopened hphase hpods hstream =>
    refine ⟨?_, hs.count, hs.unanswered, fun hne => absurd hphase hne, hs.started, hs.woken,
      hs.finished, ?_⟩
    · rw [← hs.sources, hpods]
      simp [PodLogs.source, hstream]
    · exact ⟨taken, rest, hsent, hresponse⟩
  | @open_ pod unopened content hphase hpods hstream =>
    refine ⟨?_, ?_, hs.unanswered, fun hne => absurd hphase hne, fun hne => absurd hphase hne,
      ?_, ?_, ?_⟩
    · rw [← hs.sources, hpods]
      simp [PodLogs.source, hstream, Reader.source]
    · rw [hs.count]
      simp [Reader.live]
    · intro hforwarding
      cases hphase.symm.trans hforwarding
    · intro hdraining
      cases hphase.symm.trans hdraining
    · exact ⟨taken, rest, hsent.start rfl, hresponse⟩
  -- returned without waiting: nothing is claimed of the response any more
  | testEmpty hphase hpods hwatch =>
    refine ⟨hs.sources, hs.count, nofun, fun _ => hpods, fun _ hne => absurd rfl hne, nofun,
      nofun, ?_⟩
    exact ⟨taken, rest, hsent, fun hne => absurd rfl hne⟩
  | testLive hphase hpods hwatch =>
    obtain ⟨r, hr, hlive⟩ := hs.exists_live hwatch
    have hresponse := hresponse (by rw [hphase]; nofun)
    refine ⟨hs.sources, hs.count, nofun, fun _ => hpods, fun _ _ => List.ne_nil_of_mem hr,
      fun _ => Or.inr ⟨r, hr, Reader.not_exited_of_live hlive⟩, nofun, ?_⟩
    exact ⟨taken, rest, hsent, fun _ => hresponse⟩
  | @read before after r content line content' hreaders hr hline hroom =>
    refine hs.advance [podLine r.podName line] hreaders rfl ?_ ?_ ?_ ?_ (Or.inl (by simp))
    · simp [Reader.live, hr]
    · simp [Reader.live, hr]
    · simp [Reader.remaining, hr, logLines_of_some hline]
    · simp
  | @finish before after r content hreaders hr hline =>
    refine hs.advance [] hreaders rfl ?_ ?_ ?_ ?_ (Or.inr nofun)
    · simp [Reader.live]
    · simp [Reader.live, hr]
    · simp [Reader.remaining, hr, logLines_of_none hline]
    · simp
  | @wake before after r hreaders hr hroom =>
    refine hs.advance [] hreaders rfl ?_ ?_ ?_ ?_ (Or.inl (by simp))
    · simp [Reader.live]
    · simp [Reader.live, hr]
    · simp [Reader.remaining, hr]
    · simp
  | receive hphase hchannel =>
    have hreturned : s.phase ≠ .returned := by simp [hphase]
    exact hs.serve (by simp [hphase]) hreturned nofun (hs.response_take hreturned hchannel)
      nofun nofun
  | checkLive hphase hwatch =>
    have hreturned : s.phase ≠ .returned := by simp [hphase]
    exact hs.serve (by simp [hphase]) hreturned nofun (hs.response_eq hreturned)
      (fun _ => hs.exists_live hwatch) nofun
  -- no reader lives, so that what is in the channel is all there is
  | checkDone hphase hwatch =>
    have hreturned : s.phase ≠ .returned := by simp [hphase]
    exact hs.serve (by simp [hphase]) hreturned nofun (hs.response_eq hreturned) nofun
      fun _ => hs.not_live hwatch
  | drain hphase hchannel =>
    have hreturned : s.phase ≠ .returned := by simp [hphase]
    exact hs.serve (by simp [hphase]) hreturned (by simp [hphase])
      (hs.response_take hreturned hchannel) (by simp [hphase]) hs.finished
  | drained hphase hchannel =>
    have hreturned : s.phase ≠ .returned := by simp [hphase]
    exact hs.serve (by simp [hphase]) hreturned nofun (hs.response_eq hreturned) nofun nofun

/-- **The run lemma.** -/
theorem log_inv {req : LogRequest} {s : LogState} (h : (logSystem req).Reachable s) :
    LogInv req s := by
  refine h.induct (I := LogInv req) (fun s hinit => ?_) fun _ _ _ hs _ hstep =>
    logStep_inv hs hstep
  rw [show s = .start req from hinit]
  exact logInv_start req

/-! ## No request gets stuck -/

/-- A reader that has not exited goes on when there is room in the channel. -/
theorem reader_progress (req : LogRequest) {s : LogState} {r : Reader} (hr : r ∈ s.readers)
    (hexited : r.phase ≠ .exited) (hroom : s.channel.length < channelCapacity) :
    ∃ event s', LogStep req s event s' := by
  obtain ⟨before, after, hreaders⟩ := List.append_of_mem hr
  match hphase : r.phase with
  | .reading content =>
    match hline : readSlice content with
    | none => exact ⟨_, _, .finish hreaders hphase hline⟩
    | some (line, rest) => exact ⟨_, _, .read hreaders hphase hline hroom⟩
  | .waking => exact ⟨_, _, .wake hreaders hphase hroom⟩
  | .exited => exact absurd hphase hexited

/-- **Until the request is answered**, there is a next step. -/
theorem log_progress {req : LogRequest} {s : LogState} (hs : LogInv req s)
    (hreturned : s.phase ≠ .returned) : ∃ event s', LogStep req s event s' := by
  match hphase : s.phase with
  | .opening =>
    match hpods : s.unopened with
    | [] =>
      by_cases hwatch : s.nWatch = 0
      · exact ⟨_, _, .testEmpty hphase hpods hwatch⟩
      · exact ⟨_, _, .testLive hphase hpods hwatch⟩
    | pod :: rest =>
      match hstream : pod.stream with
      | none => exact ⟨_, _, .skip hphase hpods hstream⟩
      | some content => exact ⟨_, _, .open_ hphase hpods hstream⟩
  | .forwarding =>
    match hchannel : s.channel with
    | message :: rest => exact ⟨_, _, .receive hphase hchannel⟩
    | [] =>
      -- the forwarder is blocked, and some reader is not
      obtain ⟨r, hr, hexited⟩ := (hs.woken hphase).resolve_left (absurd hchannel)
      refine reader_progress req hr hexited ?_
      rw [hchannel]
      decide
  | .checking =>
    by_cases hwatch : s.nWatch = 0
    · exact ⟨_, _, .checkDone hphase hwatch⟩
    · exact ⟨_, _, .checkLive hphase hwatch⟩
  | .draining =>
    match hchannel : s.channel with
    | message :: rest => exact ⟨_, _, .drain hphase hchannel⟩
    | [] => exact ⟨_, _, .drained hphase hchannel⟩
  | .returned => exact absurd hphase hreturned

/-! ## What is answered -/

/-- When `ServeHTTP` makes its test, a reader that has been started is live. -/
def LiveAtTest (s : LogState) (event : LogEvent) : Prop :=
  event = .test → s.readers = [] ∨ ∃ r ∈ s.readers, r.live = true

/-- The lines of the streams, prefixed and filtered. -/
def LogRequest.delivered (req : LogRequest) (sources : List (String × Bytes)) :
    List (List Bytes) :=
  sources.map fun source => ((logLines source.2).map (podLine source.1)).filter req.keeps

/-- The answer to a request for which the streams `sources` have been opened. -/
def LogRequest.Answered (req : LogRequest) (sources : List (String × Bytes))
    (response : List Bytes) : Prop :=
  if sources = [] then response = [req.noPods]
  else Interleaves (req.delivered sources) response

theorem sources_opened {req : LogRequest} {s : LogState} (hs : LogInv req s)
    (hpods : s.unopened = []) :
    req.pods.filterMap PodLogs.source = s.readers.map Reader.source := by
  rw [← hs.sources, hpods]
  simp

/-- What has been written when the channel is drained. -/
theorem answered_drained {req : LogRequest} {s : LogState} (hs : LogInv req s)
    (hphase : s.phase = .draining) (hchannel : s.channel = []) :
    req.Answered (req.pods.filterMap PodLogs.source) s.response := by
  obtain ⟨taken, rest, hsent, hresponse⟩ := hs.response_eq (by simp [hphase])
  rw [hchannel] at hsent
  have hinterleaves := (hsent.interleaves (hs.finished hphase)).filter req.keeps
  rw [← hresponse, List.map_map] at hinterleaves
  rw [sources_opened hs (hs.opened (by simp [hphase])), LogRequest.Answered, if_neg]
  · rw [LogRequest.delivered, List.map_map]
    exact hinterleaves
  · rw [List.map_eq_nil_iff]
    exact hs.started (by simp [hphase]) (by simp [hphase])

/-- The step that returns answers the request, unless it is a test that finds
readers and none of them live. -/
theorem logStep_answered {req : LogRequest} {s s' : LogState} {event : LogEvent}
    (hs : LogInv req s) (hold : s.phase = .returned →
      req.Answered (req.pods.filterMap PodLogs.source) s.response)
    (hlive : LiveAtTest s event) (h : LogStep req s event s') (hphase' : s'.phase = .returned) :
    req.Answered (req.pods.filterMap PodLogs.source) s'.response := by
  cases h with
  | testEmpty hphase hpods hwatch =>
    -- the counter is 0, so the condition leaves only the case of no reader at all
    rcases hlive rfl with hnone | ⟨r, hr, hr'⟩
    · rw [sources_opened hs hpods, hnone]
      show s.response ++ [req.noPods] = [req.noPods]
      rw [hs.unanswered hphase, List.nil_append]
    · rw [hs.not_live hwatch r hr] at hr'
      cases hr'
  | drained hphase hchannel =>
    have hanswered := answered_drained hs hphase hchannel
    exact hanswered
  | skip hphase | open_ hphase => cases hphase.symm.trans hphase'
  | drain hphase => cases hphase.symm.trans hphase'
  | testLive | receive | checkLive | checkDone => cases hphase'
  | read | finish | wake => exact hold hphase'

/-- A test that finds readers and none of them live. -/
theorem response_lost {req : LogRequest} {s s' : LogState} (hs : LogInv req s)
    (hlost : ¬ LiveAtTest s .test) (h : LogStep req s .test s') :
    s'.phase = .returned ∧ s'.response = [req.noPods] ∧
      req.pods.filterMap PodLogs.source ≠ [] := by
  have hreaders : s.readers ≠ [] := fun hnone => hlost fun _ => Or.inl hnone
  cases h with
  | testEmpty hphase hpods hwatch =>
    refine ⟨rfl, ?_, ?_⟩
    · show s.response ++ [req.noPods] = [req.noPods]
      rw [hs.unanswered hphase, List.nil_append]
    · rw [sources_opened hs hpods]
      exact fun hnone => hreaders (List.map_eq_nil_iff.mp hnone)
  | testLive hphase hpods hwatch => exact absurd (fun _ => Or.inr (hs.exists_live hwatch)) hlost

/-- The answer in a run whose test finds a live reader. -/
theorem log_answered {req : LogRequest} {s : LogState}
    (h : (logSystem req).ReachableUnder LiveAtTest s) (hphase : s.phase = .returned) :
    req.Answered (req.pods.filterMap PodLogs.source) s.response := by
  have hinv : LogInv req s ∧ (s.phase = .returned →
      req.Answered (req.pods.filterMap PodLogs.source) s.response) := by
    refine h.induct (I := fun s => LogInv req s ∧ (s.phase = .returned →
      req.Answered (req.pods.filterMap PodLogs.source) s.response)) (fun s hinit => ?_) ?_
    · rw [show s = .start req from hinit]
      exact ⟨logInv_start req, nofun⟩
    · intro s event s' hs hlive hstep
      exact ⟨logStep_inv hs.1 hstep, logStep_answered hs.1 hs.2 hlive hstep⟩
  exact hinv.2 hphase

/-- Streams of lines are delivered line by line. -/
theorem delivered_flatten (req : LogRequest) {streams : List (String × List Bytes)}
    (hlines : ∀ stream ∈ streams, ∀ line ∈ stream.2, IsLogLine line) :
    req.delivered (streams.map fun stream => (stream.1, stream.2.flatten)) =
      streams.map fun stream => (stream.2.map (podLine stream.1)).filter req.keeps := by
  rw [LogRequest.delivered, List.map_map]
  refine List.map_congr_left fun stream hstream => ?_
  show ((logLines stream.2.flatten).map _).filter _ = _
  rw [logLines_flatten (hlines stream hstream)]

/-- **Logs are delivered when a reader is live at the test.** The streams that
open consist of lines. Every request comes to its end, whatever the order of the
steps. When the test of `ServeHTTP` finds a reader live, or there is none, the
answer consists of the lines of all streams, prefixed and filtered, each stream in
its order; that there is no running pod is answered if no stream was opened. A
test that finds only readers that are through with their streams gives that answer
too. -/
theorem logs_delivered (req : LogRequest) (streams : List (String × List Bytes))
    (hopened : req.pods.filterMap PodLogs.source =
      streams.map fun stream => (stream.1, stream.2.flatten))
    (hlines : ∀ stream ∈ streams, ∀ line ∈ stream.2, IsLogLine line) :
    (∀ s event s', LogStep req s event s' → s'.work < s.work) ∧
      (∀ s, (logSystem req).Reachable s → s.phase ≠ .returned →
        ∃ event s', LogStep req s event s') ∧
      (∀ s, (logSystem req).ReachableUnder LiveAtTest s → s.phase = .returned →
        if streams = [] then s.response = [req.noPods]
        else Interleaves
          (streams.map fun stream => (stream.2.map (podLine stream.1)).filter req.keeps)
          s.response) ∧
      ∀ s s', (logSystem req).Reachable s → ¬ LiveAtTest s .test → LogStep req s .test s' →
        s'.phase = .returned ∧ s'.response = [req.noPods] ∧ streams ≠ [] := by
  refine ⟨fun _ _ _ hstep => logStep_work hstep, fun s hs => log_progress (log_inv hs),
    fun s hs hphase => ?_, fun s s' hs hlost hstep => ?_⟩
  · have hanswered := log_answered hs hphase
    rw [hopened, LogRequest.Answered, delivered_flatten req hlines] at hanswered
    simpa only [List.map_eq_nil_iff] using hanswered
  · have hresponse := response_lost (log_inv hs) hlost hstep
    rw [hopened] at hresponse
    simpa only [ne_eq, List.map_eq_nil_iff] using hresponse

/-- After the test there is no other one. -/
theorem LogStep.after_test {req : LogRequest} {s s' : LogState} {event : LogEvent}
    (h : LogStep req s event s') (hphase : s.phase ≠ .opening) :
    event ≠ .test ∧ s'.phase ≠ .opening := by
  cases h with
  | skip hopening => exact absurd hopening hphase
  | open_ hopening => exact absurd hopening hphase
  | testEmpty hopening => exact absurd hopening hphase
  | testLive hopening => exact absurd hopening hphase
  | read => exact ⟨nofun, hphase⟩
  | finish => exact ⟨nofun, hphase⟩
  | wake => exact ⟨nofun, hphase⟩
  | receive => exact ⟨nofun, nofun⟩
  | checkLive => exact ⟨nofun, nofun⟩
  | checkDone => exact ⟨nofun, nofun⟩
  | drain => exact ⟨nofun, hphase⟩
  | drained => exact ⟨nofun, nofun⟩

/-- A request that has passed the test comes to its end. -/
theorem exists_returned {req : LogRequest} {s : LogState}
    (hs : (logSystem req).ReachableUnder LiveAtTest s) (hphase : s.phase ≠ .opening) :
    ∃ s', (logSystem req).ReachableUnder LiveAtTest s' ∧ s'.phase = .returned := by
  -- every step leaves less to be done
  induction hwork : s.work using Nat.strong_induction_on generalizing s with
  | _ work ih =>
    by_cases hreturned : s.phase = .returned
    · exact ⟨s, hs, hreturned⟩
    · obtain ⟨event, s', hstep⟩ := log_progress (log_inv hs.reachable) hreturned
      obtain ⟨hevent, hphase'⟩ := hstep.after_test hphase
      exact ih s'.work (hwork ▸ logStep_work hstep)
        (.step hs (fun htest => absurd htest hevent) hstep) hphase' rfl

/-- Two pods that have logged three lines each; lines with the letter `o` are asked for. -/
def replicaStreams : List (String × List Bytes) :=
  [("web-0", [[104, 105, 10], [110, 111, 10], [115, 111, 10]]),
    ("web-1", [[111, 107, 10], [104, 109, 10], [103, 111, 10]])]

def replicaLogs : LogRequest :=
  { namespace_ := "default", name := "web", filter := some fun line => line.contains 111
    pods := replicaStreams.map fun stream =>
      { name := stream.1, stream := some stream.2.flatten } }

/-- The lines are delivered, those of each pod in their order, when the test comes before the
readers are done, -/
theorem logs_delivered_replicaLogs :
    ∃ s, (logSystem replicaLogs).ReachableUnder LiveAtTest s ∧ s.phase = .returned ∧
      Interleaves [[podLine "web-0" [110, 111, 10], podLine "web-0" [115, 111, 10]],
        [podLine "web-1" [111, 107, 10], podLine "web-1" [103, 111, 10]]] s.response := by
  have hfirst : (logSystem replicaLogs).ReachableUnder LiveAtTest _ :=
    .step (.init rfl) (by nofun) (LogStep.open_ (s := .start replicaLogs) rfl rfl rfl)
  have hsecond : (logSystem replicaLogs).ReachableUnder LiveAtTest _ :=
    .step hfirst (by nofun) (LogStep.open_ rfl rfl rfl)
  -- both readers are alive when the counter is tested
  have hforwarding : (logSystem replicaLogs).ReachableUnder LiveAtTest _ :=
    .step hsecond (fun _ => Or.inr ⟨_, List.mem_cons_self, rfl⟩)
      (LogStep.testLive rfl rfl (by decide))
  obtain ⟨s, hs, hreturned⟩ := exists_returned hforwarding nofun
  -- each line of the example is whole and fits in the buffer
  have hlines : ∀ stream ∈ replicaStreams, ∀ line ∈ stream.2,
      line = line.take 2 ++ [newline] ∧ newline ∉ line.take 2 ∧ line.length < bufferSize := by
    decide
  have hdelivered := (logs_delivered replicaLogs replicaStreams rfl fun stream hstream line hline =>
    ⟨_, hlines stream hstream line hline⟩).2.2.1 s hs hreturned
  exact ⟨s, hs, hreturned, hdelivered⟩

/-- One pod, which has logged one line. -/
def webLogs : LogRequest :=
  { namespace_ := "default", name := "web", filter := none
    pods := [{ name := "web-0", stream := some [104, 105, 10] }] }

/-- The reader of its stream. -/
def webReader (phase : ReaderPhase) : Reader :=
  { podName := "web-0", content := [104, 105, 10], phase }

/-- The reader has been started. -/
def webState (phase : ReaderPhase) (nWatch : Int) (channel : List (Option Bytes))
    (server : ServerPhase) (response : List Bytes) : LogState :=
  { unopened := [], readers := [webReader phase], nWatch, channel, phase := server, response }

/-- The reader may be done before the test. -/
theorem webLogs_read : (logSystem webLogs).Reachable
    (webState .waking 0 [some (podLine "web-0" [104, 105, 10])] .opening []) := by
  have hopen : LogStep webLogs (.start webLogs) .open_
      (webState (.reading [104, 105, 10]) 1 [] .opening []) :=
    @LogStep.open_ _ _ { name := "web-0", stream := some [104, 105, 10] } [] _ rfl rfl rfl
  have hread : LogStep webLogs (webState (.reading [104, 105, 10]) 1 [] .opening []) .read
      (webState (.reading []) 1 [some (podLine "web-0" [104, 105, 10])] .opening []) :=
    @LogStep.read _ _ [] [] (webReader (.reading [104, 105, 10])) [104, 105, 10] [104, 105, 10] []
      rfl rfl (by decide) (Nat.zero_lt_succ 99)
  have hfinish : LogStep webLogs
      (webState (.reading []) 1 [some (podLine "web-0" [104, 105, 10])] .opening []) .finish
      (webState .waking 0 [some (podLine "web-0" [104, 105, 10])] .opening []) :=
    @LogStep.finish _ _ [] [] (webReader (.reading [])) [] rfl rfl rfl
  exact .step (.step (.step (.init rfl) trivial hopen) trivial hread) trivial hfinish

/-- A line is lost when its reader is done before the first test. -/
theorem short_log_lost :
    IsLogLine [104, 105, 10] ∧ ∃ s, (logSystem webLogs).Reachable s ∧ s.phase = .returned ∧
      s.response = [webLogs.noPods] ∧
      ¬ Interleaves [[podLine "web-0" [104, 105, 10]]] s.response := by
  have hreturned : (logSystem webLogs).Reachable (webState .waking 0
      [some (podLine "web-0" [104, 105, 10])] .returned [webLogs.noPods]) :=
    .step webLogs_read trivial (.testEmpty rfl rfl rfl)
  have hline : IsLogLine [104, 105, 10] := ⟨[104, 105], rfl, by decide, by decide⟩
  refine ⟨hline, _, hreturned, rfl, rfl, fun hinterleaves => ?_⟩
  obtain ⟨lines, hlines, hmem⟩ := hinterleaves.exists_mem (List.mem_singleton.mpr rfl)
  rw [List.mem_singleton.mp hlines] at hmem
  have hne : webLogs.noPods ≠ podLine "web-0" [104, 105, 10] := by decide
  exact hne (List.mem_singleton.mp hmem)

end ComposeKube
