import Mathlib.Data.List.TakeWhile
import ComposeKube.Lib.Strings
import ComposeKube.Registry.LogStream

/-!
# What a log reader sends

The reader goroutine of `streamLogs`, by itself: it calls `ReadSlice` until that
reports an error, and sends what it has read before. `ReadSlice` returns bytes
together with an error in two cases, when the stream ends in the middle of a line
(`io.EOF`) and when the buffer is full without a newline in it (`ErrBufferFull`).
The loop leaves in both cases without looking at the bytes, and in the second one
there may be more lines to come.

* `readSliceResult_eq` — the calls that do not fail, in terms of `readSlice`.
* `logLines_flatten_iff` — which streams are read to the last byte.
* `readerMessages_whole_iff` — what the messages add up to.
-/

namespace ComposeKube

open Go

/-! ## ReadSlice with its errors -/

inductive ReadError where
  | eof
  | bufferFull
  deriving DecidableEq

/-- `ReadSlice` on what is left of a stream: the bytes that it returns, its error,
and what is left afterwards. The buffer holds the first `bufferSize` bytes. -/
def readSliceResult (content : Bytes) : Bytes × Option ReadError × Bytes :=
  match (content.take bufferSize).span (· ≠ newline) with
  | (text, delim :: _) => (text ++ [delim], none, content.drop (text.length + 1))
  -- no delimiter in the buffer: it is full, or the stream is at its end
  | (_, []) =>
    if bufferSize ≤ content.length then
      (content.take bufferSize, some .bufferFull, content.drop bufferSize)
    else (content, some .eof, [])

/-- A stream has no newline, or is a first line and a rest. -/
theorem content_cases (content : Bytes) :
    newline ∉ content ∨
      ∃ text rest, content = text ++ newline :: rest ∧ newline ∉ text := by
  by_cases hmem : newline ∈ content
  · obtain ⟨text, rest, heq, htext⟩ := List.eq_append_cons_of_mem hmem
    exact Or.inr ⟨text, rest, heq, htext⟩
  · exact Or.inl hmem

/-- Without a newline there is no line. -/
theorem readSlice_of_notMem {content : Bytes} (h : newline ∉ content) :
    readSlice content = none := by
  unfold readSlice
  rw [span_of_notMem h]

/-- A first line is read when it fits into the buffer, its newline included. -/
theorem readSlice_line {text : Bytes} (htext : newline ∉ text) (rest : Bytes) :
    readSlice (text ++ newline :: rest) =
      if text.length < bufferSize then some (text ++ [newline], rest) else none := by
  unfold readSlice
  rw [span_append_cons htext]
  rfl

/-- The buffer holds a line that fits. -/
theorem readSliceResult_line {text : Bytes} (htext : newline ∉ text)
    (hfits : text.length < bufferSize) (rest : Bytes) :
    readSliceResult (text ++ newline :: rest) = (text ++ [newline], none, rest) := by
  have hbuffer : (text ++ newline :: rest).take bufferSize =
      text ++ newline :: rest.take (bufferSize - text.length - 1) := by
    obtain ⟨n, hn⟩ : ∃ n, bufferSize - text.length = n + 1 :=
      ⟨bufferSize - text.length - 1, by omega⟩
    rw [List.take_append, List.take_of_length_le (by omega), hn, List.take_succ_cons,
      Nat.add_sub_cancel]
  have hdrop : (text ++ newline :: rest).drop (text.length + 1) = rest := by
    rw [List.drop_append]
    simp
  unfold readSliceResult
  rw [hbuffer, span_append_cons htext]
  dsimp only
  rw [hdrop]

/-- Without a newline in the buffer there is an error. -/
theorem readSliceResult_error {content : Bytes} (h : newline ∉ content.take bufferSize) :
    ∃ input err rest, readSliceResult content = (input, some err, rest) := by
  unfold readSliceResult
  rw [span_of_notMem h]
  dsimp only
  split
  · exact ⟨_, _, _, rfl⟩
  · exact ⟨_, _, _, rfl⟩

/-- **Where `ReadSlice` reports no error** it returns a line, and `readSlice` has
it; where it does, `readSlice` has nothing. -/
theorem readSliceResult_eq (content : Bytes) :
    readSlice content =
      match readSliceResult content with
      | (line, none, rest) => some (line, rest)
      | (_, some _, _) => none := by
  rcases content_cases content with hnone | ⟨text, rest, rfl, htext⟩
  · -- nothing to find, in the buffer or elsewhere
    obtain ⟨input, err, rest, hresult⟩ :=
      readSliceResult_error fun h => hnone (List.mem_of_mem_take h)
    rw [readSlice_of_notMem hnone, hresult]
  · rw [readSlice_line htext]
    by_cases hfits : text.length < bufferSize
    · rw [if_pos hfits, readSliceResult_line htext hfits]
    · -- the buffer is full of text
      have hbuffer : newline ∉ (text ++ newline :: rest).take bufferSize := by
        rw [List.take_append_of_le_length (Nat.le_of_not_lt hfits)]
        exact fun h => htext (List.mem_of_mem_take h)
      obtain ⟨input, err, rest', hresult⟩ := readSliceResult_error hbuffer
      rw [if_neg hfits, hresult]

/-! ## The reader -/

/-- A call that succeeds leaves less of the stream. -/
theorem length_readSliceResult {content input rest : Bytes}
    (h : readSliceResult content = (input, none, rest)) : rest.length < content.length := by
  have hslice := readSliceResult_eq content
  rw [h] at hslice
  exact length_readSlice hslice

/-- The messages of the reader goroutine: the loop of `streamLogs`, which leaves at
any error, and the nil after it. -/
def readerMessages (podName : String) (content : Bytes) : List (Option Bytes) :=
  match h : readSliceResult content with
  -- the bytes that come with the error are not sent
  | (_, some _, _) => [none]
  | (input, none, rest) =>
    have := length_readSliceResult h
    some (podLine podName input) :: readerMessages podName rest
termination_by content.length

/-- The reader sends the lines it gets, and a nil. -/
theorem readerMessages_eq (podName : String) (content : Bytes) :
    readerMessages podName content =
      (logLines content).map (fun line => some (podLine podName line)) ++ [none] := by
  induction hn : content.length using Nat.strong_induction_on generalizing content with
  | _ n ih =>
    have hslice := readSliceResult_eq content
    rw [readerMessages]
    split
    case h_1 heq =>
      rw [heq] at hslice
      rw [logLines_of_none hslice]
      rfl
    case h_2 input rest heq =>
      rw [heq] at hslice
      have hless := length_readSlice hslice
      rw [ih rest.length (by omega) rest rfl, logLines_of_some hslice]
      rfl

/-- What the messages that are not nil say, without the name of the pod. -/
def unprefixed (podName : String) (messages : List (Option Bytes)) : Bytes :=
  (messages.filterMap id).flatMap fun message =>
    message.drop (bytesOf (podName ++ " ")).length

theorem drop_podLine (podName : String) (line : Bytes) :
    (podLine podName line).drop (bytesOf (podName ++ " ")).length = line := by
  rw [podLine, List.drop_left]

/-- The messages add up to the lines. -/
theorem unprefixed_readerMessages (podName : String) (content : Bytes) :
    unprefixed podName (readerMessages podName content) = (logLines content).flatten := by
  rw [unprefixed, readerMessages_eq]
  induction logLines content with
  | nil => rfl
  | cons line rest ih =>
    simp only [List.map_cons, List.cons_append, List.filterMap_cons, id_eq, List.flatMap_cons,
      List.flatten_cons, drop_podLine]
    exact congrArg (line ++ ·) ih

/-! ## Which logs are sent whole -/

/-- Every line ends with a newline, and fits into the buffer together with it. -/
structure LinesFit (content : Bytes) : Prop where
  ended : content = [] ∨ content.getLast? = some newline
  short : ∀ text ∈ content.splitOn newline, text.length < bufferSize

theorem linesFit_of_notMem {content : Bytes} (h : newline ∉ content) :
    LinesFit content ↔ content = [] := by
  constructor
  · rintro ⟨hended, -⟩
    refine hended.resolve_right fun hlast => ?_
    exact h (List.mem_of_getLast? hlast)
  · rintro rfl
    refine ⟨Or.inl rfl, ?_⟩
    decide

/-- A first line, and the lines after it. -/
theorem linesFit_append {text : Bytes} (htext : newline ∉ text) (rest : Bytes) :
    LinesFit (text ++ newline :: rest) ↔ text.length < bufferSize ∧ LinesFit rest := by
  -- the first newline ends the text
  have hsplit : (text ++ newline :: rest).splitOn newline = text :: rest.splitOn newline := by
    rw [splitOn_append_cons, List.splitOn_eq_singleton htext]
    rfl
  have hlast : (text ++ newline :: rest).getLast? = some newline ↔
      rest = [] ∨ rest.getLast? = some newline := by
    cases rest with
    | nil => simp
    | cons b rest => simp
  have hne : text ++ newline :: rest ≠ [] := by simp
  constructor
  · rintro ⟨hended, hshort⟩
    rw [hsplit, List.forall_mem_cons] at hshort
    exact ⟨hshort.1, hlast.mp (hended.resolve_left hne), hshort.2⟩
  · rintro ⟨hfits, hended, hshort⟩
    refine ⟨Or.inr (hlast.mpr hended), ?_⟩
    rw [hsplit, List.forall_mem_cons]
    exact ⟨hfits, hshort⟩

/-- **Which streams are read to the last byte.** By induction on what is left of
the stream. -/
theorem logLines_flatten_iff (content : Bytes) :
    (logLines content).flatten = content ↔ LinesFit content := by
  induction hn : content.length using Nat.strong_induction_on generalizing content with
  | _ n ih =>
    rcases content_cases content with hnone | ⟨text, rest, rfl, htext⟩
    · -- a last line without a newline: nothing is sent of it
      rw [logLines_of_none (readSlice_of_notMem hnone), linesFit_of_notMem hnone]
      exact eq_comm
    · rw [linesFit_append htext]
      have hslice := readSlice_line htext rest
      by_cases hfits : text.length < bufferSize
      · rw [if_pos hfits] at hslice
        have hrest : rest.length < n := by
          rw [← hn, List.length_append, List.length_cons]
          omega
        rw [logLines_of_some hslice, ← ih rest.length hrest rest rfl]
        simp [hfits]
      · -- the reader gives up at the long line, whatever comes after it
        rw [if_neg hfits] at hslice
        rw [logLines_of_none hslice]
        simp [hfits]

/-- **The messages of a reader are the whole log exactly when every line of it
ends with a newline and fits into the buffer.** -/
theorem readerMessages_whole_iff (podName : String) (content : Bytes) :
    unprefixed podName (readerMessages podName content) = content ↔ LinesFit content := by
  rw [unprefixed_readerMessages]
  exact logLines_flatten_iff content

/-- **Bytes are dropped**: the last line of a log that does not end with a newline,
and all of a log that begins with a line longer than the buffer. -/
theorem readerMessages_drops :
    unprefixed "web-0" (readerMessages "web-0" [104, 105, 10, 98, 121]) = [104, 105, 10] ∧
      unprefixed "web-0" (readerMessages "web-0"
        (List.replicate 4096 97 ++ [10, 104, 105, 10])) = [] := by
  have hline : readSlice [104, 105, 10, 98, 121] = some ([104, 105, 10], [98, 121]) := by decide
  have hend : readSlice [98, 121] = none := by decide
  have hlong : readSlice (List.replicate 4096 97 ++ [10, 104, 105, 10]) = none := by
    have hmem : newline ∉ List.replicate 4096 97 := by
      rw [List.mem_replicate]
      decide
    refine (readSlice_line hmem [104, 105, 10]).trans ?_
    rw [List.length_replicate]
    rfl
  constructor
  · rw [unprefixed_readerMessages, logLines_of_some hline, logLines_of_none hend]
    rfl
  · rw [unprefixed_readerMessages, logLines_of_none hlong]
    rfl

end ComposeKube
