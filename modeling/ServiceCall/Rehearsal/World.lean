import ServiceCall.Execution.Environment

/-!
# Rehearsed worlds

A world without a network: the transport follows a script, the local clock is set by hand, and time
runs on two lines.  Waiting moves a virtual line of whole milliseconds, on which the caller may
cancel; only time that is really spent counts as elapsed, and one nanosecond has passed whenever it
is read.
-/

namespace ServiceCall.Rehearsal

/-- What the script gives back for a request. -/
inductive Cue where
  | reply (r : Reply)
  /-- The reply of a transport that waited for as long as it was given. -/
  | timeout
  /-- No reply ever. -/
  | hang
  deriving DecidableEq

/-- When the caller cancels, as seen from a reply. -/
inductive CancelTime where
  | before
  | after
  deriving DecidableEq

/-- One line of a script, with what happens before its reply: a wait on the virtual line, time that
is spent, and a step of the local clock. -/
structure Line where
  cue : Cue
  cancel : Option CancelTime
  takes : Duration
  spends : Duration
  advance : Duration
  deriving DecidableEq

/-- A line that is nothing but its reply. -/
def Line.of (cue : Cue) : Line := ⟨cue, none, .zero, .zero, .zero⟩

structure World where
  clock : Instant
  /-- The virtual time in milliseconds. -/
  virtual : Nat
  /-- The time really spent since the call began. -/
  spent : Duration
  cancelled : Bool
  /-- The virtual time at which the caller cancels. -/
  cancelsAt : Option Nat
  script : List Line
  /-- The attempt at whose start an observer spends time, and how much. -/
  stall : Option (Nat × Duration)

namespace World

/-- The milliseconds of the longest wait: thirty years of 365 days. -/
def longestWait : Nat := 30 * 365 * 86400 * 1000

/-- The whole milliseconds of a wait: those that cover the duration asked for, up to the longest
wait. -/
def waitMillis (d : Duration) : Nat := min ((d.nanos + 999999) / 1000000) longestWait

def isCancelled (w : World) : Bool :=
  w.cancelled || (w.cancelsAt.map fun t => decide (t < w.virtual)).getD false

/-- Whether the caller cancels before a given virtual time. -/
def cancelsBefore (w : World) (time : Nat) : Bool :=
  w.cancelled || (w.cancelsAt.map fun t => decide (t < time)).getD false

/-- The world at the time of cancellation. -/
def atCancellation (w : World) : World :=
  { w with virtual := max w.virtual (w.cancelsAt.getD w.virtual), cancelled := true }

/-- The line that answers the next request. -/
def line (w : World) : Line :=
  w.script.headD (.of (.reply (.broken .other "script exhausted".toList)))

def notice (attempt : Nat) (w : World) : World :=
  match w.stall with
  | some (number, time) =>
    if number = attempt then { w with spent := w.spent + time } else w
  | none => w

/-- The world in which a request is answered, and the answer. -/
def send (limit : Duration) (w : World) : Reply × World :=
  let line := w.line
  let reply := match line.cue with
    | .reply r => r
    | .timeout | .hang => Reply.timeout limit
  let w := { w with
    script := w.script.drop 1
    virtual := w.virtual + waitMillis line.takes
    spent := w.spent + line.spends
    clock := (w.clock.add? line.advance).getD w.clock
    cancelled := w.cancelled || line.cancel = some .after }
  (reply, w)

/-- Cancellation of a request: at once, while it waits, or because it never is answered. -/
def interruptsSend (w : World) : Option World :=
  let line := w.line
  let taken := { w with script := w.script.drop 1 }
  if line.cancel = some .before then some { taken with cancelled := true }
  else if w.cancelsBefore (w.virtual + waitMillis line.takes)
      || (line.cue = .hang && w.cancelsAt.isSome) then
    some taken.atCancellation
  else none

def sleep (wait : Duration) (w : World) : World :=
  { w with virtual := w.virtual + waitMillis wait }

def interruptsSleep (wait : Duration) (w : World) : Option World :=
  if w.cancelsBefore (w.virtual + waitMillis wait) then some w.atCancellation else none

end World

/-- The environment of a rehearsal.  Draws are always one, so that a drawn wait passes some time. -/
def environment : Environment World :=
  { now := fun w => (w.clock, w)
    elapsed := fun w => (w.spent + ⟨1⟩, w)
    draw := fun w => (1, w)
    cancelled := World.isCancelled
    notice := World.notice
    send := fun _ limit w => w.send limit
    interruptsSend := fun _ _ w => w.interruptsSend
    sleep := World.sleep
    interruptsSleep := World.interruptsSleep }

end ServiceCall.Rehearsal
