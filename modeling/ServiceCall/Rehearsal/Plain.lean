import ServiceCall.Execution.Loop
import ServiceCall.Rehearsal.World

/-!
# Plain rehearsals

The least that an execution needs: a client with one endpoint and no signature, a call and a
response without a body, a world whose script is a list of replies, and a world that is nothing but
the number of replies so far.
-/

namespace ServiceCall.Rehearsal

def plainClient {τ : Type} (strategy : RetryStrategy τ) : Client τ :=
  { name := "plain".toList
    defaults := .standard
    endpoints := .fixed "http://localhost".toList
    signers := .new .null
    strategy
    corrector := .standard
    classifier := CodeTable.standard.classifier
    metricsEnabled := false }

def plainCall : Call := .new .get "/".toList

def plainResponse : Http.Response := ⟨⟨200, by decide, by decide⟩, .empty, []⟩

/-- Fields with one value. -/
def only (name : HeaderName) (value : Text)
    (hvalid : (Utf8.encode value).all isFieldByte = true) : Fields :=
  ⟨[(name, ⟨Utf8.encode value, hvalid, false⟩)]⟩

/-- A refusal by a service whose clock is an hour ahead of the start of 1970. -/
def hourAhead : Http.Response :=
  ⟨.badRequest, only .date "Thu, 01 Jan 1970 01:00:00 GMT".toList (by decide +kernel), []⟩

/-- A refusal by a busy service that asks for a wait until five seconds past the start of 1970. -/
def busyForFive : Http.Response :=
  ⟨⟨503, by decide, by decide⟩,
    only .retryAfter "Thu, 01 Jan 1970 00:00:05 GMT".toList (by decide +kernel), []⟩

theorem lower_ticking (millis : Fin 86400000) (w : World) :
    -Instant.limit ≤ ((min w.virtual 86400000 + millis : Nat) : Int) * 1000000 := by
  simp only [Instant.limit]
  omega

theorem upper_ticking (millis : Fin 86400000) (w : World) :
    ((min w.virtual 86400000 + millis : Nat) : Int) * 1000000 < Instant.limit := by
  simp only [Instant.limit]
  omega

/-- A clock that goes with the virtual time for a day, and is some milliseconds ahead of it. -/
def ticking (millis : Fin 86400000) (w : World) : Instant × World :=
  (⟨((min w.virtual 86400000 + millis : Nat) : Int) * 1000000, lower_ticking millis w,
    upper_ticking millis w⟩, w)

def World.replying (replies : List Reply) : World :=
  { clock := .epoch
    virtual := 0
    spent := .zero
    cancelled := false
    cancelsAt := none
    script := replies.map fun reply => .of (.reply reply)
    stall := none }

def plainMachine {τ : Type} (strategy : τ) (replies : List Reply) : Machine τ World :=
  ⟨.replying replies, strategy, .new, 0⟩

/-- A transport that gives the outcomes of a sequence one after the other, while all clocks stand
still.  The world is the number of those that it has given. -/
def scripted (outcomes : Nat → Reply) : Environment Nat :=
  { now := fun given => (.epoch, given)
    elapsed := fun given => (.zero, given)
    draw := fun given => (0, given)
    cancelled := fun _ => false
    notice := fun _ given => given
    send := fun _ _ given => (outcomes given, given + 1)
    interruptsSend := fun _ _ _ => none
    sleep := fun _ given => given
    interruptsSleep := fun _ _ => none }

end ServiceCall.Rehearsal
