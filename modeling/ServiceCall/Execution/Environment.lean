import ServiceCall.Classification

/-!
# Environments

Everything outside of a client that an execution depends on, as functions of a state of the world:
the local clock, the time that has elapsed since the call began, random draws, the caller's wish to
cancel, and the transport.  A reading may change the world, since time passes between any two.
Cancellation is looked at without changing anything, so that the same world can be run without it.
-/

namespace ServiceCall

structure Environment (σ : Type) where
  now : σ → Instant × σ
  elapsed : σ → Duration × σ
  /-- A random number; it is used modulo what is needed. -/
  draw : σ → Nat × σ
  /-- Whether the caller has cancelled the call. -/
  cancelled : σ → Bool
  /-- What an observer does when it is told of the start of an attempt. -/
  notice : Nat → σ → σ
  send : Http.Request → Duration → σ → Reply × σ
  /-- The world at the time of cancellation, if that comes before the reply. -/
  interruptsSend : Http.Request → Duration → σ → Option σ
  sleep : Duration → σ → σ
  /-- The world at the time of cancellation, if that comes before the end of the sleep. -/
  interruptsSleep : Duration → σ → Option σ

/-- The same environment with a caller who never cancels. -/
def Environment.uncancelled {σ : Type} (env : Environment σ) : Environment σ :=
  { env with
    cancelled := fun _ => false
    interruptsSend := fun _ _ _ => none
    interruptsSleep := fun _ _ => none }

end ServiceCall
