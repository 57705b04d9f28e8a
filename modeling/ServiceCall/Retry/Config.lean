import ServiceCall.Retry.Mode
import ServiceCall.Text.Utf8

/-!
# Retry settings

The mode and the most attempts that a client is set up with.  Two environment variables override
them; one that is not set, is blank or is not text leaves its setting alone.
-/

namespace ServiceCall

structure RetryConfig where
  mode : RetryMode
  limit : Option Nat
  deriving DecidableEq, Inhabited

namespace RetryConfig

/-- The most attempts in effect. -/
def effectiveLimit (c : RetryConfig) : Nat := max 1 (c.limit.getD c.mode.defaultLimit)

/-- A variable's text, if it says anything. -/
def settingText (value : Option Bytes) : Option Text :=
  (value.bind Utf8.decode?).filter fun text => !Text.isBlankText text

/-- The number of attempts that a text names. -/
def limitOf (text : Text) : Except Failure Nat :=
  match Numeral.word? (Text.trim text) with
  | none => .error (.configuration .attemptLimitNotNumber)
  | some 0 => .error (.configuration .attemptLimitZero)
  | some n => .ok n

/-- The settings with those of the environment over them. -/
def override (c : RetryConfig) (mode limit : Option Bytes) : Except Failure RetryConfig := do
  let mode ← match settingText mode with
    | some text => RetryMode.parse text
    | none => .ok c.mode
  let limit ← match settingText limit with
    | some text => (limitOf text).map some
    | none => .ok c.limit
  pure ⟨mode, limit⟩

end RetryConfig

end ServiceCall
