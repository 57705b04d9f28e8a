import ServiceCall.Http.Visible
import ServiceCall.Time.Stamp

/-!
# Attempt information

What an attempt tells the service about itself: its number, the most attempts the call may take, and
after the first attempt the time until which the client will wait.  The three are written as named
parts between semicolons; a part is found again by its name.
-/

namespace ServiceCall

structure AttemptInfo where
  attempt : Nat
  limit : Nat
  deadline : Option Instant
  deriving DecidableEq

namespace AttemptInfo

/-- The information of a first attempt.  A call has at least one attempt. -/
def first (limit : Nat) : AttemptInfo := ⟨1, max 1 limit, none⟩

def text (i : AttemptInfo) : Text :=
  "attempt=".toList ++ Numeral.ofNat i.attempt ++ "; max=".toList ++ Numeral.ofNat i.limit
    ++ (match i.deadline with
      | some t => "; ttl=".toList ++ Stamp.format t
      | none => [])

/-- The value of the first part with a given name. -/
def part? (text name : Text) : Option Text :=
  (Text.splitAll ';' text).findSome? fun part =>
    match Text.splitOnce '=' (Text.trim part) with
    | some (key, value) => if key = name then some value else none
    | none => none

private theorem isVisible_yearText (year : Int) : Text.isVisible (Stamp.yearText year) = true := by
  simp only [Stamp.yearText]
  split
  · exact isVisible_padded ..
  · rw [isVisible_cons, isVisible_padded, Bool.and_true]
    split <;> decide

private theorem isVisible_dateText (date : Date) :
    Text.isVisible (Stamp.dateText date) = true := by
  rw [Stamp.dateText, isVisible_append, isVisible_append, isVisible_yearText, isVisible_padded,
    isVisible_padded]
  rfl

theorem isVisible_stamp (t : Instant) : Text.isVisible (Stamp.format t) = true := by
  unfold Stamp.format
  simp only [isVisible_append, isVisible_cons, isVisible_dateText, isVisible_padded]
  decide

theorem isVisible_text (i : AttemptInfo) : Text.isVisible i.text = true := by
  have attempt : Text.isVisible "attempt=".toList = true := by decide
  have limit : Text.isVisible "; max=".toList = true := by decide
  have deadline : Text.isVisible "; ttl=".toList = true := by decide
  unfold text
  rw [isVisible_append, isVisible_append, isVisible_append, isVisible_append, attempt, limit,
    isVisible_numeral, isVisible_numeral]
  cases i.deadline with
  | none => rfl
  | some t =>
    change (_ && Text.isVisible ("; ttl=".toList ++ Stamp.format t)) = true
    rw [isVisible_append, deadline, isVisible_stamp]
    rfl

def value (i : AttemptInfo) : HeaderValue := .ofVisible i.text i.isVisible_text

/-- The deadline that is to be written into the text, if it cannot be. -/
def unwritable? (i : AttemptInfo) : Option Instant :=
  i.deadline.filter fun t => (Stamp.write? t).isNone

end AttemptInfo

end ServiceCall
