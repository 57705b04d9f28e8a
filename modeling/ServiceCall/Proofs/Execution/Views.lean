import ServiceCall.Execution.Journal

/-!
# Views of a journal

A journal is read through views that keep some of its entries.  All of them split over the parts of
a run, and the milestones keep enough for every view that an observer or a transport has.
-/

namespace ServiceCall

/-- Whether an entry belongs to the outline of a call: starts, sends, failures, corrections,
retries and the end. -/
def Entry.isMilestone : Entry → Bool
  | .started _ | .sent _ | .broke .. | .corrected _ | .scheduled _ | .finished _ => true
  | _ => false

def Entry.started? : Entry → Option Context
  | .started context => some context
  | _ => none

def Entry.answered? : Entry → Option Answered
  | .answered a => some a
  | _ => none

def Entry.scheduled? : Entry → Option Scheduled
  | .scheduled r => some r
  | _ => none

def Entry.corrected? : Entry → Option Correction
  | .corrected k => some k
  | _ => none

/-- The attempt whose failure the strategy judged. -/
def Entry.judged? : Entry → Option Nat
  | .judged attempt _ _ => some attempt
  | _ => none

/-- The kind of a failure for which the strategy allowed a retry. -/
def Entry.approved? : Entry → Option Kind
  | .judged _ kind .retry => some kind
  | _ => none

namespace Journal

def milestones (j : Journal) : Journal := j.filter Entry.isMilestone

/-- The contexts of the attempts that started. -/
def starts (j : Journal) : List Context := j.filterMap Entry.started?

/-- What came back from the transport. -/
def answers (j : Journal) : List Answered := j.filterMap Entry.answered?

/-- The retries that were scheduled. -/
def retries (j : Journal) : List Scheduled := j.filterMap Entry.scheduled?

/-- The corrections of the clock. -/
def corrections (j : Journal) : List Correction := j.filterMap Entry.corrected?

/-- The attempts whose failures the strategy judged. -/
def judgments (j : Journal) : List Nat := j.filterMap Entry.judged?

/-- The kinds of failure that the strategy allowed a retry for, in order. -/
def approved (j : Journal) : List Kind := j.filterMap Entry.approved?

@[simp] theorem milestones_append (i j : Journal) :
    milestones (i ++ j) = milestones i ++ milestones j := List.filter_append ..

@[simp] theorem observations_append (i j : Journal) :
    observations (i ++ j) = observations i ++ observations j := List.filterMap_append

@[simp] theorem sends_append (i j : Journal) : sends (i ++ j) = sends i ++ sends j :=
  List.filterMap_append

@[simp] theorem starts_append (i j : Journal) : starts (i ++ j) = starts i ++ starts j :=
  List.filterMap_append

@[simp] theorem answers_append (i j : Journal) : answers (i ++ j) = answers i ++ answers j :=
  List.filterMap_append

@[simp] theorem retries_append (i j : Journal) : retries (i ++ j) = retries i ++ retries j :=
  List.filterMap_append

@[simp] theorem corrections_append (i j : Journal) :
    corrections (i ++ j) = corrections i ++ corrections j := List.filterMap_append

@[simp] theorem judgments_append (i j : Journal) :
    judgments (i ++ j) = judgments i ++ judgments j := List.filterMap_append

@[simp] theorem approved_append (i j : Journal) : approved (i ++ j) = approved i ++ approved j :=
  List.filterMap_append

@[simp] theorem approved_opened (attempt limit : Nat) (j : Journal) :
    approved (.opened attempt limit :: j) = approved j := rfl

/-- A view that only milestones show in may be read off the milestones. -/
private theorem filterMap_milestones {α : Type} (view : Entry → Option α)
    (hview : ∀ e : Entry, e.isMilestone = false → view e = none) (j : Journal) :
    j.milestones.filterMap view = j.filterMap view := by
  rw [milestones, List.filterMap_filter]
  congr 1
  funext e
  cases he : e.isMilestone with
  | true => rfl
  | false => exact (hview e he).symm

theorem observations_milestones (j : Journal) : j.milestones.observations = j.observations := by
  refine filterMap_milestones _ (fun e he => ?_) j
  cases e with
  | started | sent | broke | corrected | scheduled | finished => cases he
  | _ => rfl

theorem starts_milestones (j : Journal) : j.milestones.starts = j.starts := by
  refine filterMap_milestones _ (fun e he => ?_) j
  cases e with
  | started | sent | broke | corrected | scheduled | finished => cases he
  | _ => rfl

theorem sends_milestones (j : Journal) : j.milestones.sends = j.sends := by
  refine filterMap_milestones _ (fun e he => ?_) j
  cases e with
  | started | sent | broke | corrected | scheduled | finished => cases he
  | _ => rfl

/-! ## Corrections -/

variable (correction : Option Correction)

@[simp] theorem milestones_corrected :
    milestones (correction.toList.map Entry.corrected) =
      correction.toList.map Entry.corrected := by
  cases correction <;> rfl

@[simp] theorem observations_corrected :
    observations (correction.toList.map Entry.corrected) =
      correction.toList.map Observation.corrected := by
  cases correction <;> rfl

@[simp] theorem starts_corrected : starts (correction.toList.map Entry.corrected) = [] := by
  cases correction <;> rfl

@[simp] theorem sends_corrected : sends (correction.toList.map Entry.corrected) = [] := by
  cases correction <;> rfl

@[simp] theorem answers_corrected : answers (correction.toList.map Entry.corrected) = [] := by
  cases correction <;> rfl

@[simp] theorem retries_corrected : retries (correction.toList.map Entry.corrected) = [] := by
  cases correction <;> rfl

@[simp] theorem corrections_corrected :
    corrections (correction.toList.map Entry.corrected) = correction.toList := by
  cases correction <;> rfl

@[simp] theorem judgments_corrected :
    judgments (correction.toList.map Entry.corrected) = [] := by
  cases correction <;> rfl

@[simp] theorem approved_corrected : approved (correction.toList.map Entry.corrected) = [] := by
  cases correction <;> rfl

end Journal

end ServiceCall
