import ServiceCall.Proofs.Retry.Quota

/-!
# The ledger of a shared quota

Any number of strategies, each with rules and costs of its own, share one bucket with callers that
take and put back tokens themselves.  Every access holds the bucket's lock, so a bucket sees one
access after another, in whatever order the callers come.  The ledger records each of them with its
answer and the bucket before and after.

Tokens are conserved only if the credit that finds no room is counted too: what a capped release
drops has a column of its own.
-/

namespace ServiceCall.Quota

/-- One access to a shared bucket.  A strategy judges a failure or notes a success, and a caller
acquires or releases tokens directly. -/
inductive Use where
  | judge (rules : RetryRules) (costs : Costs) (failure : Failure) (attempt : Nat)
  | success (rules : RetryRules) (costs : Costs) (retried : Option Kind)
  | acquire (cost : Nat)
  | release (amount : Nat)

/-- What the one who made the access hears. -/
inductive Answer where
  | verdict (verdict : Verdict)
  | acquired (granted : Bool)
  | done
  deriving DecidableEq

/-- Whether the access asked for tokens and got them. -/
def Answer.granted : Answer → Bool
  | .verdict .retry | .acquired true => true
  | _ => false

/-- Whether the access asked for tokens and was turned away. -/
def Answer.refused : Answer → Bool
  | .verdict (.denied _) | .acquired false => true
  | _ => false

namespace Use

def apply : Use → Quota → Answer × Quota
  | .judge rules costs failure attempt, q =>
    let (verdict, rest) := (Standard.strategy rules costs).judge failure attempt q
    (.verdict verdict, rest)
  | .success rules costs retried, q => (.done, (Standard.strategy rules costs).credit retried q)
  | .acquire cost, q =>
    let (granted, rest) := q.tryAcquire cost
    (.acquired granted, rest)
  | .release amount, q => (.done, q.release amount)

/-- The tokens that the access asks for. -/
def cost : Use → Nat
  | .judge _ costs failure _ => costs.of failure.kind
  | .acquire cost => cost
  | .success .. | .release _ => 0

/-- The tokens that the access brings, whether or not there is room for them. -/
def credit : Use → Nat
  | .success _ costs retried => costs.credit retried
  | .release amount => amount
  | .judge .. | .acquire _ => 0

end Use

/-- An access in the ledger. -/
structure Posting where
  use : Use
  answer : Answer
  before : Quota
  after : Quota

namespace Posting

def granted (p : Posting) : Nat := if p.answer.granted then p.use.cost else 0

/-- The credit for which there was no room. -/
def discarded (p : Posting) : Nat := p.before.available + p.use.credit - p.before.capacity

end Posting

/-- The ledger of a sequence of accesses. -/
def postings (q : Quota) : List Use → List Posting
  | [] => []
  | use :: rest =>
    let (answer, after) := use.apply q
    ⟨use, answer, q, after⟩ :: postings after rest

/-- The bucket after a sequence of accesses. -/
def settle (q : Quota) (uses : List Use) : Quota := uses.foldl (fun q use => (use.apply q).2) q

/-- What a ledger has granted. -/
def granted (ledger : List Posting) : Nat := (ledger.map Posting.granted).sum

/-- What a ledger has been credited, whether or not there was room. -/
def credited (ledger : List Posting) : Nat := (ledger.map (·.use.credit)).sum

def discarded (ledger : List Posting) : Nat := (ledger.map Posting.discarded).sum

/-- What one access does to the bucket. -/
structure Posting.Sound (p : Posting) : Prop where
  capacity : p.after.capacity = p.before.capacity
  /-- Tokens are neither made nor lost: what is granted leaves the bucket, and what is credited
  enters it or is discarded. -/
  balance : p.after.available + p.granted + p.discarded = p.before.available + p.use.credit
  refused : p.answer.refused = true → p.after = p.before ∧ p.before.available < p.use.cost
  stopped : p.answer = .verdict .stop → p.after = p.before

/-- A bucket in its bounds has room for no credit at all. -/
theorem Posting.discarded_of_credit_eq_zero (p : Posting) (hcredit : p.use.credit = 0) :
    p.discarded = 0 := by
  rw [discarded, hcredit, Nat.add_zero]
  exact Nat.sub_eq_zero_of_le p.before.bounded

/-- A release adds what there is room for and discards the rest. -/
theorem sound_release (q : Quota) (use : Use) :
    Posting.Sound ⟨use, .done, q, q.release use.credit⟩ where
  capacity := rfl
  balance := by
    change min (q.available + use.credit) q.capacity + 0 +
      (q.available + use.credit - q.capacity) = q.available + use.credit
    omega
  refused := nofun
  stopped := nofun

theorem sound_acquire (q : Quota) (cost : Nat) {granted : Bool} {rest : Quota}
    (hacquires : q.Acquires cost granted rest) :
    Posting.Sound ⟨.acquire cost, .acquired granted, q, rest⟩ := by
  have hdiscarded := Posting.discarded_of_credit_eq_zero
    ⟨.acquire cost, .acquired granted, q, rest⟩ rfl
  cases hacquires with
  | granted _ hcapacity hpaid =>
      refine ⟨hcapacity, ?_, nofun, nofun⟩
      rw [hdiscarded]
      exact hpaid
  | refused hshort =>
      refine ⟨rfl, ?_, fun _ => ⟨rfl, hshort⟩, nofun⟩
      rw [hdiscarded]
      rfl

theorem sound_judge (q : Quota) (rules : RetryRules) (costs : Costs) (failure : Failure)
    (attempt : Nat) {verdict : Verdict} {rest : Quota}
    (hjudges : Standard.Judges rules costs failure attempt q verdict rest) :
    Posting.Sound ⟨.judge rules costs failure attempt, .verdict verdict, q, rest⟩ := by
  have hdiscarded := Posting.discarded_of_credit_eq_zero
    ⟨.judge rules costs failure attempt, .verdict verdict, q, rest⟩ rfl
  cases hjudges with
  | stopped hallows =>
      refine ⟨rfl, ?_, nofun, fun _ => rfl⟩
      rw [hdiscarded]
      rfl
  | denied hallows hshort =>
      refine ⟨rfl, ?_, fun _ => ⟨rfl, hshort⟩, nofun⟩
      rw [hdiscarded]
      rfl
  | paid _ hallows hpays =>
      refine ⟨hpays.capacity, ?_, nofun, nofun⟩
      rw [hdiscarded]
      exact hpays.paid

/-- The step of the ledger: every access is sound, whatever the bucket holds. -/
theorem sound_apply (q : Quota) (use : Use) :
    Posting.Sound ⟨use, (use.apply q).1, q, (use.apply q).2⟩ := by
  cases use with
  | judge rules costs failure attempt =>
      exact sound_judge q rules costs failure attempt
        (Standard.judges_judge rules costs failure attempt q)
  | success rules costs retried => exact sound_release q (.success rules costs retried)
  | acquire cost => exact sound_acquire q cost (q.acquires_tryAcquire cost)
  | release amount => exact sound_release q (.release amount)

@[simp] theorem postings_nil (q : Quota) : postings q [] = [] := rfl

theorem postings_cons (q : Quota) (use : Use) (rest : List Use) :
    postings q (use :: rest) =
      ⟨use, (use.apply q).1, q, (use.apply q).2⟩ :: postings (use.apply q).2 rest := rfl

/-- A ledger read up to some point is the ledger of the accesses up to there. -/
theorem take_postings (q : Quota) (uses : List Use) (count : Nat) :
    (postings q uses).take count = postings q (uses.take count) := by
  induction uses generalizing q count with
  | nil => simp
  | cons use rest ih =>
      cases count with
      | zero => rfl
      | succ count =>
          rw [postings_cons, List.take_succ_cons, List.take_succ_cons, postings_cons, ih]

theorem sound_of_mem_postings {q : Quota} {uses : List Use} {posting : Posting}
    (hposting : posting ∈ postings q uses) :
    posting.Sound ∧ posting.before.capacity = q.capacity := by
  induction uses generalizing q with
  | nil => cases hposting
  | cons use rest ih =>
      rw [postings_cons] at hposting
      cases hposting with
      | head => exact ⟨sound_apply q use, rfl⟩
      | tail _ hrest =>
          obtain ⟨hsound, hcapacity⟩ := ih hrest
          exact ⟨hsound, hcapacity.trans (sound_apply q use).capacity⟩

/-- Conservation over a run: what was there and what came in is what is there, what went out and
what found no room. -/
theorem settle_balance (q : Quota) (uses : List Use) :
    (settle q uses).available + granted (postings q uses) + discarded (postings q uses) =
      q.available + credited (postings q uses) := by
  induction uses generalizing q with
  | nil => rfl
  | cons use rest ih =>
      have hstep := (sound_apply q use).balance
      have hrest := ih (use.apply q).2
      rw [postings_cons]
      simp only [settle, List.foldl_cons, granted, discarded, credited, List.map_cons,
        List.sum_cons] at hstep hrest ⊢
      omega

/-- Whatever the callers of a shared bucket do and in whatever order, the bucket stays within its
bounds, an access that is refused or that stops changes nothing, only a lack of tokens refuses, and
at no point has more been granted than the capacity and what was credited up to there. -/
theorem postings_bounded (capacity : Nat) (uses : List Use) :
    (∀ posting ∈ postings (new capacity) uses,
      posting.after.capacity = capacity ∧ posting.after.available ≤ capacity ∧
      (posting.answer.refused = true →
        posting.after = posting.before ∧ posting.before.available < posting.use.cost) ∧
      (posting.answer = .verdict .stop → posting.after = posting.before)) ∧
    ∀ count, granted ((postings (new capacity) uses).take count) ≤
      capacity + credited ((postings (new capacity) uses).take count) := by
  constructor
  · intro posting hposting
    obtain ⟨hsound, hbefore⟩ := sound_of_mem_postings hposting
    have hcapacity : posting.after.capacity = capacity := hsound.capacity.trans hbefore
    have hbounded : posting.after.available ≤ capacity := hcapacity ▸ posting.after.bounded
    exact ⟨hcapacity, hbounded, hsound.refused, hsound.stopped⟩
  · intro count
    rw [take_postings]
    have hbalance := settle_balance (new capacity) (uses.take count)
    rw [available_new] at hbalance
    omega

example : (postings (new 5) [.acquire 3, .acquire 3, .release 9]).map
    (fun p => (p.granted, p.discarded, p.after.available)) = [(3, 0, 2), (0, 0, 2), (0, 6, 5)] := by
  decide

end ServiceCall.Quota
