import Mathlib.Algebra.Ring.Nat
import ServiceCall.Execution.Metrics

/-!
# Tallies

The counters by kind and by status are tables in the order of their keys.  One more for a key adds
one to the sum, moves no other key, and keeps the order; so the tables add up to plain counters that
go up with them.
-/

namespace ServiceCall

section Tables

variable {α : Type} [DecidableEq α] {before : α → α → Bool}

theorem sum_tally (key : α) (table : List (α × Nat)) :
    ((tally before key table).map Prod.snd).sum = (table.map Prod.snd).sum + 1 := by
  induction table with
  | nil => rfl
  | cons entry rest ih =>
      obtain ⟨other, n⟩ := entry
      rw [tally]
      split
      · simp only [List.map_cons, List.sum_cons]
        omega
      split
      · simp only [List.map_cons, List.sum_cons]
        omega
      · simp only [List.map_cons, List.sum_cons, ih]
        omega

theorem eq_or_mem_of_mem_tally {key : α} {table : List (α × Nat)} {entry : α × Nat}
    (hmem : entry ∈ tally before key table) :
    entry.1 = key ∨ ∃ other ∈ table, other.1 = entry.1 := by
  induction table with
  | nil => exact .inl (congrArg Prod.fst (List.mem_singleton.1 hmem))
  | cons first rest ih =>
      obtain ⟨other, n⟩ := first
      rw [tally] at hmem
      split at hmem
      · rename_i hkey
        rcases List.mem_cons.1 hmem with rfl | hmem
        · exact .inl hkey.symm
        · exact .inr ⟨entry, List.mem_cons_of_mem _ hmem, rfl⟩
      split at hmem
      · rcases List.mem_cons.1 hmem with rfl | hmem
        · exact .inl rfl
        · exact .inr ⟨entry, hmem, rfl⟩
      · rcases List.mem_cons.1 hmem with rfl | hmem
        · exact .inr ⟨_, List.mem_cons_self, rfl⟩
        · refine (ih hmem).imp_right ?_
          rintro ⟨other, hother, hkey⟩
          exact ⟨other, List.mem_cons_of_mem _ hother, hkey⟩

/-- A test is a strict linear order. -/
structure Ranks (before : α → α → Bool) : Prop where
  trans {a b c : α} (hab : before a b = true) (hbc : before b c = true) : before a c = true
  irrefl (a : α) : before a a = false
  total {a b : α} (hne : a ≠ b) (hnot : before a b = false) : before b a = true

/-- A table stays in order. -/
theorem Ranks.pairwise_tally (hranks : Ranks before) (key : α) {table : List (α × Nat)}
    (hordered : table.Pairwise fun a b => before a.1 b.1 = true) :
    (tally before key table).Pairwise fun a b => before a.1 b.1 = true := by
  induction table with
  | nil => exact List.pairwise_singleton _ _
  | cons first rest ih =>
      obtain ⟨other, n⟩ := first
      obtain ⟨hfirst, hrest⟩ := List.pairwise_cons.1 hordered
      rw [tally]
      split
      · exact List.pairwise_cons.2 ⟨hfirst, hrest⟩
      split
      · rename_i hbefore
        refine List.pairwise_cons.2 ⟨fun entry hmem => ?_, hordered⟩
        rcases List.mem_cons.1 hmem with rfl | hmem
        · exact hbefore
        · exact hranks.trans hbefore (hfirst entry hmem)
      · rename_i hne hnot
        refine List.pairwise_cons.2 ⟨fun entry hmem => ?_, ih hrest⟩
        rcases eq_or_mem_of_mem_tally hmem with hkey | ⟨found, hfound, hkey⟩
        · exact hkey ▸ hranks.total hne (Bool.eq_false_iff.2 hnot)
        · exact hkey ▸ hfirst found hfound

section Lookup

variable [BEq α] [LawfulBEq α]

theorem getD_lookup_cons (key wanted : α) (n : Nat) (table : List (α × Nat)) :
    (List.lookup wanted ((key, n) :: table)).getD 0 =
      if key = wanted then n else (table.lookup wanted).getD 0 := by
  rw [List.lookup_cons]
  by_cases hkey : key = wanted
  · simp [hkey]
  · rw [if_neg hkey, beq_false_of_ne (Ne.symm hkey)]

/-- What was counted for a key goes up for that key only. -/
theorem Ranks.getD_lookup_tally (hranks : Ranks before) (key wanted : α) {table : List (α × Nat)}
    (hordered : table.Pairwise fun a b => before a.1 b.1 = true) :
    ((tally before key table).lookup wanted).getD 0 =
      (table.lookup wanted).getD 0 + if key = wanted then 1 else 0 := by
  induction table with
  | nil =>
      rw [tally, getD_lookup_cons, List.lookup_nil, Option.getD_none, Nat.zero_add]
  | cons first rest ih =>
      obtain ⟨other, n⟩ := first
      obtain ⟨hfirst, hrest⟩ := List.pairwise_cons.1 hordered
      rw [tally]
      split
      · rename_i hother
        rw [getD_lookup_cons, getD_lookup_cons, hother]
        split <;> rfl
      split
      · rename_i hbefore
        by_cases hkey : key = wanted
        · -- All keys of the table come after this one, so it was not counted yet.
          have hnone : List.lookup wanted ((other, n) :: rest) = none := by
            rw [← hkey, List.lookup_eq_none_iff]
            intro entry hmem
            have hlater : before key entry.1 = true := by
              rcases List.mem_cons.1 hmem with rfl | hmem
              · exact hbefore
              · exact hranks.trans hbefore (hfirst entry hmem)
            rw [bne_iff_ne]
            rintro heq
            rw [← heq, hranks.irrefl] at hlater
            cases hlater
          rw [hnone, getD_lookup_cons, if_pos hkey, if_pos hkey, Option.getD_none]
        · rw [getD_lookup_cons, if_neg hkey, if_neg hkey, Nat.add_zero]
      · rename_i hne _
        rw [getD_lookup_cons, getD_lookup_cons, ih hrest]
        by_cases hwanted : other = wanted
        · rw [if_pos hwanted, if_pos hwanted, if_neg (hwanted ▸ hne), Nat.add_zero]
        · rw [if_neg hwanted, if_neg hwanted]

end Lookup

end Tables

theorem Text.ranks_lt : Ranks fun a b : Text => decide (a < b) where
  trans hab hbc := decide_eq_true (List.lt_trans (of_decide_eq_true hab) (of_decide_eq_true hbc))
  irrefl a := decide_eq_false (List.lt_irrefl a)
  total hne hnot := by
    refine decide_eq_true (Decidable.byContradiction fun hback => hne ?_)
    exact List.le_antisymm (List.not_lt.1 hback) (List.not_lt.1 (of_decide_eq_false hnot))

namespace Metrics

/-- The counters of the calls that ended agree with each other. -/
structure Tallied (m : Metrics) : Prop where
  ordered : m.failures.Pairwise fun a b => decide (a.1 < b.1) = true
  failed : (m.failures.map Prod.snd).sum = m.failed
  cancelled : (m.failures.lookup Kind.cancelled.code).getD 0 = m.cancellations
  samples : m.latencySamples = m.succeeded + m.failed

theorem tallied_zero : zero.Tallied := ⟨List.Pairwise.nil, rfl, rfl, rfl⟩

theorem Tallied.finish {m : Metrics} (htallied : m.Tallied) (kind : Option Kind) :
    (m.finish kind).Tallied := by
  obtain ⟨hordered, hfailed, hcancelled, hsamples⟩ := htallied
  cases kind with
  | none => exact
      ⟨hordered, hfailed, hcancelled, (congrArg (· + 1) hsamples).trans (Nat.add_right_comm ..)⟩
  | some kind =>
      refine ⟨Text.ranks_lt.pairwise_tally kind.code hordered, ?_, ?_, ?_⟩
      · exact (sum_tally kind.code m.failures).trans (congrArg (· + 1) hfailed)
      · refine (Text.ranks_lt.getD_lookup_tally _ _ hordered).trans ?_
        rw [hcancelled]
        change _ = if kind = .cancelled then m.cancellations + 1 else m.cancellations
        by_cases hkind : kind = .cancelled
        · rw [if_pos hkind, if_pos (congrArg Kind.code hkind)]
        · rw [if_neg hkind, if_neg fun hcode => hkind (Kind.code_injective hcode), Nat.add_zero]
      · change m.latencySamples + 1 = m.succeeded + (m.failed + 1)
        omega

theorem Tallied.count {m : Metrics} (htallied : m.Tallied) (entry : Entry) :
    (m.count entry).Tallied := by
  cases entry with
  | finished s => exact htallied.finish s.kind
  | answered a =>
      obtain ⟨reply, _, _⟩ := a
      obtain ⟨hordered, hfailed, hcancelled, hsamples⟩ := htallied
      cases reply <;> exact ⟨hordered, hfailed, hcancelled, hsamples⟩
  | judged _ _ verdict =>
      obtain ⟨hordered, hfailed, hcancelled, hsamples⟩ := htallied
      cases verdict <;> exact ⟨hordered, hfailed, hcancelled, hsamples⟩
  | entered phase =>
      obtain ⟨hordered, hfailed, hcancelled, hsamples⟩ := htallied
      cases phase <;> exact ⟨hordered, hfailed, hcancelled, hsamples⟩
  | began | opened | started | sent | credited | broke | corrected | granted | scheduled =>
      obtain ⟨hordered, hfailed, hcancelled, hsamples⟩ := htallied
      exact ⟨hordered, hfailed, hcancelled, hsamples⟩

/-- Whatever is counted, they go on to agree. -/
theorem Tallied.record {m : Metrics} (htallied : m.Tallied) (enabled : Bool) (j : Journal) :
    (m.record enabled j).Tallied := by
  rw [Metrics.record]
  split
  · induction j generalizing m with
    | nil => exact htallied
    | cons entry rest ih => exact ih (htallied.count entry)
  · exact htallied

end Metrics

end ServiceCall
