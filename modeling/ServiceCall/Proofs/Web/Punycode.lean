import Mathlib.Data.List.Basic
import Mathlib.Tactic.Ring
import ServiceCall.Proofs.Text.Ascii
import ServiceCall.Web.Domain.Punycode

/-!
# Punycode is read and written back

Reading puts characters into a label in the order of their code points, and those of one code point
from left to right.  Writing walks over the finished label once for each code point and counts the
places that it passes by.  So when a character has been put in, the writer of what stands there has
its walk behind it up to that character and has written what was read; what is put in later lies
ahead of the walk and does not change it.
-/

namespace ServiceCall.Punycode

/-! ## Numbers -/

theorem digitValue?_basic {c : Char} {d : Nat} (hd : digitValue? c = some d) :
    isBasic c = true := by
  have halnum : c.isAlphanum = true := by
    rw [digitValue?] at hd
    split at hd
    · exact Bool.or_eq_true_iff.2 (.inl (Bool.or_eq_true_iff.2 (.inr ‹_›)))
    split at hd
    · exact Bool.or_eq_true_iff.2 (.inl (Bool.or_eq_true_iff.2 (.inl ‹_›)))
    split at hd
    · exact Bool.or_eq_true_iff.2 (.inr ‹_›)
    · cases hd
  exact decide_eq_true (ascii_of_isAlphanum halnum)

/-- A digit is read in both cases and written in the lower one. -/
theorem digit_of_digitValue? {c : Char} {d : Nat} (hd : digitValue? c = some d) :
    d < 36 ∧ digit d = c.toLower :=
  of_ascii (p := fun c => ∀ d ∈ digitValue? c, d < 36 ∧ digit d = c.toLower) (by decide)
    (of_decide_eq_true (digitValue?_basic hd)) d hd

/-- A number has one row of digits: those that were read are those that are written. -/
theorem readNumber?_eq {bias : Nat} {s rest : Text} {k weight n value : Nat}
    (hread : readNumber? bias s k weight n = some (value, rest)) :
    ∃ digits steps, s = digits ++ rest ∧ value = n + steps * weight ∧
      Text.lower digits = writeNumber bias k steps := by
  induction s generalizing k weight n with
  | nil => cases hread
  | cons c tail ih =>
      simp only [readNumber?, Option.bind_eq_bind, Option.bind_eq_some_iff] at hread
      obtain ⟨d, hd, hread⟩ := hread
      obtain ⟨hlt, hdigit⟩ := digit_of_digitValue? hd
      have hlow := threshold_pos bias k
      have hhigh := threshold_le bias k
      split at hread
      · cases hread
      split at hread
      · rename_i hlast
        cases hread
        refine ⟨[c], d, rfl, rfl, ?_⟩
        rw [writeNumber, if_pos hlast, hdigit]
        rfl
      · rename_i hmore
        split at hread
        · cases hread
        obtain ⟨digits, steps, rfl, rfl, hdigits⟩ := ih hread
        have hwhole : d + steps * (36 - threshold bias k) - threshold bias k =
            d - threshold bias k + steps * (36 - threshold bias k) := by omega
        have hrest : d - threshold bias k < 36 - threshold bias k := by omega
        refine ⟨c :: digits, d + steps * (36 - threshold bias k), rfl, by ring, ?_⟩
        rw [writeNumber, if_neg (by omega), hwhole, Nat.add_mul_mod_self_right,
          Nat.add_mul_div_right _ _ (by omega), Nat.mod_eq_of_lt hrest, Nat.div_eq_of_lt hrest,
          Nat.zero_add, ← hdigits, Nat.add_sub_cancel' (by omega), hdigit]
        rfl

/-! ## Walks -/

variable {label : Text} {basics : Nat} {start : Writing} {place next k j : Nat}

namespace Writing

/-- Passes by a number of places. -/
def skip (w : Writing) (n : Nat) : Writing := { w with delta := w.delta + n }

theorem skip_skip (w : Writing) (m n : Nat) : (w.skip m).skip n = w.skip (m + n) := by
  simp only [skip, Nat.add_assoc]

/-- Where writing stands before its walk for the code point with index `k`. -/
def before (label : Text) (basics : Nat) (start : Writing) : Nat → Writing
  | 0 => start
  | k + 1 => (label.foldl (pass basics (firstCode + k)) (before label basics start k)).skip 1

/-- Where writing stands within that walk, at a place. -/
def walk (label : Text) (basics : Nat) (start : Writing) (k place : Nat) : Writing :=
  (label.take place).foldl (pass basics (firstCode + k)) (before label basics start k)

theorem walk_zero (label : Text) (basics : Nat) (start : Writing) (k : Nat) :
    walk label basics start k 0 = before label basics start k := rfl

theorem before_succ (label : Text) (basics : Nat) (start : Writing) (k : Nat) :
    before label basics start (k + 1) = (walk label basics start k label.length).skip 1 := by
  rw [walk, List.take_length]
  rfl

/-- Without the code point that is looked for, the places of smaller ones are counted. -/
theorem foldl_pass_absent {code : Nat} {s : Text} (hs : ∀ c ∈ s, c.toNat ≠ code) (w : Writing) :
    s.foldl (pass basics code) w = w.skip (s.countP fun c => c.toNat < code) := by
  induction s generalizing w with
  | nil => rfl
  | cons c rest ih =>
      obtain ⟨hc, hrest⟩ := List.forall_mem_cons.1 hs
      rw [List.foldl_cons, ih hrest, List.countP_cons, pass]
      split
      · rename_i hlt
        rw [if_pos (decide_eq_true hlt)]
        exact (skip_skip w 1 _).trans (congrArg w.skip (Nat.add_comm 1 _))
      · rename_i hlt
        rw [if_neg (by simpa using hlt), Nat.add_zero]

theorem foldl_pass_below {code : Nat} {s : Text} (hs : ∀ c ∈ s, c.toNat < code) (w : Writing) :
    s.foldl (pass basics code) w = w.skip s.length := by
  rw [foldl_pass_absent fun c hc => Nat.ne_of_lt (hs c hc), List.countP_eq_length.2]
  exact fun c hc => decide_eq_true (hs c hc)

theorem pass_above {code : Nat} {c : Char} (hc : code < c.toNat) (w : Writing) :
    w.pass basics code c = w := by
  rw [pass, if_neg (Nat.lt_asymm hc), if_neg (Nat.ne_of_gt hc)]

/-- Within a walk, the places behind the last character of its code point are counted. -/
theorem walk_within (hbehind : ∀ c ∈ label.drop place, c.toNat < firstCode + k)
    (horder : place ≤ next) (hnext : next ≤ label.length) :
    walk label basics start k next = (walk label basics start k place).skip (next - place) := by
  have htake : label.take next = label.take place ++ (label.drop place).take (next - place) := by
    rw [← List.take_add, Nat.add_sub_cancel' horder]
  have hlength : ((label.drop place).take (next - place)).length = next - place := by
    rw [List.length_take, List.length_drop]
    omega
  rw [walk, htake, List.foldl_append, foldl_pass_below, hlength]
  · rfl
  · exact fun c hc => hbehind c (List.mem_of_mem_take hc)

/-- After the walk for the largest code point, each walk counts all places. -/
theorem before_later (basics : Nat) (start : Writing)
    (hupTo : ∀ c ∈ label, c.toNat < firstCode + k) (i : Nat) :
    before label basics start (k + i) =
      (before label basics start k).skip (i * (label.length + 1)) := by
  induction i with
  | zero =>
      rw [Nat.zero_mul]
      rfl
  | succ i ih =>
      have hall : ∀ c ∈ label, c.toNat < firstCode + (k + i) :=
        fun c hc => Nat.lt_of_lt_of_le (hupTo c hc) (by omega)
      rw [← Nat.add_assoc, before, foldl_pass_below hall, ih, skip_skip, skip_skip, Nat.succ_mul]

/-- From the last character of the largest code point on, every place is counted that the walks
pass by. -/
theorem walk_later (basics : Nat) (start : Writing) (hplace : place ≤ label.length)
    (hupTo : ∀ c ∈ label, c.toNat ≤ firstCode + k)
    (hbehind : ∀ c ∈ label.drop place, c.toNat < firstCode + k) (hnext : next ≤ label.length)
    (hlater : k ≤ j) (horder : j = k → place ≤ next) :
    walk label basics start j next =
      (walk label basics start k place).skip ((j - k) * (label.length + 1) + next - place) := by
  rcases Nat.eq_or_lt_of_le hlater with rfl | hlt
  · rw [walk_within hbehind (horder rfl) hnext, Nat.sub_self, Nat.zero_mul, Nat.zero_add]
  · obtain ⟨i, rfl⟩ := Nat.exists_eq_add_of_le hlt
    have hbelow (i : Nat) : ∀ c ∈ label, c.toNat < firstCode + (k + 1 + i) :=
      fun c hc => Nat.lt_of_le_of_lt (hupTo c hc) (by omega)
    have hcount : label.length - place + (1 + (i * (label.length + 1) + next)) =
        (k + 1 + i - k) * (label.length + 1) + next - place := by
      rw [show k + 1 + i - k = i + 1 by omega, Nat.succ_mul]
      omega
    calc
      walk label basics start (k + 1 + i) next =
          (before label basics start (k + 1 + i)).skip next := by
        rw [walk, foldl_pass_below fun c hc => hbelow i c (List.mem_of_mem_take hc),
          List.length_take, Nat.min_eq_left hnext]
      _ = ((before label basics start (k + 1)).skip (i * (label.length + 1))).skip next := by
        rw [before_later _ _ (hbelow 0)]
      _ = (walk label basics start k place).skip
          (label.length - place + (1 + (i * (label.length + 1) + next))) := by
        rw [before_succ, walk_within hbehind hplace (Nat.le_refl _), skip_skip, skip_skip,
          skip_skip]
      _ = _ := by rw [hcount]

/-- A character that is put in changes no walk for a smaller code point. -/
theorem before_insert {c : Char} (hc : c.toNat = firstCode + j) (hk : k ≤ j) :
    before (label.take next ++ c :: label.drop next) basics start k =
      before label basics start k := by
  induction k with
  | zero => rfl
  | succ k ih =>
      have hwhole (w : Writing) : (label.take next ++ c :: label.drop next).foldl
          (pass basics (firstCode + k)) w = label.foldl (pass basics (firstCode + k)) w := by
        rw [List.foldl_append, List.foldl_cons, pass_above (by omega), ← List.foldl_append,
          List.take_append_drop]
      rw [before, before, ih (by omega), hwhole]

/-- The walk for the code point of a character that is put in gets up to it as before and then
passes by it. -/
theorem walk_insert {c : Char} (hc : c.toNat = firstCode + j) (hnext : next ≤ label.length) :
    walk (label.take next ++ c :: label.drop next) basics start j (next + 1) =
      (walk label basics start j next).pass basics (firstCode + j) c := by
  have htake : (label.take next ++ c :: label.drop next).take (next + 1) =
      label.take next ++ [c] := by
    rw [List.take_append, List.length_take, Nat.min_eq_left hnext, Nat.add_sub_cancel_left,
      List.take_take, Nat.min_eq_right (Nat.le_succ next)]
    rfl
  rw [walk, htake, before_insert hc (Nat.le_refl j), List.foldl_append]
  rfl

end Writing

/-! ## Reading step by step -/

/-- After some characters of a label were put in, the last one right before `place` with the code
point of index `k`: up to there the walk is done, and `text` is written. -/
structure Reached (basics : Nat) (start : Writing) (label : Text) (place k : Nat) (text : Text)
    (bias : Nat) : Prop where
  place_le : place ≤ label.length
  upTo : ∀ c ∈ label, c.toNat ≤ firstCode + k
  behind : ∀ c ∈ label.drop place, c.toNat < firstCode + k
  walk : Writing.walk label basics start k place = ⟨text, label.length, 0, bias⟩
  first : place = 0 ↔ label.length = basics
  basics_le : basics ≤ label.length

theorem Reached.insert {text : Text} {bias : Nat} {c : Char}
    (hreached : Reached basics start label place k text bias) (hc : c.toNat = firstCode + j)
    (hnext : next ≤ label.length) (hlater : k ≤ j) (horder : j = k → place ≤ next) :
    let steps := (j - k) * (label.length + 1) + next - place
    Reached basics start (label.take next ++ c :: label.drop next) (next + 1) j
      (text ++ writeNumber bias 36 steps) (adapt steps (label.length + 1) (place = 0)) := by
  intro steps
  have hlength : (label.take next ++ c :: label.drop next).length = label.length + 1 := by
    rw [List.length_append, List.length_cons, List.length_take, List.length_drop]
    omega
  have hmem (d : Char) (hd : d ∈ label.take next ++ c :: label.drop next) : d = c ∨ d ∈ label := by
    rcases List.mem_append.1 hd with hd | hd
    · exact .inr (List.mem_of_mem_take hd)
    · exact (List.mem_cons.1 hd).imp_right List.mem_of_mem_drop
  have hdrop : (label.take next ++ c :: label.drop next).drop (next + 1) = label.drop next := by
    rw [List.drop_append, List.length_take, Nat.min_eq_left hnext, Nat.add_sub_cancel_left,
      List.drop_eq_nil_of_le (by rw [List.length_take]; omega)]
    rfl
  have hwalk := Writing.walk_later basics start hreached.place_le hreached.upTo hreached.behind
    hnext hlater horder
  have hfirst : decide (label.length = basics) = decide (place = 0) :=
    decide_eq_decide.2 hreached.first.symm
  refine ⟨by omega, fun d hd => ?_, fun d hd => ?_, ?_, by have := hreached.basics_le; omega,
    by have := hreached.basics_le; omega⟩
  · rcases hmem d hd with rfl | hd
    · exact Nat.le_of_eq hc
    · exact Nat.le_trans (hreached.upTo d hd) (by omega)
  · rw [hdrop] at hd
    rcases Nat.eq_or_lt_of_le hlater with rfl | hlt
    · have hsub : label.drop next <:+ label.drop place := by
        rw [← Nat.add_sub_cancel' (horder rfl), ← List.drop_drop]
        exact List.drop_suffix _ _
      exact hreached.behind d (hsub.subset hd)
    · exact Nat.lt_of_le_of_lt (hreached.upTo d (List.mem_of_mem_drop hd)) (by omega)
  · rw [Writing.walk_insert hc hnext, hwalk, hreached.walk, hlength, Writing.pass,
      if_neg (by omega), if_pos hc]
    simp only [Writing.skip, Nat.zero_add, hfirst]
    rfl

/-- What is read is what is written, once all characters are put in. -/
theorem Reached.of_readCodes? {s text final : Text} {code bias : Nat}
    (hread : readCodes? s place code bias label = some final) (hcode : code = firstCode + k)
    (hreached : Reached basics start label place k text bias) :
    (∃ place' k' bias', Reached basics start final place' k' (text ++ Text.lower s) bias') ∧
      final.filter isBasic = label.filter isBasic ∧ label.length ≤ final.length ∧
      (s ≠ [] → label.length < final.length) := by
  fun_induction readCodes? s place code bias label generalizing k text with
  | case1 s place code bias label hempty =>
      cases hread
      rw [List.isEmpty_iff.1 hempty, Text.lower, List.map_nil, List.append_nil]
      exact ⟨⟨place, k, bias, hreached⟩, rfl, Nat.le_refl _, fun hne => absurd rfl hne⟩
  | case2 => cases hread
  | case3 s place code bias label _ reached rest hnumber length code' hvalid =>
      rename_i next ih
      obtain ⟨digits, steps, rfl, hsteps, hdigits⟩ := readNumber?_eq hnumber
      have hchar : (Char.ofNat code').toNat = code' := by
        rw [Char.ofNat, dif_pos hvalid]
        rfl
      have hindex : code' = firstCode + (k + reached / length) := by
        rw [← Nat.add_assoc, ← hcode]
      have hdivided : (k + reached / length - k) * length + next = place + steps := by
        rw [Nat.add_sub_cancel_left, Nat.mul_comm, Nat.div_add_mod, hsteps, Nat.mul_one]
      have hsame (heq : k + reached / length = k) : place ≤ next := by
        rw [heq, Nat.sub_self, Nat.zero_mul] at hdivided
        omega
      have hnext : next ≤ label.length :=
        Nat.le_of_lt_succ (Nat.mod_lt reached (Nat.succ_pos label.length))
      have hinsert := hreached.insert (hchar.trans hindex) hnext (Nat.le_add_right k _) hsame
      dsimp only at hinsert
      rw [hdivided, Nat.add_sub_cancel_left] at hinsert
      rw [hsteps, Nat.mul_one, Nat.add_sub_cancel_left] at hread ih
      obtain ⟨⟨place', k', bias', hfinal⟩, hfilter, hlength, -⟩ := ih hread hindex hinsert
      have hother : isBasic (Char.ofNat code') = false := by
        rw [isBasic, hchar]
        exact decide_eq_false (Nat.not_lt.2 (hindex ▸ Nat.le_add_right ..))
      have hlonger : label.length < final.length := by
        simp only [List.length_append, List.length_cons, List.length_take, List.length_drop]
          at hlength
        omega
      refine ⟨⟨place', k', bias', ?_⟩, ?_, Nat.le_of_lt hlonger, fun _ => hlonger⟩
      · rw [Text.lower, List.map_append, ← Text.lower, ← Text.lower, hdigits, ← List.append_assoc]
        exact hfinal
      · rw [hfilter, List.filter_append, List.filter_cons, hother, if_neg Bool.false_ne_true,
          ← List.filter_append, List.take_append_drop]
  | case4 => cases hread

/-! ## Writing the label -/

theorem covered_foldl_pass (code : Nat) (s : Text) (w : Writing) :
    (s.foldl (Writing.pass basics code) w).covered =
      w.covered + s.countP fun c => c.toNat = code := by
  induction s generalizing w with
  | nil => rfl
  | cons c rest ih =>
      rw [List.foldl_cons, ih, List.countP_cons, Writing.pass]
      split
      · rename_i hlt
        rw [if_neg (by simpa using Nat.ne_of_lt hlt)]
        rfl
      · split
        · rename_i heq
          rw [if_pos (decide_eq_true heq)]
          simp only
          omega
        · rename_i hne
          rw [if_neg (by simpa using hne), Nat.add_zero]

theorem countP_lt_succ (code : Nat) (s : Text) :
    (s.countP fun c => c.toNat < code + 1) =
      (s.countP fun c => c.toNat < code) + s.countP fun c => c.toNat = code := by
  induction s with
  | nil => rfl
  | cons c rest ih =>
      simp only [List.countP_cons, ih, decide_eq_true_eq]
      split_ifs <;> omega

/-- Before a walk the characters of smaller code points are covered. -/
theorem covered_before (basics : Nat) (hstart : start.covered = label.countP isBasic) (k : Nat) :
    (Writing.before label basics start k).covered =
      label.countP fun c => c.toNat < firstCode + k := by
  induction k with
  | zero => exact hstart
  | succ k ih =>
      rw [← Nat.add_assoc, countP_lt_succ, ← ih]
      exact covered_foldl_pass ..

/-- Walks for code points that the label does not have can be counted together. -/
theorem before_absent (hstart : start.covered = label.countP isBasic) {i : Nat}
    (habsent : ∀ c ∈ label, firstCode + k ≤ c.toNat → firstCode + k + i ≤ c.toNat) :
    Writing.before label basics start (k + i) =
      (Writing.before label basics start k).skip
        (i * ((Writing.before label basics start k).covered + 1)) := by
  induction i with
  | zero =>
      rw [Nat.zero_mul]
      rfl
  | succ i ih =>
      have hnone : ∀ c ∈ label, c.toNat ≠ firstCode + (k + i) := by
        intro c hc heq
        have := habsent c hc (by omega)
        omega
      have hcount : (label.countP fun c => c.toNat < firstCode + (k + i)) =
          label.countP fun c => c.toNat < firstCode + k := by
        refine List.countP_congr fun c hc => ?_
        simp only [decide_eq_true_eq]
        have := habsent c hc
        omega
      rw [← Nat.add_assoc, Writing.before, Writing.foldl_pass_absent hnone, hcount,
        ← covered_before basics hstart k,
        ih fun c hc hle => Nat.le_trans (by omega) (habsent c hc hle), Writing.skip_skip,
        Writing.skip_skip, Nat.succ_mul]

/-- The walks for the code points of the label are all walks. -/
theorem writeCodes_eq (hstart : start.covered = label.countP isBasic) {codes : List Nat}
    (hsorted : codes.Pairwise (· < ·)) (hlow : ∀ n ∈ codes, firstCode + k ≤ n)
    (hall : ∀ c ∈ label, firstCode + k ≤ c.toNat → c.toNat ∈ codes) :
    ∃ j, (∀ c ∈ label, c.toNat < firstCode + j) ∧
      writeCodes label basics codes (firstCode + k) (Writing.before label basics start k) =
        Writing.before label basics start j := by
  induction codes generalizing k with
  | nil =>
      refine ⟨k, fun c hc => Nat.lt_of_not_le fun hle => ?_, rfl⟩
      exact absurd (hall c hc hle) List.not_mem_nil
  | cons code rest ih =>
      obtain ⟨hfirst, hrest⟩ := List.pairwise_cons.1 hsorted
      obtain ⟨i, rfl⟩ := Nat.exists_eq_add_of_le (hlow code List.mem_cons_self)
      have habsent : ∀ c ∈ label, firstCode + k ≤ c.toNat → firstCode + k + i ≤ c.toNat := by
        intro c hc hle
        rcases List.mem_cons.1 (hall c hc hle) with heq | hmem
        · exact Nat.le_of_eq heq.symm
        · exact Nat.le_of_lt (hfirst _ hmem)
      have hstep : writeCodes label basics ((firstCode + k + i) :: rest) (firstCode + k)
          (Writing.before label basics start k) =
            writeCodes label basics rest (firstCode + (k + i + 1))
              (Writing.before label basics start (k + i + 1)) := by
        rw [writeCodes, Writing.before, before_absent hstart habsent, Nat.add_sub_cancel_left,
          Nat.add_assoc firstCode]
        rfl
      rw [hstep]
      refine ih hrest (fun n hn => ?_) fun c hc hle => ?_
      · have := hfirst n hn
        omega
      · rcases List.mem_cons.1 (hall c hc (by omega)) with heq | hmem
        · omega
        · exact hmem

theorem pairwise_eraseDups {codes : List Nat} (hcodes : codes.Pairwise (· ≤ ·)) :
    codes.eraseDups.Pairwise (· < ·) := by
  induction hlength : codes.length using Nat.strongRecOn generalizing codes with
  | _ n ih =>
      cases codes with
      | nil => exact List.Pairwise.nil
      | cons code rest =>
          obtain ⟨hfirst, hrest⟩ := List.pairwise_cons.1 hcodes
          rw [List.eraseDups_cons]
          refine List.pairwise_cons.2 ⟨fun other hother => ?_, ih _ ?_ (hrest.filter _) rfl⟩
          · rw [List.mem_eraseDups, List.mem_filter] at hother
            refine Nat.lt_of_le_of_ne (hfirst other hother.1) fun heq => ?_
            rw [heq, beq_self_eq_true] at hother
            exact absurd hother.2 Bool.false_ne_true
          · rw [← hlength]
            exact Nat.lt_succ_of_le (List.length_filter_le ..)

/-- Once all walks are done, what is written is what was read. -/
theorem Reached.text_before {text : Text} {bias : Nat}
    (hreached : Reached basics start label place k text bias)
    (hall : ∀ c ∈ label, c.toNat < firstCode + j) :
    (Writing.before label basics start j).text = text := by
  have hlater : Writing.walk label basics start (j + (k + 1)) 0 =
      (Writing.walk label basics start k place).skip
        ((j + (k + 1) - k) * (label.length + 1) + 0 - place) :=
    Writing.walk_later basics start hreached.place_le hreached.upTo hreached.behind
      (Nat.zero_le _) (by omega) (by omega)
  rw [Writing.walk_zero, Writing.before_later basics start hall, hreached.walk] at hlater
  exact congrArg Writing.text hlater

/-- What stands in front of the digits, for the basic characters of a label. -/
def front (basics : Text) : Text := if basics.isEmpty then [] else basics ++ ['-']

/-- Where writing starts, for the basic characters of a label. -/
def Writing.ofBasics (basics : Text) : Writing := ⟨front basics, basics.length, 0, firstBias⟩

theorem Reached.ofBasics (hbasics : label.all isBasic = true) :
    Reached label.length (.ofBasics label) label 0 0 (front label) firstBias where
  place_le := Nat.zero_le _
  upTo c hc := Nat.le_of_lt (of_decide_eq_true (List.all_eq_true.1 hbasics c hc))
  behind c hc := of_decide_eq_true (List.all_eq_true.1 hbasics c hc)
  walk := rfl
  first := iff_of_true rfl rfl
  basics_le := Nat.le_refl _

/-- A label is written as its basic characters and what the walks write. -/
theorem encode?_eq_of_reached {t text : Text} {bias : Nat}
    (hreached : Reached (label.filter isBasic).length (.ofBasics (label.filter isBasic)) label place
      k text bias)
    (hwrite : encode? label = some t) : t = text := by
  rw [encode?] at hwrite
  split at hwrite
  · cases hwrite
  · cases hwrite
    have hmem (n : Nat) : n ∈ (((label.filter fun c => !isBasic c).map Char.toNat).mergeSort
        fun a b => decide (a ≤ b)).eraseDups ↔ ∃ c ∈ label, isBasic c = false ∧ c.toNat = n := by
      simp [List.mem_eraseDups, List.mem_mergeSort, and_assoc]
    have hsorted : (((label.filter fun c => !isBasic c).map Char.toNat).mergeSort
        fun a b => decide (a ≤ b)).Pairwise (· ≤ ·) := by
      simpa using @List.pairwise_mergeSort Nat (fun a b => decide (a ≤ b))
        (by simpa using fun a b c => Nat.le_trans) (by simpa using Nat.le_total) _
    obtain ⟨j, hall, hcodes⟩ := @writeCodes_eq label (label.filter isBasic).length
      (.ofBasics (label.filter isBasic)) 0 List.countP_eq_length_filter.symm _
      (pairwise_eraseDups hsorted)
      (fun n hn => by
        obtain ⟨c, -, hc, rfl⟩ := (hmem n).1 hn
        simpa [isBasic] using hc)
      (fun c hc hle => (hmem _).2 ⟨c, hc, by simpa [isBasic] using hle, rfl⟩)
    exact (congrArg Writing.text hcodes).trans (hreached.text_before hall)

/-- What is read is cut at its last hyphen, in front of which the basic characters stand. -/
theorem decode?_parts {s : Text} (hread : decode? s = some label) :
    ∃ basics written, s = front basics ++ written ∧ written ≠ [] ∧ basics.all isBasic = true ∧
      readCodes? written 0 firstCode firstBias basics = some label := by
  simp only [decode?] at hread
  split at hread
  · cases hread
  rename_i hlimits
  rw [not_or, not_or, List.isEmpty_iff] at hlimits
  split at hread
  · cases hread
  rename_i hbasics
  rw [Bool.not_not_eq] at hbasics
  split at hread
  · exact ⟨[], s, rfl, hlimits.2.1, rfl, hread⟩
  rename_i hfull
  have hsplit : s = (s.reverse.dropWhile (· ≠ '-')).reverse ++
      (s.reverse.takeWhile (· ≠ '-')).reverse := by
    rw [← List.reverse_append, List.takeWhile_append_dropWhile, List.reverse_reverse]
  cases hdrop : s.reverse.dropWhile (· ≠ '-') with
  | nil =>
      rw [hdrop, List.reverse_nil, List.nil_append] at hsplit
      rw [← hsplit, Nat.sub_self, Nat.zero_sub] at hfull
      exact absurd rfl hfull
  | cons c before =>
      have hc : c = '-' := by
        have hne : s.reverse.dropWhile (· ≠ '-') ≠ [] := hdrop ▸ List.cons_ne_nil c before
        have hhead := List.head_dropWhile_not (· ≠ '-') hne
        simp only [hdrop, List.head_cons, decide_eq_false_iff_not, Decidable.not_not] at hhead
        exact hhead
      rw [hdrop, hc, List.reverse_cons] at hsplit
      have htake (written : Text) (hs : s = before.reverse ++ ['-'] ++ written) :
          s.take (s.length - written.length - 1) = before.reverse := by
        have hlength : s.length - written.length - 1 = before.reverse.length := by
          rw [hs, List.length_append, List.length_append, Nat.add_sub_cancel]
          rfl
        rw [hlength, hs, List.append_assoc, List.take_left]
      rw [htake _ hsplit] at hread hbasics hfull
      refine ⟨before.reverse, _, ?_, fun hempty => ?_, hbasics, hread⟩
      · rw [front, if_neg hfull]
        exact hsplit
      · rw [hempty, List.append_nil] at hsplit
        exact hlimits.2.2 (by rw [hsplit, List.getLast?_concat])

/-- **What is read as a label is how the label is written**, but for capital letters among its
digits. -/
theorem encode?_of_decode? {s t : Text} (hread : decode? s = some label)
    (hwrite : encode? label = some t) :
    ∃ basics written, s = front basics ++ written ∧ t = front basics ++ Text.lower written := by
  obtain ⟨basics, written, hs, -, hbasics, hcodes⟩ := decode?_parts hread
  obtain ⟨⟨place, k, bias, hreached⟩, hfilter, -⟩ :=
    (Reached.ofBasics hbasics).of_readCodes? hcodes rfl
  rw [List.filter_eq_self.2 (List.all_eq_true.1 hbasics)] at hfilter
  rw [← hfilter] at hreached
  exact ⟨basics, written, hs, hfilter ▸ encode?_eq_of_reached hreached hwrite⟩

/-- A label that is read has the basic characters of what is read, and others. -/
theorem characters_of_decode? {s : Text} (hread : decode? s = some label) :
    (∀ c ∈ label, isBasic c = true → c ∈ s) ∧ ∃ c ∈ label, isBasic c = false := by
  obtain ⟨basics, written, hs, hfull, hbasics, hcodes⟩ := decode?_parts hread
  obtain ⟨-, hfilter, -, hlonger⟩ := (Reached.ofBasics hbasics).of_readCodes? hcodes rfl
  rw [List.filter_eq_self.2 (List.all_eq_true.1 hbasics)] at hfilter
  refine ⟨fun c hc hbasic => ?_, ?_⟩
  · have hmem : c ∈ basics := hfilter ▸ List.mem_filter.2 ⟨hc, hbasic⟩
    rw [hs, front, if_neg (by simpa using List.ne_nil_of_mem hmem)]
    exact List.mem_append_left _ (List.mem_append_left _ hmem)
  · by_contra hnone
    have hall : label.filter isBasic = label :=
      List.filter_eq_self.2 fun c hc => Bool.not_eq_false _ ▸ fun hother => hnone ⟨c, hc, hother⟩
    have := hlonger hfull
    rw [← hfilter, hall] at this
    exact Nat.lt_irrefl _ this

/-! ## The characters that are written -/

theorem digits_writeNumber {bias n : Nat} : ∀ c ∈ writeNumber bias k n, ∃ d < 36, c = digit d := by
  fun_induction writeNumber bias k n with
  | case1 k n t hlt =>
      have hhigh : t ≤ 26 := threshold_le bias k
      exact fun c hc => ⟨n, by omega, List.mem_singleton.1 hc⟩
  | case2 k n t hge ih =>
      have hhigh : t ≤ 26 := threshold_le bias k
      have hrest : (n - t) % (36 - t) < 36 - t := Nat.mod_lt _ (by omega)
      exact List.forall_mem_cons.2 ⟨⟨_, by omega, rfl⟩, ih⟩

/-- What holds of the digits and of what is written already holds of all that is written. -/
theorem forall_foldl_pass {p : Char → Prop} (hdigit : ∀ d < 36, p (digit d)) (code : Nat)
    (s : Text) {w : Writing} (hw : ∀ c ∈ w.text, p c) :
    ∀ c ∈ (s.foldl (Writing.pass basics code) w).text, p c := by
  induction s generalizing w with
  | nil => exact hw
  | cons c rest ih =>
      refine ih ?_
      rw [Writing.pass]
      split
      · exact hw
      · split
        · refine List.forall_mem_append.2 ⟨hw, fun c hc => ?_⟩
          obtain ⟨d, hd, rfl⟩ := digits_writeNumber c hc
          exact hdigit d hd
        · exact hw

theorem forall_writeCodes {p : Char → Prop} (hdigit : ∀ d < 36, p (digit d)) {codes : List Nat}
    {code : Nat} {w : Writing} (hw : ∀ c ∈ w.text, p c) :
    ∀ c ∈ (writeCodes label basics codes code w).text, p c := by
  induction codes generalizing code w with
  | nil => exact hw
  | cons next rest ih => exact ih (forall_foldl_pass hdigit next label hw)

/-- A label is written with its basic characters, digits and hyphens. -/
theorem forall_encode? {p : Char → Prop} (hdigit : ∀ d < 36, p (digit d)) (hhyphen : p '-')
    (hbasics : ∀ c ∈ label, isBasic c = true → p c) {t : Text} (hwrite : encode? label = some t) :
    ∀ c ∈ t, p c := by
  rw [encode?] at hwrite
  split at hwrite
  · cases hwrite
  · cases hwrite
    have hfilter : ∀ c ∈ label.filter isBasic, p c :=
      fun c hc => hbasics c (List.mem_filter.1 hc).1 (List.mem_filter.1 hc).2
    refine forall_writeCodes hdigit ?_
    dsimp only
    split
    · exact List.forall_mem_nil _
    · exact List.forall_mem_append.2 ⟨hfilter, List.forall_mem_singleton.2 hhyphen⟩

end ServiceCall.Punycode
