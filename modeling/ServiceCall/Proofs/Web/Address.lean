import ServiceCall.Call.HostPrefix
import ServiceCall.Proofs.Http.Uri
import ServiceCall.Proofs.Web.Domain
import ServiceCall.Proofs.Web.Form
import ServiceCall.Proofs.Web.Ip

/-!
# Hosts of addresses

A host is a newer address in brackets, or it has none of the marks of an address in it.  A host that
is read again with more letters in front is the longer name, unless a special scheme takes the whole
for a number: then it is the address that the number stands for.
-/

namespace ServiceCall

/-! ## Percent encoding -/

namespace Percent

theorem decode_of_not_mem {bytes : Bytes} (hbytes : sign ∉ bytes) : decode bytes = bytes := by
  induction bytes with
  | nil => rfl
  | cons b rest ih =>
      rw [decode_cons (List.ne_of_not_mem_cons hbytes).symm,
        ih (List.not_mem_of_not_mem_cons hbytes)]

variable {p : Char → Bool} {q : Char → Prop} {s : Text}

theorem encodeIf_eq_self (hs : ∀ c ∈ s, p c = false) : encodeIf p s = s := by
  induction s with
  | nil => rfl
  | cons c rest ih =>
      obtain ⟨hc, hrest⟩ := List.forall_mem_cons.1 hs
      rw [encodeIf, List.flatMap_cons, hc, ← encodeIf, ih hrest]
      rfl

/-- What holds of the percent sign, of digits and of the characters that are kept holds of all. -/
theorem forall_encodeIf (hsign : q '%') (hdigit : ∀ n < 16, q (Hex.digit n).toUpper)
    (hkept : ∀ c ∈ s, p c = false → q c) : ∀ c ∈ encodeIf p s, q c := by
  intro c hc
  obtain ⟨d, hd, hc⟩ := List.mem_flatMap.1 hc
  split at hc
  · obtain ⟨b, -, hb⟩ := List.mem_flatMap.1 hc
    have hlt : b.toNat < 256 := b.toNat_lt
    simp only [encodeByte, List.mem_cons, List.not_mem_nil, or_false] at hb
    rcases hb with rfl | rfl | rfl
    · exact hsign
    · exact hdigit _ (by omega)
    · exact hdigit _ (by omega)
  · rename_i hp
    rw [List.mem_singleton.1 hc]
    exact hkept d hd (Bool.eq_false_iff.2 hp)

end Percent

namespace Address

open Domain (isNameChar)

/-! ## Hosts -/

/-- The characters of a host without brackets. -/
def isHostChar (special : Bool) (c : Char) : Bool :=
  if special then isNameChar c else !encodesAlways c && !isForbiddenInHost c

variable {c : Char} {special : Bool} {s name host : Text}

theorem isHostChar_of_isAlphanum (hc : c.isAlphanum = true) (special : Bool) :
    isHostChar special c = true :=
  of_ascii (p := fun c => ∀ special, c.isAlphanum = true → isHostChar special c = true) (by decide)
    (ascii_of_isAlphanum hc) special hc

theorem isVisibleChar_of_isHostChar (hc : isHostChar special c = true) :
    isVisibleChar c = true := by
  cases special with
  | true =>
      simp only [isHostChar, if_true, isNameChar, Domain.isForbidden, Bool.and_eq_true,
        Bool.not_eq_true', Bool.or_eq_false_iff, decide_eq_true_eq, decide_eq_false_iff_not,
        beq_eq_false_iff_ne] at hc
      simp only [isVisibleChar, Bool.and_eq_true, decide_eq_true_eq]
      omega
  | false =>
      simp only [isHostChar, Bool.false_eq_true, if_false, encodesAlways, Bool.and_eq_true,
        Bool.not_eq_true', Bool.or_eq_false_iff, decide_eq_false_iff_not] at hc
      simp only [isVisibleChar, Bool.and_eq_true, decide_eq_true_eq]
      omega

/-- No mark of an address stands in a host. -/
theorem ne_of_isHostChar {mark : Char} (hmark : ∀ special, isHostChar special mark = false)
    (hc : isHostChar special c = true) : c ≠ mark :=
  fun heq => Bool.false_ne_true ((hmark special).symm.trans (heq ▸ hc))

/-- Nothing is encoded in a visible text without a percent sign. -/
theorem decode_visible (hvisible : Text.isVisible s = true) (hsign : '%' ∉ s) :
    Utf8.decode? (Percent.decode (Utf8.encode s)) = some s := by
  have hnone : Percent.sign ∉ Utf8.encode s := by
    rw [encode_of_isVisible hvisible]
    intro hmem
    obtain ⟨c, hc, hbyte⟩ := List.mem_map.1 hmem
    have hascii := ascii_of_isVisibleChar (List.all_eq_true.1 hvisible c hc)
    have hpercent : c = '%' :=
      of_ascii (p := fun c => UInt8.ofNat c.toNat = Percent.sign → c = '%') (by decide) hascii hbyte
    exact hsign (hpercent ▸ hc)
  rw [Percent.decode_of_not_mem hnone, Utf8.decode?_encode]

theorem specialHost?_parts (hhead : s.head? ≠ some '[') (hhost : specialHost? s = some host) :
    ∃ read written, Utf8.decode? (Percent.decode (Utf8.encode s)) = some read ∧
      Domain.toAscii? read = some written ∧ written ≠ [] ∧
      if Ip.endsInNumber written then ∃ n, Ip.older? written = some n ∧ host = Ip.olderText n
      else host = written := by
  rw [specialHost?, if_neg hhead] at hhost
  simp only [Option.bind_eq_bind, Option.bind_eq_some_iff] at hhost
  obtain ⟨read, hread, written, hwritten, hhost⟩ := hhost
  refine ⟨read, written, hread, hwritten, ?_⟩
  split at hhost
  · cases hhost
  rename_i hfull
  refine ⟨by simpa using hfull, ?_⟩
  split at hhost
  · rename_i hnumber
    obtain ⟨n, hn, rfl⟩ := Option.map_eq_some_iff.1 hhost
    rw [if_pos hnumber]
    exact ⟨n, hn, rfl⟩
  · rename_i hname
    rw [if_neg hname]
    exact (Option.some.inj hhost).symm

theorem bracketed?_characters (hhost : bracketed? s = some host) :
    ∃ inner, host = '[' :: inner ∧ ∀ c ∈ inner, c.isAlphanum = true ∨ c = ':' ∨ c = ']' := by
  rw [bracketed?] at hhost
  split at hhost
  · obtain ⟨words, -, rfl⟩ := Option.map_eq_some_iff.1 hhost
    refine ⟨Ip.newerText words ++ [']'], rfl, List.forall_mem_append.2 ⟨?_, ?_⟩⟩
    · exact Ip.forall_newerText (fun c hc => .inl hc) (.inr (.inl rfl)) words
    · exact List.forall_mem_singleton.2 (.inr (.inr rfl))
  · cases hhost

/-- A host is a newer address in brackets, or it has no brackets. -/
theorem host?_characters (hhost : host? special s = some host) :
    (∃ inner, host = '[' :: inner ∧ ∀ c ∈ inner, c.isAlphanum = true ∨ c = ':' ∨ c = ']') ∨
      host.all (isHostChar special) = true := by
  by_cases hhead : s.head? = some '['
  · refine .inl (bracketed?_characters (s := s) ?_)
    cases special with
    | true => exact (if_pos hhead).symm.trans hhost
    | false => exact (if_pos hhead).symm.trans hhost
  · right
    cases special with
    | true =>
        obtain ⟨read, written, -, hwritten, -, hhost⟩ := specialHost?_parts hhead hhost
        split at hhost
        · obtain ⟨n, -, rfl⟩ := hhost
          refine List.all_eq_true.2 (Ip.forall_olderText (fun c hc => ?_) (by decide) n)
          exact isHostChar_of_isAlphanum (Bool.or_eq_true_iff.2 (.inr hc)) true
        · rw [hhost]
          exact Domain.isNameChar_of_toAscii? hwritten
    | false =>
        rw [host?, if_neg Bool.false_ne_true, ordinaryHost?, if_neg hhead] at hhost
        split at hhost
        · cases hhost
        rename_i hallowed
        cases hhost
        refine List.all_eq_true.2 (Percent.forall_encodeIf (by decide) (by decide) ?_)
        intro c hc hkept
        have hforbidden := List.any_eq_false.1 (Bool.eq_false_iff.2 hallowed) c hc
        simp only [isHostChar, Bool.false_eq_true, if_false, hkept, Bool.not_false, Bool.true_and,
          Bool.eq_false_iff.2 hforbidden]

theorem isAscii_of_isVisible (hs : Text.isVisible s = true) : Domain.isAscii s = true :=
  List.all_eq_true.2 fun c hc =>
    decide_eq_true (ascii_of_isVisibleChar (List.all_eq_true.1 hs c hc))

/-- **A host that is read again is the same name**, unless a special scheme takes it for a number:
then it is the address that the number stands for. -/
theorem host?_plain (hname : name.all (isHostChar special) = true)
    (hhost : host? special name = some host) :
    if special && Ip.endsInNumber (Text.lower name) then
      ∃ n, Ip.older? (Text.lower name) = some n ∧ host = Ip.olderText n
    else Text.lower host = Text.lower name := by
  rw [List.all_eq_true] at hname
  have hhead : name.head? ≠ some '[' := fun hhead =>
    ne_of_isHostChar (by decide) (hname '[' (List.mem_of_head? hhead)) rfl
  cases special with
  | true =>
      have hvisible : Text.isVisible name = true :=
        List.all_eq_true.2 fun c hc => isVisibleChar_of_isHostChar (hname c hc)
      have hsign : '%' ∉ name := fun hmem => absurd (hname '%' hmem) (by decide)
      obtain ⟨read, written, hread, hwritten, -, hhost⟩ := specialHost?_parts hhead hhost
      cases (decode_visible hvisible hsign).symm.trans hread
      obtain rfl := Domain.toAscii?_ascii (isAscii_of_isVisible hvisible) hwritten
      rw [Bool.true_and]
      split
      · rename_i hnumber
        rwa [if_pos hnumber] at hhost
      · rename_i hnumber
        rw [if_neg hnumber] at hhost
        rw [hhost, Text.lower_lower]
  | false =>
      rw [host?, if_neg Bool.false_ne_true, ordinaryHost?, if_neg hhead] at hhost
      split at hhost
      · cases hhost
      cases hhost
      rw [Bool.false_and, if_neg Bool.false_ne_true, Percent.encodeIf_eq_self]
      exact fun c hc => by simpa [isHostChar] using (Bool.and_eq_true_iff.1 (hname c hc)).1

/-- A bracket stands at the front of a host or nowhere. -/
theorem host?_bracket (hvisible : Text.isVisible name = true) (hsign : '%' ∉ name)
    (hhead : name.head? ≠ some '[') (hbracket : '[' ∈ name) : host? special name = none := by
  cases special with
  | true =>
      refine Option.eq_none_iff_forall_ne_some.2 fun host hhost => ?_
      obtain ⟨read, written, hread, hwritten, -⟩ := specialHost?_parts hhead hhost
      cases (decode_visible hvisible hsign).symm.trans hread
      have hchars := Domain.isNameChar_of_toAscii? hwritten
      obtain rfl := Domain.toAscii?_ascii (isAscii_of_isVisible hvisible) hwritten
      have hlower : '[' ∈ Text.lower name := List.mem_map.2 ⟨'[', hbracket, by decide⟩
      exact absurd (List.all_eq_true.1 hchars '[' hlower) (by decide)
  | false =>
      rw [host?, if_neg Bool.false_ne_true, ordinaryHost?, if_neg hhead, if_pos]
      exact List.any_eq_true.2 ⟨'[', hbracket, by decide⟩

/-- What a host is set to is read up to its first colon, if it does not start with a bracket. -/
theorem withHost?_parts {a b : Address} (hhead : name.head? ≠ some '[')
    (hset : a.withHost? name = some b) :
    ∃ front host, (front = name ∨ ∃ rest, name = front ++ ':' :: rest) ∧
      host? (isSpecial a.scheme) front = some host ∧ b = { a with host := some host } := by
  simp only [withHost?, hhead, false_and, if_false] at hset
  split at hset
  · cases hset
  split at hset
  · cases hset
  · rename_i front rest _ hsplit
    obtain ⟨host, hhost, rfl⟩ := Option.map_eq_some_iff.1 hset
    exact ⟨front, host, .inr ⟨rest, (Text.splitOnce_eq_some ':' hsplit).1⟩, hhost, rfl⟩
  · obtain ⟨host, hhost, rfl⟩ := Option.map_eq_some_iff.1 hset
    exact ⟨name, host, .inl rfl, hhost, rfl⟩

theorem isHostChar_of_isLabelChar (hc : HostPrefix.isLabelChar c = true) (special : Bool) :
    isHostChar special c = true := by
  simp only [HostPrefix.isLabelChar, Bool.or_eq_true, beq_iff_eq] at hc
  rcases hc with (halnum | rfl) | rfl
  · exact isHostChar_of_isAlphanum halnum special
  · cases special <;> decide
  · cases special <;> decide

section Labels

variable {label inner : Text}

theorem isHostChar_of_mem_label (hlabel : label.all HostPrefix.isLabelChar = true) (hc : c ∈ label)
    (special : Bool) : isHostChar special c = true :=
  isHostChar_of_isLabelChar (List.all_eq_true.1 hlabel c hc) special

theorem not_mem_label (hlabel : label.all HostPrefix.isLabelChar = true) {mark : Char}
    (hmark : isHostChar true mark = false) : mark ∉ label := fun hmem =>
  Bool.false_ne_true (hmark.symm.trans (isHostChar_of_mem_label hlabel hmem true))

theorem head?_label_append (hlabel : label.all HostPrefix.isLabelChar = true) (hfull : label ≠ [])
    (tail : Text) : (label ++ tail).head? ≠ some '[' := by
  obtain ⟨c, rest, rfl⟩ := List.exists_cons_of_ne_nil hfull
  intro hhead
  cases hhead
  exact not_mem_label hlabel (by decide) List.mem_cons_self

/-- Letters and a bracket are no host. -/
theorem host?_label_bracket (hlabel : label.all HostPrefix.isLabelChar = true) (hfull : label ≠ [])
    (hinner : ∀ c ∈ inner, c.isAlphanum = true ∨ c = ':' ∨ c = ']') :
    host? special (label ++ '[' :: inner) = none := by
  have hkept : ∀ c ∈ label ++ '[' :: inner, isVisibleChar c = true ∧ c ≠ '%' := by
    refine List.forall_mem_append.2 ⟨fun c hc => ?_, List.forall_mem_cons.2 ⟨by decide, ?_⟩⟩
    · exact ⟨isVisibleChar_of_isHostChar (isHostChar_of_mem_label hlabel hc true),
        fun heq => not_mem_label hlabel (by decide) (heq ▸ hc)⟩
    · intro c hc
      rcases hinner c hc with halnum | rfl | rfl
      · exact ⟨isVisibleChar_of_isAlphanum halnum, fun heq => absurd (heq ▸ halnum) (by decide)⟩
      · decide
      · decide
  exact host?_bracket (List.all_eq_true.2 fun c hc => (hkept c hc).1)
    (fun hmem => (hkept '%' hmem).2 rfl) (head?_label_append hlabel hfull _)
    (List.mem_append_right label List.mem_cons_self)

/-- A colon behind a bracket leaves the bracket in front of it. -/
theorem exists_bracket_of_split {front rest : Text} (hcolon : ':' ∉ label)
    (hsplit : label ++ '[' :: inner = front ++ ':' :: rest) :
    ∃ kept, front = label ++ '[' :: kept ∧ kept ⊆ inner := by
  rcases List.append_eq_append_iff.1 hsplit with ⟨tail, rfl, htail⟩ | ⟨tail, rfl, htail⟩
  · cases tail with
    | nil => cases htail
    | cons c tail =>
        cases htail
        exact ⟨tail, rfl, List.subset_append_left ..⟩
  · cases tail with
    | nil => cases htail
    | cons c tail =>
        cases htail
        exact absurd (List.mem_append_right _ List.mem_cons_self) hcolon

/-- **Letters in front of a host.**  The host that is set is read from the letters and the host that
was there; a host in brackets takes no letters. -/
theorem withHost?_prefixed {a b : Address} (hhost : host? (isSpecial a.scheme) s = some host)
    (hlabel : label.all HostPrefix.isLabelChar = true) (hfull : label ≠ [])
    (hset : a.withHost? (label ++ host) = some b) :
    (label ++ host).all (isHostChar (isSpecial a.scheme)) = true ∧
      ∃ host', host? (isSpecial a.scheme) (label ++ host) = some host' ∧
        b = { a with host := some host' } := by
  obtain ⟨front, host', hfront, hread, rfl⟩ :=
    withHost?_parts (head?_label_append hlabel hfull host) hset
  rcases host?_characters hhost with ⟨inner, rfl, hinner⟩ | hplain
  · obtain ⟨kept, rfl, hkept⟩ : ∃ kept, front = label ++ '[' :: kept ∧ kept ⊆ inner := by
      rcases hfront with rfl | ⟨rest, hsplit⟩
      · exact ⟨inner, rfl, List.Subset.refl inner⟩
      · exact exists_bracket_of_split (not_mem_label hlabel (by decide)) hsplit
    rw [host?_label_bracket hlabel hfull fun c hc => hinner c (hkept hc)] at hread
    cases hread
  · have hall : (label ++ host).all (isHostChar (isSpecial a.scheme)) = true := by
      rw [List.all_append, hplain, Bool.and_true]
      exact List.all_eq_true.2 fun c hc => isHostChar_of_mem_label hlabel hc _
    refine ⟨hall, host', ?_, rfl⟩
    rcases hfront with rfl | ⟨rest, hsplit⟩
    · exact hread
    · have hcolon : ':' ∈ label ++ host :=
        hsplit ▸ List.mem_append_right _ List.mem_cons_self
      exact absurd rfl (ne_of_isHostChar (by decide) (List.all_eq_true.1 hall ':' hcolon))

end Labels

end Address

end ServiceCall
