import ServiceCall.Proofs.Text.Joins
import ServiceCall.Proofs.Web.Punycode
import ServiceCall.Web.Domain

/-!
# Names in ASCII

A domain name in ASCII is written as it is read, in small letters.  Mapping and composition leave
such a name alone, and a label in Punycode is written again as it was.  What is written is in ASCII
itself and has no character with a meaning in an address.
-/

namespace ServiceCall

/-! ## Tables -/

/-- Lines and the characters that they are made of. -/
inductive Table.Spelled : List String → List Text → Prop where
  | nil : Spelled [] []
  | cons {line : Text} {lines : List String} {texts : List Text} (rest : Spelled lines texts) :
    Spelled (String.ofList line :: lines) (line :: texts)

theorem Table.Spelled.rows_eq {lines : List String} {texts : List Text}
    (hlines : Spelled lines texts) :
    rows lines = texts.flatMap fun line => (Text.splitAll ',' line).map row := by
  induction hlines with
  | nil => rfl
  | cons _ ih =>
      rw [rows, List.flatMap_cons, String.toList_ofList, ← rows, ih]
      rfl

theorem Table.Spelled.numbers_eq {lines : List String} {texts : List Text}
    (hlines : Spelled lines texts) : numbers lines = texts.flatMap row := by
  induction hlines with
  | nil => rfl
  | cons _ ih =>
      rw [numbers, List.flatMap_cons, String.toList_ofList, ← numbers, ih]
      rfl

namespace Domain

/-! ## Composition -/

/-- Whether all stretches start at or above a number. -/
def startFrom (least : Nat) : List Nat → Bool
  | start :: _ :: rest => least ≤ start && startFrom least rest
  | _ => true

theorem inStretches_of_startFrom {least n : Nat} (hn : n < least) :
    ∀ {stretches : List Nat}, startFrom least stretches = true → inStretches n stretches = false
  | [], _ => rfl
  | [_], _ => rfl
  | start :: count :: rest, hstarts => by
      rw [startFrom, Bool.and_eq_true, decide_eq_true_eq] at hstarts
      rw [inStretches, inStretches_of_startFrom hn hstarts.2, Bool.or_false, Bool.and_eq_false_iff]
      exact .inl (decide_eq_false (by omega))

theorem markRows_beyond : (markRows.all fun row => startFrom 0x80 row.tail) = true := by
  rw [markRows, Table.Spelled.rows_eq (by repeat constructor)]
  decide +kernel

theorem composed_beyond :
    (composed.all fun entry => 0x80 ≤ entry.1 && 0x80 ≤ entry.2.2) = true := by
  rw [composed, partRows, Table.Spelled.rows_eq (by repeat constructor)]
  decide +kernel

variable {c : Char}

theorem markClass_ascii (hc : c.toNat < 0x80) : markClass c = 0 := by
  rw [markClass, List.findSome?_eq_none_iff.2]
  · rfl
  · intro row hrow
    have hstarts := List.all_eq_true.1 markRows_beyond row hrow
    cases row with
    | nil => rfl
    | cons number stretches =>
        exact if_neg fun hin => Bool.false_ne_true
          ((inStretches_of_startFrom hc hstarts).symm.trans hin)

theorem parts?_ascii (hc : c.toNat < 0x80) : parts? c = none := by
  have hhangul : Hangul.parts? c.toNat = none :=
    if_neg fun hle => absurd hle.1 (by simp only [Hangul.firstSyllable]; omega)
  have hlookup : composed.lookup c.toNat = none := by
    refine List.lookup_eq_none_iff.2 fun entry hentry => ?_
    have hbeyond := List.all_eq_true.1 composed_beyond entry hentry
    simp only [Bool.and_eq_true, decide_eq_true_eq] at hbeyond
    exact bne_iff_ne.2 (by omega)
  rw [parts?, hhangul, hlookup]
  rfl

theorem whole?_ascii (a : Char) (hc : c.toNat < 0x80) : whole? a c = none := by
  have hhangul : Hangul.whole? a.toNat c.toNat = none := by
    have hvowel : ¬Hangul.firstVowel ≤ c.toNat := by
      rw [Hangul.firstVowel]
      omega
    have htrail : ¬Hangul.beforeTrail < c.toNat := by
      rw [Hangul.beforeTrail]
      omega
    rw [Hangul.whole?, if_neg fun hle => hvowel hle.2.2.1, if_neg fun hle => htrail hle.2.2.2.1]
  rw [whole?, hhangul]
  refine Option.map_eq_none_iff.2 (List.findSome?_eq_none_iff.2 fun entry hentry => ?_)
  refine if_neg fun heq => ?_
  have hbeyond := List.all_eq_true.1 composed_beyond entry hentry
  simp only [heq, Bool.and_eq_true, decide_eq_true_eq] at hbeyond
  omega

/-- Characters in ASCII are not taken apart. -/
theorem flatMap_takeApart_ascii {s : Text} (hs : isAscii s = true) :
    s.flatMap (takeApart mostParts) = s := by
  induction s with
  | nil => rfl
  | cons c rest ih =>
      rw [isAscii, List.all_cons, Bool.and_eq_true, decide_eq_true_eq] at hs
      rw [List.flatMap_cons, ih hs.2, mostParts, takeApart, parts?_ascii hs.1]
      rfl

theorem orderMarks_ascii {s : Text} (hs : isAscii s = true) : orderMarks s = s := by
  have hfold : ∀ sofar : Text,
      s.foldl (fun sofar c => insertMark c sofar) sofar = s.reverse ++ sofar := by
    induction s with
    | nil => exact fun _ => rfl
    | cons c rest ih =>
        rw [isAscii, List.all_cons, Bool.and_eq_true, decide_eq_true_eq] at hs
        have hinsert (sofar : Text) : insertMark c sofar = c :: sofar := by
          cases sofar with
          | nil => rfl
          | cons d others =>
              rw [insertMark, markClass_ascii hs.1]
              exact if_neg fun hmark => Nat.lt_irrefl 0 hmark.1
        intro sofar
        rw [List.foldl_cons, ih hs.2, hinsert, List.reverse_cons, List.append_assoc]
        rfl
  rw [orderMarks, hfold, List.append_nil, List.reverse_reverse]

theorem joinFrom_ascii (letter : Char) {s : Text} (hs : isAscii s = true) :
    joinFrom letter [] s = letter :: s := by
  induction s generalizing letter with
  | nil => rfl
  | cons c rest ih =>
      rw [isAscii, List.all_cons, Bool.and_eq_true, decide_eq_true_eq] at hs
      rw [joinFrom, isBlocked, if_neg Bool.false_ne_true, whole?_ascii letter hs.1]
      dsimp only
      rw [if_pos (markClass_ascii hs.1), ih c hs.2]
      rfl

/-- A text in ASCII is composed. -/
theorem compose_ascii {s : Text} (hs : isAscii s = true) : compose s = s := by
  rw [compose, flatMap_takeApart_ascii hs, orderMarks_ascii hs]
  cases s with
  | nil => rfl
  | cons c rest =>
      rw [isAscii, List.all_cons, Bool.and_eq_true, decide_eq_true_eq] at hs
      rw [join, if_pos (markClass_ascii hs.1), joinFrom_ascii c hs.2]

/-! ## Mapping -/

theorem isAscii_lower {s : Text} (hs : isAscii s = true) : isAscii (Text.lower s) = true := by
  rw [isAscii, List.all_eq_true] at hs
  rw [isAscii, Text.lower, List.all_map, List.all_eq_true]
  exact fun c hc => decide_eq_true (toLower_ascii (of_decide_eq_true (hs c hc)))

theorem mapText?_ascii {s : Text} (hs : isAscii s = true) : mapText? s = some (Text.lower s) := by
  have hmapM : s.mapM image? = some (s.map fun c => [c.toLower]) := by
    induction s with
    | nil => rfl
    | cons c rest ih =>
        rw [isAscii, List.all_cons, Bool.and_eq_true, decide_eq_true_eq] at hs
        rw [List.mapM_cons, image?, if_pos hs.1, ih hs.2]
        rfl
  rw [mapText?, hmapM, Option.map_some, ← List.flatMap_def, ← List.map_eq_flatMap, Text.lower]

/-! ## Labels -/

/-- The characters of a name in its form for the wire. -/
def isNameChar (c : Char) : Bool := c.toNat < 0x80 && !isForbidden c

theorem isAscii_of_isNameChar {s : Text} (hs : s.all isNameChar = true) : isAscii s = true := by
  rw [List.all_eq_true] at hs
  exact List.all_eq_true.2 fun c hc => (Bool.and_eq_true_iff.1 (hs c hc)).1

theorem isNameChar_digit : ∀ d < 36, isNameChar (Punycode.digit d) = true := by decide

/-- A label that was read is not in ASCII alone. -/
theorem isAscii_of_decode? {s label : Text} (hread : Punycode.decode? s = some label) :
    isAscii label = false := by
  obtain ⟨c, hc, hother⟩ := (Punycode.characters_of_decode? hread).2
  exact List.all_eq_false.2 ⟨c, hc, Bool.eq_false_iff.1 hother⟩

/-- A label is read as it stands, or it has the mark of Punycode. -/
theorem readable?_cases {label readable : Text} (hread : readable? label = some readable) :
    readable = label ∨
      ∃ rest, label = encodedMark ++ rest ∧ Punycode.decode? rest = some readable := by
  rw [readable?] at hread
  split at hread
  · rename_i hmark
    obtain ⟨rest, rfl⟩ := List.isPrefixOf_iff_prefix.1 hmark
    exact .inr ⟨rest, rfl, (Option.filter_eq_some_iff.1 hread).1⟩
  · split at hread
    · exact .inl (Option.some.inj hread).symm
    · cases hread

/-- A label in small letters of ASCII is written again as it was. -/
theorem encodeLabel?_of_readable? {label readable written : Text} (hascii : isAscii label = true)
    (hlower : Text.lower label = label) (hread : readable? label = some readable)
    (hwrite : encodeLabel? readable = some written) : written = label := by
  rcases readable?_cases hread with rfl | ⟨rest, rfl, hdecode⟩
  · rw [encodeLabel?, if_pos hascii] at hwrite
    exact (Option.some.inj hwrite).symm
  · rw [encodeLabel?, isAscii_of_decode? hdecode, if_neg Bool.false_ne_true] at hwrite
    obtain ⟨encoded, hencode, rfl⟩ := Option.map_eq_some_iff.1 hwrite
    obtain ⟨basics, digits, rfl, rfl⟩ := Punycode.encode?_of_decode? hdecode hencode
    rw [Text.lower, List.map_append, List.map_append] at hlower
    have hdigits := (List.append_inj (List.append_inj hlower (List.length_map ..)).2
      (List.length_map ..)).2
    rw [Text.lower, hdigits]

/-- What is written for a label has characters of names only. -/
theorem isNameChar_of_encodeLabel? {label readable written : Text}
    (hlabel : ∀ c ∈ label, isForbidden c = false) (hread : readable? label = some readable)
    (hwrite : encodeLabel? readable = some written) : written.all isNameChar = true := by
  have hbasics : ∀ c ∈ readable, Punycode.isBasic c = true → isNameChar c = true := by
    intro c hc hbasic
    have hmem : c ∈ label := by
      rcases readable?_cases hread with rfl | ⟨rest, rfl, hdecode⟩
      · exact hc
      · exact List.mem_append_right _ ((Punycode.characters_of_decode? hdecode).1 c hc hbasic)
    rw [isNameChar, hlabel c hmem]
    exact Bool.and_eq_true_iff.2 ⟨hbasic, rfl⟩
  rw [encodeLabel?] at hwrite
  split at hwrite
  · rename_i hascii
    cases hwrite
    exact List.all_eq_true.2 fun c hc => hbasics c hc (List.all_eq_true.1 hascii c hc)
  · obtain ⟨encoded, hencode, rfl⟩ := Option.map_eq_some_iff.1 hwrite
    rw [List.all_append, Bool.and_eq_true]
    refine ⟨by decide, List.all_eq_true.2 ?_⟩
    exact Punycode.forall_encode? isNameChar_digit (by decide) hbasics hencode

/-! ## Names -/

section

variable {α β : Type} {f : α → Option β} {g : β → Option α} {list others : List α}
  {images : List β}

theorem mapM_cons_eq_some {a : α} (hmap : (a :: list).mapM f = some images) :
    ∃ b rest, images = b :: rest ∧ f a = some b ∧ list.mapM f = some rest := by
  simp only [List.mapM_cons, Option.bind_eq_bind, Option.bind_eq_some_iff, Option.pure_def,
    Option.some.injEq] at hmap
  obtain ⟨b, hb, rest, hrest, rfl⟩ := hmap
  exact ⟨b, rest, rfl, hb, hrest⟩

theorem exists_of_mem_mapM (hmap : list.mapM f = some images) {b : β} (hb : b ∈ images) :
    ∃ a ∈ list, f a = some b := by
  induction list generalizing images with
  | nil =>
      cases hmap
      exact absurd hb List.not_mem_nil
  | cons a rest ih =>
      obtain ⟨first, images, rfl, hfirst, hrest⟩ := mapM_cons_eq_some hmap
      rcases List.mem_cons.1 hb with rfl | hmem
      · exact ⟨a, List.mem_cons_self, hfirst⟩
      · obtain ⟨other, hother, himage⟩ := ih hrest hmem
        exact ⟨other, List.mem_cons_of_mem a hother, himage⟩

/-- There and back again is nowhere if it is so for each element. -/
theorem eq_of_mapM_mapM
    (hback : ∀ a ∈ list, ∀ b, f a = some b → ∀ a', g b = some a' → a' = a)
    (hmap : list.mapM f = some images) (hother : images.mapM g = some others) :
    others = list := by
  induction list generalizing images others with
  | nil =>
      cases hmap
      cases hother
      rfl
  | cons a rest ih =>
      obtain ⟨ha, hrest⟩ := List.forall_mem_cons.1 hback
      obtain ⟨b, images, rfl, hb, hmap⟩ := mapM_cons_eq_some hmap
      obtain ⟨a', others, rfl, ha', hother⟩ := mapM_cons_eq_some hother
      rw [ha b hb a' ha', ih hrest hmap hother]

theorem mapM_eq_self {f : α → Option α} (hsame : ∀ a ∈ list, f a = some a) :
    list.mapM f = some list := by
  induction list with
  | nil => rfl
  | cons a rest ih =>
      obtain ⟨ha, hrest⟩ := List.forall_mem_cons.1 hsame
      rw [List.mapM_cons, ha, ih hrest]
      rfl

end

theorem toAscii?_parts {name written : Text} (hwrite : toAscii? name = some written) :
    ∃ mapped readable labels, mapText? name = some mapped ∧
      (compose mapped).any isForbidden = false ∧
      (Text.splitAll '.' (compose mapped)).mapM readable? = some readable ∧
      readable.mapM encodeLabel? = some labels ∧ written = Text.join ['.'] labels := by
  simp only [toAscii?, Option.bind_eq_bind, Option.bind_eq_some_iff] at hwrite
  obtain ⟨mapped, hmapped, hwrite⟩ := hwrite
  split at hwrite
  · cases hwrite
  rename_i hallowed
  obtain ⟨readable, hreadable, hwrite⟩ := Option.bind_eq_some_iff.1 hwrite
  split at hwrite
  · obtain ⟨labels, hlabels, hwrite⟩ := Option.bind_eq_some_iff.1 hwrite
    exact ⟨mapped, readable, labels, hmapped, Bool.eq_false_iff.2 hallowed, hreadable, hlabels,
      (Option.some.inj hwrite).symm⟩
  · cases hwrite

theorem isAscii_of_mem_splitAll {name label : Text} (hname : isAscii name = true)
    (hlabel : label ∈ Text.splitAll '.' name) : isAscii label = true :=
  List.all_eq_true.2 fun c hc => List.all_eq_true.1 hname c (Text.mem_of_mem_splitAll hlabel hc)

/-- **A name in ASCII is written in small letters and otherwise as it is.** -/
theorem toAscii?_ascii {name written : Text} (hname : isAscii name = true)
    (hwrite : toAscii? name = some written) : written = Text.lower name := by
  obtain ⟨mapped, readable, labels, hmapped, -, hreadable, hlabels, rfl⟩ := toAscii?_parts hwrite
  rw [mapText?_ascii hname] at hmapped
  cases hmapped
  have hlower := isAscii_lower hname
  rw [compose_ascii hlower] at hreadable
  have hsame : labels = Text.splitAll '.' (Text.lower name) := by
    refine eq_of_mapM_mapM (fun label hlabel read hread written hwritten => ?_) hreadable hlabels
    refine encodeLabel?_of_readable? (isAscii_of_mem_splitAll hlower hlabel) ?_ hread hwritten
    refine (List.map_congr_left fun c hc => ?_).trans (List.map_id label)
    obtain ⟨d, -, rfl⟩ := List.mem_map.1 (Text.mem_of_mem_splitAll hlabel hc)
    exact eq_toLower Char.toLower (by decide) d
  rw [hsame, Text.join_splitAll]

/-- What is written for a name has characters of names only. -/
theorem isNameChar_of_toAscii? {name written : Text} (hwrite : toAscii? name = some written) :
    written.all isNameChar = true := by
  obtain ⟨mapped, readable, labels, -, hallowed, hreadable, hlabels, rfl⟩ := toAscii?_parts hwrite
  rw [List.any_eq_false] at hallowed
  refine List.all_eq_true.2 fun c hc => ?_
  rcases Text.mem_join hc with hpoint | ⟨label, hlabel, hmem⟩
  · rw [List.mem_singleton.1 hpoint]
    decide
  · obtain ⟨read, hread, hencode⟩ := exists_of_mem_mapM hlabels hlabel
    obtain ⟨source, hsource, hreads⟩ := exists_of_mem_mapM hreadable hread
    refine List.all_eq_true.1 (isNameChar_of_encodeLabel? (fun d hd => ?_) hreads hencode) c hmem
    exact Bool.eq_false_iff.2 (hallowed d (Text.mem_of_mem_splitAll hsource hd))

/-! ## Names that are written -/

theorem rightRuns_beyond : rightRuns.head? = some 1470 := by
  rw [rightRuns, Table.Spelled.numbers_eq (by repeat constructor)]
  decide +kernel

theorem arabicDigitRuns_beyond : arabicDigitRuns.head? = some 1632 := by
  rw [arabicDigitRuns, Table.Spelled.numbers_eq (by repeat constructor)]
  decide +kernel

theorem inRuns_of_lt {runs : List Nat} {first : Nat} (hruns : runs.head? = some first)
    (hc : c.toNat < first) : Table.inRuns runs c = false := by
  obtain ⟨rest, rfl⟩ := List.head?_eq_some_iff.1 hruns
  exact if_pos hc

theorem isFromRight_eq (c : Char) :
    isFromRight c = (Table.inRuns rightRuns c || Table.inRuns arabicDigitRuns c) := by
  unfold isFromRight Direction.of
  generalize Table.inRuns rightRuns c = right
  generalize Table.inRuns arabicDigitRuns c = arabic
  generalize Table.inRuns europeanDigitRuns c = european
  generalize Table.inRuns placelessRuns c = placeless
  generalize Table.inRuns neutralRuns c = neutral
  cases right <;> cases arabic <;> cases european <;> cases placeless <;> cases neutral <;> rfl

/-- No character in ASCII makes its name one with two directions. -/
theorem isFromRight_ascii (hc : c.toNat < 0x80) : isFromRight c = false := by
  rw [isFromRight_eq, inRuns_of_lt rightRuns_beyond (by omega),
    inRuns_of_lt arabicDigitRuns_beyond (by omega), Bool.or_self]

/-- A name of allowed characters without the mark of Punycode. -/
def isPlainName (name : Text) : Bool :=
  name.all isNameChar &&
    (Text.splitAll '.' (Text.lower name)).all fun label => !encodedMark.isPrefixOf label

theorem isNameChar_lower {s : Text} (hs : s.all isNameChar = true) :
    (Text.lower s).all isNameChar = true := by
  refine List.all_eq_true.2 fun c hc => ?_
  obtain ⟨d, hd, rfl⟩ := List.mem_map.1 hc
  have hname := List.all_eq_true.1 hs d hd
  exact of_ascii (p := fun c => isNameChar c = true → isNameChar c.toLower = true) (by decide)
    (of_decide_eq_true (Bool.and_eq_true_iff.1 hname).1) hname

/-- A plain name is written. -/
theorem toAscii?_plain {name : Text} (hname : isPlainName name = true) :
    toAscii? name = some (Text.lower name) := by
  obtain ⟨hchars, hunmarked⟩ := Bool.and_eq_true_iff.1 hname
  have hascii := isAscii_of_isNameChar hchars
  have hlower := isAscii_lower hascii
  have hallowed : (Text.lower name).any isForbidden = false :=
    List.any_eq_false.2 fun c hc => by
      simpa using (Bool.and_eq_true_iff.1 (List.all_eq_true.1 (isNameChar_lower hchars) c hc)).2
  have hread : (Text.splitAll '.' (Text.lower name)).mapM readable? =
      some (Text.splitAll '.' (Text.lower name)) :=
    mapM_eq_self fun label hmem => by
      have hmark := List.all_eq_true.1 hunmarked label hmem
      rw [Bool.not_eq_true'] at hmark
      rw [readable?, hmark, if_neg Bool.false_ne_true,
        isAscii_of_mem_splitAll hlower hmem]
      rfl
  have hdirection : isReadable (Text.splitAll '.' (Text.lower name)) = true := by
    have hnone : ((Text.splitAll '.' (Text.lower name)).any fun label =>
        label.any isFromRight) = false :=
      List.any_eq_false.2 fun label hmem => Bool.eq_false_iff.1 <|
        List.any_eq_false.2 fun c hc => Bool.eq_false_iff.1 <| isFromRight_ascii <|
          of_decide_eq_true (List.all_eq_true.1 (isAscii_of_mem_splitAll hlower hmem) c hc)
    rw [isReadable, hnone]
    rfl
  have hwrite : (Text.splitAll '.' (Text.lower name)).mapM encodeLabel? =
      some (Text.splitAll '.' (Text.lower name)) :=
    mapM_eq_self fun _ hmem => if_pos (isAscii_of_mem_splitAll hlower hmem)
  simp only [toAscii?, mapText?_ascii hascii, Option.bind_eq_bind, Option.bind_some,
    compose_ascii hlower, hallowed, Bool.false_eq_true, if_false, hread, hdirection, if_true,
    hwrite, Option.pure_def, Text.join_splitAll]

end Domain

end ServiceCall
