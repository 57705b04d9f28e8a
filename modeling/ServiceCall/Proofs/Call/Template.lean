import ServiceCall.Proofs.Call.HostPrefix

/-!
# The grammar of a host prefix

A template is read from left to right: plain text up to an opening brace, a name up to the next
closing brace, and so on to a plain rest.  A text has one such reading at most, and it is made
before any field is looked at.  A prefix is allowed if there is a reading whose plain parts and
fields are letters, digits, hyphens and points, and it is these parts put together.
-/

namespace ServiceCall.HostPrefix

/-- A reading of a template: text that is free of opening braces, or such a text with a placeholder
behind it, whose name is free of closing braces, and what comes later. -/
inductive Template where
  | rest (plain : Text) (hplain : openBrace ∉ plain)
  | slot (before name : Text) (hbefore : openBrace ∉ before) (hname : closeBrace ∉ name)
      (later : Template)

namespace Template

/-- The text that is read so. -/
def text : Template → Text
  | rest plain _ => plain
  | slot before name _ _ later => before ++ openBrace :: (name ++ closeBrace :: later.text)

/-- The plain parts with the fields between them. -/
def fill (field : Text → Option Text) : Template → Text
  | rest plain _ => plain
  | slot before name _ _ later => before ++ (field name).getD [] ++ later.fill field

/-- The plain parts are allowed, and every name has a field that is allowed and not empty. -/
def Fits (field : Text → Option Text) : Template → Prop
  | rest plain _ => isLabelText plain = true
  | slot before name _ _ later =>
    isLabelText before = true ∧
      (∃ value, field name = some value ∧ value ≠ [] ∧ isLabelText value = true) ∧
      later.Fits field

end Template

variable {template name value label rest expanded : Text} {field : Text → Option Text}

/-! ## One step of the expansion -/

theorem fieldText_eq_ok_iff : fieldText field name = .ok value ↔
    field name = some value ∧ value ≠ [] ∧ isLabelText value = true := by
  constructor
  · intro hok
    unfold fieldText at hok
    dsimp only at hok
    split at hok
    · cases hok
    · next hfull =>
        split at hok
        · next hallowed =>
            obtain rfl := Except.ok.inj hok
            cases hfield : field name with
            | none => exact absurd (by rw [hfield]; rfl) hfull
            | some given =>
                rw [hfield] at hfull hallowed
                exact ⟨rfl, fun hempty => hfull (List.isEmpty_iff.2 hempty), hallowed⟩
        · cases hok
  · rintro ⟨hfield, hfull, hallowed⟩
    simp [fieldText, hfield, hfull, hallowed]

theorem substitute_plain (template : Text) (field : Text → Option Text)
    (hplain : openBrace ∉ rest) : substitute template field rest = .ok rest := by
  have hsplit := (Text.splitOnce_eq_none_iff openBrace rest).2 hplain
  rw [substitute]
  split
  · rfl
  · next hsome =>
      rw [hsplit] at hsome
      cases hsome

theorem substitute_slot {before after : Text} (template : Text) (field : Text → Option Text)
    (hbefore : openBrace ∉ before) (hname : closeBrace ∉ name) :
    substitute template field (before ++ openBrace :: (name ++ closeBrace :: after)) =
      (fieldText field name).bind fun value =>
        (substitute template field after).map fun expanded => before ++ value ++ expanded := by
  have hopen := Text.splitOnce_append openBrace before (name ++ closeBrace :: after) hbefore
  have hclose := Text.splitOnce_append closeBrace name after hname
  rw [substitute]
  split
  · next hnone =>
      rw [hopen] at hnone
      cases hnone
  · next hsome =>
      rw [hopen] at hsome
      cases hsome
      split
      · next hnone =>
          rw [hclose] at hnone
          cases hnone
      · next hsome =>
          rw [hclose] at hsome
          cases hsome
          rfl

/-! ## Readings -/

theorem isLabelText_append (s t : Text) :
    isLabelText (s ++ t) = (isLabelText s && isLabelText t) := List.all_append

/-- A text has one reading. -/
theorem Template.text_injective : Function.Injective text := by
  intro t u htext
  induction t generalizing u with
  | rest plain hplain =>
      cases u with
      | rest other hother =>
          obtain rfl : plain = other := htext
          rfl
      | slot before name hbefore hname later =>
          refine absurd ?_ hplain
          rw [show plain = _ from htext]
          simp [text]
  | slot before name hbefore hname later ih =>
      cases u with
      | rest other hother =>
          refine absurd ?_ hother
          rw [show other = _ from htext.symm]
          simp [text]
      | slot before' name' hbefore' hname' later' =>
          -- The same cuts that the expansion makes.
          have hopen := congrArg (Text.splitOnce openBrace) htext
          simp only [text, Text.splitOnce_append _ _ _ hbefore,
            Text.splitOnce_append _ _ _ hbefore', Option.some.injEq, Prod.mk.injEq] at hopen
          have hclose := congrArg (Text.splitOnce closeBrace) hopen.2
          simp only [Text.splitOnce_append _ _ _ hname, Text.splitOnce_append _ _ _ hname',
            Option.some.injEq, Prod.mk.injEq] at hclose
          obtain ⟨rfl, -⟩ := hopen
          obtain ⟨rfl, hlater⟩ := hclose
          obtain rfl := ih hlater
          rfl

/-- A template that fits is filled in, and the result is allowed. -/
theorem Template.Fits.substitute {t : Template} (hfits : t.Fits field) (template : Text) :
    substitute template field t.text = .ok (t.fill field) ∧
      isLabelText (t.fill field) = true := by
  induction t with
  | rest plain hplain => exact ⟨substitute_plain template field hplain, hfits⟩
  | slot before name hbefore hname later ih =>
      obtain ⟨hallowed, ⟨value, hfield, hfull, hvalue⟩, hlater⟩ := hfits
      obtain ⟨hfilled, hfill⟩ := ih hlater
      have htext : fieldText field name = .ok value := fieldText_eq_ok_iff.2 ⟨hfield, hfull, hvalue⟩
      rw [text, fill, substitute_slot template field hbefore hname, htext, hfilled, hfield]
      refine ⟨rfl, ?_⟩
      rw [Option.getD_some, isLabelText_append, isLabelText_append, hallowed, hvalue, hfill]
      rfl

/-- What is filled in to an allowed prefix has a reading that fits. -/
theorem exists_template (hsubstitute : substitute template field rest = .ok expanded)
    (hallowed : isLabelText expanded = true) :
    ∃ t : Template, t.text = rest ∧ t.Fits field ∧ expanded = t.fill field := by
  fun_induction substitute template field rest generalizing expanded with
  | case1 rest hnone =>
      obtain rfl := Except.ok.inj hsubstitute
      exact ⟨.rest rest ((Text.splitOnce_eq_none_iff ..).1 hnone), rfl, hallowed, rfl⟩
  | case2 => cases hsubstitute
  | case3 rest before inside hopen name after hclose ih =>
      obtain ⟨rfl, hbefore⟩ := Text.splitOnce_eq_some _ hopen
      obtain ⟨rfl, hname⟩ := Text.splitOnce_eq_some _ hclose
      cases hvalue : fieldText field name with
      | error fault =>
          rw [hvalue] at hsubstitute
          cases hsubstitute
      | ok value =>
          cases hafter : substitute template field after with
          | error fault =>
              rw [hvalue, hafter] at hsubstitute
              cases hsubstitute
          | ok later =>
              rw [hvalue, hafter] at hsubstitute
              obtain rfl := Except.ok.inj hsubstitute
              rw [isLabelText_append, isLabelText_append, Bool.and_eq_true,
                Bool.and_eq_true] at hallowed
              obtain ⟨⟨hfront, -⟩, hback⟩ := hallowed
              obtain ⟨hfield, hfull, hlabel⟩ := fieldText_eq_ok_iff.1 hvalue
              obtain ⟨t, rfl, hfits, rfl⟩ := ih hafter hback
              refine ⟨.slot before name hbefore hname t, rfl,
                ⟨hfront, ⟨value, hfield, hfull, hlabel⟩, hfits⟩, ?_⟩
              rw [Template.fill, hfield, Option.getD_some]

/-- The grammar of host prefixes.  A template is expanded exactly if it has a reading, which it then
has only one of, with allowed plain parts and for every name a field that is allowed and not empty.
The prefix is the plain parts with the fields between them and is allowed itself.  Whatever else a
template is, the expansion fails with a fault of the configuration that is not retried. -/
theorem expand_grammar (template : Text) (field : Text → Option Text) :
    (∀ label, expand template field = .ok label ↔
      ∃ t : Template, t.text = template ∧ t.Fits field ∧ label = t.fill field) ∧
      (∀ label, expand template field = .ok label → isLabelText label = true) ∧
      Function.Injective Template.text ∧
      ((¬∃ t : Template, t.text = template ∧ t.Fits field) →
        ∃ failure, expand template field = .error failure ∧ failure.kind = .configuration ∧
          failure.retryable = false) := by
  have hgrammar (label : Text) : expand template field = .ok label ↔
      ∃ t : Template, t.text = template ∧ t.Fits field ∧ label = t.fill field := by
    rw [expand_eq_ok_iff]
    constructor
    · rintro ⟨hsubstitute, hallowed⟩
      exact exists_template hsubstitute hallowed
    · rintro ⟨t, rfl, hfits, rfl⟩
      exact hfits.substitute t.text
  refine ⟨hgrammar, fun label => isLabelText_of_expand, Template.text_injective, ?_⟩
  intro hnone
  cases hexpand : expand template field with
  | ok label =>
      obtain ⟨t, htext, hfits, -⟩ := (hgrammar label).1 hexpand
      exact absurd ⟨t, htext, hfits⟩ hnone
  | error failure =>
      obtain ⟨fault, rfl⟩ := Call.configuration_of_expand hexpand
      exact ⟨_, rfl, rfl, rfl⟩

/-- Placeholders do not nest: the first closing brace ends the name, which has an opening brace in
it then, and the second one is plain text that is not allowed. -/
theorem expand_grammar_nested :
    let field : Text → Option Text := fun _ => some "7".toList
    expand "a-\x7bX\x7d.\x7bY\x7d".toList field = .ok "a-7.7".toList ∧
      (¬∃ t : Template, t.text = "\x7bX\x7bY\x7d\x7d".toList ∧ t.Fits field) ∧
      ∃ failure, expand "\x7bX\x7bY\x7d\x7d".toList field = .error failure ∧
        failure.kind = .configuration ∧ failure.retryable = false := by
  intro field
  have hreading : expand "a-\x7bX\x7d.\x7bY\x7d".toList field = .ok "a-7.7".toList :=
    ((expand_grammar _ field).1 _).2
      ⟨.slot "a-".toList "X".toList (by decide) (by decide)
        (.slot ".".toList "Y".toList (by decide) (by decide) (.rest [] (by decide))),
        rfl, ⟨by decide, ⟨_, rfl, by decide, by decide⟩,
          ⟨by decide, ⟨_, rfl, by decide, by decide⟩, rfl⟩⟩, rfl⟩
  obtain ⟨-, -, hone, hfails⟩ := expand_grammar "\x7bX\x7bY\x7d\x7d".toList field
  have hnone : ¬∃ t : Template, t.text = "\x7bX\x7bY\x7d\x7d".toList ∧ t.Fits field := by
    rintro ⟨t, htext, hfits⟩
    have hread : t = .slot [] ['X', openBrace, 'Y'] (by decide) (by decide)
        (.rest [closeBrace] (by decide)) := hone htext
    rw [hread] at hfits
    obtain ⟨-, -, hrest⟩ := hfits
    exact Bool.false_ne_true hrest
  exact ⟨hreading, hnone, hfails hnone⟩

end ServiceCall.HostPrefix
