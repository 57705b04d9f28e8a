import ServiceCall.Http.Header

/-!
# Header fields

The fields of a message: names with values, in the order in which they were added.  A name may have
several values.  The view of a name is the list of its values, and every operation is described by
what it does to that view.
-/

namespace ServiceCall

structure Fields where
  entries : List (HeaderName × HeaderValue)
  deriving DecidableEq

namespace Fields

def empty : Fields := ⟨[]⟩

instance : Inhabited Fields := ⟨empty⟩

/-- The values of a name, in order. -/
def values (f : Fields) (name : HeaderName) : List HeaderValue :=
  (f.entries.filter fun e => e.1 = name).map (·.2)

/-- The first value of a name. -/
def first? (f : Fields) (name : HeaderName) : Option HeaderValue := (f.values name).head?

def contains (f : Fields) (name : HeaderName) : Bool := f.entries.any fun e => e.1 = name

/-- Adds a value after those that the name has. -/
def append (f : Fields) (name : HeaderName) (value : HeaderValue) : Fields :=
  ⟨f.entries ++ [(name, value)]⟩

def remove (f : Fields) (name : HeaderName) : Fields :=
  ⟨f.entries.filter fun e => e.1 ≠ name⟩

/-- Puts an entry in the place of the first one of its name, or at the end. -/
def replaceFirst (name : HeaderName) (value : HeaderValue) :
    List (HeaderName × HeaderValue) → List (HeaderName × HeaderValue)
  | [] => [(name, value)]
  | e :: rest =>
    if e.1 = name then (name, value) :: rest.filter fun e => e.1 ≠ name
    else e :: replaceFirst name value rest

/-- Makes a value the only one of its name. -/
def set (f : Fields) (name : HeaderName) (value : HeaderValue) : Fields :=
  ⟨replaceFirst name value f.entries⟩

/-- Fields in the course of being put over others, and the names that were replaced so far. -/
structure Merging where
  fields : Fields
  replaced : List HeaderName

/-- One more field, which the first time that its name comes up replaces those of that name. -/
def Merging.put (m : Merging) (e : HeaderName × HeaderValue) : Merging :=
  if e.1 ∈ m.replaced then { m with fields := m.fields.append e.1 e.2 }
  else ⟨(m.fields.remove e.1).append e.1 e.2, m.replaced ++ [e.1]⟩

/-- The fields of `f`, put over the defaults one after the other. -/
def withDefaults (f defaults : Fields) : Fields :=
  (f.entries.foldl Merging.put ⟨defaults, []⟩).fields

/-- The entries by name, those of one name in their order. -/
def sorted (f : Fields) : List (HeaderName × HeaderValue) :=
  f.entries.mergeSort fun a b => Text.le a.1.text b.1.text

/-- The names that have a value, in order and each once. -/
def names (f : Fields) : List HeaderName :=
  (f.sorted.map (·.1)).eraseDups

@[simp] theorem values_empty (name : HeaderName) : empty.values name = [] := rfl

theorem values_append (f : Fields) (name other : HeaderName) (value : HeaderValue) :
    (f.append name value).values other
      = f.values other ++ if name = other then [value] else [] := by
  simp only [values, append, List.filter_append, List.map_append]
  split <;> simp [*]

theorem values_remove (f : Fields) (name other : HeaderName) :
    (f.remove name).values other = if name = other then [] else f.values other := by
  simp only [values, remove, List.filter_filter]
  split
  · rename_i h
    subst h
    simp
  · rename_i h
    congr 1
    apply List.filter_congr
    intro e _
    by_cases he : e.1 = other
    · simp [he, Ne.symm h]
    · simp [he]

theorem values_replaceFirst (name other : HeaderName) (value : HeaderValue)
    (entries : List (HeaderName × HeaderValue)) :
    values ⟨replaceFirst name value entries⟩ other
      = if name = other then [value] else values ⟨entries⟩ other := by
  induction entries with
  | nil =>
    simp only [replaceFirst, values]
    split <;> simp [*]
  | cons e rest ih =>
    by_cases he : e.1 = name
    · have hr := values_remove ⟨rest⟩ name other
      simp only [remove, values] at hr
      simp only [replaceFirst, he, ↓reduceIte, values, List.filter_cons]
      by_cases h : name = other
      · simp only [h, decide_true, ↓reduceIte, List.map_cons]
        simp only [h, ↓reduceIte] at hr
        rw [hr]
      · simp only [h, decide_false, Bool.false_eq_true, ↓reduceIte]
        simp only [h, ↓reduceIte] at hr
        rw [hr]
    · simp only [values] at ih
      simp only [replaceFirst, he, ↓reduceIte, values, List.filter_cons]
      by_cases h : name = other
      · subst h
        simpa [he] using ih
      · simp only [h, ↓reduceIte] at ih ⊢
        split <;> simp [ih]

theorem values_set (f : Fields) (name other : HeaderName) (value : HeaderValue) :
    (f.set name value).values other = if name = other then [value] else f.values other :=
  values_replaceFirst name other value f.entries

theorem values_set_self (f : Fields) (name : HeaderName) (value : HeaderValue) :
    (f.set name value).values name = [value] := by
  rw [values_set, if_pos rfl]

theorem values_set_of_ne (f : Fields) {name other : HeaderName} (value : HeaderValue)
    (hne : name ≠ other) : (f.set name value).values other = f.values other := by
  rw [values_set, if_neg hne]

theorem contains_eq_true_iff (f : Fields) (name : HeaderName) :
    f.contains name = true ↔ f.values name ≠ [] := by
  simp [contains, values]

/-- What was put so far is over the defaults: a name that came up has the values that were put for
it, and any other name has its defaults. -/
structure Merging.Over (m : Merging) (defaults done : Fields) : Prop where
  values : ∀ name, m.fields.values name
    = if done.values name = [] then defaults.values name else done.values name
  replaced : ∀ name, name ∈ m.replaced ↔ done.values name ≠ []

theorem Merging.Over.put {m : Merging} {defaults done : Fields} (hover : m.Over defaults done)
    (e : HeaderName × HeaderValue) : (m.put e).Over defaults (done.append e.1 e.2) := by
  rw [Merging.put]
  split
  · next hmem =>
    have hdone := (hover.replaced e.1).1 hmem
    refine ⟨fun name => ?_, fun name => ?_⟩
    · rw [values_append, values_append, hover.values]
      by_cases hname : e.1 = name
      · simp [← hname, hdone]
      · simp [hname]
    · rw [hover.replaced, values_append]
      by_cases hname : e.1 = name
      · simp [← hname, hdone]
      · simp [hname]
  · next hmem =>
    refine ⟨fun name => ?_, fun name => ?_⟩
    · rw [values_append, values_append, values_remove, hover.values]
      by_cases hname : e.1 = name
      · have hdone : done.values e.1 = [] :=
          Classical.not_not.1 fun hsome => hmem ((hover.replaced e.1).2 hsome)
        simp [← hname, hdone]
      · simp [hname]
    · rw [List.mem_append, List.mem_singleton, hover.replaced, values_append]
      by_cases hname : e.1 = name
      · simp [hname]
      · simp [hname, Ne.symm hname]

theorem Merging.Over.foldl {m : Merging} {defaults done : Fields} (hover : m.Over defaults done)
    (rest : List (HeaderName × HeaderValue)) :
    (rest.foldl Merging.put m).Over defaults ⟨done.entries ++ rest⟩ := by
  induction rest generalizing m done with
  | nil => rwa [List.append_nil]
  | cons e rest ih =>
    have hrest := ih (hover.put e)
    rwa [append, List.append_assoc] at hrest

end Fields

end ServiceCall
