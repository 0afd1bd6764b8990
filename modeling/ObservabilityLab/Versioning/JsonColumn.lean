import ObservabilityLab.Python.Value

/-!
# JSON columns

A `JSONB` column keeps the numbers of a document as decimals. A float is read back as it was
written, or, where its text had an exponent, as the integer with its value; the negative zero is
read back as the positive one. The rest of a document is read back as it is; the order of the keys
of a dictionary is not observed.

## Main definitions

* `JsonColumn`: what a float is read back as
* `PyValue.stored`: what a document is read back as
* `PyValue.floats`, `KeepsFloat`: the floats of a value, and the floats that a column gives back
* `rereadFloat`: the float that a field of floats reads back
* `PyValue.readFloats`, `PyValue.floatsAt`: the value as a schema reads it, and its floats with the
  paths that they stand at

## Main results

* `rereadFloat_eq_self_iff`: a field of floats loses no float but the negative zero
* `PyValue.stored_eq_self_iff`: a document is read back as it was written exactly when the column
  keeps its floats
* `PyValue.readFloats_stored_iff`: the same of a document that is read by a schema
-/

namespace Python

namespace PyValue

mutual

/-- The floats of a value, at any depth. -/
def floats : PyValue → List PyFloat
  | float x => [x]
  | list xs => floatsList xs
  | dict entries => floatsEntries entries
  | _ => []

def floatsList : List PyValue → List PyFloat
  | [] => []
  | x :: xs => x.floats ++ floatsList xs

def floatsEntries : List (String × PyValue) → List PyFloat
  | [] => []
  | (_, v) :: entries => v.floats ++ floatsEntries entries

end

variable (fields : List (List String))

mutual

/-- The value as a schema reads it at a path of keys: a field of floats reads an integer as its
float. -/
def readFloats (path : List String) : PyValue → PyValue
  | int n => if path ∈ fields then float (PyFloat.ofRat n) else int n
  | list xs => list (readFloatsList path xs)
  | dict entries => dict (readFloatsEntries path entries)
  | v => v

def readFloatsList (path : List String) : List PyValue → List PyValue
  | [] => []
  | x :: xs => x.readFloats path :: readFloatsList path xs

def readFloatsEntries (path : List String) : List (String × PyValue) → List (String × PyValue)
  | [] => []
  | (k, v) :: entries => (k, v.readFloats (path ++ [k])) :: readFloatsEntries path entries

end

mutual

theorem readFloats_idem (path : List String) :
    ∀ v : PyValue, (v.readFloats fields path).readFloats fields path = v.readFloats fields path
  | none | bool _ | float _ | str _ | uuid _ => by simp only [readFloats]
  | int n => by
    by_cases hfield : path ∈ fields
    · simp only [readFloats, if_pos hfield]
    · simp only [readFloats, if_neg hfield]
  | list xs => by simp only [readFloats, readFloatsList_idem path xs]
  | dict es => by simp only [readFloats, readFloatsEntries_idem path es]

theorem readFloatsList_idem (path : List String) : ∀ xs : List PyValue,
    readFloatsList fields path (readFloatsList fields path xs) = readFloatsList fields path xs
  | [] => rfl
  | x :: xs => by
    simp only [readFloatsList, readFloats_idem path x, readFloatsList_idem path xs]

theorem readFloatsEntries_idem (path : List String) : ∀ es : List (String × PyValue),
    readFloatsEntries fields path (readFloatsEntries fields path es) =
      readFloatsEntries fields path es
  | [] => rfl
  | (k, v) :: es => by
    simp only [readFloatsEntries, readFloats_idem (path ++ [k]) v, readFloatsEntries_idem path es]

end

theorem map_fst_readFloatsEntries (path : List String) (entries : List (String × PyValue)) :
    (readFloatsEntries fields path entries).map (·.1) = entries.map (·.1) := by
  induction entries with
  | nil => rfl
  | cons entry entries ih => simp only [readFloatsEntries, List.map_cons, ih]

mutual

/-- The floats of a value at a path, with the paths that they stand at. -/
def floatsAt (path : List String) : PyValue → List (List String × PyFloat)
  | float x => [(path, x)]
  | list xs => floatsAtList path xs
  | dict entries => floatsAtEntries path entries
  | _ => []

def floatsAtList (path : List String) : List PyValue → List (List String × PyFloat)
  | [] => []
  | x :: xs => x.floatsAt path ++ floatsAtList path xs

def floatsAtEntries (path : List String) :
    List (String × PyValue) → List (List String × PyFloat)
  | [] => []
  | (k, v) :: entries => v.floatsAt (path ++ [k]) ++ floatsAtEntries path entries

end

end PyValue

/-- A `JSONB` column. -/
class JsonColumn where
  /-- What a float is read back as, after it was written as a JSON number. -/
  number : PyFloat → PyValue
  number_cases : ∀ x, number x = .float x ∨ (∃ n : ℤ, number x = .int n ∧ PyFloat.ofRat n = x) ∨
    x = .zero true ∧ number x = .float (.zero false)

/-- The column of a database that reads a float of at least `10 ^ 16` back as an integer. -/
@[reducible] def numericColumn : JsonColumn where
  number x :=
    match x with
    | .finite q =>
      if x = .zero true then .float (.zero false)
      -- from here on the text of a float has an exponent
      else if 10 ^ 16 ≤ |q.1| ∧ PyFloat.ofRat ⌊q.1⌋ = x then .int ⌊q.1⌋
      else .float x
    | x => .float x
  number_cases x := by
    cases x with
    | nan => exact Or.inl rfl
    | infinite negative => exact Or.inl rfl
    | finite q =>
      dsimp only
      split_ifs with hzero hlarge
      · exact Or.inr (Or.inr ⟨hzero, rfl⟩)
      · exact Or.inr (Or.inl ⟨_, rfl, hlarge.2⟩)
      · exact Or.inl rfl

variable [JsonColumn]

/-- A column gives a float back as it was written. -/
def KeepsFloat (x : PyFloat) : Prop := JsonColumn.number x = .float x

/-- The float that a field of floats reads back from a column. -/
def rereadFloat (x : PyFloat) : PyFloat :=
  match JsonColumn.number x with
  | .int n => PyFloat.ofRat n
  | .float y => y
  | _ => x

omit [JsonColumn] in
/-- An integer is not read as the negative zero. -/
theorem ofRat_intCast_ne (n : ℤ) : PyFloat.ofRat n ≠ .zero true := by
  unfold PyFloat.ofRat PyFloat.zero
  split_ifs with hbound
  · intro h
    -- only a negative number is rounded to the negative zero, but an integer rounds to at most -1
    have hminus := congrArg FiniteFloat.minusZero (PyFloat.finite.inj h)
    obtain ⟨hneg, hzero⟩ := of_decide_eq_true hminus
    have hle : (n : ℚ) ≤ -1 := by
      have hlt : n < 0 := by exact_mod_cast hneg
      exact_mod_cast Int.le_sub_one_of_lt hlt
    have hround := PyFloat.roundToFloat_le_of_neg (q := n) (by linarith)
    linarith
  · exact PyFloat.noConfusion

/-- **A field of floats loses no float but the negative zero.** -/
theorem rereadFloat_eq_self_iff {x : PyFloat} :
    rereadFloat x = x ↔ x ≠ .zero true ∨ KeepsFloat x := by
  unfold rereadFloat KeepsFloat
  -- the column keeps the float, gives it back as an integer, or drops the sign of the zero
  rcases JsonColumn.number_cases x with hkept | ⟨n, hinteger, rfl⟩ | ⟨rfl, hpositive⟩
  · simp [hkept]
  · simp [hinteger, ofRat_intCast_ne]
  · have hsigns : PyFloat.zero false ≠ .zero true := fun h =>
      Bool.false_ne_true (congrArg FiniteFloat.minusZero (PyFloat.finite.inj h))
    simp [hpositive, hsigns]

/-- A column keeps a float at a path for a schema: a field of floats loses only the negative
zero. -/
def KeepsAt (fields : List (List String)) (entry : List String × PyFloat) : Prop :=
  entry.1 ∈ fields ∧ entry.2 ≠ .zero true ∨ KeepsFloat entry.2

namespace PyValue

mutual

/-- The value as it is read back from a column. -/
def stored : PyValue → PyValue
  | float x => JsonColumn.number x
  | list xs => list (storedList xs)
  | dict entries => dict (storedEntries entries)
  | v => v

def storedList : List PyValue → List PyValue
  | [] => []
  | x :: xs => x.stored :: storedList xs

def storedEntries : List (String × PyValue) → List (String × PyValue)
  | [] => []
  | (k, v) :: entries => (k, v.stored) :: storedEntries entries

end

mutual

/-- **A value is read back as it was written** exactly when the column keeps its floats. -/
theorem stored_eq_self_iff : ∀ v : PyValue, v.stored = v ↔ ∀ x ∈ v.floats, KeepsFloat x
  | none | bool _ | int _ | str _ | uuid _ => by simp [stored, floats]
  | float x => by simp [stored, floats, KeepsFloat]
  | list xs => by simp only [stored, floats, list.injEq, storedList_eq_self_iff xs]
  | dict es => by simp only [stored, floats, dict.injEq, storedEntries_eq_self_iff es]

theorem storedList_eq_self_iff :
    ∀ xs : List PyValue, storedList xs = xs ↔ ∀ x ∈ floatsList xs, KeepsFloat x
  | [] => by simp [storedList, floatsList]
  | x :: xs => by
    simp only [storedList, floatsList, List.cons.injEq, stored_eq_self_iff x,
      storedList_eq_self_iff xs, List.forall_mem_append]

theorem storedEntries_eq_self_iff :
    ∀ es : List (String × PyValue), storedEntries es = es ↔ ∀ x ∈ floatsEntries es, KeepsFloat x
  | [] => by simp [storedEntries, floatsEntries]
  | (k, v) :: es => by
    simp only [storedEntries, floatsEntries, List.cons.injEq, Prod.mk.injEq, true_and,
      stored_eq_self_iff v, storedEntries_eq_self_iff es, List.forall_mem_append]

end

variable {fields : List (List String)}

/-- What a field reads of a float that was stored. -/
theorem readFloats_number (path : List String) (x : PyFloat) :
    (JsonColumn.number x).readFloats fields path =
      if path ∈ fields then float (rereadFloat x) else JsonColumn.number x := by
  unfold rereadFloat
  rcases JsonColumn.number_cases x with hkept | ⟨n, hinteger, -⟩ | ⟨-, hpositive⟩
  · simp only [hkept, readFloats, ite_self]
  · simp only [hinteger, readFloats]
  · simp only [hpositive, readFloats, ite_self]

mutual

/-- **A value is read back by its schema as it was written** exactly when the column keeps its
floats. -/
theorem readFloats_stored_iff {path : List String} :
    ∀ {v : PyValue}, v.readFloats fields path = v →
      (v.stored.readFloats fields path = v ↔ ∀ entry ∈ v.floatsAt path, KeepsAt fields entry)
  | none, _ | bool _, _ | str _, _ | uuid _, _ => by simp [stored, readFloats, floatsAt]
  -- integers are kept, so the schema reads what it read before
  | int n, h => by simpa only [stored, floatsAt, List.not_mem_nil, IsEmpty.forall_iff,
      implies_true, iff_true] using h
  | float x, _ => by
    by_cases hfield : path ∈ fields
    · simp [stored, readFloats_number, floatsAt, KeepsAt, rereadFloat_eq_self_iff, hfield]
    · simp [stored, readFloats_number, floatsAt, KeepsAt, KeepsFloat, hfield]
  | list xs, h => by
    simp only [readFloats, list.injEq] at h
    simp only [stored, readFloats, floatsAt, list.injEq, readFloatsList_stored_iff h]
  | dict es, h => by
    simp only [readFloats, dict.injEq] at h
    simp only [stored, readFloats, floatsAt, dict.injEq, readFloatsEntries_stored_iff h]

theorem readFloatsList_stored_iff {path : List String} :
    ∀ {xs : List PyValue}, readFloatsList fields path xs = xs →
      (readFloatsList fields path (storedList xs) = xs ↔
        ∀ entry ∈ floatsAtList path xs, KeepsAt fields entry)
  | [], _ => by simp [storedList, readFloatsList, floatsAtList]
  | x :: xs, h => by
    simp only [readFloatsList, List.cons.injEq] at h
    simp only [storedList, readFloatsList, floatsAtList, List.cons.injEq,
      readFloats_stored_iff h.1, readFloatsList_stored_iff h.2, List.forall_mem_append]

theorem readFloatsEntries_stored_iff {path : List String} :
    ∀ {es : List (String × PyValue)}, readFloatsEntries fields path es = es →
      (readFloatsEntries fields path (storedEntries es) = es ↔
        ∀ entry ∈ floatsAtEntries path es, KeepsAt fields entry)
  | [], _ => by simp [storedEntries, readFloatsEntries, floatsAtEntries]
  | (k, v) :: es, h => by
    simp only [readFloatsEntries, List.cons.injEq, Prod.mk.injEq, true_and] at h
    simp only [storedEntries, readFloatsEntries, floatsAtEntries, List.cons.injEq, Prod.mk.injEq,
      true_and, readFloats_stored_iff h.1, readFloatsEntries_stored_iff h.2,
      List.forall_mem_append]

end

/-- A number is read back as a number. -/
theorem jsonMode_number (x : PyFloat) : (JsonColumn.number x).jsonMode = JsonColumn.number x := by
  rcases JsonColumn.number_cases x with hkept | ⟨n, hinteger, -⟩ | ⟨-, hpositive⟩
  · simp only [hkept, jsonMode]
  · simp only [hinteger, jsonMode]
  · simp only [hpositive, jsonMode]

mutual

/-- What is read back of a value in JSON mode stays in JSON mode. -/
theorem jsonMode_stored : ∀ v : PyValue, v.jsonMode.stored.jsonMode = v.jsonMode.stored
  | none | bool _ | int _ | str _ | uuid _ => by simp only [jsonMode, stored]
  | float x => by simp only [jsonMode, stored, jsonMode_number]
  | list xs => by simp only [jsonMode, stored, jsonModeList_stored xs]
  | dict es => by simp only [jsonMode, stored, jsonModeEntries_stored es]

theorem jsonModeList_stored : ∀ xs : List PyValue,
    jsonModeList (storedList (jsonModeList xs)) = storedList (jsonModeList xs)
  | [] => rfl
  | x :: xs => by simp only [jsonModeList, storedList, jsonMode_stored x, jsonModeList_stored xs]

theorem jsonModeEntries_stored : ∀ es : List (String × PyValue),
    jsonModeEntries (storedEntries (jsonModeEntries es)) = storedEntries (jsonModeEntries es)
  | [] => rfl
  | (k, v) :: es => by
    simp only [jsonModeEntries, storedEntries, jsonMode_stored v, jsonModeEntries_stored es]

end

theorem stored_ofOption (s : Option String) : (ofOption s).stored = ofOption s := by
  cases s <;> rfl

theorem map_fst_storedEntries (entries : List (String × PyValue)) :
    (storedEntries entries).map (·.1) = entries.map (·.1) := by
  induction entries with
  | nil => rfl
  | cons entry entries ih => simp only [storedEntries, List.map_cons, ih]

theorem storedEntries_append (first second : List (String × PyValue)) :
    storedEntries (first ++ second) = storedEntries first ++ storedEntries second := by
  induction first with
  | nil => rfl
  | cons entry first ih => simp only [List.cons_append, storedEntries, ih]

theorem storedList_eq_map (xs : List PyValue) : storedList xs = xs.map stored := by
  induction xs with
  | nil => rfl
  | cons x xs ih => rw [storedList, ih, List.map_cons]

end PyValue

end Python
