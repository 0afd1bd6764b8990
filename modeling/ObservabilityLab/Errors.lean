import ObservabilityLab.Python.Value

/-!
# Errors

What a call of the application raises: a `DomainError` with its code, message and HTTP status, a
pydantic `ValidationError` of one model field, a `ValueError`, or another built-in exception.
-/

namespace ObservabilityLab

open Python

/-- An exception that a modelled function raises. -/
inductive PyError where
  /-- A `ValueError` with its message. -/
  | value (message : String)
  /-- A pydantic `ValidationError` of a model, at a field or with a validator's message. -/
  | validation (model detail : String)
  /-- A `DomainError`. -/
  | domain (code message : String) (statusCode : ℕ)
  /-- Another built-in exception, by its class. -/
  | other (name message : String)
deriving DecidableEq

/-- The text of a pydantic `ValidationError`. -/
class ValidationTexts where
  text : String → String → String

/-- The texts of `ValidationError`s, by their details. -/
@[reducible] def plainTexts : ValidationTexts where
  text _ detail := detail

/-- `str(error)` -/
def PyError.str [ValidationTexts] : PyError → String
  | .value message => message
  | .validation model detail => ValidationTexts.text model detail
  | .domain _ message _ => message
  | .other _ message => message

/-- A call that returns a value or raises. -/
abbrev Raises := Except PyError

/-- `HTTPStatus.NOT_FOUND` -/
def notFound : ℕ := 404

/-- `HTTPStatus.UNPROCESSABLE_ENTITY` -/
def unprocessableEntity : ℕ := 422

/-- A pydantic constraint of one field. -/
def checkField (ok : Bool) (model field : String) : Raises Unit :=
  if ok then .ok () else .error (.validation model field)

@[simp] theorem checkField_eq_ok {ok : Bool} {model field : String} :
    checkField ok model field = .ok () ↔ ok = true := by
  unfold checkField
  split <;> simp_all

/-- `if bad: raise error` -/
def raiseIf (bad : Bool) (error : PyError) : Raises Unit :=
  if bad then .error error else .ok ()

@[simp] theorem raiseIf_eq_ok {bad : Bool} {error : PyError} :
    raiseIf bad error = .ok () ↔ bad = false := by
  unfold raiseIf
  split <;> simp_all

/-- A version that did not fail the check `Field(ge=1)`. -/
theorem one_le_of_check {n : ℕ} (h : ¬ ¬ 1 ≤ n) : 1 ≤ n := not_not.mp h

/-- `Field(min_length=low, max_length=high)` -/
def lengthWithin (low high : ℕ) (s : String) : Bool := low ≤ s.length && s.length ≤ high

/-- `Field(default=None, max_length=high)` -/
def optionWithin (high : ℕ) (s : Option String) : Bool := s.all fun t => t.length ≤ high

theorem bind_eq_ok {α β : Type} {x : Raises α} {f : α → Raises β} {r : β} :
    (x >>= f) = .ok r ↔ ∃ a, x = .ok a ∧ f a = .ok r := by
  cases x with
  | error e => simp [bind, Except.bind]
  | ok a => simp [bind, Except.bind]

/-- A call whose errors have a property. -/
def OnlyRaises {α : Type} (P : PyError → Prop) (x : Raises α) : Prop := ∀ e, x = .error e → P e

theorem onlyRaises_ok {α : Type} {P : PyError → Prop} (a : α) : OnlyRaises P (.ok a) :=
  fun _ h => by cases h

theorem onlyRaises_error {α : Type} {P : PyError → Prop} {error : PyError} (h : P error) :
    OnlyRaises P (.error error : Raises α) := by
  intro e he
  rw [← Except.error.inj he]
  exact h

theorem OnlyRaises.bind {α β : Type} {P : PyError → Prop} {x : Raises α} {f : α → Raises β}
    (hx : OnlyRaises P x) (hf : ∀ a, OnlyRaises P (f a)) : OnlyRaises P (x >>= f) := by
  cases x with
  | error e => exact onlyRaises_error (hx e rfl)
  | ok a => exact hf a

theorem onlyRaises_raiseIf {P : PyError → Prop} {bad : Bool} {error : PyError} (h : P error) :
    OnlyRaises P (raiseIf bad error) := by
  unfold raiseIf
  split
  · exact onlyRaises_error h
  · exact onlyRaises_ok _

/-- A loop raises what its steps raise. -/
theorem onlyRaises_forM {α : Type} {P : PyError → Prop} {f : α → Raises Unit} {l : List α}
    (h : ∀ a, OnlyRaises P (f a)) : OnlyRaises P (forM l f) := by
  induction l with
  | nil => exact onlyRaises_ok _
  | cons a l ih =>
    rw [List.forM_cons]
    exact (h a).bind fun _ => ih

/-- A loop over values raises what its steps raise. -/
theorem onlyRaises_mapM {α β : Type} {P : PyError → Prop} {f : α → Raises β} {l : List α}
    (h : ∀ a, OnlyRaises P (f a)) : OnlyRaises P (l.mapM f) := by
  induction l with
  | nil => exact onlyRaises_ok _
  | cons a l ih =>
    rw [List.mapM_cons]
    exact (h a).bind fun _ => ih.bind fun _ => onlyRaises_ok _

/-- A check followed by the rest of a function. -/
theorem check_bind_eq_ok {β : Type} {x : Raises Unit} {y : Raises β} {r : β} :
    (x >>= fun _ => y) = .ok r ↔ x = .ok () ∧ y = .ok r := by
  rw [bind_eq_ok]
  constructor
  · rintro ⟨⟨⟩, hx, hy⟩
    exact ⟨hx, hy⟩
  · rintro ⟨hx, hy⟩
    exact ⟨(), hx, hy⟩

/-- A loop that only checks succeeds exactly when every check does. -/
theorem forM_eq_ok {α : Type} {f : α → Raises Unit} {l : List α} :
    forM l f = .ok () ↔ ∀ a ∈ l, f a = .ok () := by
  induction l with
  | nil => simp [pure, Except.pure]
  | cons a l ih => rw [List.forM_cons, check_bind_eq_ok, ih, List.forall_mem_cons]

theorem mapM_eq_ok_map {α β : Type} {f : α → Raises β} {g : α → β}
    (hfg : ∀ a b, f a = .ok b → g a = b) {l : List α} {r : List β} (h : l.mapM f = .ok r) :
    l.map g = r := by
  induction l generalizing r with
  | nil => simpa [pure, Except.pure] using h
  | cons a l ih =>
    rw [List.mapM_cons, bind_eq_ok] at h
    obtain ⟨b, hb, hrest⟩ := h
    obtain ⟨bs, hbs, hr⟩ := bind_eq_ok.mp hrest
    have hr : b :: bs = r := Except.ok.inj hr
    rw [List.map_cons, hfg a b hb, ih hbs, hr]

/-- A loop that validates its elements returns them exactly when each is valid. -/
theorem mapM_eq_ok_self {α : Type} {f : α → Raises α} {l : List α} :
    l.mapM f = .ok l ↔ ∀ a ∈ l, f a = .ok a := by
  induction l with
  | nil => simp [pure, Except.pure]
  | cons a l ih =>
    rw [List.mapM_cons, bind_eq_ok, List.forall_mem_cons, ← ih]
    constructor
    · rintro ⟨b, hb, hrest⟩
      obtain ⟨bs, hbs, hcons⟩ := bind_eq_ok.mp hrest
      obtain ⟨rfl, rfl⟩ := List.cons.inj (Except.ok.inj hcons)
      exact ⟨hb, hbs⟩
    · rintro ⟨ha, hl⟩
      exact ⟨a, ha, bind_eq_ok.mpr ⟨l, hl, rfl⟩⟩

/-- A loop that reads back what a map wrote. -/
theorem mapM_map_eq_ok {α β γ : Type} {f : β → Raises γ} {g : α → β} {h : α → γ}
    (hfg : ∀ a, f (g a) = .ok (h a)) (l : List α) : (l.map g).mapM f = .ok (l.map h) := by
  induction l with
  | nil => rfl
  | cons a l ih =>
    rw [List.map_cons, List.mapM_cons, bind_eq_ok]
    exact ⟨h a, hfg a, bind_eq_ok.mpr ⟨l.map h, ih, rfl⟩⟩

/-- Each result of a loop is the result of its element. -/
theorem getElem?_of_mapM {α β : Type} {f : α → Raises β} {l : List α} {r : List β}
    (h : l.mapM f = .ok r) {index : ℕ} {a : α} (ha : l[index]? = some a) :
    ∃ b, r[index]? = some b ∧ f a = .ok b := by
  induction l generalizing r index with
  | nil => cases ha
  | cons head l ih =>
    rw [List.mapM_cons, bind_eq_ok] at h
    obtain ⟨b, hb, hrest⟩ := h
    obtain ⟨bs, hbs, hr⟩ := bind_eq_ok.mp hrest
    obtain rfl : b :: bs = r := Except.ok.inj hr
    cases index with
    | zero =>
      obtain rfl : head = a := Option.some.inj ha
      exact ⟨b, rfl, hb⟩
    | succ index => exact ih hbs ha

/-- The results of a loop, in the order of its elements. -/
theorem forall₂_of_mapM {α β : Type} {f : α → Raises β} {l : List α} {r : List β}
    (h : l.mapM f = .ok r) : List.Forall₂ (fun a b => f a = .ok b) l r := by
  induction l generalizing r with
  | nil =>
    obtain rfl : [] = r := Except.ok.inj h
    exact List.Forall₂.nil
  | cons head l ih =>
    rw [List.mapM_cons, bind_eq_ok] at h
    obtain ⟨first, hfirst, hbind⟩ := h
    obtain ⟨rest, hrest, hr⟩ := bind_eq_ok.mp hbind
    obtain rfl : first :: rest = r := Except.ok.inj hr
    exact List.Forall₂.cons hfirst (ih hrest)

/-- Every element of a list that maps has its image. -/
theorem exists_mem_of_mapM {α β : Type} {f : α → Raises β} {l : List α} {r : List β} {a : α}
    (h : l.mapM f = .ok r) (ha : a ∈ l) : ∃ b ∈ r, f a = .ok b := by
  induction l generalizing r with
  | nil => exact absurd ha List.not_mem_nil
  | cons head l ih =>
    rw [List.mapM_cons, bind_eq_ok] at h
    obtain ⟨b, hb, h⟩ := h
    obtain ⟨rest, hrest, h⟩ := bind_eq_ok.mp h
    obtain rfl := Except.ok.inj h
    rcases List.mem_cons.mp ha with rfl | ha
    · exact ⟨b, List.mem_cons_self, hb⟩
    · obtain ⟨b', hb', hfb'⟩ := ih hrest ha
      exact ⟨b', List.mem_cons_of_mem _ hb', hfb'⟩

/-- Every result of a loop is that of some element. -/
theorem exists_of_mem_mapM {α β : Type} {f : α → Raises β} {l : List α} {r : List β} {b : β}
    (h : l.mapM f = .ok r) (hb : b ∈ r) : ∃ a ∈ l, f a = .ok b := by
  induction l generalizing r with
  | nil =>
    obtain rfl : [] = r := Except.ok.inj h
    exact absurd hb List.not_mem_nil
  | cons head l ih =>
    rw [List.mapM_cons, bind_eq_ok] at h
    obtain ⟨first, hfirst, hbind⟩ := h
    obtain ⟨rest, hrest, hr⟩ := bind_eq_ok.mp hbind
    obtain rfl : first :: rest = r := Except.ok.inj hr
    rcases List.mem_cons.mp hb with rfl | hb
    · exact ⟨head, List.mem_cons_self, hfirst⟩
    · obtain ⟨a, ha, hab⟩ := ih hrest hb
      exact ⟨a, List.mem_cons_of_mem _ ha, hab⟩

/-- A loop that builds one result for each element. -/
theorem exists_mapM_eq_ok {α β γ : Type} {f : α → Raises β} {g : β → γ} {h : α → γ} {l : List α} :
    (∃ r, l.mapM f = .ok r ∧ r.map g = l.map h) ↔ ∀ a ∈ l, ∃ b, f a = .ok b ∧ g b = h a := by
  induction l with
  | nil => simp [pure, Except.pure]
  | cons a l ih =>
    rw [List.forall_mem_cons, ← ih]
    constructor
    · rintro ⟨r, hr, hmap⟩
      rw [List.mapM_cons, bind_eq_ok] at hr
      obtain ⟨b, hb, hrest⟩ := hr
      obtain ⟨bs, hbs, hr⟩ := bind_eq_ok.mp hrest
      obtain rfl : b :: bs = r := Except.ok.inj hr
      obtain ⟨hhead, htail⟩ := List.cons.inj hmap
      exact ⟨⟨b, hb, hhead⟩, bs, hbs, htail⟩
    · rintro ⟨⟨b, hb, hhead⟩, bs, hbs, htail⟩
      refine ⟨b :: bs, ?_, by rw [List.map_cons, List.map_cons, hhead, htail]⟩
      rw [List.mapM_cons, bind_eq_ok]
      exact ⟨b, hb, bind_eq_ok.mpr ⟨bs, hbs, rfl⟩⟩

/-- A loop returns when each of its runs does. -/
theorem exists_mapM_iff {α β : Type} {f : α → Raises β} {l : List α} :
    (∃ r, l.mapM f = .ok r) ↔ ∀ a ∈ l, ∃ b, f a = .ok b := by
  constructor
  · rintro ⟨r, h⟩ a ha
    obtain ⟨b, -, hb⟩ := exists_mem_of_mapM h ha
    exact ⟨b, hb⟩
  · intro h
    have hunit : ∀ a ∈ l, ∃ b, f a = .ok b ∧ (fun _ : β => ()) b = (fun _ : α => ()) a := by
      intro a ha
      obtain ⟨b, hb⟩ := h a ha
      exact ⟨b, hb, rfl⟩
    obtain ⟨r, hr, -⟩ := exists_mapM_eq_ok.mpr hunit
    exact ⟨r, hr⟩

end ObservabilityLab
