import ObservabilityLab.Reference.Contracts
import ObservabilityLab.Simulation.Faults

/-!
# Fault scripts of reference workflows

The reference runner has its own interpreter of fault scripts. It compares arguments by their texts
and goes on to later entries after a delay, where the repository wrapper of the sandboxes compares
normalized arguments and takes the first entry alone.

## Main definitions

* `Injection`, `applyFaults`: what one call of `_FaultInjection.apply` does
* `HonoursCall`, `HonoursScript`: a call, and every call of a sequence, meets the entry that the
  contract selects
* `UnambiguousCall`, `UnambiguousFrom`: the texts of a call and of the entries select the same entry
  as the contract

## Main results

* `honoursCall_iff`: when one call honours the contract
* `honoursScript_iff`: when every call of a sequence does
-/

namespace ObservabilityLab

open Python

/-! ## The interpreter of the runner -/

section Injection

variable [UnicodeTables] [FloatRepr]

/-- Whether the declared arguments of an entry have the texts of the arguments of a call. -/
def FaultScriptEntry.matchesTexts (entry : FaultScriptEntry) (tool : String) (arguments : Record) :
    Bool :=
  entry.tool = tool && entry.arguments.all fun declared =>
    ((arguments.lookup declared.1).getD .none).toText = declared.2.toText

omit [UnicodeTables] [FloatRepr] in
/-- What an applied entry raises: every failure is a timeout, and what has no delay cannot be
divided. -/
def FaultScriptEntry.appliedError (entry : FaultScriptEntry) : Option PyError :=
  match entry.kind with
  | .timeout | .transientError => some (.other "TimeoutError" "fault script timeout")
  | .delay | .malformedResponse =>
    match entry.delayMs with
    | none =>
      some (.other "TypeError" "unsupported operand type(s) for /: 'NoneType' and 'int'")
    | some delayMs =>
      if (PyFloat.ofRat ((delayMs : ℚ) / 1000)).isFinite then none
      else some (.other "OverflowError" "integer division result too large for a float")

/-- What one call of `apply` does: the entries that it injects, in order, the consumed entries after
it, and what it raises. -/
structure Injection where
  injected : List (FaultScriptEntry × ℕ) := []
  consumed : List ℕ
  error : Option PyError := none

/-- The loop of `apply` over the entries. -/
def applyEntries (tool : String) (arguments : Record) :
    List (FaultScriptEntry × ℕ) → List ℕ → Injection
  | [], consumed => { consumed }
  | (entry, index) :: entries, consumed =>
    if !entry.matchesTexts tool arguments || (index ∈ consumed && !entry.repeats) then
      applyEntries tool arguments entries consumed
    else
      match entry.appliedError with
      | some error =>
        { injected := [(entry, index)], consumed := index :: consumed, error := some error }
      | none =>
        let rest := applyEntries tool arguments entries (index :: consumed)
        { rest with injected := (entry, index) :: rest.injected }

/-- `_FaultInjection.apply(tool_name, arguments, collector)` -/
def applyFaults (script : Option FaultScript) (consumed : List ℕ) (tool : String)
    (arguments : Record) : Injection :=
  applyEntries tool arguments ((script.map (·.entries)).getD []).zipIdx consumed

/-! ## The contract -/

/-- One call honours the contract: it injects the entry that the contract selects, and no other, and
a malformed response is a typed fault. The two interpreters have consumed entries of their own. -/
structure HonoursCall (script : FaultScript) (applied consumed : List ℕ) (tool : String)
    (arguments : Record) : Prop where
  injects : (applyFaults (some script) applied tool arguments).injected =
    (script.nextEntry consumed tool arguments).toList
  typed : ∀ entry index, script.nextEntry consumed tool arguments = some (entry, index) →
    entry.kind = .malformedResponse →
      ∃ error, (applyFaults (some script) applied tool arguments).error = some error ∧
        isUnexpectedAccess error = true

/-- Every call of a sequence honours the contract. -/
def HonoursFrom (script : FaultScript) : List ℕ → List ℕ → List (String × Record) → Prop
  | _, _, [] => True
  | applied, consumed, (tool, arguments) :: calls =>
    HonoursCall script applied consumed tool arguments ∧
      HonoursFrom script (applyFaults (some script) applied tool arguments).consumed
        (script.consume consumed tool arguments) calls

/-- **The reference faults honour the fault script** on a sequence of calls. -/
def HonoursScript (script : FaultScript) (calls : List (String × Record)) : Prop :=
  HonoursFrom script [] [] calls

/-- An entry that a call can meet by the texts of its arguments. -/
def LiveText (consumed : List ℕ) (tool : String) (arguments : Record) (index : ℕ)
    (entry : FaultScriptEntry) : Prop :=
  entry.matchesTexts tool arguments = true ∧ (entry.repeats = true ∨ index ∉ consumed)

/-- By the texts of its arguments a call meets what the contract selects: no entry where there is
none; otherwise the selected one, which is no malformed response, and others only behind it when it
ends the call. -/
structure UnambiguousCall (script : FaultScript) (consumed : List ℕ) (tool : String)
    (arguments : Record) : Prop where
  unmatched : script.nextEntry consumed tool arguments = none →
    ∀ (index : ℕ) entry, script.entries[index]? = some entry →
      ¬ LiveText consumed tool arguments index entry
  selected : ∀ entry index, script.nextEntry consumed tool arguments = some (entry, index) →
    entry.kind ≠ .malformedResponse ∧ entry.matchesTexts tool arguments = true ∧
      ∀ (other : ℕ) later, script.entries[other]? = some later →
        LiveText consumed tool arguments other later →
          other = index ∨ index < other ∧ entry.appliedError.isSome = true

/-- Every call of a sequence meets what the contract selects. -/
def UnambiguousFrom (script : FaultScript) : List ℕ → List (String × Record) → Prop
  | _, [] => True
  | consumed, (tool, arguments) :: calls =>
    UnambiguousCall script consumed tool arguments ∧
      UnambiguousFrom script (script.consume consumed tool arguments) calls

/-! ## One call -/

variable {script : FaultScript} {applied consumed : List ℕ} {tool : String} {arguments : Record}
  {entries : List (FaultScriptEntry × ℕ)}

/-- The decision of the loop for one entry. -/
def liveText (consumed : List ℕ) (tool : String) (arguments : Record)
    (indexed : FaultScriptEntry × ℕ) : Bool :=
  indexed.1.matchesTexts tool arguments && (indexed.1.repeats || indexed.2 ∉ consumed)

theorem liveText_iff {indexed : FaultScriptEntry × ℕ} :
    liveText consumed tool arguments indexed = true ↔
      LiveText consumed tool arguments indexed.2 indexed.1 := by
  rw [liveText, LiveText, Bool.and_eq_true, Bool.or_eq_true, decide_eq_true_eq]

theorem skips_iff {entry : FaultScriptEntry} {index : ℕ} :
    (!entry.matchesTexts tool arguments || (index ∈ consumed && !entry.repeats)) =
      !liveText consumed tool arguments (entry, index) := by
  simp only [liveText, Bool.not_and, Bool.not_or, decide_not, Bool.not_not]
  rw [Bool.and_comm (!entry.repeats)]

omit [UnicodeTables] [FloatRepr] in
/-- Entries up to the first one that raises. -/
def untilError : List (FaultScriptEntry × ℕ) → List (FaultScriptEntry × ℕ)
  | [] => []
  | indexed :: entries =>
    if indexed.1.appliedError.isSome then [indexed] else indexed :: untilError entries

/-- **A call injects the live entries up to the first one that raises.** -/
theorem injected_applyEntries (hnodup : (entries.map (·.2)).Nodup) :
    (applyEntries tool arguments entries consumed).injected =
      untilError (entries.filter (liveText consumed tool arguments)) := by
  induction entries generalizing consumed with
  | nil => rfl
  | cons indexed entries ih =>
    obtain ⟨entry, index⟩ := indexed
    rw [List.map_cons, List.nodup_cons] at hnodup
    rw [applyEntries, skips_iff]
    by_cases hlive : liveText consumed tool arguments (entry, index) = true
    · rw [hlive, if_neg (by decide), List.filter_cons_of_pos hlive, untilError]
      cases herror : entry.appliedError with
      | some error => rfl
      | none =>
        have hsame : entries.filter (liveText (index :: consumed) tool arguments) =
            entries.filter (liveText consumed tool arguments) := by
          apply List.filter_congr
          intro other hother
          have hne : other.2 ≠ index := by
            intro heq
            exact hnodup.1 (List.mem_map.mpr ⟨other, hother, heq⟩)
          simp [liveText, hne]
        change (entry, index) ::
          (applyEntries tool arguments entries (index :: consumed)).injected =
          (entry, index) :: untilError (entries.filter (liveText consumed tool arguments))
        rw [ih hnodup.2, hsame]
    · rw [Bool.eq_false_of_not_eq_true hlive, if_pos (by decide), ih hnodup.2,
        List.filter_cons_of_neg hlive]

/-- What a call consumes. -/
theorem mem_consumed_applyEntries {index : ℕ} :
    index ∈ (applyEntries tool arguments entries consumed).consumed ↔
      index ∈ consumed ∨
        ∃ entry, (entry, index) ∈ (applyEntries tool arguments entries consumed).injected := by
  induction entries generalizing consumed with
  | nil => simp [applyEntries]
  | cons indexed entries ih =>
    obtain ⟨entry, met⟩ := indexed
    rw [applyEntries]
    split_ifs with hskip
    · exact ih
    · cases herror : entry.appliedError with
      | some error =>
        simp only [List.mem_cons, Prod.mk.injEq, List.not_mem_nil, or_false]
        constructor
        · rintro (rfl | h)
          · exact Or.inr ⟨entry, rfl, rfl⟩
          · exact Or.inl h
        · rintro (h | ⟨_, -, rfl⟩)
          · exact Or.inr h
          · exact Or.inl rfl
      | none =>
        dsimp only
        rw [ih, List.mem_cons]
        simp only [List.mem_cons, Prod.mk.injEq]
        constructor
        · rintro ((rfl | h) | ⟨other, h⟩)
          · exact Or.inr ⟨entry, Or.inl ⟨rfl, rfl⟩⟩
          · exact Or.inl h
          · exact Or.inr ⟨other, Or.inr h⟩
        · rintro (h | ⟨other, ⟨-, rfl⟩ | h⟩)
          · exact Or.inl (Or.inr h)
          · exact Or.inl (Or.inl rfl)
          · exact Or.inr ⟨other, h⟩

/-- A call raises what the first raising entry does. -/
theorem error_applyEntries : (applyEntries tool arguments entries consumed).error =
    ((applyEntries tool arguments entries consumed).injected.filterMap
      (·.1.appliedError)).head? := by
  induction entries generalizing consumed with
  | nil => rfl
  | cons indexed entries ih =>
    obtain ⟨entry, index⟩ := indexed
    rw [applyEntries]
    split_ifs with hskip
    · exact ih
    · cases herror : entry.appliedError with
      | some error => simp [herror]
      | none =>
        dsimp only
        rw [ih, List.filterMap_cons, herror]

theorem error_applyFaults : (applyFaults (some script) applied tool arguments).error =
    ((applyFaults (some script) applied tool arguments).injected.filterMap
      (·.1.appliedError)).head? :=
  error_applyEntries

omit [UnicodeTables] [FloatRepr] in
/-- A malformed response has no delay to divide. -/
theorem appliedError_malformed {entry : FaultScriptEntry} (h : entry.kind = .malformedResponse) :
    ∃ message, entry.appliedError = some (.other "TypeError" message) := by
  have hdelay : entry.delayMs = none := by
    rw [← Option.not_isSome_iff_eq_none, ← entry.validDelay, h]
    exact FaultKind.noConfusion
  unfold FaultScriptEntry.appliedError
  rw [h, hdelay]
  exact ⟨_, rfl⟩

omit [UnicodeTables] [FloatRepr] in
theorem untilError_eq_nil : untilError entries = [] ↔ entries = [] := by
  cases entries with
  | nil => exact iff_of_true rfl rfl
  | cons indexed entries =>
    rw [untilError]
    split_ifs <;> simp

omit [UnicodeTables] [FloatRepr] in
/-- One entry is injected when it comes first, and raises or is the last. -/
theorem untilError_eq_singleton {indexed : FaultScriptEntry × ℕ} :
    untilError entries = [indexed] ↔ ∃ rest, entries = indexed :: rest ∧
      (indexed.1.appliedError.isSome = true ∨ rest = []) := by
  cases entries with
  | nil => simp [untilError]
  | cons first entries =>
    rw [untilError]
    split_ifs with herror
    · constructor
      · intro h
        obtain ⟨rfl, -⟩ := List.cons.inj h
        exact ⟨entries, rfl, Or.inl herror⟩
      · rintro ⟨rest, h, -⟩
        obtain ⟨rfl, -⟩ := List.cons.inj h
        rfl
    · rw [List.cons.injEq, untilError_eq_nil]
      constructor
      · rintro ⟨rfl, rfl⟩
        exact ⟨[], rfl, Or.inr rfl⟩
      · rintro ⟨rest, h, hrest⟩
        obtain ⟨rfl, rfl⟩ := List.cons.inj h
        exact ⟨rfl, hrest.resolve_left herror⟩

omit [UnicodeTables] [FloatRepr] in
/-- The entries of a script stand in the order of their indices. -/
theorem pairwise_zipIdx (entries : List FaultScriptEntry) :
    entries.zipIdx.Pairwise (·.2 < ·.2) := by
  rw [← List.pairwise_map (R := (· < ·)), List.zipIdx_map_snd]
  exact List.pairwise_lt_range'

/-- The live entries of a script, in order. -/
def liveEntries (script : FaultScript) (applied : List ℕ) (tool : String) (arguments : Record) :
    List (FaultScriptEntry × ℕ) :=
  script.entries.zipIdx.filter (liveText applied tool arguments)

theorem mem_liveEntries {entry : FaultScriptEntry} {index : ℕ} :
    (entry, index) ∈ liveEntries script applied tool arguments ↔
      script.entries[index]? = some entry ∧ LiveText applied tool arguments index entry := by
  rw [liveEntries, List.mem_filter, liveText_iff, List.mem_zipIdx_iff_getElem?]

theorem injected_applyFaults :
    (applyFaults (some script) applied tool arguments).injected =
      untilError (liveEntries script applied tool arguments) := by
  apply injected_applyEntries
  rw [List.zipIdx_map_snd]
  exact List.nodup_range'

/-- Consumed entries that agree where an entry does not repeat. -/
def SameConsumed (script : FaultScript) (applied consumed : List ℕ) : Prop :=
  ∀ (index : ℕ) entry, script.entries[index]? = some entry → entry.repeats = false →
    (index ∈ applied ↔ index ∈ consumed)

theorem SameConsumed.live (h : SameConsumed script applied consumed) {entry : FaultScriptEntry}
    {index : ℕ} (hentry : script.entries[index]? = some entry) :
    LiveText applied tool arguments index entry ↔ LiveText consumed tool arguments index entry := by
  unfold LiveText
  cases hrepeats : entry.repeats with
  | true => simp
  | false => rw [h index entry hentry hrepeats]

/-- What a call injects is one entry alone. -/
theorem injects_singleton_iff (hsame : SameConsumed script applied consumed)
    {entry : FaultScriptEntry} {index : ℕ} (hentry : script.entries[index]? = some entry)
    (hlive : entry.repeats = true ∨ index ∉ consumed) :
    (applyFaults (some script) applied tool arguments).injected = [(entry, index)] ↔
      entry.matchesTexts tool arguments = true ∧
        ∀ (other : ℕ) later, script.entries[other]? = some later →
          LiveText consumed tool arguments other later →
            other = index ∨ index < other ∧ entry.appliedError.isSome = true := by
  -- the live entries keep the order of the script, so what precedes one has a smaller index
  have hsorted : (liveEntries script applied tool arguments).Pairwise (·.2 < ·.2) :=
    (pairwise_zipIdx _).filter _
  rw [injected_applyFaults, untilError_eq_singleton]
  constructor
  · rintro ⟨rest, hlist, hrest⟩
    have hmem : (entry, index) ∈ liveEntries script applied tool arguments := by
      rw [hlist]
      exact List.mem_cons_self
    refine ⟨(mem_liveEntries.mp hmem).2.1, ?_⟩
    intro other later hlater hlivelater
    have hmem' := mem_liveEntries.mpr ⟨hlater, (hsame.live hlater).mpr hlivelater⟩
    rw [hlist] at hsorted hmem'
    rcases List.mem_cons.mp hmem' with heq | hmem'
    · exact Or.inl (Prod.mk.inj heq).2
    · refine Or.inr ⟨List.rel_of_pairwise_cons hsorted hmem', hrest.resolve_right ?_⟩
      exact List.ne_nil_of_mem hmem'
  · rintro ⟨hmatches, hothers⟩
    have hmem : (entry, index) ∈ liveEntries script applied tool arguments :=
      mem_liveEntries.mpr ⟨hentry, (hsame.live hentry).mpr ⟨hmatches, hlive⟩⟩
    have hbehind : ∀ other ∈ liveEntries script applied tool arguments,
        other.2 = index ∨ index < other.2 ∧ entry.appliedError.isSome = true := by
      intro other hother
      have hother' := mem_liveEntries.mp hother
      exact hothers other.2 other.1 hother'.1 ((hsame.live hother'.1).mp hother'.2)
    obtain ⟨before, rest, hlist⟩ := List.append_of_mem hmem
    rw [hlist] at hsorted hbehind ⊢
    -- an entry before the chosen one would be injected as well
    have hnil : before = [] := by
      cases before with
      | nil => rfl
      | cons first before =>
        have hlt : first.2 < index :=
          (List.pairwise_append.mp hsorted).2.2 first List.mem_cons_self _ List.mem_cons_self
        rcases hbehind first List.mem_cons_self with heq | ⟨hgt, -⟩ <;> omega
    subst hnil
    refine ⟨rest, rfl, ?_⟩
    cases rest with
    | nil => exact Or.inr rfl
    | cons second rest =>
      have hlt : index < second.2 := List.rel_of_pairwise_cons hsorted List.mem_cons_self
      rcases hbehind second (by simp) with heq | ⟨-, herror⟩
      · omega
      · exact Or.inl herror

/-- **When one call honours the contract.** -/
theorem honoursCall_iff (hsame : SameConsumed script applied consumed) :
    HonoursCall script applied consumed tool arguments ↔
      UnambiguousCall script consumed tool arguments := by
  cases hnext : script.nextEntry consumed tool arguments with
  | none =>
    have hinjects : (applyFaults (some script) applied tool arguments).injected = [] ↔
        ∀ (index : ℕ) entry, script.entries[index]? = some entry →
          ¬ LiveText consumed tool arguments index entry := by
      rw [injected_applyFaults, untilError_eq_nil, List.eq_nil_iff_forall_not_mem]
      constructor
      · intro h index entry hentry hlive
        exact h (entry, index) (mem_liveEntries.mpr ⟨hentry, (hsame.live hentry).mpr hlive⟩)
      · rintro h ⟨entry, index⟩ hmem
        obtain ⟨hentry, hlive⟩ := mem_liveEntries.mp hmem
        exact h index entry hentry ((hsame.live hentry).mp hlive)
    constructor
    · intro h
      refine ⟨fun _ => hinjects.mp (h.injects.trans (by rw [hnext]; rfl)), ?_⟩
      intro entry index hsome
      rw [hnext] at hsome
      cases hsome
    · intro h
      refine ⟨?_, ?_⟩
      · rw [hinjects.mpr (h.unmatched hnext), hnext]
        rfl
      · intro entry index hsome
        rw [hnext] at hsome
        cases hsome
  | some next =>
    obtain ⟨entry, index⟩ := next
    obtain ⟨hentry, hlive, -⟩ := FaultScript.nextEntry_eq_some.mp hnext
    have hinjects : (applyFaults (some script) applied tool arguments).injected =
        [(entry, index)] ↔ _ := injects_singleton_iff hsame hentry hlive.2
    have hselected : (script.nextEntry consumed tool arguments).toList = [(entry, index)] := by
      rw [hnext]
      rfl
    constructor
    · intro h
      have hinjected := h.injects.trans hselected
      constructor
      · intro hnone
        rw [hnext] at hnone
        cases hnone
      intro met met_index hsome
      rw [hnext] at hsome
      obtain ⟨rfl, rfl⟩ := Prod.mk.inj (Option.some.inj hsome)
      -- a malformed response is raised with a message of its own, and not the typed error
      refine ⟨?_, hinjects.mp hinjected⟩
      intro hkind
      obtain ⟨error, herror, htyped⟩ := h.typed entry index hnext hkind
      obtain ⟨message, hmessage⟩ := appliedError_malformed hkind
      rw [error_applyFaults, hinjected, List.filterMap_cons, hmessage] at herror
      rw [← Option.some.inj herror] at htyped
      cases htyped
    · intro h
      obtain ⟨hkind, hmatches⟩ := h.selected entry index hnext
      refine ⟨(hinjects.mpr hmatches).trans hselected.symm, ?_⟩
      intro met met_index hsome hmalformed
      rw [hnext] at hsome
      obtain ⟨rfl, rfl⟩ := Prod.mk.inj (Option.some.inj hsome)
      exact absurd hmalformed hkind

/-! ## Sequences of calls -/

/-- What honours the contract is consumed as the contract does. -/
theorem HonoursCall.sameConsumed (hsame : SameConsumed script applied consumed)
    (h : HonoursCall script applied consumed tool arguments) :
    SameConsumed script (applyFaults (some script) applied tool arguments).consumed
      (script.consume consumed tool arguments) := by
  intro index entry hentry hrepeats
  have happlied : index ∈ (applyFaults (some script) applied tool arguments).consumed ↔
      index ∈ applied ∨
        ∃ entry, (entry, index) ∈ (applyFaults (some script) applied tool arguments).injected :=
    mem_consumed_applyEntries
  rw [happlied, FaultScript.mem_consume, hsame index entry hentry hrepeats, h.injects]
  refine or_congr_right (exists_congr fun met => ?_)
  rw [Option.mem_toList]
  constructor
  · intro hmet
    obtain ⟨hmet_entry, -⟩ := FaultScript.nextEntry_eq_some.mp hmet
    rw [hentry] at hmet_entry
    obtain rfl := Option.some.inj hmet_entry
    exact ⟨hmet, hrepeats⟩
  · exact fun hmet => hmet.1

theorem honoursFrom_iff {calls : List (String × Record)}
    (hsame : SameConsumed script applied consumed) :
    HonoursFrom script applied consumed calls ↔ UnambiguousFrom script consumed calls := by
  induction calls generalizing applied consumed with
  | nil => exact Iff.rfl
  | cons call calls ih =>
    obtain ⟨tool, arguments⟩ := call
    constructor
    · rintro ⟨hcall, hcalls⟩
      exact ⟨(honoursCall_iff hsame).mp hcall, (ih (hcall.sameConsumed hsame)).mp hcalls⟩
    · rintro ⟨hcall, hcalls⟩
      have hhonours := (honoursCall_iff hsame).mpr hcall
      exact ⟨hhonours, (ih (hhonours.sameConsumed hsame)).mpr hcalls⟩

end Injection

section Examples

attribute [local instance] asciiTables oneDecimalRepr

/-- A transient error of the searches of one flight. -/
def flightFailure : FaultScript where
  scriptVersion := "v1"
  dependency := "flights"
  entries := [
    { kind := .transientError
      tool := "search_flights"
      arguments := [("flight_id", .str "F1")]
      validDelay := by decide }]

end Examples

end ObservabilityLab
