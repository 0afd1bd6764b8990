import ObservabilityLab.Evidence.Trace
import ObservabilityLab.Library.Dictionary

/-!
# The allowlist of trace attributes

Only allowlisted attributes are recorded: scalars, and texts that are not empty, hold no forbidden
text and are cut to a maximal length.

## Main definitions

* `sanitizeAttributes`: the allowlisted scalars of a mapping
* `CleanAttribute`: an attribute that may be recorded

## Main results

* `sanitizeAttributes_clean`: what is sanitized is allowlisted, bounded and free of forbidden text
-/

namespace ObservabilityLab

open Python

def maxAttributeValueLength : ℕ := 256

/-- The value of an attribute, if it is recorded: a scalar, and a text that is not empty and holds
no forbidden text, cut to the first characters. -/
def sanitizeValue (forbidden : List String) (value : PyValue) : Option Scalar :=
  match Scalar.ofPy value with
  | some (.str text) =>
    if text = "" then none
    else if (forbidden.filter (· ≠ "")).any fun part => part.toList <:+: text.toList then none
    else some (.str (String.ofList (text.toList.take maxAttributeValueLength)))
  | scalar => scalar

/-- `sanitize_attributes(attributes, forbidden)` -/
def sanitizeAttributes (forbidden : List String) (attributes : Record) : Attributes :=
  Dictionary.alters (attributes.filterMap fun entry =>
    if entry.1 ∈ traceAttributeAllowlist then
      (sanitizeValue forbidden entry.2).map fun clean => (entry.1, fun _ => clean)
    else none)

/-- A value that may be recorded. -/
def IsClean (forbidden : List String) : Scalar → Prop
  | .str text => text ≠ "" ∧ text.length ≤ maxAttributeValueLength ∧
      ∀ part ∈ forbidden, part ≠ "" → ¬ part.toList <:+: text.toList
  | _ => True

/-- An attribute that may be recorded. -/
structure CleanAttribute (forbidden : List String) (key : String) (value : Scalar) : Prop where
  allowed : key ∈ traceAttributeAllowlist
  clean : IsClean forbidden value

section Sanitize

variable {forbidden : List String} {value : PyValue} {clean : Scalar}

/-- What is recorded of a value is clean: cutting a text brings in no forbidden text. -/
theorem isClean_of_sanitizeValue (h : sanitizeValue forbidden value = some clean) :
    IsClean forbidden clean := by
  unfold sanitizeValue at h
  split at h
  · rename_i text _
    split_ifs at h with hempty hforbidden
    obtain rfl := Option.some.inj h
    -- a part of the cut text is a part of the text
    refine ⟨?_, ?_, fun part hpart hne hwithin => hforbidden ?_⟩
    · intro hcut
      apply hempty
      have htake := congrArg String.toList hcut
      rw [String.toList_ofList, String.toList_empty, List.take_eq_nil_iff] at htake
      exact String.toList_eq_nil_iff.mp (htake.resolve_left (by decide))
    · rw [String.length_ofList, List.length_take]
      exact min_le_left ..
    · rw [List.any_eq_true]
      refine ⟨part, List.mem_filter.mpr ⟨hpart, by simpa using hne⟩, ?_⟩
      rw [String.toList_ofList] at hwithin
      exact decide_eq_true (hwithin.trans (List.take_prefix ..).isInfix)
  · rename_i hscalar
    cases clean with
    | str text => exact absurd h (hscalar text)
    | bool b => trivial
    | int n => trivial
    | float x => trivial

/-- **What is sanitized may be recorded.** -/
theorem sanitizeAttributes_clean (forbidden : List String) (attributes : Record) :
    ∀ entry ∈ sanitizeAttributes forbidden attributes,
      CleanAttribute forbidden entry.1 entry.2 := by
  refine Dictionary.forall_mem_altersFrom (by simp) fun update hupdate value _ => ?_
  obtain ⟨entry, -, hentry⟩ := List.mem_filterMap.mp hupdate
  split_ifs at hentry with hallowed
  obtain ⟨clean, hclean, rfl⟩ := Option.map_eq_some_iff.mp hentry
  exact ⟨hallowed, isClean_of_sanitizeValue hclean⟩

end Sanitize

end ObservabilityLab
