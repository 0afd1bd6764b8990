import ObservabilityLab.Audit.Scanner

/-!
# The completeness of the audit scan

A string with a secret is always found. Of its email addresses only the leftmost one is looked at,
so a reserved address hides the ones behind it.

## Main definitions

* `addressAt`: the email address at a position of a string
* `ScanComplete`: every secret and every address of a payload is found
* `FirstLeaks`: the leftmost address of a string is not reserved

## Main results

* `exists_secret_of_occurs`, `exists_email_iff`: what is flagged in a string
* `scanComplete_iff`: when a scan is complete
-/

namespace ObservabilityLab

open Python Pattern

/-! ## Addresses -/

/-- The email address at a position. -/
def addressAt (text : List Char) (i : ℕ) : Option (List Char) :=
  (emailPattern.matchAt (text.drop i)).map fun n => (text.drop i).take n

/-- An email address whose domain is not reserved. -/
def LeaksAt (text : List Char) (i : ℕ) : Prop :=
  ∃ address, addressAt text i = some address ∧ isReserved (emailDomain address) = false

/-- The domain of the leftmost email address is not reserved. -/
def FirstLeaks (text : List Char) : Prop := ∃ i, LeaksAt text i ∧ ∀ j < i, addressAt text j = none

/-- **Every secret and every address of a payload is found**, at the path of its string. -/
structure ScanComplete [SpaceTable] [UnicodeTables] [FloatRepr] (payload : PyValue)
    (context : String) : Prop where
  secrets : ∀ path text, TextAt payload "" path text → ∀ entry ∈ secretPatterns,
    (∃ w ∈ entry.2.language, w <:+: text.toList) →
      ∃ finding ∈ scanPayload context payload,
        finding.path = shownPath path ∧ finding.kind = entry.1
  emails : ∀ path text, TextAt payload "" path text → (∃ i, LeaksAt text.toList i) →
    ∃ finding ∈ scanPayload context payload,
      finding.path = shownPath path ∧ finding.kind = "email"

/-- Every string with an address that is not reserved is reported at a path where some string has
such an address as its leftmost one. -/
def FirstAddressesLeak (payload : PyValue) : Prop :=
  ∀ path text, TextAt payload "" path text → (∃ i, LeaksAt text.toList i) →
    ∃ path' text', TextAt payload "" path' text' ∧ shownPath path' = shownPath path ∧
      FirstLeaks text'.toList

theorem matchAt_nil : emailPattern.matchAt [] = none := by decide

theorem LeaksAt.lt {text : List Char} {i : ℕ} (h : LeaksAt text i) : i < text.length := by
  obtain ⟨address, haddress, -⟩ := h
  by_contra hi
  rw [addressAt, List.drop_eq_nil_of_le (not_lt.mp hi), matchAt_nil] at haddress
  cases haddress

theorem addressAt_eq_none_iff {text : List Char} {i : ℕ} :
    addressAt text i = none ↔ emailPattern.matchAt (text.drop i) = none := Option.map_eq_none_iff

/-! ## What is flagged in a string -/

section Flags

variable [SpaceTable] {value context path : String}

theorem path_of_mem_flag {finding : ScanFinding} (h : finding ∈ flag value context path) :
    finding.path = path := by
  rcases List.mem_append.mp h with h | h
  · obtain ⟨entry, -, h⟩ := List.mem_filterMap.mp h
    obtain ⟨found, -, rfl⟩ := Option.map_eq_some_iff.mp h
    rfl
  · split at h
    · split_ifs at h
      · cases h
      · rw [List.mem_singleton.mp h]
    · cases h

/-- **A secret that occurs is flagged.** -/
theorem exists_secret_of_occurs {entry : String × Pattern Char} (hentry : entry ∈ secretPatterns)
    (h : ∃ w ∈ entry.2.language, w <:+: value.toList) :
    ∃ finding ∈ flag value context path, finding.kind = entry.1 := by
  obtain ⟨found, hfound⟩ := Option.isSome_iff_exists.mp (search_isSome_iff.mpr h)
  refine ⟨⟨context, entry.1, path, slice value (found.1 - 10) (found.2 + 10)⟩, ?_, rfl⟩
  apply List.mem_append_left
  apply List.mem_filterMap.mpr
  refine ⟨entry, hentry, ?_⟩
  rw [hfound, Option.map_some]

theorem secretPatterns_ne_email : ∀ entry ∈ secretPatterns, entry.1 ≠ "email" := by
  unfold secretPatterns
  simp only [List.forall_mem_cons]
  decide

/-- **An email address is flagged exactly when the leftmost one leaks.** -/
theorem exists_email_iff :
    (∃ finding ∈ flag value context path, finding.kind = "email") ↔ FirstLeaks value.toList := by
  constructor
  · rintro ⟨finding, h, hkind⟩
    rcases List.mem_append.mp h with h | h
    · obtain ⟨entry, hentry, h⟩ := List.mem_filterMap.mp h
      obtain ⟨found, -, rfl⟩ := Option.map_eq_some_iff.mp h
      exact absurd hkind (secretPatterns_ne_email entry hentry)
    · split at h
      · next start stop hsearch =>
        obtain ⟨-, ⟨n, hn, rfl⟩, hbefore⟩ := search_eq_some_iff.mp hsearch
        split_ifs at h with hreserved
        · cases h
        · refine ⟨start, ⟨(value.toList.drop start).take n, ?_, ?_⟩, ?_⟩
          · rw [addressAt, hn, Option.map_some]
          · rw [List.drop_take, Nat.add_sub_cancel_left] at hreserved
            exact Bool.eq_false_iff.mpr hreserved
          · exact fun j hj => addressAt_eq_none_iff.mpr (hbefore j hj)
      · cases h
  · rintro ⟨i, hleaks, hbefore⟩
    have hi := hleaks.lt
    obtain ⟨address, haddress, hreserved⟩ := hleaks
    obtain ⟨n, hn, rfl⟩ := Option.map_eq_some_iff.mp haddress
    have hsearch : emailPattern.search value.toList = some (i, i + n) :=
      search_eq_some_iff.mpr ⟨hi.le, ⟨n, hn, rfl⟩,
        fun j hj => addressAt_eq_none_iff.mp (hbefore j hj)⟩
    refine ⟨⟨context, "email", path, slice value 0 120⟩, List.mem_append_right _ ?_, rfl⟩
    rw [hsearch]
    dsimp only
    rw [List.drop_take, Nat.add_sub_cancel_left, hreserved]
    exact List.mem_singleton_self _

end Flags

/-! ## What is found in a payload -/

theorem IsForbiddenKey.kind_ne {finding : ScanFinding} (h : IsForbiddenKey finding) :
    finding.kind ≠ "email" := by
  obtain ⟨key, hkey⟩ := h
  intro hkind
  have hfirst := congrArg (fun kind => kind.toList.head?) (hkey.symm.trans hkind)
  have hhead : "forbidden_key:".toList.head? = some 'f' := by decide
  rw [String.toList_append, List.head?_append, hhead, Option.some_or] at hfirst
  exact absurd hfirst (by decide)

section Scan

variable [SpaceTable] [UnicodeTables] [FloatRepr] {payload : PyValue} {context : String}

/-- An email finding at a path. -/
theorem exists_scan_email_iff {shown : String} :
    (∃ finding ∈ scanPayload context payload, finding.path = shown ∧ finding.kind = "email") ↔
      ∃ path text, TextAt payload "" path text ∧ shownPath path = shown ∧
        FirstLeaks text.toList := by
  constructor
  · rintro ⟨finding, h, hpath, hkind⟩
    rcases textAt_of_mem_walk payload "" h with hkey | ⟨path, text, htext, hflag⟩
    · exact absurd hkind hkey.kind_ne
    · exact ⟨path, text, htext, (path_of_mem_flag hflag).symm.trans hpath,
        exists_email_iff.mp ⟨finding, hflag, hkind⟩⟩
  · rintro ⟨path, text, htext, hpath, hleaks⟩
    obtain ⟨finding, hflag, hkind⟩ := exists_email_iff.mpr hleaks
    exact ⟨finding, mem_walk_of_textAt htext hflag, (path_of_mem_flag hflag).trans hpath, hkind⟩

/-- **When a scan is complete.** -/
theorem scanComplete_iff (payload : PyValue) (context : String) :
    ScanComplete payload context ↔ FirstAddressesLeak payload := by
  constructor
  · rintro ⟨-, hemails⟩ path text htext hleaks
    exact exists_scan_email_iff.mp (hemails path text htext hleaks)
  · intro hfirst
    constructor
    · intro path text htext entry hentry hoccurs
      obtain ⟨finding, hflag, hkind⟩ := exists_secret_of_occurs hentry hoccurs
      exact ⟨finding, mem_walk_of_textAt htext hflag, path_of_mem_flag hflag, hkind⟩
    · intro path text htext hleaks
      exact exists_scan_email_iff.mpr (hfirst path text htext hleaks)

end Scan

section Examples

attribute [local instance] asciiSpaces asciiTables oneDecimalRepr

/-- A string with a reserved address and with one that is not reserved. -/
def hiddenAddress : String := "a@example.com b@evil.io"

/-- **A reserved address hides a leak** behind it. -/
theorem not_scanComplete_hidden : ¬ ScanComplete (.str hiddenAddress) "report" := by
  intro h
  have hleaks : LeaksAt hiddenAddress.toList 14 :=
    ⟨"b@evil.io".toList, by decide +kernel, by decide +kernel⟩
  obtain ⟨finding, hfinding, -⟩ := h.emails "" hiddenAddress (.str _ _) ⟨14, hleaks⟩
  have hnothing : (scanPayload "report" (.str hiddenAddress)).length = 0 := by decide +kernel
  rw [List.length_eq_zero_iff.mp hnothing] at hfinding
  cases hfinding

end Examples

end ObservabilityLab
