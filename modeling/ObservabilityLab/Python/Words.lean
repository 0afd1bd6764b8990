import ObservabilityLab.Python.Value

/-!
# Words

The words of a text, as `str.split()` finds them, and the digest of a text.

## Main definitions

* `SpaceTable`, `isSpace`: the characters that separate words
* `splitWords`: `text.split()`
* `TextHashes`: `sha256(text.encode("utf-8")).hexdigest()`

## Main results

* `splitWords_join`: the words of a join of words are those words
* `mem_splitWords`: a word is not empty and has no space
-/

namespace Python

/-- The characters outside ASCII that `str.isspace` accepts. -/
class SpaceTable where
  isSpace : Char → Bool

/-- No character outside ASCII is a space. -/
@[reducible] def asciiSpaces : SpaceTable where
  isSpace _ := false

/-- The digests of texts. -/
class TextHashes where
  /-- `sha256(text.encode("utf-8")).hexdigest()` -/
  sha256 : String → HexDigest

/-- `c.isspace()` -/
def isSpace [SpaceTable] (c : Char) : Bool :=
  if c.toNat < 0x80 then (9 ≤ c.toNat && c.toNat ≤ 13) || (28 ≤ c.toNat && c.toNat ≤ 32)
  else SpaceTable.isSpace c

section Words

variable [SpaceTable]

/-- The words of some characters: what lies between the spaces, without the empty pieces. -/
def wordsOf (cs : List Char) : List (List Char) := (cs.splitOnP isSpace).filter (· ≠ [])

/-- `text.split()` -/
def splitWords (text : String) : List String := (wordsOf text.toList).map String.ofList

/-- Text that is one word: it is not empty and has no space. -/
def IsWord (word : List Char) : Prop := word ≠ [] ∧ ∀ c ∈ word, isSpace c = false

/-- No piece of a split has a character that was split on. -/
theorem not_space_of_mem_splitOnP {cs piece : List Char} (h : piece ∈ cs.splitOnP isSpace) :
    ∀ c ∈ piece, isSpace c = false := by
  induction cs generalizing piece with
  | nil =>
    rw [List.splitOnP_nil, List.mem_singleton] at h
    rw [h]
    exact fun c hc => absurd hc List.not_mem_nil
  | cons c cs ih =>
    rw [List.splitOnP_cons_eq_if_modifyHead] at h
    split_ifs at h with hc
    · rcases List.mem_cons.mp h with rfl | h
      · exact fun c hc => absurd hc List.not_mem_nil
      · exact ih h
    · obtain ⟨first, rest, hsplit⟩ :=
        List.exists_cons_of_ne_nil (List.splitOnP_ne_nil isSpace cs)
      rw [hsplit, List.modifyHead_cons] at h
      rw [hsplit] at ih
      rcases List.mem_cons.mp h with rfl | h
      · intro d hd
        rcases List.mem_cons.mp hd with rfl | hd
        · exact Bool.eq_false_of_not_eq_true hc
        · exact ih List.mem_cons_self d hd
      · exact ih (List.mem_cons_of_mem _ h)

theorem isWord_of_mem_wordsOf {cs word : List Char} (h : word ∈ wordsOf cs) : IsWord word := by
  obtain ⟨hsplit, hne⟩ := List.mem_filter.mp h
  exact ⟨of_decide_eq_true hne, not_space_of_mem_splitOnP hsplit⟩

/-- **Words split at a space.** -/
theorem wordsOf_append_space {c : Char} (hc : isSpace c = true) (cs ds : List Char) :
    wordsOf (cs ++ c :: ds) = wordsOf cs ++ wordsOf ds := by
  rw [wordsOf, List.splitOnP_append_cons cs ds hc, List.filter_append]
  rfl

theorem wordsOf_word {word : List Char} (h : IsWord word) : wordsOf word = [word] := by
  rw [wordsOf, List.splitOnP_eq_singleton h.2, List.filter_singleton, decide_eq_true h.1]
  rfl

theorem isSpace_blank : isSpace ' ' = true := by
  rw [isSpace, if_pos (by decide)]
  decide

/-- **The words of a join of words are those words.** -/
theorem wordsOf_intercalate {words : List (List Char)} (h : ∀ word ∈ words, IsWord word) :
    wordsOf ([' '].intercalate words) = words := by
  induction words with
  | nil => rfl
  | cons word words ih =>
    have hword := h word List.mem_cons_self
    have hrest := ih fun other hother => h other (List.mem_cons_of_mem _ hother)
    cases words with
    | nil => rw [List.intercalate_singleton, wordsOf_word hword]
    | cons next words =>
      have hcons : [' '].intercalate (word :: next :: words) =
          word ++ ' ' :: [' '].intercalate (next :: words) := by
        rw [List.intercalate_cons_cons, List.append_assoc]
        rfl
      rw [hcons, wordsOf_append_space isSpace_blank, wordsOf_word hword, hrest]
      rfl

/-- A word is not empty and has no space. -/
theorem mem_splitWords {text word : String} (h : word ∈ splitWords text) :
    IsWord word.toList := by
  obtain ⟨cs, hcs, rfl⟩ := List.mem_map.mp h
  rw [String.toList_ofList]
  exact isWord_of_mem_wordsOf hcs

/-- **`" ".join(words).split()` gives the words back.** -/
theorem splitWords_join {words : List String} (h : ∀ word ∈ words, IsWord word.toList) :
    splitWords (" ".intercalate words) = words := by
  have hchars : ∀ word ∈ words.map String.toList, IsWord word := List.forall_mem_map.mpr h
  have hblank : (" " : String).toList = [' '] := rfl
  rw [splitWords, String.toList_intercalate, hblank, wordsOf_intercalate hchars, List.map_map]
  have hid : ∀ word ∈ words, (String.ofList ∘ String.toList) word = word := by
    intro word _
    exact String.ofList_toList
  rw [List.map_congr_left hid, List.map_id']

/-- A join of words is empty only without words. -/
theorem join_ne_empty {words : List String} (h : ∀ word ∈ words, IsWord word.toList)
    (hne : words ≠ []) : " ".intercalate words ≠ "" := by
  intro hempty
  have hsplit := splitWords_join h
  rw [hempty] at hsplit
  exact hne hsplit.symm

end Words

end Python
