import ObservabilityLab.Failures.Feedback

/-!
# The latest feedback revision

What a sequence of imports of one annotation leaves in a store: the revisions are numbered from one,
and each of them is the first import of its content. An import of an earlier content stores nothing,
so the latest revision is the latest import only when no content comes back after another one.

## Main definitions

* `kept`: the annotations of a sequence that are stored
* `LatestIs`: the latest revision is an annotation, and the revisions are numbered from one
* `SettledAfter`: the annotation of a call is that of the call before it, or has a new content

## Main results

* `numbered_importSequence`: the revisions that a sequence leaves
* `latest_feedback_iff`: exactly when the latest revision is the latest import
-/

namespace ObservabilityLab

open Python

/-! ## What is kept -/

/-- The first annotation of each content. -/
def kept (annotations : List FeedbackAnnotation) : List FeedbackAnnotation :=
  annotations.foldl (fun kept note =>
    if kept.any (·.contentHash = note.contentHash) then kept else kept ++ [note]) []

theorem kept_concat (annotations : List FeedbackAnnotation) (note : FeedbackAnnotation) :
    kept (annotations ++ [note]) =
      if (kept annotations).any (·.contentHash = note.contentHash) then kept annotations
      else kept annotations ++ [note] := by
  rw [kept, List.foldl_append]
  rfl

/-- A content is kept exactly when an annotation has it. -/
theorem exists_mem_kept {annotations : List FeedbackAnnotation} {contentHash : HexDigest} :
    (∃ row ∈ kept annotations, row.contentHash = contentHash) ↔
      ∃ note ∈ annotations, note.contentHash = contentHash := by
  induction annotations using List.reverseRecOn with
  | nil => exact Iff.rfl
  | append_singleton annotations last ih =>
    have hsplit : (∃ note ∈ annotations ++ [last], note.contentHash = contentHash) ↔
        (∃ note ∈ annotations, note.contentHash = contentHash) ∨
          last.contentHash = contentHash := by
      simp only [List.mem_append, List.mem_singleton, or_and_right, exists_or, exists_eq_left]
    rw [kept_concat, hsplit, ← ih]
    split_ifs with hany
    · obtain ⟨row, hrow, hsame⟩ := List.any_eq_true.mp hany
      rw [decide_eq_true_eq] at hsame
      constructor
      · exact Or.inl
      · rintro (hkept | hlast)
        · exact hkept
        · exact ⟨row, hrow, hsame.trans hlast⟩
    · simp only [List.mem_append, List.mem_singleton, or_and_right, exists_or, exists_eq_left]

theorem any_kept {annotations : List FeedbackAnnotation} {note : FeedbackAnnotation} :
    (kept annotations).any (·.contentHash = note.contentHash) = true ↔
      ∃ other ∈ annotations, other.contentHash = note.contentHash := by
  rw [← exists_mem_kept, List.any_eq_true]
  simp only [decide_eq_true_eq]

/-- **After an import the latest revision is its annotation exactly when its content is new, or was
the latest one before.** -/
theorem getLast_kept_concat {annotations : List FeedbackAnnotation}
    {note : FeedbackAnnotation} :
    (kept (annotations ++ [note])).getLast? = some note ↔
      (kept annotations).getLast? = some note ∨
        ∀ other ∈ annotations, other.contentHash ≠ note.contentHash := by
  rw [kept_concat]
  split_ifs with hany
  · obtain ⟨other, hother, hhash⟩ := any_kept.mp hany
    constructor
    · exact Or.inl
    · rintro (hlast | hnew)
      · exact hlast
      · exact absurd hhash (hnew other hother)
  · rw [List.getLast?_concat]
    refine iff_of_true rfl (Or.inr ?_)
    intro other hother hhash
    exact hany (any_kept.mpr ⟨other, hother, hhash⟩)

/-- Only annotations of the sequence are kept. -/
theorem kept_subset (annotations : List FeedbackAnnotation) : kept annotations ⊆ annotations := by
  induction annotations using List.reverseRecOn with
  | nil => exact List.Subset.refl _
  | append_singleton annotations last ih =>
    rw [kept_concat]
    split_ifs
    · exact List.subset_append_of_subset_left _ ih
    · exact List.append_subset.mpr ⟨List.subset_append_of_subset_left _ ih,
        List.subset_append_right _ _⟩

/-! ## The rows of an annotation -/

/-- The rows of an annotation are a list of contents, numbered from one. -/
def Numbered (rows contents : List FeedbackAnnotation) (annotationId : String) : Prop :=
  ∀ row, (row ∈ rows ∧ row.annotationId = annotationId) ↔
    ∃ (k : ℕ) (content : FeedbackAnnotation), contents[k]? = some content ∧
      row = content.withRevision (k + 1)

section Rows

variable {store : FeedbackStore} {state state' : store.State} {note : FeedbackAnnotation}
  {contents : List FeedbackAnnotation} {annotationId : String}

/-- The highest revision is the number of the contents. -/
theorem Numbered.latestRevision (h : Numbered (store.rows state) contents annotationId) :
    store.latestRevision state annotationId = contents.length := by
  apply Nat.le_antisymm
  · rcases store.latest_cases state annotationId with hzero | ⟨row, hrow, hid, hrevision⟩
    · rw [hzero]
      exact Nat.zero_le _
    · obtain ⟨k, content, hcontent, rfl⟩ := (h row).mp ⟨hrow, hid⟩
      rw [← hrevision]
      exact (List.getElem?_eq_some_iff.mp hcontent).1
  · rcases Nat.eq_zero_or_pos contents.length with hzero | hpositive
    · rw [hzero]
      exact Nat.zero_le _
    · have hlast : contents[contents.length - 1]? = some (contents[contents.length - 1]) :=
        List.getElem?_eq_getElem (by omega)
      obtain ⟨hrow, hid⟩ := (h _).mpr ⟨_, _, hlast, rfl⟩
      have hle := store.revision_le hrow
      rw [hid] at hle
      change contents.length - 1 + 1 ≤ _ at hle
      omega

/-- A found row has the content of one that was kept. -/
theorem Numbered.find_some (h : Numbered (store.rows state) contents note.annotationId)
    {existing : FeedbackAnnotation}
    (hfind : store.findExactAnnotation state note.annotationId note.contentHash =
      some existing) : contents.any (·.contentHash = note.contentHash) = true := by
  obtain ⟨hrow, hid, hhash⟩ := store.mem_of_find hfind
  obtain ⟨k, content, hcontent, rfl⟩ := (h existing).mp ⟨hrow, hid⟩
  exact List.any_eq_true.mpr ⟨content, List.mem_of_getElem? hcontent, decide_eq_true hhash⟩

theorem Numbered.find_none (h : Numbered (store.rows state) contents note.annotationId)
    (hfind : store.findExactAnnotation state note.annotationId note.contentHash =
      none) : contents.any (·.contentHash = note.contentHash) = false := by
  rw [Bool.eq_false_iff]
  intro hany
  obtain ⟨content, hmem, hhash⟩ := List.any_eq_true.mp hany
  obtain ⟨k, hcontent⟩ := List.mem_iff_getElem?.mp hmem
  obtain ⟨hrow, hid⟩ := (h _).mpr ⟨k, content, hcontent, rfl⟩
  exact store.not_mem_of_find hfind _ hrow hid (of_decide_eq_true hhash)

/-- One row more. -/
theorem Numbered.concat (h : Numbered (store.rows state) contents note.annotationId)
    (hmem : ∀ row, row ∈ store.rows state' ↔
      row = note.withRevision (contents.length + 1) ∨ row ∈ store.rows state) :
    Numbered (store.rows state') (contents ++ [note]) note.annotationId := by
  intro row
  rw [hmem, or_and_right, h row]
  constructor
  · rintro (⟨rfl, -⟩ | ⟨k, content, hcontent, rfl⟩)
    · exact ⟨contents.length, note, List.getElem?_concat_length, rfl⟩
    · refine ⟨k, content, ?_, rfl⟩
      rw [List.getElem?_append_left (List.getElem?_eq_some_iff.mp hcontent).1]
      exact hcontent
  · rintro ⟨k, content, hcontent, rfl⟩
    rcases Nat.lt_or_ge k contents.length with hlt | hge
    · rw [List.getElem?_append_left hlt] at hcontent
      exact Or.inr ⟨k, content, hcontent, rfl⟩
    · have hk := (List.getElem?_eq_some_iff.mp hcontent).1
      rw [List.length_append, List.length_singleton] at hk
      obtain rfl : k = contents.length := by omega
      rw [List.getElem?_concat_length] at hcontent
      obtain rfl := Option.some.inj hcontent
      exact Or.inl ⟨rfl, rfl⟩

/-- **An import keeps a new content, and nothing else.** -/
theorem numbered_importParsed {result : FeedbackImportResult}
    (h : Numbered (store.rows state) contents note.annotationId)
    (hreturns : importParsed store note state = .ok (result, state')) :
    Numbered (store.rows state')
      (if contents.any (·.contentHash = note.contentHash) then contents
        else contents ++ [note]) note.annotationId := by
  unfold importParsed at hreturns
  cases hfind : store.findExactAnnotation state note.annotationId note.contentHash with
  | some existing =>
    rw [hfind] at hreturns
    obtain ⟨result', -, hpair⟩ := bind_eq_ok.mp hreturns
    obtain ⟨-, rfl⟩ := Prod.mk.inj (Except.ok.inj hpair)
    rw [if_pos (h.find_some hfind)]
    exact h
  | none =>
    rw [hfind] at hreturns
    obtain ⟨saved, hsaved, hrest⟩ := bind_eq_ok.mp hreturns
    rw [h.find_none hfind, if_neg Bool.false_ne_true]
    cases saved with
    | none => cases hrest
    | some saved =>
      obtain ⟨result', -, hpair⟩ := bind_eq_ok.mp hrest
      obtain ⟨-, rfl⟩ := Prod.mk.inj (Except.ok.inj hpair)
      have hmem := store.mem_save hsaved
      rw [h.latestRevision] at hmem
      exact h.concat hmem

end Rows

/-! ## The latest revision -/

/-- The row with the highest revision has the content of an annotation, and the revisions are those
from one on, each of them once. -/
structure LatestIs (rows : List FeedbackAnnotation) (note : FeedbackAnnotation) : Prop where
  latest : ∃ row ∈ rows, row = note.withRevision row.revision ∧
    ∀ other ∈ rows, other.annotationId = note.annotationId → other.revision ≤ row.revision
  numbered : ∃ n, ∀ revision, (∃ row ∈ rows, row.annotationId = note.annotationId ∧
    row.revision = revision) ↔ 1 ≤ revision ∧ revision ≤ n
  distinct : ∀ row ∈ rows, ∀ other ∈ rows, row.annotationId = note.annotationId →
    other.annotationId = note.annotationId → row.revision = other.revision → row = other

/-- Annotations that agree up to their revision are the same. -/
theorem eq_of_withRevision {note other : FeedbackAnnotation} {revision : ℕ}
    (hrevision : note.revision = other.revision)
    (h : note.withRevision revision = other.withRevision revision) : note = other := by
  have hback : (note.withRevision revision).withRevision note.revision =
      (other.withRevision revision).withRevision other.revision := by rw [h, hrevision]
  exact hback

section Latest

variable {rows contents : List FeedbackAnnotation} {note : FeedbackAnnotation}

/-- The revisions of numbered rows are those from one on. -/
theorem Numbered.revisions (h : Numbered rows contents note.annotationId) (revision : ℕ) :
    (∃ row ∈ rows, row.annotationId = note.annotationId ∧ row.revision = revision) ↔
      1 ≤ revision ∧ revision ≤ contents.length := by
  constructor
  · rintro ⟨row, hrow, hid, rfl⟩
    obtain ⟨k, content, hcontent, rfl⟩ := (h row).mp ⟨hrow, hid⟩
    exact ⟨Nat.le_add_left 1 k, (List.getElem?_eq_some_iff.mp hcontent).1⟩
  · rintro ⟨hpositive, hle⟩
    have hcontent : contents[revision - 1]? = some contents[revision - 1] :=
      List.getElem?_eq_getElem (by omega)
    obtain ⟨hrow, hid⟩ := (h _).mpr ⟨_, _, hcontent, rfl⟩
    refine ⟨_, hrow, hid, ?_⟩
    change revision - 1 + 1 = revision
    omega

theorem Numbered.distinct {row other : FeedbackAnnotation}
    (h : Numbered rows contents note.annotationId) (hrow : row ∈ rows) (hother : other ∈ rows)
    (hid : row.annotationId = note.annotationId)
    (hid' : other.annotationId = note.annotationId)
    (hrevision : row.revision = other.revision) : row = other := by
  obtain ⟨k, content, hcontent, rfl⟩ := (h row).mp ⟨hrow, hid⟩
  obtain ⟨k', content', hcontent', rfl⟩ := (h other).mp ⟨hother, hid'⟩
  obtain rfl : k = k' := Nat.succ.inj hrevision
  rw [hcontent] at hcontent'
  rw [Option.some.inj hcontent']

/-- **The latest revision of numbered rows is their last content.** -/
theorem latestIs_iff_getLast (h : Numbered rows contents note.annotationId)
    (hrevision : ∀ content ∈ contents, content.revision = note.revision) :
    LatestIs rows note ↔ contents.getLast? = some note := by
  rw [List.getLast?_eq_getElem?]
  constructor
  · rintro ⟨⟨row, hrow, hsame, hhighest⟩, -, -⟩
    have hid : row.annotationId = note.annotationId := by rw [hsame]; rfl
    obtain ⟨k, content, hcontent, hnumber⟩ := (h row).mp ⟨hrow, hid⟩
    have hlt := (List.getElem?_eq_some_iff.mp hcontent).1
    -- no revision is above that of the row
    obtain ⟨other, hother, hid', hlength⟩ := (h.revisions contents.length).mpr ⟨by omega, le_rfl⟩
    have hle := hhighest other hother hid'
    rw [hlength, hnumber] at hle
    change contents.length ≤ k + 1 at hle
    obtain rfl : k = contents.length - 1 := by omega
    have hcontents : content.withRevision row.revision = note.withRevision row.revision := by
      rw [← hsame, hnumber]
      rfl
    rw [hcontent, eq_of_withRevision (hrevision content (List.mem_of_getElem? hcontent)) hcontents]
  · intro hlast
    have hlt := (List.getElem?_eq_some_iff.mp hlast).1
    refine ⟨?_, ⟨contents.length, h.revisions⟩, ?_⟩
    · obtain ⟨hrow, -⟩ := (h _).mpr ⟨_, _, hlast, rfl⟩
      refine ⟨_, hrow, rfl, ?_⟩
      intro other hother hid
      have hle := ((h.revisions other.revision).mp ⟨other, hother, hid, rfl⟩).2
      change other.revision ≤ contents.length - 1 + 1
      omega
    · exact fun row hrow other hother => h.distinct hrow hother

end Latest

/-! ## Sequences of imports -/

section Sequences

variable [UnicodeTables] [DateTimeTexts] [HashFunctions] {store : FeedbackStore}

omit [UnicodeTables] in
/-- A parsed annotation has the first revision. -/
theorem revision_parse {raw : Record} {platform : String} {project : Option String}
    {note : FeedbackAnnotation}
    (h : parseLangsmithAnnotation raw platform project = .ok note) :
    note.revision = 1 := by
  unfold parseLangsmithAnnotation at h
  obtain ⟨annotationId, -, h⟩ := bind_eq_ok.mp h
  obtain ⟨traceId, -, h⟩ := bind_eq_ok.mp h
  obtain ⟨label, -, h⟩ := bind_eq_ok.mp h
  obtain ⟨score, -, h⟩ := bind_eq_ok.mp h
  dsimp only at h
  split_ifs at h
  rw [← Except.ok.inj h]

theorem FeedbackCall.revision_annotation {call : FeedbackCall} {note : FeedbackAnnotation}
    (h : call.annotation = .ok note) : note.revision = 1 := by
  unfold FeedbackCall.annotation at h
  obtain ⟨parsed, hparsed, h⟩ := bind_eq_ok.mp h
  rw [check_bind_eq_ok, check_bind_eq_ok] at h
  rw [← Except.ok.inj h.2.2]
  exact revision_parse hparsed

theorem importSequence_cons {state middle : store.State} {call : FeedbackCall}
    {result : FeedbackImportResult} (h : importAnnotation store call state = .ok (result, middle))
    (calls : List FeedbackCall) :
    importSequence store state (call :: calls) = importSequence store middle calls := by
  change importAnnotation store call state >>= (fun pair =>
    importSequence store pair.2 calls) = _
  rw [h]
  rfl

/-- A sequence of imports, of which the last one is set apart. -/
theorem importSequence_concat {state final : store.State} {calls : List FeedbackCall}
    {call : FeedbackCall} :
    importSequence store state (calls ++ [call]) = .ok final ↔
      ∃ state' result, importSequence store state calls = .ok state' ∧
        importAnnotation store call state' = .ok (result, final) := by
  induction calls generalizing state with
  | nil =>
    simp only [List.nil_append, importSequence, bind_eq_ok, Except.ok.injEq, Prod.exists]
    constructor
    · rintro ⟨result, state', himport, rfl⟩
      exact ⟨state, result, rfl, himport⟩
    · rintro ⟨state', result, rfl, himport⟩
      exact ⟨result, final, himport, rfl⟩
  | cons first calls ih =>
    simp only [List.cons_append, importSequence, bind_eq_ok, Prod.exists, ih]
    constructor
    · rintro ⟨result, middle, hfirst, state', result', hcalls, himport⟩
      exact ⟨state', result', ⟨result, middle, hfirst, hcalls⟩, himport⟩
    · rintro ⟨state', result', ⟨result, middle, hfirst, hcalls⟩, himport⟩
      exact ⟨result, middle, hfirst, state', result', hcalls, himport⟩

/-- The annotations of the calls that are parsed. -/
def annotationsOf (calls : List FeedbackCall) : List FeedbackAnnotation :=
  calls.filterMap fun call => call.annotation.toOption

theorem annotationsOf_concat {calls : List FeedbackCall} {call : FeedbackCall}
    {note : FeedbackAnnotation} (h : call.annotation = .ok note) :
    annotationsOf (calls ++ [call]) = annotationsOf calls ++ [note] := by
  unfold annotationsOf
  rw [List.filterMap_append, List.filterMap_cons, h]
  rfl

/-- The calls are about one annotation. -/
def AboutAnnotation (annotationId : String) (calls : List FeedbackCall) : Prop :=
  ∀ call ∈ calls, ∀ note, call.annotation = .ok note →
    note.annotationId = annotationId

/-- **A sequence of imports keeps the first annotation of each content, numbered from one.** -/
theorem numbered_importSequence {state final : store.State} {calls : List FeedbackCall}
    {annotationId : String} (habout : AboutAnnotation annotationId calls)
    (hfresh : ∀ row ∈ store.rows state, row.annotationId ≠ annotationId)
    (hreturns : importSequence store state calls = .ok final) :
    Numbered (store.rows final) (kept (annotationsOf calls)) annotationId := by
  induction calls using List.reverseRecOn generalizing final with
  | nil =>
    obtain rfl := Except.ok.inj hreturns
    intro row
    constructor
    · rintro ⟨hrow, hid⟩
      exact absurd hid (hfresh row hrow)
    · rintro ⟨k, content, hcontent, -⟩
      cases hcontent
  | append_singleton calls call ih =>
    obtain ⟨state', result, hcalls, himport⟩ := importSequence_concat.mp hreturns
    obtain ⟨note, hnote, himport⟩ := bind_eq_ok.mp himport
    obtain rfl : note.annotationId = annotationId :=
      habout call (List.mem_append_right _ (List.mem_singleton_self _)) note hnote
    have hbefore := ih (fun other hother => habout other (List.mem_append_left _ hother)) hcalls
    rw [annotationsOf_concat hnote, kept_concat]
    exact numbered_importParsed hbefore himport

/-! ## When the latest revision is the latest import -/

/-- The annotation of a call is that of the call before it, or no earlier call has its content. -/
def SettledAfter (earlier : List FeedbackCall) (note : FeedbackAnnotation) : Prop :=
  (annotationsOf earlier).getLast? = some note ∨
    ∀ other ∈ annotationsOf earlier, other.contentHash ≠ note.contentHash

/-- Every call of a sequence that returns was parsed. -/
theorem annotation_of_returns {state final : store.State} {calls : List FeedbackCall}
    (hreturns : importSequence store state calls = .ok final) :
    ∀ call ∈ calls, ∃ note, call.annotation = .ok note := by
  induction calls generalizing state with
  | nil => exact fun call hcall => absurd hcall List.not_mem_nil
  | cons first calls ih =>
    obtain ⟨⟨result, middle⟩, hfirst, hrest⟩ := bind_eq_ok.mp hreturns
    obtain ⟨note, hnote, -⟩ := bind_eq_ok.mp hfirst
    intro call hcall
    rcases List.mem_cons.mp hcall with rfl | hcall
    · exact ⟨note, hnote⟩
    · exact ih hrest call hcall

/-- The first calls of a sequence that returns return. -/
theorem returns_of_prefix {state final : store.State} {earlier calls : List FeedbackCall}
    (hinitial : earlier <+: calls) (hreturns : importSequence store state calls = .ok final) :
    ∃ state', importSequence store state earlier = .ok state' := by
  induction earlier generalizing state calls with
  | nil => exact ⟨state, rfl⟩
  | cons first earlier ih =>
    obtain ⟨later, rfl⟩ := hinitial
    obtain ⟨⟨result, middle⟩, hfirst, hrest⟩ := bind_eq_ok.mp hreturns
    obtain ⟨state', hstate'⟩ := ih ⟨later, rfl⟩ hrest
    exact ⟨state', bind_eq_ok.mpr ⟨_, hfirst, hstate'⟩⟩

theorem mem_annotationsOf {calls : List FeedbackCall} {note : FeedbackAnnotation}
    (h : note ∈ annotationsOf calls) : ∃ call ∈ calls, call.annotation = .ok note := by
  obtain ⟨call, hcall, hnote⟩ := List.mem_filterMap.mp h
  refine ⟨call, hcall, ?_⟩
  cases hparsed : call.annotation with
  | error error =>
    rw [hparsed] at hnote
    cases hnote
  | ok parsed =>
    rw [hparsed] at hnote
    rw [Option.some.inj hnote]

/-- **After an import the latest revision is its annotation exactly when the last annotation that
was kept is.** -/
theorem latestIs_importSequence {state final : store.State} {earlier : List FeedbackCall}
    {call : FeedbackCall} {note : FeedbackAnnotation}
    (habout : AboutAnnotation note.annotationId (earlier ++ [call]))
    (hfresh : ∀ row ∈ store.rows state, row.annotationId ≠ note.annotationId)
    (hnote : call.annotation = .ok note)
    (hreturns : importSequence store state (earlier ++ [call]) = .ok final) :
    LatestIs (store.rows final) note ↔
      (kept (annotationsOf earlier ++ [note])).getLast? = some note := by
  rw [← annotationsOf_concat hnote]
  refine latestIs_iff_getLast (numbered_importSequence habout hfresh hreturns) ?_
  intro content hcontent
  obtain ⟨other, -, hother⟩ := mem_annotationsOf (kept_subset _ hcontent)
  rw [FeedbackCall.revision_annotation hother, FeedbackCall.revision_annotation hnote]

/-- **After every import of a sequence the latest revision is the annotation that was imported,
exactly when each annotation is that of the call before it or has a content that no earlier call
had.** The sequence starts without a revision of the annotation. -/
theorem latest_feedback_iff (store : FeedbackStore) (state final : store.State)
    (calls : List FeedbackCall) (annotationId : String)
    (habout : AboutAnnotation annotationId calls)
    (hfresh : ∀ row ∈ store.rows state, row.annotationId ≠ annotationId)
    (hreturns : importSequence store state calls = .ok final) :
    (∀ earlier call state' note, earlier ++ [call] <+: calls →
      importSequence store state (earlier ++ [call]) = .ok state' →
      call.annotation = .ok note → LatestIs (store.rows state') note) ↔
    ∀ earlier call note, earlier ++ [call] <+: calls → call.annotation = .ok note →
      SettledAfter earlier note := by
  -- the newest row is the last note that was kept
  have hlatest {earlier : List FeedbackCall} {call : FeedbackCall} {state' : store.State}
      {note : FeedbackAnnotation} (hinitial : earlier ++ [call] <+: calls)
      (himport : importSequence store state (earlier ++ [call]) = .ok state')
      (hnote : call.annotation = .ok note) :
      LatestIs (store.rows state') note ↔
        (kept (annotationsOf earlier ++ [note])).getLast? = some note := by
    obtain rfl : note.annotationId = annotationId := habout call
      (hinitial.subset (List.mem_append_right _ (List.mem_singleton_self _))) _ hnote
    exact latestIs_importSequence (fun other hother => habout other (hinitial.subset hother)) hfresh
      hnote himport
  constructor
  · intro h earlier call note hinitial hnote
    obtain ⟨state', himport⟩ := returns_of_prefix hinitial hreturns
    have hlast := (hlatest hinitial himport hnote).mp
      (h earlier call state' note hinitial himport hnote)
    rcases getLast_kept_concat.mp hlast with hbefore | hnew
    · -- the call before left its own note as the last one
      rcases List.eq_nil_or_concat earlier with rfl | ⟨before, previous, rfl⟩
      · cases hbefore
      · rw [List.concat_eq_append] at *
        have hinitial' : before ++ [previous] <+: calls := (List.prefix_append _ _).trans hinitial
        obtain ⟨parsed, hparsed⟩ := annotation_of_returns hreturns previous
          (hinitial'.subset (List.mem_append_right _ (List.mem_singleton_self _)))
        obtain ⟨state'', himport'⟩ := returns_of_prefix hinitial' hreturns
        have hlast' := (hlatest hinitial' himport' hparsed).mp
          (h before previous state'' parsed hinitial' himport' hparsed)
        rw [annotationsOf_concat hparsed] at hbefore
        rw [hbefore] at hlast'
        left
        rw [annotationsOf_concat hparsed, List.getLast?_concat]
        exact hlast'.symm
    · exact Or.inr hnew
  · intro h earlier call state' note hinitial himport hnote
    rw [hlatest hinitial himport hnote]
    clear himport
    -- from the front: a note equal to the one before it is the latest because that one was
    induction earlier using List.reverseRecOn generalizing call note with
    | nil => rfl
    | append_singleton before previous ih =>
      have hinitial' : before ++ [previous] <+: calls := (List.prefix_append _ _).trans hinitial
      obtain ⟨parsed, hparsed⟩ := annotation_of_returns hreturns previous
        (hinitial'.subset (List.mem_append_right _ (List.mem_singleton_self _)))
      rw [getLast_kept_concat]
      rcases h (before ++ [previous]) call note hinitial hnote with hsame | hnew
      · rw [annotationsOf_concat hparsed, List.getLast?_concat] at hsame
        obtain rfl := Option.some.inj hsame
        left
        rw [annotationsOf_concat hparsed]
        exact ih previous parsed hinitial' hparsed
      · exact Or.inr hnew

end Sequences

/-! ## A label that is changed and changed back -/

section Examples

attribute [local instance] asciiTables epochTexts

/-- Digests that tell a label from the others. -/
@[reducible] def labelHashes : HashFunctions where
  jsonSha256 value := .repeated (if "good" ∈ value.texts then 1 else 0)
  uuid5 _ _ := .repeated 0

attribute [local instance] labelHashes

def rootEventExample : TraceEvent where
  eventId := "run-1"
  kind := .turn
  name := "support_agent.turn"
  parentId := none
  startTime := .epoch
  endTime := none
  durationMs := none
  errorCode := none
  attributes := []
  valid := by decide +kernel

def traceExample : NormalizedTrace where
  evidenceId := .repeated 0
  source := { platform := "langsmith", project := none, traceId := "trace-1" }
  scenarioId := none
  workflow := none
  environment := none
  workflowVersion := none
  model := none
  outcome := .failed
  reasonCode := "routing_failed"
  events := [rootEventExample]
  taskInput := []
  taskOutput := []
  tokens := {}
  timing := {}
  retryCount := 0
  dependencyCalls := []
  policyDecisions := []
  confirmation := none
  redaction := {}
  checked := by decide +kernel

/-- A call that imports a label of one annotation. -/
def labelCall (label : String) : FeedbackCall where
  raw := [("id", .str "annotation-1"), ("trace_id", .str "trace-1"), ("label", .str label)]
  evidence := traceExample

/-- The annotation of a label that fits its bounds. -/
def labelAnnotation (label : String) (contentHash : HexDigest)
    (h : lengthWithin 1 100 label = true) : FeedbackAnnotation where
  annotationId := "annotation-1"
  sourcePlatform := "langsmith"
  sourceProject := none
  traceId := "trace-1"
  eventId := none
  label := label
  score := none
  comment := none
  reviewer := none
  annotatedAt := .epoch
  sourceUrl := none
  correctionOf := none
  contentHash := contentHash
  valid := by
    unfold validAnnotation
    rw [h]
    decide +kernel

def badLabel : FeedbackAnnotation := labelAnnotation "bad" (.repeated 0) (by decide +kernel)

def goodLabel : FeedbackAnnotation := labelAnnotation "good" (.repeated 1) (by decide +kernel)

theorem annotation_bad : FeedbackCall.annotation (labelCall "bad") = .ok badLabel := by
  decide +kernel

theorem annotation_good : FeedbackCall.annotation (labelCall "good") = .ok goodLabel := by
  decide +kernel

/-- A label that is changed and changed back. -/
def restoredCalls : List FeedbackCall := [labelCall "bad", labelCall "good", labelCall "bad"]

/-- The rows that the calls leave, in order of their revisions. -/
def restoredRows : List FeedbackAnnotation := [badLabel, goodLabel.withRevision 2]

theorem importSequence_restored :
    importSequence inMemoryFeedbackStore ([] : List FeedbackAnnotation) restoredCalls =
      .ok restoredRows := by
  have hbad : importAnnotation inMemoryFeedbackStore (labelCall "bad")
      ([] : List FeedbackAnnotation) =
      .ok (⟨.created, "annotation-1", 1, .repeated 0⟩, [badLabel]) := by
    unfold importAnnotation
    rw [annotation_bad]
    rfl
  have hgood : importAnnotation inMemoryFeedbackStore (labelCall "good") [badLabel] =
      .ok (⟨.corrected, "annotation-1", 2, .repeated 1⟩, restoredRows) := by
    unfold importAnnotation
    rw [annotation_good]
    rfl
  have hback : importAnnotation inMemoryFeedbackStore (labelCall "bad") restoredRows =
      .ok (⟨.unchanged, "annotation-1", 1, .repeated 0⟩, restoredRows) := by
    unfold importAnnotation
    rw [annotation_bad]
    rfl
  exact (importSequence_cons hbad _).trans
    ((importSequence_cons hgood _).trans (importSequence_cons hback []))

/-- A label that is changed and changed back stays changed: the latest revision has the label in
between. -/
theorem not_latestIs_restored :
    importSequence inMemoryFeedbackStore ([] : List FeedbackAnnotation) restoredCalls =
        .ok restoredRows ∧
      FeedbackCall.annotation (labelCall "bad") = .ok badLabel ∧
      ¬ LatestIs restoredRows badLabel := by
  refine ⟨importSequence_restored, annotation_bad, ?_⟩
  rintro ⟨⟨row, hrow, hsame, hhighest⟩, -, -⟩
  have hrevision : 2 ≤ row.revision :=
    hhighest (goodLabel.withRevision 2) (by decide +kernel) rfl
  have hlabel : row.label = "bad" := by rw [hsame]; rfl
  have hrows : ∀ row ∈ restoredRows, 2 ≤ row.revision → row.label ≠ "bad" := by decide +kernel
  exact hrows row hrow hrevision hlabel

theorem latest_feedback_restored :
    ¬ ∀ earlier call state' note, earlier ++ [call] <+: restoredCalls →
      importSequence inMemoryFeedbackStore ([] : List FeedbackAnnotation) (earlier ++ [call]) =
        .ok state' →
      call.annotation = .ok note →
      LatestIs (inMemoryFeedbackStore.rows state') note := by
  have habout : AboutAnnotation "annotation-1" restoredCalls := by
    intro call hcall note hnote
    rcases List.mem_cons.mp hcall with rfl | hcall
    · rw [annotation_bad] at hnote
      rw [← Except.ok.inj hnote]
      rfl
    rcases List.mem_cons.mp hcall with rfl | hcall
    · rw [annotation_good] at hnote
      rw [← Except.ok.inj hnote]
      rfl
    · obtain rfl := List.mem_singleton.mp hcall
      rw [annotation_bad] at hnote
      rw [← Except.ok.inj hnote]
      rfl
  rw [latest_feedback_iff inMemoryFeedbackStore ([] : List FeedbackAnnotation) restoredRows
    restoredCalls "annotation-1" habout (fun row hrow => absurd hrow List.not_mem_nil)
    importSequence_restored]
  intro h
  have hbefore : annotationsOf [labelCall "bad", labelCall "good"] = [badLabel, goodLabel] := by
    unfold annotationsOf
    rw [List.filterMap_cons, annotation_bad, List.filterMap_cons, annotation_good]
    rfl
  have hsettled := h [labelCall "bad", labelCall "good"] (labelCall "bad") badLabel
    (List.prefix_refl _) annotation_bad
  unfold SettledAfter at hsettled
  rw [hbefore] at hsettled
  revert hsettled
  decide +kernel

end Examples

end ObservabilityLab
