import VersionedText.Snapshot
import VersionedText.Proofs.Rescan
import VersionedText.Proofs.Retention
import VersionedText.Proofs.Revision

namespace VersionedText

/-!
# The books of a document

A document keeps its text together with four things that follow from how the
text came about: a version, a line table, and a history with its base and its
records.  They are kept up separately, by edits, by replacements and by
forgetting old records.  The books are in order when each of them agrees with
the texts that the document has had; they are so after every run of calls,
refused ones included, under whatever limit.
-/

namespace History

/-- A limited history retains no more than its limit after an edit. -/
theorem length_records_push
    {history : History}
    {most : Nat}
    (limited : history.limit = some most)
    (record : EditRecord) :
    (history.push record).records.length ≤ most := by
  simp only [push, trim, limited, records_forget, List.length_drop]
  omega

/-- Exactly what lengths a history knows that recounts some texts. -/
theorem Recounts.lengthAt?_eq_ite
    {history : History}
    {textAt : Nat → Text}
    (recounts : history.Recounts textAt)
    (version : Nat) :
    history.lengthAt? version =
      if history.baseVersion ≤ version ∧ version ≤ history.currentVersion then
        some (textAt version).size
      else
        none := by
  by_cases covered : history.covers version = true
  · rw [if_pos ((covers_iff history version).mp covered)]
    exact recounts.lengthAt?_eq covered
  · rw [lengthAt?, if_neg covered, if_neg fun bounds => covered ((covers_iff _ _).mpr bounds)]

end History

/-- A record that rewrites a text puts its insertion between what the ends of its span leave. -/
theorem EditRecord.Rewrites.cuts
    {record : EditRecord}
    {old new : Text}
    (rewrites : record.Rewrites old new) :
    (record.span.start ≤ record.span.stop ∧ record.span.stop ≤ old.size) ∧
      (old.isBoundary record.span.start = true ∧ old.isBoundary record.span.stop = true) ∧
      ∃ inserted : Text,
        inserted.size = record.insertedLength ∧
          new = old.before record.span.start ++ inserted ++ old.after record.span.stop := by
  obtain ⟨head, removed, inserted, tail, rfl, rfl, shape⟩ :=
    (ChangeRange.explains_iff_parts _ _ _).mp rewrites.explains
  simp only [EditRecord.change, ChangeRange.mk.injEq] at shape
  obtain ⟨span, insertedLength⟩ := shape
  rw [span]
  refine ⟨⟨Nat.le_add_right _ _, ?_⟩, Text.isBoundary_inner head removed tail,
    inserted, insertedLength.symm, ?_⟩
  · simp only [Text.size_append]
    omega
  · exact (Text.splice_append_size head removed inserted tail).symm

namespace Document

/-- What calls preserve of a document by itself, whatever texts it has had before. -/
structure Booked (document : Document) (limit : Option Nat) : Prop where
  lines : document.lines = LineTable.ofText document.content
  sameLimit : document.history.limit = limit
  withinLimit : ∀ most, limit = some most → document.history.records.length ≤ most
  fromFirst : 1 ≤ document.history.baseVersion

namespace Booked

theorem create
    (uri : Uri)
    (opening : Nat)
    (text : Text)
    (limit : Option Nat) :
    (Document.create uri opening text limit).Booked limit where
  lines := rfl
  sameLimit := rfl
  withinLimit := fun most _ => Nat.zero_le most
  fromFirst := Nat.le_refl 1

/-- An accepted span cuts the text, and around the cuts the table is rescanned. -/
theorem edit
    {document edited : Document}
    {limit : Option Nat}
    {start stop : Nat}
    {inserted : Text}
    (booked : document.Booked limit)
    (accepted : document.edit start stop inserted = .ok edited) :
    edited.Booked limit := by
  obtain ⟨checked, rfl⟩ := (edit_eq_ok_iff _ _ _ _ _).mp accepted
  refine ⟨?_, ?_, ?_, ?_⟩
  · obtain ⟨head, removed, tail, contentShape, rfl, rfl⟩ :=
      (Text.checkRange_eq_ok_iff _ _ _).mp checked
    have lines := booked.lines
    rw [contentShape] at lines
    simp only [contentShape, lines, Text.splice_append_size, LineTable.update_ofText]
  · rw [History.limit_push, booked.sameLimit]
  · intro most limited
    exact History.length_records_push (booked.sameLimit.trans limited) _
  · rw [History.baseVersion_push]
    exact Nat.le_trans booked.fromFirst (History.le_oldestKept _ _ _)

theorem replaceContent
    {document : Document}
    {limit : Option Nat}
    (booked : document.Booked limit)
    (text : Text) :
    (document.replaceContent text).Booked limit := by
  by_cases same : document.content = text
  · simpa only [Document.replaceContent, if_pos same] using booked
  · simp only [Document.replaceContent, if_neg same]
    exact
      { lines := rfl
        sameLimit := booked.sameLimit
        withinLimit := fun most _ => Nat.zero_le most
        fromFirst := Nat.succ_le_succ (Nat.zero_le _) }

/-- A call keeps the books, whether it is accepted or refused. -/
theorem revise
    {document : Document}
    {limit : Option Nat}
    (booked : document.Booked limit)
    (revision : Revision) :
    (document.revise revision).Booked limit := by
  cases revision with
  | edit start stop inserted =>
      simp only [Document.revise, attempt]
      split
      · rename_i edited accepted
        exact booked.edit accepted
      · exact booked
  | replacement text =>
      exact booked.replaceContent text

theorem reviseAll
    {document : Document}
    {limit : Option Nat}
    (booked : document.Booked limit)
    (revisions : List Revision) :
    (document.reviseAll revisions).Booked limit := by
  induction revisions generalizing document with
  | nil =>
      exact booked
  | cons revision later inductionHypothesis =>
      exact inductionHypothesis (booked.revise revision)

end Booked

theorem version_le_reviseAll
    (document : Document)
    (revisions : List Revision) :
    document.version ≤ (document.reviseAll revisions).version := by
  induction revisions generalizing document with
  | nil =>
      exact Nat.le_refl _
  | cons revision later inductionHypothesis =>
      exact Nat.le_trans (document.version_le_revise revision)
        (inductionHypothesis (document.revise revision))

/-- A version that was held at some moment lies between the first and the last of the run. -/
theorem Held.bounds
    {document : Document}
    {revisions : List Revision}
    {version : Nat}
    {text : Text}
    (held : document.Held revisions version text) :
    document.version ≤ version ∧ version ≤ (document.reviseAll revisions).version := by
  obtain ⟨earlier, ⟨later, rfl⟩, rfl, rfl⟩ := held
  refine ⟨document.version_le_reviseAll earlier, ?_⟩
  have inTurn :
      document.reviseAll (earlier ++ later) = (document.reviseAll earlier).reviseAll later :=
    List.foldl_append
  rw [inTurn]
  exact (document.reviseAll earlier).version_le_reviseAll later

/-- A run skips no version: each between the first and the last had some text. -/
theorem exists_held
    {document : Document}
    {revisions : List Revision}
    {version : Nat}
    (fromFirst : document.version ≤ version)
    (untilLast : version ≤ (document.reviseAll revisions).version) :
    ∃ text, document.Held revisions version text := by
  induction revisions generalizing document with
  | nil =>
      obtain rfl := Nat.le_antisymm fromFirst untilLast
      exact ⟨document.content, [], List.nil_prefix, rfl, rfl⟩
  | cons revision later inductionHypothesis =>
      rcases Nat.eq_or_lt_of_le fromFirst with rfl | after
      · exact ⟨document.content, [], List.nil_prefix, rfl, rfl⟩
      · have next : (document.revise revision).version ≤ version := by
          rcases document.revise_eq_or_version revision with unrevised | next
          · rw [unrevised]
            exact fromFirst
          · omega
        obtain ⟨text, earlier, within, atVersion, withText⟩ := inductionHypothesis next untilLast
        exact ⟨text, revision :: earlier, List.cons_prefix_cons.mpr ⟨rfl, within⟩,
          atVersion, withText⟩

/-- The books of a document agree with its texts by version. -/
structure InOrder
    (document : Document)
    (limit : Option Nat)
    (textAt : Nat → Text) : Prop where
  currentVersion : document.history.currentVersion = document.version
  baseVersion : 1 ≤ document.history.baseVersion ∧ document.history.baseVersion ≤ document.version
  withinLimit : ∀ most, limit = some most → document.history.records.length ≤ most
  /-- The lengths that are known are those of the texts since the base. -/
  lengthAt? :
    ∀ version,
      document.history.lengthAt? version =
        if document.history.baseVersion ≤ version ∧ version ≤ document.version then
          some (textAt version).size
        else
          none
  /-- Each record tells how the text after it came from the one before it. -/
  records :
    ∀ index record,
      document.history.records[index]? = some record →
      let old := textAt (document.history.baseVersion + index)
      let new := textAt (document.history.baseVersion + index + 1)
      (record.span.start ≤ record.span.stop ∧ record.span.stop ≤ old.size) ∧
        (old.isBoundary record.span.start = true ∧
          old.isBoundary record.span.stop = true) ∧
        (∃ inserted : Text,
          inserted.size = record.insertedLength ∧
            new = old.before record.span.start ++ inserted ++ old.after record.span.stop) ∧
        record.resultingLength = new.size
  lines : document.lines = LineTable.ofText document.content

/-- A document in step with its texts, with its table and its limit kept, has its books in order. -/
theorem Booked.inOrder
    {document : Document}
    {limit : Option Nat}
    {textAt : Nat → Text}
    (booked : document.Booked limit)
    (follows : document.Follows textAt) :
    document.InOrder limit textAt where
  currentVersion := follows.currentVersion
  baseVersion := by
    refine ⟨booked.fromFirst, ?_⟩
    rw [← follows.currentVersion]
    exact Nat.le_add_right _ _
  withinLimit := booked.withinLimit
  lengthAt? := by
    intro version
    rw [follows.recounts.lengthAt?_eq_ite, follows.currentVersion]
  records := by
    intro index record found
    have rewrites := follows.recounts.records index record found
    obtain ⟨inText, atBoundaries, inserts⟩ := rewrites.cuts
    exact ⟨inText, atBoundaries, inserts, rewrites.resultingLength⟩
  lines := booked.lines

/--
After any run of calls on a document, the books are in order for the texts that
it has had, one at each version from the first on.  So a table made from a
snapshot, however late, is the one that the document had at the capture.
-/
theorem inOrder_reviseAll
    (uri : Uri)
    (opening : Nat)
    (initial : Text)
    (limit : Option Nat)
    (revisions : List Revision) :
    let document := (create uri opening initial limit).reviseAll revisions
    ∃ textAt : Nat → Text,
      (∀ version text,
        (create uri opening initial limit).Held revisions version text ↔
          (1 ≤ version ∧ version ≤ document.version) ∧ textAt version = text) ∧
        document.InOrder limit textAt ∧
        document.snapshot.lines = document.lines := by
  intro document
  obtain ⟨textAt, follows, -, holds⟩ :=
    (Follows.create uri opening initial limit).reviseAll revisions
  have booked := (Booked.create uri opening initial limit).reviseAll revisions
  refine ⟨textAt, ?_, booked.inOrder follows, booked.lines.symm⟩
  intro version text
  constructor
  · intro held
    exact ⟨held.bounds, holds version text held⟩
  · rintro ⟨⟨fromFirst, untilLast⟩, rfl⟩
    obtain ⟨text, held⟩ := exists_held fromFirst untilLast
    rw [holds version text held]
    exact held

end Document

end VersionedText
