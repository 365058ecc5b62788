import VersionedText.Snapshot

namespace VersionedText.Analysis

/-!
# Planning incremental analysis

An analysis engine keeps a cursor per file.  Before a pass it asks the cursor
what a snapshot needs, and after the pass it commits the snapshot.  The cursor
remembers nothing but the version that was committed last.
-/

/-- What the next analysis pass has to cover. -/
inductive Plan where
  /-- Nothing has changed since the last pass. -/
  | upToDate
  /-- Only the given range has changed since the last pass. -/
  | incremental (change : ChangeRange)
  /-- The whole text has to be analysed. -/
  | full
  deriving Repr, DecidableEq

/-- The version of a file that was analysed last, if there was one. -/
structure Cursor where
  analysed : Option Nat
  deriving Repr, DecidableEq

namespace Cursor

/-- A cursor before the first pass. -/
def fresh : Cursor :=
  ⟨none⟩

/-- What a pass over the snapshot has to cover, given the document now open. -/
def plan
    (cursor : Cursor)
    (snapshot : Snapshot)
    (current : Option Document) :
    Plan :=
  match cursor.analysed with
  | none => .full
  | some analysed =>
      match snapshot.changeSince? current analysed with
      | none => .full
      | some change => if change.isUnchanged then .upToDate else .incremental change

/-- Note that a snapshot has been analysed in full. -/
def commit (_ : Cursor) (snapshot : Snapshot) : Cursor :=
  ⟨some snapshot.version⟩

/-- Forget the last pass. -/
def invalidate (_ : Cursor) : Cursor :=
  fresh

end Cursor

end VersionedText.Analysis
