import VersionedText.Document

namespace VersionedText

/-!
# Snapshots

A snapshot is the text and version that a document had at one moment.  Later
changes never show through it.  How the text changed since an earlier version is
known only to the document itself, so the question is put together with what has
become of the file: the document now open, if there is one.  A snapshot is
attached as long as that is still the document it was taken from, and not a
later opening of the same file.
-/

/-- A document's text and version, captured. -/
structure Snapshot where
  uri : Uri
  /-- Which opening of the file the snapshot was taken from. -/
  opening : Nat
  version : Nat
  text : Text
  deriving DecidableEq

namespace Document

/-- Capture the current text and version. -/
def snapshot (document : Document) : Snapshot where
  uri := document.uri
  opening := document.opening
  version := document.version
  text := document.content

end Document

namespace Snapshot

/-- The line table of the captured text. -/
def lines (snapshot : Snapshot) : LineTable :=
  LineTable.ofText snapshot.text

/-- Length of the captured text in bytes. -/
def length (snapshot : Snapshot) : Nat :=
  snapshot.text.size

/-- Captured text between two byte offsets. -/
def textBetween (snapshot : Snapshot) (start stop : Nat) : Except Refusal Text := do
  snapshot.text.checkRange start stop
  return snapshot.text.between start stop

/-- The document that the snapshot was taken from, if it is the one now open. -/
def source? (snapshot : Snapshot) (current : Option Document) : Option Document :=
  current.filter fun document =>
    document.uri = snapshot.uri && document.opening == snapshot.opening

/-- Whether the document that the snapshot was taken from is still open. -/
def isAttached (snapshot : Snapshot) (current : Option Document) : Bool :=
  (snapshot.source? current).isSome

/-- The change from an earlier version to the captured one, as far as it is known. -/
def changeSince?
    (snapshot : Snapshot)
    (current : Option Document)
    (version : Nat) :
    Option ChangeRange :=
  if version = snapshot.version then
    some .unchanged
  else do
    let document ← snapshot.source? current
    document.changeBetween? version snapshot.version

/-- A snapshot that outlived its document knows no change but that to its own version. -/
theorem changeSince?_none
    (snapshot : Snapshot)
    (version : Nat) :
    snapshot.changeSince? none version =
      if version = snapshot.version then some .unchanged else none := by
  simp [changeSince?, source?]

/-- While its document lives, a snapshot knows what the document's history knows. -/
theorem changeSince?_some
    {snapshot : Snapshot}
    {document : Document}
    (sameUri : document.uri = snapshot.uri)
    (sameOpening : document.opening = snapshot.opening)
    (version : Nat) :
    snapshot.changeSince? (some document) version =
      document.changeBetween? version snapshot.version := by
  by_cases same : version = snapshot.version
  · simp [changeSince?, same, Document.changeBetween?, History.exactChangeBetween?]
  · have found : snapshot.source? (some document) = some document := by
      simp [source?, Option.filter, sameUri, sameOpening]
    simp [changeSince?, same, found]

end Snapshot

end VersionedText
