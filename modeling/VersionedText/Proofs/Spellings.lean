import VersionedText.Proofs.Readings
import VersionedText.Wire

namespace VersionedText

/-!
# Spellings of messages

A message has one written form, but more spellings that are read as the same
message: an object may have its members in any order and further members besides,
an array holds the fields in their order, a byte order mark may be left out or be
the only member of an object, and an unknown change range may be left out.
`SpelledBy` lists them all, and reading accepts a spelling of a message within its
bounds and nothing else.
-/

open Json (Reading)
open Json.Decoder (offsetBound wordBound)

namespace Uri

/-- A string spells the URI that it is read as. -/
def SpelledBy (uri : Uri) (json : Json) : Prop :=
  ∃ spelling, json = .string spelling ∧ parse spelling = .ok uri

theorem decode_eq_ok_iff
    {reading : Reading}
    {json : Json}
    {uri : Uri} :
    decode reading json = .ok uri ↔ uri.SpelledBy json := by
  cases json <;> simp [decode, SpelledBy, Json.mapError_eq_ok_iff]

end Uri

namespace Span

open Json.Decoder

/-- Offsets take 64 bits. -/
def InBounds (span : Span) : Prop :=
  span.start < offsetBound ∧ span.stop < offsetBound

/-- A span is spelled by an object with its two ends, or by the list of them. -/
inductive SpelledBy (span : Span) : Json → Prop where
  | byName
      {members : List (String × Json)} :
      members.lookup "start" = some (.natural span.start) →
      members.lookup "end" = some (.natural span.stop) →
      SpelledBy span (.object members)
  | inOrder :
      SpelledBy span (.array [.natural span.start, .natural span.stop])

theorem decode_eq_ok_iff
    {reading : Reading}
    {json : Json}
    {span : Span} :
    decode reading json = .ok span ↔ span.InBounds ∧ span.SpelledBy json := by
  rw [decode, fields, record_pair_eq_ok_iff]
  constructor
  · rintro ⟨start, stop, _, _, rfl, startRead, stopRead, shape⟩
    obtain ⟨rfl, startFits⟩ := naturalBelow_eq_ok_iff.mp startRead
    obtain ⟨rfl, stopFits⟩ := naturalBelow_eq_ok_iff.mp stopRead
    rcases shape with ⟨members, rfl, startFound, stopFound⟩ | rfl
    · exact ⟨⟨startFits, stopFits⟩, .byName startFound stopFound⟩
    · exact ⟨⟨startFits, stopFits⟩, .inOrder⟩
  · rintro ⟨⟨startFits, stopFits⟩, spelled⟩
    have startRead := offset_natural reading startFits
    have stopRead := offset_natural reading stopFits
    cases spelled with
    | byName startFound stopFound =>
        exact ⟨_, _, _, _, rfl, startRead, stopRead, .inl ⟨_, rfl, startFound, stopFound⟩⟩
    | inOrder =>
        exact ⟨_, _, _, _, rfl, startRead, stopRead, .inr rfl⟩

end Span

namespace ChangeRange

open Json.Decoder

/-- Lengths take 64 bits, as the offsets of the span do. -/
def InBounds (change : ChangeRange) : Prop :=
  change.span.InBounds ∧ change.newLength < offsetBound

/-- A change is spelled by an object with its span and its length, or by the list of them. -/
inductive SpelledBy (change : ChangeRange) : Json → Prop where
  | byName
      {members : List (String × Json)}
      {span : Json} :
      members.lookup "span" = some span →
      change.span.SpelledBy span →
      members.lookup "newLength" = some (.natural change.newLength) →
      SpelledBy change (.object members)
  | inOrder
      {span : Json} :
      change.span.SpelledBy span →
      SpelledBy change (.array [span, .natural change.newLength])

theorem decode_eq_ok_iff
    {reading : Reading}
    {json : Json}
    {change : ChangeRange} :
    decode reading json = .ok change ↔ change.InBounds ∧ change.SpelledBy json := by
  rw [decode, fields, record_pair_eq_ok_iff]
  constructor
  · rintro ⟨span, newLength, _, _, rfl, spanRead, lengthRead, shape⟩
    obtain ⟨spanFits, spanSpelled⟩ := Span.decode_eq_ok_iff.mp spanRead
    obtain ⟨rfl, lengthFits⟩ := naturalBelow_eq_ok_iff.mp lengthRead
    rcases shape with ⟨members, rfl, spanFound, lengthFound⟩ | rfl
    · exact ⟨⟨spanFits, lengthFits⟩, .byName spanFound spanSpelled lengthFound⟩
    · exact ⟨⟨spanFits, lengthFits⟩, .inOrder spanSpelled⟩
  · rintro ⟨⟨spanFits, lengthFits⟩, spelled⟩
    have lengthRead := offset_natural reading lengthFits
    cases spelled with
    | byName spanFound spanSpelled lengthFound =>
        exact ⟨_, _, _, _, rfl, Span.decode_eq_ok_iff.mpr ⟨spanFits, spanSpelled⟩, lengthRead,
          .inl ⟨_, rfl, spanFound, lengthFound⟩⟩
    | inOrder spanSpelled =>
        exact ⟨_, _, _, _, rfl, Span.decode_eq_ok_iff.mpr ⟨spanFits, spanSpelled⟩, lengthRead,
          .inr rfl⟩

end ChangeRange

namespace ByteOrderMark

open Json.Decoder

/-- Where a mark has been set aside, an empty object stands for nothing as well as null does. -/
inductive SpelledBy (mark : ByteOrderMark) : Reading → Json → Prop where
  | name
      {reading : Reading} :
      SpelledBy mark reading (.string mark.name)
  | member
      {reading : Reading} :
      SpelledBy mark reading (.object [(mark.name, .null)])
  | emptiedMember :
      SpelledBy mark .deferred (.object [(mark.name, .object [])])

theorem lookup_eq_some_iff
    {name : String}
    {mark : ByteOrderMark} :
    (all.map fun mark => (mark.name, mark)).lookup name = some mark ↔ name = mark.name := by
  constructor
  · intro found
    obtain ⟨other, -, same⟩ := List.mem_map.mp (Json.mem_of_lookup_eq_some found)
    cases same
    rfl
  · rintro rfl
    cases mark <;> rfl

theorem decode_eq_ok_iff
    {reading : Reading}
    {json : Json}
    {mark : ByteOrderMark} :
    decode reading json = .ok mark ↔ mark.SpelledBy reading json := by
  simp only [decode, named_eq_ok_iff, lookup_eq_some_iff, nothing_eq_ok_iff]
  constructor
  · rintro ⟨_, rfl, rfl | ⟨_, rfl, rfl | ⟨rfl, rfl⟩⟩⟩
    · exact .name
    · exact .member
    · exact .emptiedMember
  · intro spelled
    cases spelled with
    | name => exact ⟨_, rfl, .inl rfl⟩
    | member => exact ⟨_, rfl, .inr ⟨_, rfl, .inl rfl⟩⟩
    | emptiedMember => exact ⟨_, rfl, .inr ⟨_, rfl, .inr ⟨rfl, rfl⟩⟩⟩

end ByteOrderMark

namespace ChangeQuery

open Json.Decoder

/-- Versions take 32 bits. -/
def InBounds (query : ChangeQuery) : Prop :=
  query.sinceVersion < wordBound

/-- A query is spelled by an object with its file and its version, or by the list of them. -/
inductive SpelledBy (query : ChangeQuery) : Json → Prop where
  | byName
      {members : List (String × Json)}
      {uri : Json} :
      members.lookup "uri" = some uri →
      query.uri.SpelledBy uri →
      members.lookup "sinceVersion" = some (.natural query.sinceVersion) →
      SpelledBy query (.object members)
  | inOrder
      {uri : Json} :
      query.uri.SpelledBy uri →
      SpelledBy query (.array [uri, .natural query.sinceVersion])

theorem decode_eq_ok_iff
    {reading : Reading}
    {json : Json}
    {query : ChangeQuery} :
    decode reading json = .ok query ↔ query.InBounds ∧ query.SpelledBy json := by
  rw [decode, fields, record_pair_eq_ok_iff]
  constructor
  · rintro ⟨uri, version, _, _, rfl, uriRead, versionRead, shape⟩
    have uriSpelled := Uri.decode_eq_ok_iff.mp uriRead
    obtain ⟨rfl, versionFits⟩ := naturalBelow_eq_ok_iff.mp versionRead
    rcases shape with ⟨members, rfl, uriFound, versionFound⟩ | rfl
    · exact ⟨versionFits, .byName uriFound uriSpelled versionFound⟩
    · exact ⟨versionFits, .inOrder uriSpelled⟩
  · rintro ⟨versionFits, spelled⟩
    have versionRead := word_natural reading versionFits
    cases spelled with
    | byName uriFound uriSpelled versionFound =>
        exact ⟨_, _, _, _, rfl, Uri.decode_eq_ok_iff.mpr uriSpelled, versionRead,
          .inl ⟨_, rfl, uriFound, versionFound⟩⟩
    | inOrder uriSpelled =>
        exact ⟨_, _, _, _, rfl, Uri.decode_eq_ok_iff.mpr uriSpelled, versionRead,
          .inr rfl⟩

end ChangeQuery

namespace ChangeReport

open Json.Decoder Json.Fields

/-- The version takes 32 bits, and a range that is known keeps its own bounds. -/
def InBounds (report : ChangeReport) : Prop :=
  report.version < wordBound ∧ ∀ change ∈ report.range, change.InBounds

/-- An unknown range is null. -/
inductive RangeSpelledBy : Option ChangeRange → Json → Prop where
  | unknown :
      RangeSpelledBy .none .null
  | known
      {change : ChangeRange}
      {json : Json} :
      change.SpelledBy json →
      RangeSpelledBy (some change) json

/--
A report is spelled by an object with its version and its range, or by the list of
them.  An object may leave out a range that is not known; a list may not.
-/
inductive SpelledBy (report : ChangeReport) : Json → Prop where
  | byName
      {members : List (String × Json)}
      {range : Json} :
      members.lookup "version" = some (.natural report.version) →
      members.lookup "range" = some range →
      RangeSpelledBy report.range range →
      SpelledBy report (.object members)
  | withoutRange
      {members : List (String × Json)} :
      members.lookup "version" = some (.natural report.version) →
      members.lookup "range" = .none →
      report.range = .none →
      SpelledBy report (.object members)
  | inOrder
      {range : Json} :
      RangeSpelledBy report.range range →
      SpelledBy report (.array [.natural report.version, range])

theorem range_eq_ok_iff
    {reading : Reading}
    {json : Json}
    {range : Option ChangeRange} :
    nullable ChangeRange.decode reading json = .ok range ↔
      (∀ change ∈ range, change.InBounds) ∧ RangeSpelledBy range json := by
  simp only [nullable_eq_ok_iff, ChangeRange.decode_eq_ok_iff]
  constructor
  · rintro (⟨rfl, rfl⟩ | ⟨-, change, ⟨fits, spelled⟩, rfl⟩)
    · exact ⟨by simp, .unknown⟩
    · exact ⟨by simp [fits], .known spelled⟩
  · rintro ⟨fits, spelled⟩
    cases spelled with
    | unknown => exact .inl ⟨rfl, rfl⟩
    | known spelled =>
        exact .inr ⟨by cases spelled <;> simp, _, ⟨fits _ rfl, spelled⟩, rfl⟩

theorem decode_eq_ok_iff
    {reading : Reading}
    {json : Json}
    {report : ChangeReport} :
    decode reading json = .ok report ↔ report.InBounds ∧ report.SpelledBy json := by
  simp only [decode, record_eq_ok_iff, fields, map_ofMembers_eq_ok_iff, both_ofMembers_eq_ok_iff,
    required_ofMembers_eq_ok_iff, optional_ofMembers_eq_ok_iff, map_ofItems_eq_ok_iff,
    both_ofItems_eq_ok_iff, required_ofItems_eq_ok_iff, optional_ofItems_eq_ok_iff, word,
    naturalBelow_eq_ok_iff, range_eq_ok_iff]
  constructor
  · rintro (⟨members, rfl, ⟨version, range⟩, ⟨⟨_, versionFound, rfl, versionFits⟩,
      rangeRead⟩, rfl⟩ |
      ⟨_, rfl, ⟨version, range⟩, ⟨_, ⟨_, rfl, rfl, versionFits⟩,
        _, rfl, rangeFits, rangeSpelled⟩, rfl⟩)
    · rcases rangeRead with ⟨rangeMissing, rfl⟩ | ⟨_, rangeFound, rangeFits, rangeSpelled⟩
      · exact ⟨⟨versionFits, by simp⟩, .withoutRange versionFound rangeMissing rfl⟩
      · exact ⟨⟨versionFits, rangeFits⟩, .byName versionFound rangeFound rangeSpelled⟩
    · exact ⟨⟨versionFits, rangeFits⟩, .inOrder rangeSpelled⟩
  · rintro ⟨⟨versionFits, rangeFits⟩, spelled⟩
    cases spelled with
    | byName versionFound rangeFound rangeSpelled =>
        exact .inl ⟨_, rfl, ⟨_, _⟩, ⟨⟨_, versionFound, rfl, versionFits⟩,
          .inr ⟨_, rangeFound, rangeFits, rangeSpelled⟩⟩, rfl⟩
    | withoutRange versionFound rangeMissing unknown =>
        exact .inl ⟨_, rfl, ⟨_, _⟩, ⟨⟨_, versionFound, rfl, versionFits⟩,
          .inl ⟨rangeMissing, unknown.symm⟩⟩, rfl⟩
    | inOrder rangeSpelled =>
        exact .inr ⟨_, rfl, ⟨_, _⟩, ⟨_, ⟨_, rfl, rfl, versionFits⟩,
          _, rfl, rangeFits, rangeSpelled⟩, rfl⟩

end ChangeReport

namespace FileOperation

open Json.Decoder Json.Fields

/-- The name that an operation goes by. -/
def name : FileOperation → String
  | .opened .. => "open"
  | .edited .. => "edit"
  | .contentSet .. => "setContent"
  | .closed _ => "close"

/-- The offsets of an edit take 64 bits; no other operation has a number. -/
def InBounds : FileOperation → Prop
  | .edited _ start stop _ => start < offsetBound ∧ stop < offsetBound
  | _ => True

/-- The members hold the fields of an operation, and may hold more. -/
inductive FoundIn (members : List (String × Json)) : FileOperation → Prop where
  | opened
      {file : Uri}
      {text : String}
      {mark : ByteOrderMark}
      {fileJson markJson : Json} :
      members.lookup "fileId" = some fileJson →
      file.SpelledBy fileJson →
      members.lookup "text" = some (.string text) →
      members.lookup "byteOrderMark" = some markJson →
      mark.SpelledBy .deferred markJson →
      FoundIn members (.opened file text mark)
  | openedUnmarked
      {file : Uri}
      {text : String}
      {fileJson : Json} :
      members.lookup "fileId" = some fileJson →
      file.SpelledBy fileJson →
      members.lookup "text" = some (.string text) →
      members.lookup "byteOrderMark" = .none →
      FoundIn members (.opened file text .absent)
  | edited
      {file : Uri}
      {start stop : Nat}
      {text : String}
      {fileJson : Json} :
      members.lookup "fileId" = some fileJson →
      file.SpelledBy fileJson →
      members.lookup "start" = some (.natural start) →
      members.lookup "end" = some (.natural stop) →
      members.lookup "text" = some (.string text) →
      FoundIn members (.edited file start stop text)
  | contentSet
      {file : Uri}
      {text : String}
      {fileJson : Json} :
      members.lookup "fileId" = some fileJson →
      file.SpelledBy fileJson →
      members.lookup "text" = some (.string text) →
      FoundIn members (.contentSet file text)
  | closed
      {file : Uri}
      {fileJson : Json} :
      members.lookup "fileId" = some fileJson →
      file.SpelledBy fileJson →
      FoundIn members (.closed file)

/-- The items are the fields of an operation in their order; a mark at the end may be missing. -/
inductive ListedIn : List Json → FileOperation → Prop where
  | opened
      {file : Uri}
      {text : String}
      {mark : ByteOrderMark}
      {fileJson markJson : Json} :
      file.SpelledBy fileJson →
      mark.SpelledBy .deferred markJson →
      ListedIn [fileJson, .string text, markJson] (.opened file text mark)
  | openedUnmarked
      {file : Uri}
      {text : String}
      {fileJson : Json} :
      file.SpelledBy fileJson →
      ListedIn [fileJson, .string text] (.opened file text .absent)
  | edited
      {file : Uri}
      {start stop : Nat}
      {text : String}
      {fileJson : Json} :
      file.SpelledBy fileJson →
      ListedIn [fileJson, .natural start, .natural stop, .string text]
        (.edited file start stop text)
  | contentSet
      {file : Uri}
      {text : String}
      {fileJson : Json} :
      file.SpelledBy fileJson →
      ListedIn [fileJson, .string text] (.contentSet file text)
  | closed
      {file : Uri}
      {fileJson : Json} :
      file.SpelledBy fileJson →
      ListedIn [fileJson] (.closed file)

/-- The name of an operation is a member beside its fields, or the item before them. -/
inductive SpelledBy (operation : FileOperation) : Json → Prop where
  | byName
      {members : List (String × Json)} :
      members.lookup "operation" = some (.string operation.name) →
      FoundIn members operation →
      SpelledBy operation (.object members)
  | inOrder
      {items : List Json} :
      ListedIn items operation →
      SpelledBy operation (.array (.string operation.name :: items))

variable
  {members : List (String × Json)}
  {items : List Json}
  {operation : FileOperation}

theorem openedFields_ofMembers_iff :
    openedFields.ofMembers .deferred members = .ok operation ↔
      operation.name = "open" ∧ operation.InBounds ∧ FoundIn members operation := by
  simp only [openedFields, fileField, textField, map_ofMembers_eq_ok_iff, both_ofMembers_eq_ok_iff,
    required_ofMembers_eq_ok_iff, withDefault_ofMembers_eq_ok_iff, Uri.decode_eq_ok_iff,
    string_eq_ok_iff, ByteOrderMark.decode_eq_ok_iff]
  constructor
  · rintro ⟨⟨file, text, mark⟩, ⟨⟨_, fileFound, fileSpelled⟩, ⟨_, textFound, rfl⟩, markRead⟩, rfl⟩
    rcases markRead with ⟨markMissing, rfl⟩ | ⟨_, markFound, markSpelled⟩
    · exact ⟨rfl, trivial, .openedUnmarked fileFound fileSpelled textFound markMissing⟩
    · exact ⟨rfl, trivial, .opened fileFound fileSpelled textFound markFound markSpelled⟩
  · rintro ⟨opening, -, found⟩
    cases found with
    | opened fileFound fileSpelled textFound markFound markSpelled =>
        exact ⟨⟨_, _, _⟩, ⟨⟨_, fileFound, fileSpelled⟩, ⟨_, textFound, rfl⟩,
          .inr ⟨_, markFound, markSpelled⟩⟩, rfl⟩
    | openedUnmarked fileFound fileSpelled textFound markMissing =>
        exact ⟨⟨_, _, _⟩, ⟨⟨_, fileFound, fileSpelled⟩, ⟨_, textFound, rfl⟩,
          .inl ⟨markMissing, rfl⟩⟩, rfl⟩
    | _ => simp [name] at opening

theorem openedFields_ofItems_iff :
    openedFields.ofItems .deferred 0 items = .ok (operation, []) ↔
      operation.name = "open" ∧ operation.InBounds ∧ ListedIn items operation := by
  simp only [openedFields, fileField, textField, map_ofItems_eq_ok_iff, both_ofItems_eq_ok_iff,
    required_ofItems_eq_ok_iff, withDefault_ofItems_eq_ok_iff, Uri.decode_eq_ok_iff,
    string_eq_ok_iff, ByteOrderMark.decode_eq_ok_iff]
  constructor
  · rintro ⟨⟨file, text, mark⟩, ⟨_, ⟨_, rfl, fileSpelled⟩, _, ⟨_, rfl, rfl⟩, markRead⟩, rfl⟩
    rcases markRead with ⟨rfl, rfl, -⟩ | ⟨_, rfl, markSpelled⟩
    · exact ⟨rfl, trivial, .openedUnmarked fileSpelled⟩
    · exact ⟨rfl, trivial, .opened fileSpelled markSpelled⟩
  · rintro ⟨opening, -, listed⟩
    cases listed with
    | opened fileSpelled markSpelled =>
        exact ⟨⟨_, _, _⟩, ⟨_, ⟨_, rfl, fileSpelled⟩, _, ⟨_, rfl, rfl⟩,
          .inr ⟨_, rfl, markSpelled⟩⟩, rfl⟩
    | openedUnmarked fileSpelled =>
        exact ⟨⟨_, _, _⟩, ⟨_, ⟨_, rfl, fileSpelled⟩, _, ⟨_, rfl, rfl⟩,
          .inl ⟨rfl, rfl, trivial⟩⟩, rfl⟩
    | _ => simp [name] at opening

theorem editedFields_ofMembers_iff :
    editedFields.ofMembers .deferred members = .ok operation ↔
      operation.name = "edit" ∧ operation.InBounds ∧ FoundIn members operation := by
  simp only [editedFields, fileField, textField, map_ofMembers_eq_ok_iff, both_ofMembers_eq_ok_iff,
    required_ofMembers_eq_ok_iff, Uri.decode_eq_ok_iff, string_eq_ok_iff, offset,
    naturalBelow_eq_ok_iff]
  constructor
  · rintro ⟨⟨file, start, stop, text⟩, ⟨⟨_, fileFound, fileSpelled⟩,
      ⟨_, startFound, rfl, startFits⟩, ⟨_, stopFound, rfl, stopFits⟩, _, textFound, rfl⟩, rfl⟩
    exact ⟨rfl, ⟨startFits, stopFits⟩, .edited fileFound fileSpelled startFound stopFound textFound⟩
  · rintro ⟨editing, fits, found⟩
    cases found with
    | edited fileFound fileSpelled startFound stopFound textFound =>
        exact ⟨⟨_, _, _, _⟩, ⟨⟨_, fileFound, fileSpelled⟩, ⟨_, startFound, rfl, fits.1⟩,
          ⟨_, stopFound, rfl, fits.2⟩, _, textFound, rfl⟩, rfl⟩
    | _ => simp [name] at editing

theorem editedFields_ofItems_iff :
    editedFields.ofItems .deferred 0 items = .ok (operation, []) ↔
      operation.name = "edit" ∧ operation.InBounds ∧ ListedIn items operation := by
  simp only [editedFields, fileField, textField, map_ofItems_eq_ok_iff, both_ofItems_eq_ok_iff,
    required_ofItems_eq_ok_iff, Uri.decode_eq_ok_iff, string_eq_ok_iff, offset,
    naturalBelow_eq_ok_iff]
  constructor
  · rintro ⟨⟨file, start, stop, text⟩, ⟨_, ⟨_, rfl, fileSpelled⟩, _, ⟨_, rfl, rfl, startFits⟩,
      _, ⟨_, rfl, rfl, stopFits⟩, _, rfl, rfl⟩, rfl⟩
    exact ⟨rfl, ⟨startFits, stopFits⟩, .edited fileSpelled⟩
  · rintro ⟨editing, fits, listed⟩
    cases listed with
    | edited fileSpelled =>
        exact ⟨⟨_, _, _, _⟩, ⟨_, ⟨_, rfl, fileSpelled⟩, _, ⟨_, rfl, rfl, fits.1⟩,
          _, ⟨_, rfl, rfl, fits.2⟩, _, rfl, rfl⟩, rfl⟩
    | _ => simp [name] at editing

theorem contentSetFields_ofMembers_iff :
    contentSetFields.ofMembers .deferred members = .ok operation ↔
      operation.name = "setContent" ∧ operation.InBounds ∧ FoundIn members operation := by
  simp only [contentSetFields, fileField, textField, map_ofMembers_eq_ok_iff,
    both_ofMembers_eq_ok_iff, required_ofMembers_eq_ok_iff, Uri.decode_eq_ok_iff, string_eq_ok_iff]
  constructor
  · rintro ⟨⟨file, text⟩, ⟨⟨_, fileFound, fileSpelled⟩, _, textFound, rfl⟩, rfl⟩
    exact ⟨rfl, trivial, .contentSet fileFound fileSpelled textFound⟩
  · rintro ⟨setting, -, found⟩
    cases found with
    | contentSet fileFound fileSpelled textFound =>
        exact ⟨⟨_, _⟩, ⟨⟨_, fileFound, fileSpelled⟩, _, textFound, rfl⟩, rfl⟩
    | _ => simp [name] at setting

theorem contentSetFields_ofItems_iff :
    contentSetFields.ofItems .deferred 0 items = .ok (operation, []) ↔
      operation.name = "setContent" ∧ operation.InBounds ∧ ListedIn items operation := by
  simp only [contentSetFields, fileField, textField, map_ofItems_eq_ok_iff, both_ofItems_eq_ok_iff,
    required_ofItems_eq_ok_iff, Uri.decode_eq_ok_iff, string_eq_ok_iff]
  constructor
  · rintro ⟨⟨file, text⟩, ⟨_, ⟨_, rfl, fileSpelled⟩, _, rfl, rfl⟩, rfl⟩
    exact ⟨rfl, trivial, .contentSet fileSpelled⟩
  · rintro ⟨setting, -, listed⟩
    cases listed with
    | contentSet fileSpelled =>
        exact ⟨⟨_, _⟩, ⟨_, ⟨_, rfl, fileSpelled⟩, _, rfl, rfl⟩, rfl⟩
    | _ => simp [name] at setting

theorem closedFields_ofMembers_iff :
    closedFields.ofMembers .deferred members = .ok operation ↔
      operation.name = "close" ∧ operation.InBounds ∧ FoundIn members operation := by
  simp only [closedFields, fileField, map_ofMembers_eq_ok_iff, required_ofMembers_eq_ok_iff,
    Uri.decode_eq_ok_iff]
  constructor
  · rintro ⟨file, ⟨_, fileFound, fileSpelled⟩, rfl⟩
    exact ⟨rfl, trivial, .closed fileFound fileSpelled⟩
  · rintro ⟨closing, -, found⟩
    cases found with
    | closed fileFound fileSpelled => exact ⟨_, ⟨_, fileFound, fileSpelled⟩, rfl⟩
    | _ => simp [name] at closing

theorem closedFields_ofItems_iff :
    closedFields.ofItems .deferred 0 items = .ok (operation, []) ↔
      operation.name = "close" ∧ operation.InBounds ∧ ListedIn items operation := by
  simp only [closedFields, fileField, map_ofItems_eq_ok_iff, required_ofItems_eq_ok_iff,
    Uri.decode_eq_ok_iff]
  constructor
  · rintro ⟨file, ⟨_, rfl, fileSpelled⟩, rfl⟩
    exact ⟨rfl, trivial, .closed fileSpelled⟩
  · rintro ⟨closing, -, listed⟩
    cases listed with
    | closed fileSpelled => exact ⟨_, ⟨_, rfl, fileSpelled⟩, rfl⟩
    | _ => simp [name] at closing

theorem exists_form (operation : FileOperation) :
    ∃ form, forms.lookup operation.name = some form := by
  cases operation <;> exact ⟨_, rfl⟩

theorem form_object_iff
    {name : String}
    {form : Json.Decoder FileOperation}
    (known : forms.lookup name = some form) :
    form .deferred (.object members) = .ok operation ↔
      operation.name = name ∧ operation.InBounds ∧ FoundIn members operation := by
  have member := Json.mem_of_lookup_eq_some known
  simp only [forms, List.mem_cons, List.not_mem_nil, or_false, Prod.mk.injEq] at member
  rcases member with ⟨rfl, rfl⟩ | ⟨rfl, rfl⟩ | ⟨rfl, rfl⟩ | ⟨rfl, rfl⟩ <;>
    simp [record_eq_ok_iff, openedFields_ofMembers_iff, editedFields_ofMembers_iff,
      contentSetFields_ofMembers_iff, closedFields_ofMembers_iff]

theorem form_array_iff
    {name : String}
    {form : Json.Decoder FileOperation}
    (known : forms.lookup name = some form) :
    form .deferred (.array items) = .ok operation ↔
      operation.name = name ∧ operation.InBounds ∧ ListedIn items operation := by
  have member := Json.mem_of_lookup_eq_some known
  simp only [forms, List.mem_cons, List.not_mem_nil, or_false, Prod.mk.injEq] at member
  rcases member with ⟨rfl, rfl⟩ | ⟨rfl, rfl⟩ | ⟨rfl, rfl⟩ | ⟨rfl, rfl⟩ <;>
    simp [record_eq_ok_iff, openedFields_ofItems_iff, editedFields_ofItems_iff,
      contentSetFields_ofItems_iff, closedFields_ofItems_iff]

theorem decode_eq_ok_iff
    {reading : Reading}
    {json : Json} :
    decode reading json = .ok operation ↔ operation.InBounds ∧ operation.SpelledBy json := by
  rw [decode, tagged_eq_ok_iff]
  constructor
  · rintro ⟨name, form, known, ⟨members, rfl, named, read⟩ | ⟨items, rfl, read⟩⟩
    · obtain ⟨rfl, fits, found⟩ := (form_object_iff known).mp read
      exact ⟨fits, .byName named found⟩
    · obtain ⟨rfl, fits, listed⟩ := (form_array_iff known).mp read
      exact ⟨fits, .inOrder listed⟩
  · rintro ⟨fits, spelled⟩
    obtain ⟨form, known⟩ := exists_form operation
    cases spelled with
    | byName named found =>
        exact ⟨_, form, known,
          .inl ⟨_, rfl, named, (form_object_iff known).mpr ⟨rfl, fits, found⟩⟩⟩
    | inOrder listed =>
        exact ⟨_, form, known,
          .inr ⟨_, rfl, (form_array_iff known).mpr ⟨rfl, fits, listed⟩⟩⟩

end FileOperation

end VersionedText
