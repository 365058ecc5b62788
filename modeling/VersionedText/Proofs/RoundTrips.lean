import VersionedText.Proofs.Revision
import VersionedText.Proofs.Spellings

namespace VersionedText

/-!
# Round trips of messages

A message is read back from its written form.  Of all its spellings the written
form is one, provided that the text of every URI in the message is a spelling of
that URI; and what has been read once, in whatever spelling, has numbers within
their bounds, so writing it and reading it again changes nothing more.  No two
messages of a kind are written alike.
-/

open Json (Reading)

/-- How the messages of one kind are written and read, and what they are made of. -/
structure WireForm (α : Type) where
  write : α → Json
  read : Json.Decoder α
  /-- The numbers in a message take no more bits than their fields have. -/
  InBounds : α → Prop
  uris : α → List Uri

namespace WireForm

variable {form : WireForm α}

/-- The URIs in a message are read back from their texts. -/
def IsStable (form : WireForm α) (message : α) : Prop :=
  ∀ uri ∈ form.uris message, uri.IsStable

/-- Writing and reading lose nothing, however a message is spelled at first. -/
structure RoundTrips (form : WireForm α) : Prop where
  readsBack (reading : Reading) (message : α) :
    form.InBounds message →
    form.IsStable message →
    form.read reading (form.write message) = .ok message
  settles (reading again : Reading) (json : Json) (message : α) :
    form.read reading json = .ok message →
    form.IsStable message →
    form.read again (form.write message) = .ok message
  distinct (first second : α) :
    form.write first = form.write second →
    first = second

/-- It is enough to know all spellings, and that the written form is among them. -/
theorem RoundTrips.of_spellings
    {SpelledBy : α → Reading → Json → Prop}
    (reads :
      ∀ reading json message,
        form.read reading json = .ok message ↔
          form.InBounds message ∧ SpelledBy message reading json)
    (written :
      ∀ reading message,
        form.IsStable message →
        SpelledBy message reading (form.write message))
    (distinct :
      ∀ first second,
        form.write first = form.write second →
        first = second) :
    form.RoundTrips where
  readsBack reading message fits stable :=
    (reads reading _ message).mpr ⟨fits, written reading message stable⟩
  settles reading again json message read stable := by
    obtain ⟨fits, -⟩ := (reads reading json message).mp read
    exact (reads again _ message).mpr ⟨fits, written again message stable⟩
  distinct := distinct

end WireForm

namespace Uri

theorem spelledBy_toJson
    {uri : Uri}
    (stable : uri.IsStable) :
    uri.SpelledBy uri.toJson :=
  ⟨uri.text, rfl, parse_text stable⟩

theorem toJson_injective
    {first second : Uri}
    (alike : first.toJson = second.toJson) :
    first = second :=
  Uri.ext (Json.string.inj alike)

end Uri

namespace Json

theorem natural_injective
    {first second : Nat}
    (alike : natural first = natural second) :
    first = second :=
  Int.ofNat.inj (Json.integer.inj alike)

/-- Of two objects with the same names, what stands under the names tells them apart. -/
theorem object_pair_injective
    {name name' : String}
    {part part' other other' : Json}
    (alike : object [(name, part), (name', part')] = object [(name, other), (name', other')]) :
    part = other ∧ part' = other' := by
  simp only [object.injEq, List.cons.injEq, Prod.mk.injEq] at alike
  exact ⟨alike.1.2, alike.2.1.2⟩

end Json

namespace Span

/-- How spans are sent; they name no file. -/
def wireForm : WireForm Span where
  write := toJson
  read := decode
  InBounds := InBounds
  uris _ := []

theorem spelledBy_toJson (span : Span) : span.SpelledBy span.toJson :=
  .byName rfl rfl

theorem toJson_injective
    {first second : Span}
    (alike : first.toJson = second.toJson) :
    first = second := by
  obtain ⟨sameStart, sameStop⟩ := Json.object_pair_injective alike
  cases first
  cases second
  exact congr (congrArg mk (Json.natural_injective sameStart)) (Json.natural_injective sameStop)

theorem wireForm_roundTrips : wireForm.RoundTrips :=
  .of_spellings (fun _ _ _ => decode_eq_ok_iff) (fun _ span _ => span.spelledBy_toJson)
    fun _ _ => toJson_injective

end Span

namespace ChangeRange

/-- How changes are sent; they name no file either. -/
def wireForm : WireForm ChangeRange where
  write := toJson
  read := decode
  InBounds := InBounds
  uris _ := []

theorem spelledBy_toJson (change : ChangeRange) : change.SpelledBy change.toJson :=
  .byName rfl change.span.spelledBy_toJson rfl

theorem toJson_injective
    {first second : ChangeRange}
    (alike : first.toJson = second.toJson) :
    first = second := by
  obtain ⟨sameSpan, sameLength⟩ := Json.object_pair_injective alike
  cases first
  cases second
  exact congr (congrArg mk (Span.toJson_injective sameSpan)) (Json.natural_injective sameLength)

theorem wireForm_roundTrips : wireForm.RoundTrips :=
  .of_spellings (fun _ _ _ => decode_eq_ok_iff) (fun _ change _ => change.spelledBy_toJson)
    fun _ _ => toJson_injective

end ChangeRange

namespace ByteOrderMark

/-- How byte order marks are sent; there are only a few, so none is out of bounds. -/
def wireForm : WireForm ByteOrderMark where
  write := toJson
  read := decode
  InBounds _ := True
  uris _ := []

theorem toJson_injective
    {first second : ByteOrderMark}
    (alike : first.toJson = second.toJson) :
    first = second := by
  have sameName := Json.string.inj alike
  exact Option.some.inj (by rw [← ofName?_name first, sameName, ofName?_name])

theorem wireForm_roundTrips : wireForm.RoundTrips := by
  have reads
      (reading : Reading)
      (json : Json)
      (mark : ByteOrderMark) :
      wireForm.read reading json = .ok mark ↔
        wireForm.InBounds mark ∧ mark.SpelledBy reading json := by
    simp [wireForm, decode_eq_ok_iff]
  exact .of_spellings reads (fun _ _ _ => .name) fun _ _ => toJson_injective

end ByteOrderMark

namespace ChangeQuery

/-- How queries are sent; each names one file. -/
def wireForm : WireForm ChangeQuery where
  write := toJson
  read := decode
  InBounds := InBounds
  uris query := [query.uri]

theorem spelledBy_toJson
    {query : ChangeQuery}
    (stable : query.uri.IsStable) :
    query.SpelledBy query.toJson :=
  .byName rfl (Uri.spelledBy_toJson stable) rfl

theorem toJson_injective
    {first second : ChangeQuery}
    (alike : first.toJson = second.toJson) :
    first = second := by
  obtain ⟨sameUri, sameVersion⟩ := Json.object_pair_injective alike
  cases first
  cases second
  exact congr (congrArg mk (Uri.toJson_injective sameUri)) (Json.natural_injective sameVersion)

theorem wireForm_roundTrips : wireForm.RoundTrips :=
  .of_spellings (fun _ _ _ => decode_eq_ok_iff)
    (fun _ query stable => spelledBy_toJson (stable query.uri List.mem_cons_self))
    fun _ _ => toJson_injective

end ChangeQuery

namespace ChangeReport

/-- How reports are sent; they do not name the file that they are about. -/
def wireForm : WireForm ChangeReport where
  write := toJson
  read := decode
  InBounds := InBounds
  uris _ := []

theorem rangeSpelledBy_ofOption (range : Option ChangeRange) :
    RangeSpelledBy range (Json.ofOption ChangeRange.toJson range) := by
  cases range with
  | none => exact .unknown
  | some change => exact .known change.spelledBy_toJson

theorem ofOption_injective
    {first second : Option ChangeRange}
    (alike :
      Json.ofOption ChangeRange.toJson first = Json.ofOption ChangeRange.toJson second) :
    first = second := by
  cases first with
  | none =>
      cases second with
      | none => rfl
      | some change => cases alike
  | some change =>
      cases second with
      | none => cases alike
      | some other => exact congrArg some (ChangeRange.toJson_injective alike)

theorem spelledBy_toJson (report : ChangeReport) : report.SpelledBy report.toJson :=
  .byName rfl rfl (rangeSpelledBy_ofOption report.range)

theorem toJson_injective
    {first second : ChangeReport}
    (alike : first.toJson = second.toJson) :
    first = second := by
  obtain ⟨sameVersion, sameRange⟩ := Json.object_pair_injective alike
  cases first
  cases second
  exact congr (congrArg mk (Json.natural_injective sameVersion)) (ofOption_injective sameRange)

theorem wireForm_roundTrips : wireForm.RoundTrips :=
  .of_spellings (fun _ _ _ => decode_eq_ok_iff) (fun _ report _ => report.spelledBy_toJson)
    fun _ _ => toJson_injective

end ChangeReport

namespace FileOperation

/-- How operations are sent; each names the file that it is about. -/
def wireForm : WireForm FileOperation where
  write := toJson
  read := decode
  InBounds := InBounds
  uris operation := [operation.file]

theorem spelledBy_toJson
    {operation : FileOperation}
    (stable : operation.file.IsStable) :
    operation.SpelledBy operation.toJson := by
  have file := Uri.spelledBy_toJson stable
  cases operation with
  | opened => exact .byName rfl (.opened rfl file rfl rfl .name)
  | edited => exact .byName rfl (.edited rfl file rfl rfl rfl)
  | contentSet => exact .byName rfl (.contentSet rfl file rfl)
  | closed => exact .byName rfl (.closed rfl file)

theorem toJson_injective
    {first second : FileOperation}
    (alike : first.toJson = second.toJson) :
    first = second := by
  cases first <;> cases second <;>
    simp [toJson] at alike
  case opened.opened =>
    obtain ⟨sameFile, rfl, sameMark⟩ := alike
    rw [Uri.toJson_injective sameFile, ByteOrderMark.toJson_injective sameMark]
  case edited.edited =>
    obtain ⟨sameFile, sameStart, sameStop, rfl⟩ := alike
    rw [Uri.toJson_injective sameFile, Json.natural_injective sameStart,
      Json.natural_injective sameStop]
  case contentSet.contentSet =>
    obtain ⟨sameFile, rfl⟩ := alike
    rw [Uri.toJson_injective sameFile]
  case closed.closed =>
    rw [Uri.toJson_injective alike]

theorem wireForm_roundTrips : wireForm.RoundTrips :=
  .of_spellings (fun _ _ _ => decode_eq_ok_iff)
    (fun _ operation stable => spelledBy_toJson (stable operation.file List.mem_cons_self))
    fun _ _ => toJson_injective

end FileOperation

/-- Every kind of message that a host exchanges with the program makes its round trips. -/
theorem messages_roundTrip :
    FileOperation.wireForm.RoundTrips ∧
      ByteOrderMark.wireForm.RoundTrips ∧
      Span.wireForm.RoundTrips ∧
      ChangeRange.wireForm.RoundTrips ∧
      ChangeQuery.wireForm.RoundTrips ∧
      ChangeReport.wireForm.RoundTrips :=
  ⟨FileOperation.wireForm_roundTrips, ByteOrderMark.wireForm_roundTrips,
    Span.wireForm_roundTrips, ChangeRange.wireForm_roundTrips,
    ChangeQuery.wireForm_roundTrips, ChangeReport.wireForm_roundTrips⟩

/--
An opening that comes as an array, its URI in capitals and its mark as a member
of an object, and a report without a range.
-/
theorem messages_roundTrip_respelled :
    let opening : FileOperation := .opened .untitled "é" .utf8
    let spelling : Json :=
      .array
        [.string "open", .string "UNTITLED:1", .string "é", .object [("utf8", .object [])]]
    let report : ChangeReport := ⟨3, none⟩
    (FileOperation.decode .direct spelling = .ok opening ∧
      FileOperation.decode .direct opening.toJson = .ok opening) ∧
    ChangeReport.decode .direct (.object [("extra", .null), ("version", .natural 3)]) =
        .ok report ∧
      ChangeReport.decode .direct report.toJson = .ok report := by
  intro opening spelling report
  obtain ⟨operations, -, -, -, -, reports⟩ := messages_roundTrip
  have fileSpelled : Uri.untitled.SpelledBy (.string "UNTITLED:1") :=
    ⟨_, rfl, Uri.parse_eq_ok_iff.mpr (rfl : Uri.normalForm "UNTITLED:1" = .ok "untitled:1")⟩
  have fits : opening.InBounds := trivial
  have openingRead : FileOperation.decode .direct spelling = .ok opening :=
    FileOperation.decode_eq_ok_iff.mpr
      ⟨fits, .inOrder (.opened fileSpelled .emptiedMember)⟩
  have openingStable : FileOperation.wireForm.IsStable opening := by
    intro uri member
    rw [List.mem_singleton.mp member]
    exact (rfl : Uri.normalForm "untitled:1" = .ok "untitled:1")
  have reportStable : ChangeReport.wireForm.IsStable report :=
    fun _ member => absurd member List.not_mem_nil
  exact
    ⟨⟨openingRead,
        operations.settles .direct .direct spelling opening openingRead openingStable⟩,
      rfl, reports.readsBack .direct report ⟨by decide, by simp [report]⟩ reportStable⟩

end VersionedText
