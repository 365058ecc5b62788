import VersionedText.Json.Record

namespace VersionedText.Json

/-!
# Which values a decoder reads

For every way to put decoders together it is said which values the whole reads,
and as what, in terms of what the parts read.  Nothing is said of the errors, so
the order in which faults are found does not matter here.
-/

theorem mapError_eq_ok_iff
    {outcome : Except ε α}
    {function : ε → ε'}
    {value : α} :
    outcome.mapError function = .ok value ↔ outcome = .ok value := by
  constructor
  · intro mapped
    cases outcome with
    | error problem =>
        cases mapped
    | ok inner =>
        cases mapped
        rfl
  · rintro rfl
    rfl

theorem map_eq_ok_iff
    {outcome : Except ε α}
    {function : α → β}
    {value : β} :
    outcome.map function = .ok value ↔ ∃ inner, outcome = .ok inner ∧ function inner = value := by
  cases outcome <;> simp [Except.map]

theorem bind_eq_ok_iff
    {outcome : Except ε α}
    {next : α → Except ε β}
    {value : β} :
    (outcome >>= next) = .ok value ↔ ∃ inner, outcome = .ok inner ∧ next inner = .ok value := by
  cases outcome <;> simp [bind, Except.bind]

theorem mem_of_lookup_eq_some
    {entries : List (String × α)}
    {name : String}
    {value : α}
    (found : entries.lookup name = some value) :
    (name, value) ∈ entries := by
  obtain ⟨before, behind, shape, -⟩ := List.lookup_eq_some_iff.mp found
  simp [shape]

namespace Decoder

variable {reading : Reading} {json : Json}

theorem naturalBelow_eq_ok_iff
    {bound value : Nat}
    {title : String} :
    naturalBelow bound title reading json = .ok value ↔ json = natural value ∧ value < bound := by
  constructor
  · intro read
    unfold naturalBelow at read
    split at read
    · split at read
      · rename_i small
        cases read
        exact ⟨rfl, small⟩
      · cases read
    · cases read
    · cases read
  · rintro ⟨rfl, small⟩
    exact naturalBelow_natural title reading small

theorem string_eq_ok_iff {text : String} : string reading json = .ok text ↔ json = .string text := by
  cases json <;> simp [string]

theorem nullable_eq_ok_iff
    {decoder : Decoder α}
    {value : Option α} :
    decoder.nullable reading json = .ok value ↔
      json = .null ∧ value = none ∨
        json ≠ .null ∧ ∃ inner, decoder reading json = .ok inner ∧ some inner = value := by
  cases json <;> simp [nullable, map_eq_ok_iff, eq_comm (a := none)]

theorem nameIn_eq_ok_iff
    {names : List (String × α)}
    {name : String}
    {value : α} :
    nameIn names name = .ok value ↔ names.lookup name = some value := by
  cases found : names.lookup name <;> simp [nameIn, found]

theorem nothing_eq_ok_iff :
    nothing reading json = .ok () ↔
      json = .null ∨ reading = .deferred ∧ json = .object [] := by
  unfold nothing
  split <;> simp_all

/-- A name is read as itself, or as the only member of an object, with nothing under it. -/
theorem named_eq_ok_iff
    {names : List (String × α)}
    {value : α} :
    named names reading json = .ok value ↔
      ∃ name,
        names.lookup name = some value ∧
          (json = .string name ∨
            ∃ inner, json = .object [(name, inner)] ∧ nothing reading inner = .ok ()) := by
  unfold named
  split
  · simp [nameIn_eq_ok_iff]
  · rename_i name inner
    simp only [bind_eq_ok_iff, nameIn_eq_ok_iff]
    constructor
    · rintro ⟨found, known, ⟨⟩, isNothing, ⟨⟩⟩
      exact ⟨name, known, .inr ⟨inner, rfl, isNothing⟩⟩
    · rintro ⟨other, known, ⟨⟨⟩⟩ | ⟨_, ⟨⟩, isNothing⟩⟩
      exact ⟨value, known, (), isNothing, rfl⟩
  · simp_all
  · simp_all

end Decoder

namespace Fields

variable
  {reading : Reading}
  {members : List (String × Json)}
  {items rest : List Json}
  {read : Nat}
  {name : String}

theorem atMember_eq_ok_iff
    {decoder : Decoder α}
    {absent : Except Fault α}
    {value : α} :
    atMember decoder reading members name absent = .ok value ↔
      members.lookup name = .none ∧ absent = .ok value ∨
        ∃ json, members.lookup name = some json ∧ decoder reading json = .ok value := by
  cases found : members.lookup name <;> simp [atMember, found, mapError_eq_ok_iff]

theorem required_ofMembers_eq_ok_iff
    {decoder : Decoder α}
    {value : α} :
    (required name decoder).ofMembers reading members = .ok value ↔
      ∃ json, members.lookup name = some json ∧ decoder reading json = .ok value :=
  atMember_eq_ok_iff.trans (by simp)

theorem optional_ofMembers_eq_ok_iff
    {decoder : Decoder α}
    {value : Option α} :
    (optional name decoder).ofMembers reading members = .ok value ↔
      members.lookup name = .none ∧ .none = value ∨
        ∃ json, members.lookup name = some json ∧ decoder.nullable reading json = .ok value :=
  atMember_eq_ok_iff.trans (by simp)

theorem withDefault_ofMembers_eq_ok_iff
    {decoder : Decoder α}
    {default value : α} :
    (withDefault name default decoder).ofMembers reading members = .ok value ↔
      members.lookup name = .none ∧ default = value ∨
        ∃ json, members.lookup name = some json ∧ decoder reading json = .ok value :=
  atMember_eq_ok_iff.trans (by simp)

theorem both_ofMembers_eq_ok_iff
    {first : Fields α}
    {second : Fields β}
    {values : α × β} :
    (first.both second).ofMembers reading members = .ok values ↔
      first.ofMembers reading members = .ok values.1 ∧
        second.ofMembers reading members = .ok values.2 := by
  cases firstRead : first.ofMembers reading members <;>
    cases secondRead : second.ofMembers reading members <;>
      simp [both, firstRead, secondRead, Prod.ext_iff]

theorem map_ofMembers_eq_ok_iff
    {fields : Fields α}
    {function : α → β}
    {value : β} :
    (fields.map function).ofMembers reading members = .ok value ↔
      ∃ inner, fields.ofMembers reading members = .ok inner ∧ function inner = value :=
  map_eq_ok_iff

theorem atItem_eq_ok_iff
    {decoder : Decoder α}
    {absent : Except ItemFault α}
    {value : α} :
    atItem decoder reading absent items = .ok (value, rest) ↔
      items = [] ∧ absent = .ok value ∧ rest = [] ∨
        ∃ json, items = json :: rest ∧ decoder reading json = .ok value := by
  cases items with
  | nil =>
      rw [atItem, map_eq_ok_iff]
      constructor
      · rintro ⟨inner, absentRead, ⟨⟩⟩
        exact .inl ⟨rfl, absentRead, rfl⟩
      · rintro (⟨-, absentRead, rfl⟩ | ⟨json, ⟨⟩, -⟩)
        exact ⟨value, absentRead, rfl⟩
  | cons item later =>
      simp only [atItem, map_eq_ok_iff, mapError_eq_ok_iff]
      constructor
      · rintro ⟨inner, itemRead, ⟨⟩⟩
        exact .inr ⟨item, rfl, itemRead⟩
      · rintro (⟨⟨⟩, -⟩ | ⟨json, ⟨⟩, itemRead⟩)
        exact ⟨value, itemRead, rfl⟩

theorem required_ofItems_eq_ok_iff
    {decoder : Decoder α}
    {value : α} :
    (required name decoder).ofItems reading read items = .ok (value, rest) ↔
      ∃ json, items = json :: rest ∧ decoder reading json = .ok value :=
  atItem_eq_ok_iff.trans (by simp)

theorem optional_ofItems_eq_ok_iff
    {decoder : Decoder α}
    {value : Option α} :
    (optional name decoder).ofItems reading read items = .ok (value, rest) ↔
      ∃ json, items = json :: rest ∧ decoder.nullable reading json = .ok value :=
  atItem_eq_ok_iff.trans (by simp)

theorem withDefault_ofItems_eq_ok_iff
    {decoder : Decoder α}
    {default value : α} :
    (withDefault name default decoder).ofItems reading read items = .ok (value, rest) ↔
      items = [] ∧ default = value ∧ rest = [] ∨
        ∃ json, items = json :: rest ∧ decoder reading json = .ok value :=
  atItem_eq_ok_iff.trans (by simp)

theorem both_ofItems_eq_ok_iff
    {first : Fields α}
    {second : Fields β}
    {values : α × β} :
    (first.both second).ofItems reading read items = .ok (values, rest) ↔
      ∃ between,
        first.ofItems reading read items = .ok (values.1, between) ∧
          second.ofItems reading (read + first.count) between = .ok (values.2, rest) := by
  simp only [both, bind_eq_ok_iff]
  constructor
  · rintro ⟨⟨value, between⟩, firstRead, ⟨value', left⟩, secondRead, ⟨⟩⟩
    exact ⟨between, firstRead, secondRead⟩
  · rintro ⟨between, firstRead, secondRead⟩
    exact ⟨(values.1, between), firstRead, (values.2, rest), secondRead, rfl⟩

theorem map_ofItems_eq_ok_iff
    {fields : Fields α}
    {function : α → β}
    {value : β} :
    (fields.map function).ofItems reading read items = .ok (value, rest) ↔
      ∃ inner, fields.ofItems reading read items = .ok (inner, rest) ∧ function inner = value := by
  simp only [map, map_eq_ok_iff]
  constructor
  · rintro ⟨⟨inner, left⟩, itemsRead, ⟨⟩⟩
    exact ⟨inner, itemsRead, rfl⟩
  · rintro ⟨inner, itemsRead, rfl⟩
    exact ⟨(inner, rest), itemsRead, rfl⟩

end Fields

namespace Decoder

variable {reading : Reading} {json : Json}

/-- A record is read from the members of an object, or from an array that its fields use up. -/
theorem record_eq_ok_iff
    {title : String}
    {fields : Fields α}
    {value : α} :
    record title fields reading json = .ok value ↔
      (∃ members, json = .object members ∧ fields.ofMembers reading members = .ok value) ∨
        ∃ items, json = .array items ∧ fields.ofItems reading 0 items = .ok (value, []) := by
  cases json with
  | object members =>
      simp [record, mapError_eq_ok_iff]
  | array items =>
      simp only [record]
      split <;> simp_all
  | _ =>
      simp [record]

/-- A record of two fields is an object with members for both, or an array of the two. -/
theorem record_pair_eq_ok_iff
    {title name name' : String}
    {first : Decoder α}
    {second : Decoder β}
    {make : α × β → γ}
    {value : γ} :
    record title (.map make (.both (.required name first) (.required name' second)))
          reading json =
        .ok value ↔
      ∃ inner inner' part part',
        make (inner, inner') = value ∧
          first reading part = .ok inner ∧
          second reading part' = .ok inner' ∧
          ((∃ members,
              json = .object members ∧
                members.lookup name = some part ∧
                members.lookup name' = some part') ∨
            json = .array [part, part']) := by
  simp only [record_eq_ok_iff, Fields.map_ofMembers_eq_ok_iff, Fields.both_ofMembers_eq_ok_iff,
    Fields.required_ofMembers_eq_ok_iff, Fields.map_ofItems_eq_ok_iff,
    Fields.both_ofItems_eq_ok_iff, Fields.required_ofItems_eq_ok_iff]
  constructor
  · rintro (⟨members, rfl, ⟨inner, inner'⟩, ⟨⟨part, found, read⟩, part', found', read'⟩, made⟩ |
      ⟨_, rfl, ⟨inner, inner'⟩, ⟨_, ⟨part, rfl, read⟩, part', rfl, read'⟩, made⟩)
    · exact ⟨inner, inner', part, part', made, read, read', .inl ⟨members, rfl, found, found'⟩⟩
    · exact ⟨inner, inner', part, part', made, read, read', .inr rfl⟩
  · rintro ⟨inner, inner', part, part', made, read, read', ⟨members, rfl, found, found'⟩ | rfl⟩
    · exact .inl ⟨members, rfl, (inner, inner'), ⟨⟨part, found, read⟩, part', found', read'⟩, made⟩
    · exact .inr ⟨_, rfl, (inner, inner'), ⟨_, ⟨part, rfl, read⟩, part', rfl, read'⟩, made⟩

theorem formName_eq_ok_iff
    {forms : List (String × α)}
    {value : α} :
    formName forms json = .ok value ↔
      ∃ name, json = .string name ∧ forms.lookup name = some value := by
  cases json <;> simp [formName, nameIn_eq_ok_iff]

/-- A record of one of several forms is read deferred, once its form is known. -/
theorem tagged_eq_ok_iff
    {title tag : String}
    {forms : List (String × Decoder α)}
    {value : α} :
    tagged title tag forms reading json = .ok value ↔
      ∃ name form,
        forms.lookup name = some form ∧
          ((∃ members,
              json = .object members ∧
                members.lookup tag = some (.string name) ∧
                form .deferred (.object members) = .ok value) ∨
            ∃ items,
              json = .array (.string name :: items) ∧
                form .deferred (.array items) = .ok value) := by
  constructor
  · intro tagRead
    unfold tagged at tagRead
    split at tagRead
    · rename_i members
      split at tagRead
      · rename_i named found
        obtain ⟨form, formRead, valueRead⟩ := bind_eq_ok_iff.mp tagRead
        obtain ⟨name, rfl, known⟩ := formName_eq_ok_iff.mp formRead
        exact ⟨name, form, known, .inl ⟨members, rfl, found, valueRead⟩⟩
      · cases tagRead
    · cases tagRead
    · rename_i named items
      obtain ⟨form, formRead, valueRead⟩ := bind_eq_ok_iff.mp tagRead
      obtain ⟨name, rfl, known⟩ := formName_eq_ok_iff.mp formRead
      exact ⟨name, form, known, .inr ⟨items, rfl, valueRead⟩⟩
    · cases tagRead
  · rintro ⟨name, form, known, ⟨members, rfl, found, valueRead⟩ | ⟨items, rfl, valueRead⟩⟩
    · simp only [tagged, found]
      exact bind_eq_ok_iff.mpr ⟨form, formName_eq_ok_iff.mpr ⟨name, rfl, known⟩, valueRead⟩
    · exact bind_eq_ok_iff.mpr ⟨form, formName_eq_ok_iff.mpr ⟨name, rfl, known⟩, valueRead⟩

end Decoder

end VersionedText.Json
