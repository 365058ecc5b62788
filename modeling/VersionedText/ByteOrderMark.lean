namespace VersionedText

/-!
# Byte order marks

The mark that a host found at the front of a file.  It is carried along with the
document and never becomes part of its text.
-/

/-- The byte order mark of a file. -/
inductive ByteOrderMark where
  | absent
  | utf8
  | utf16BigEndian
  | utf16LittleEndian
  deriving Repr, DecidableEq, Inhabited

namespace ByteOrderMark

/-- All marks. -/
def all : List ByteOrderMark :=
  [.absent, .utf8, .utf16BigEndian, .utf16LittleEndian]

/-- The written name of a mark. -/
def name : ByteOrderMark → String
  | .absent => "none"
  | .utf8 => "utf8"
  | .utf16BigEndian => "utf16BigEndian"
  | .utf16LittleEndian => "utf16LittleEndian"

/-- The mark of a written name. -/
def ofName? (name : String) : Option ByteOrderMark :=
  all.find? fun mark => mark.name == name

/-- Names identify marks. -/
theorem ofName?_name (mark : ByteOrderMark) : ofName? mark.name = some mark := by
  cases mark <;> decide

end ByteOrderMark

end VersionedText
