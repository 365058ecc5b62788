import VersionedText.Hexadecimal

namespace VersionedText.Percent

/-!
# Percent encoding

Bytes that may not stand for themselves in a URI are written as a percent sign
and two upper-case hexadecimal digits.  Encoding leaves existing percent signs
alone, so encoding what is already encoded changes nothing.
-/

/-- The written form of one byte. -/
def encodeByte (byte : UInt8) : List Char :=
  ['%', Hexadecimal.digit (byte.toNat / 16), Hexadecimal.digit (byte.toNat % 16)]

/-- Control characters and everything outside ASCII, which no part of a URI may hold. -/
def isControlOrWide (character : Char) : Bool :=
  character.toNat < 0x20 || 0x7E < character.toNat

/-- Characters that a fragment has to encode. -/
def needsEncodingInFragment (character : Char) : Bool :=
  isControlOrWide character || [' ', '\x22', '<', '>', '\x60'].contains character

/-- Characters that a query has to encode; special schemes also encode the apostrophe. -/
def needsEncodingInQuery (isSpecial : Bool) (character : Char) : Bool :=
  isControlOrWide character || [' ', '\x22', '#', '<', '>'].contains character ||
    (isSpecial && character == '\x27')

/-- Characters that a path segment has to encode. -/
def needsEncodingInPath (character : Char) : Bool :=
  needsEncodingInFragment character || ['#', '?', '\x7b', '\x7d'].contains character

/-- Characters that a user name or a password has to encode. -/
def needsEncodingInUser (character : Char) : Bool :=
  needsEncodingInPath character ||
    ['/', ':', ';', '=', '@', '[', '\\', ']', '^', '|'].contains character

/-- Encode the characters that the given class singles out, byte by byte. -/
def encode (needsEncoding : Char → Bool) (text : List Char) : List Char :=
  text.flatMap fun character =>
    if needsEncoding character then
      (String.utf8EncodeChar character).flatMap encodeByte
    else
      [character]

/-- Bytes of a text in which every well-formed percent triple stands for its byte. -/
def decode : List Char → List UInt8
  | [] => []
  | '%' :: high :: low :: rest =>
      match Hexadecimal.value? high, Hexadecimal.value? low with
      | some upper, some lower => UInt8.ofNat (16 * upper + lower) :: decode rest
      | _, _ => String.utf8EncodeChar '%' ++ decode (high :: low :: rest)
  | character :: rest => String.utf8EncodeChar character ++ decode rest

/-- The text of some bytes, if they are a text. -/
def textOfBytes? (bytes : List UInt8) : Option String :=
  String.fromUTF8? ⟨bytes.toArray⟩

end VersionedText.Percent
