namespace VersionedText.Uri

/-!
# Cutting texts

The parts of a URI are told apart by separators.
-/

/-- The text up to a separator, and the text from the separator on. -/
def cutBefore (isSeparator : Char → Bool) (text : List Char) : List Char × List Char :=
  (text.takeWhile (!isSeparator ·), text.dropWhile (!isSeparator ·))

/-- Cut a text at every separator. -/
def pieces (isSeparator : Char → Bool) : List Char → List (List Char)
  | [] => [[]]
  | character :: rest =>
      if isSeparator character then
        [] :: pieces isSeparator rest
      else
        match pieces isSeparator rest with
        | [] => [[character]]
        | piece :: more => (character :: piece) :: more

end VersionedText.Uri
