namespace VersionedText.Uri

/-!
# Texts that are no URIs

Why a text cannot be read as a URI, and how that is told.
-/

/-- Why a text is no URI. -/
inductive ParseError where
  /-- There is no scheme, so the text could only be read relative to another URI. -/
  | noScheme
  /-- A host is needed and there is none. -/
  | emptyHost
  /-- A domain name that cannot be brought into its plain form. -/
  | invalidDomain
  /-- A character that no host may hold. -/
  | invalidHostCharacter
  | invalidPort
  | invalidIpv4
  | invalidIpv6
  deriving Repr, DecidableEq

namespace ParseError

/-- The wording of an error. -/
def message : ParseError → String
  | .noScheme => "relative URL without a base"
  | .emptyHost => "empty host"
  | .invalidDomain => "invalid international domain name"
  | .invalidHostCharacter => "invalid domain character"
  | .invalidPort => "invalid port number"
  | .invalidIpv4 => "invalid IPv4 address"
  | .invalidIpv6 => "invalid IPv6 address"

end ParseError

end VersionedText.Uri
