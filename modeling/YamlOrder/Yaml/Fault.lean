import YamlOrder.Text.Basic

/-!
This module contains positions in a YAML stream and everything that can be wrong with one.
-/

namespace YamlOrder
namespace Yaml

/-- A position in a stream, counted in characters from 0. -/
structure Mark where
  index : Nat := 0
  line : Nat := 0
  column : Nat := 0
  deriving DecidableEq, Repr, Inhabited

/-- What is wrong with a stream. -/
inductive Problem where
  -- the bytes of the stream
  | invalidLeadingOctet
  | incompleteOctets
  | invalidTrailingOctet
  | invalidLength
  | invalidCharacter
  | incompleteUnit
  | unexpectedLowSurrogate
  | incompletePair
  | expectedLowSurrogate
  | controlCharacter
  -- its tokens
  | expectedColon
  | tooDeep
  | entryNotAllowed
  | keyNotAllowed
  | valueNotAllowed
  | noToken
  | unknownDirective
  | noDirectiveName
  | badDirectiveName
  | noCommentOrBreak
  | noVersionDot
  | longVersion
  | noVersion
  | noBlank
  | noBlankOrBreak
  | noAlphanumeric
  | noVerbatimEnd
  | noTagBang
  | noTagUri
  | noUriOctet
  | badUriLead
  | badUriTail
  | zeroIndent
  | tabInIndent
  | documentMarkerInQuotes
  | endInQuotes
  | unknownEscape
  | noHexDigit
  | badEscapeCode
  | tabViolatesIndent
  -- its structure
  | noStreamStart
  | noDocumentStart
  | duplicateVersion
  | incompatibleVersion
  | duplicateTagHandle
  | undefinedTagHandle
  | noNodeContent
  | noDash
  | noKey
  | noFlowSequenceEnd
  | noFlowMappingEnd
  deriving DecidableEq, Repr

def Problem.message : Problem → String
  | .invalidLeadingOctet => "invalid leading UTF-8 octet"
  | .incompleteOctets => "incomplete UTF-8 octet sequence"
  | .invalidTrailingOctet => "invalid trailing UTF-8 octet"
  | .invalidLength => "invalid length of a UTF-8 sequence"
  | .invalidCharacter => "invalid Unicode character"
  | .incompleteUnit => "incomplete UTF-16 character"
  | .unexpectedLowSurrogate => "unexpected low surrogate area"
  | .incompletePair => "incomplete UTF-16 surrogate pair"
  | .expectedLowSurrogate => "expected low surrogate area"
  | .controlCharacter => "control characters are not allowed"
  | .expectedColon => "could not find expected ':'"
  | .tooDeep => "exceeded max depth of 10000"
  | .entryNotAllowed => "block sequence entries are not allowed in this context"
  | .keyNotAllowed => "mapping keys are not allowed in this context"
  | .valueNotAllowed => "mapping values are not allowed in this context"
  | .noToken => "found character that cannot start any token"
  | .unknownDirective => "found unknown directive name"
  | .noDirectiveName => "could not find expected directive name"
  | .badDirectiveName => "found unexpected non-alphabetical character"
  | .noCommentOrBreak => "did not find expected comment or line break"
  | .noVersionDot => "did not find expected digit or '.' character"
  | .longVersion => "found extremely long version number"
  | .noVersion => "did not find expected version number"
  | .noBlank => "did not find expected whitespace"
  | .noBlankOrBreak => "did not find expected whitespace or line break"
  | .noAlphanumeric => "did not find expected alphabetic or numeric character"
  | .noVerbatimEnd => "did not find the expected '>'"
  | .noTagBang => "did not find expected '!'"
  | .noTagUri => "did not find expected tag URI"
  | .noUriOctet => "did not find URI escaped octet"
  | .badUriLead => "found an incorrect leading UTF-8 octet"
  | .badUriTail => "found an incorrect trailing UTF-8 octet"
  | .zeroIndent => "found an indentation indicator equal to 0"
  | .tabInIndent => "found a tab character where an indentation space is expected"
  | .documentMarkerInQuotes => "found unexpected document indicator"
  | .endInQuotes => "found unexpected end of stream"
  | .unknownEscape => "found unknown escape character"
  | .noHexDigit => "did not find expected hexdecimal number"
  | .badEscapeCode => "found invalid Unicode character escape code"
  | .tabViolatesIndent => "found a tab character that violates indentation"
  | .noStreamStart => "did not find expected <stream-start>"
  | .noDocumentStart => "did not find expected <document start>"
  | .duplicateVersion => "found duplicate %YAML directive"
  | .incompatibleVersion => "found incompatible YAML document"
  | .duplicateTagHandle => "found duplicate %TAG directive"
  | .undefinedTagHandle => "found undefined tag handle"
  | .noNodeContent => "did not find expected node content"
  | .noDash => "did not find expected '-' indicator"
  | .noKey => "did not find expected key"
  | .noFlowSequenceEnd => "did not find expected ',' or ']'"
  | .noFlowMappingEnd => "did not find expected ',' or '\x7d'"

/-- Why a stream cannot be read or written. -/
inductive Fault where
  /-- The stream breaks a rule, on a line if one is known. -/
  | problem (line : Option Nat) (problem : Problem)
  /-- An alias stands for nothing. -/
  | unknownAnchor (name : Text)
  /-- The events do not make up a document. -/
  | corrupted
  deriving DecidableEq, Repr

namespace Fault

/-- The number of a line, if it is not the first one. -/
def lineNumber (offset : Nat) (context position : Mark) : Option Nat :=
  if context.line != 0 then some (context.line + offset)
  else if position.line != 0 then some (position.line + offset)
  else none

/-- A fault of the bytes has no line. -/
def ofBytes (p : Problem) : Fault := .problem none p

/-- A fault of a token that started at `context`, found at `position`. -/
def ofToken (context position : Mark) (p : Problem) : Fault :=
  .problem (lineNumber 1 context position) p

/-- A fault of the structure, in a collection that started at `context`. -/
def ofStructure (context position : Mark) (p : Problem) : Fault :=
  .problem (lineNumber 0 context position) p

/-- The words for a fault. -/
def message : Fault → Text
  | .problem none p => Text.ofString "yaml: " ++ Text.ofString p.message
  | .problem (some n) p =>
    Text.ofString "yaml: line " ++ Text.ofNat n ++ ": " ++ Text.ofString p.message
  | .unknownAnchor name => Text.ofString "yaml: unknown anchor '" ++ name ++ "' referenced"
  | .corrupted => "yaml: attempted to go past the end of stream; corrupted value?"

end Fault
end Yaml
end YamlOrder
