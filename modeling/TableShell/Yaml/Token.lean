/-!
# YAML tokens

The words and the punctuation of a YAML text, with the starts and ends of the collections that only
indentation marks.
-/

namespace TableShell.Yaml

inductive Tag where
  | verbatim (uri : List Char)
  | shorthand (handle suffix : List Char)
  deriving DecidableEq, Repr

/-- A scalar without its properties. Only of plain ones can the text stand for an absent value. -/
structure Scalar where
  isPlain : Bool
  text : List Char
  deriving DecidableEq, Repr

inductive Token where
  | versionDirective (major minor : Nat)
  | tagDirective (handle uri : List Char)
  | documentStart
  | documentEnd
  | blockSequenceStart
  | blockMappingStart
  | blockEnd
  | flowSequenceStart
  | flowSequenceEnd
  | flowMappingStart
  | flowMappingEnd
  | blockEntry
  | flowEntry
  | key
  | value
  | alias (name : List Char)
  | anchor (name : List Char)
  | tag (tag : Tag)
  | scalar (scalar : Scalar)
  deriving DecidableEq, Repr

end TableShell.Yaml
