/-!
# Tokens of YAML streams

The marks and texts that a stream is made of. Indentation appears as tokens that start and end
block collections.
-/

namespace MeshRoutes.Yaml

/-- How a text is written: without quotes, so that its value may be another than a text, or in
quotes or as a block. -/
inductive Style where
  | plain
  | quoted
deriving DecidableEq, Repr

/-- A mark or a text of a stream. The version of the syntax and the meaning of tag handles are given
by directives in front of a document. Block collections are indented, and flow collections stand
between brackets or braces. A tag is a handle and what stands behind it. -/
inductive Token where
  | streamEnd
  | version (major minor : Nat)
  | tagHandle (handle meaning : String)
  | documentStart
  | documentEnd
  | blockSequenceStart
  | blockMappingStart
  | blockEnd
  | flowSequenceStart
  | flowSequenceEnd
  | flowMappingStart
  | flowMappingEnd
  | blockEntry
  | flowEntry
  | key
  | value
  | alias (name : String)
  | anchor (name : String)
  | tag (handle suffix : String)
  | scalar (text : String) (style : Style)
deriving DecidableEq, Repr

end MeshRoutes.Yaml
