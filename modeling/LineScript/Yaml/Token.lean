import LineScript.Platform

/-!
# Tokens of documents
What a document is made of: the marks that open, close and separate its parts, and the scalars,
names and tags between them. A document that cannot be read any further ends in a broken token.
-/
namespace LineScript.Yaml

/-- Why a document cannot be read. -/
abbrev Defect := DocumentDefect

/-- What stands behind a percent sign in front of a document. -/
inductive Directive where
  | version (major : Nat)
  | handle (name base : String)
  | other

/-- A token. -/
inductive Token where
  | streamEnd
  | directive (directive : Directive)
  | documentStart
  | documentEnd
  | blockList
  | blockMap
  | blockEnd
  | openList
  | closeList
  | openMap
  | closeMap
  | entry
  | item
  | key
  | value
  | link (name : String)
  | anchor (name : String)
  | tag (handle : Option String) (suffix : String)
  | scalar (isPlain : Bool) (text : String)
  | broken (defect : Defect)

end LineScript.Yaml
