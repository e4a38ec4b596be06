import LineScript.Text.Base64
import LineScript.Yaml.Number
import LineScript.Yaml.Stamp

/-!
# Kinds of values in documents
Of which kind a scalar is follows from its tag, and for a plain scalar without one from what it
looks like.
-/
namespace LineScript.Yaml

/-- The kinds of values. `merge` and `default` are those of keys with a meaning of their own. -/
inductive Kind where
  | null
  | bool
  | integer
  | float
  | text
  | stamp
  | bytes
  | merge
  | default
  | list
  | pairs
  | map
  | set
  | unknown
  deriving DecidableEq, Repr

/-- What the tags of the standard kinds begin with. -/
def standardBase : String := "tag:yaml.org,2002:"

/-- The kinds that tags name. -/
def Kind.tags : List (String × Kind) := [
  ("null", .null), ("bool", .bool), ("int", .integer), ("float", .float), ("str", .text),
  ("timestamp", .stamp), ("merge", .merge), ("value", .default), ("seq", .list), ("map", .map),
  ("binary", .bytes), ("set", .set), ("omap", .pairs), ("pairs", .pairs)]

def Kind.ofTag (tag : String) : Kind :=
  if standardBase.toList.isPrefixOf tag.toList then
    (Kind.tags.lookup (String.ofList (tag.toList.drop standardBase.length))).getD .unknown
  else .unknown

/-- The words for truth, and those for its opposite, in lower case. -/
def truthWords : List (String × Bool) := [
  ("yes", true), ("no", false), ("true", true), ("false", false), ("on", true), ("off", false)]

/-- The ways to write a word: in small letters, with a capital first, and in capitals. -/
def spellings (word : String) : List String := [word, word.capitalize, word.toUpper]

/-- The ways to write that there is no value. -/
def nullWords : List String := ["", "~"] ++ spellings "null"

/-- The kind of what a plain scalar looks like. -/
def Kind.ofPlain (text : String) : Kind :=
  let chars := text.toList
  if truthWords.any fun entry => (spellings entry.1).contains text then .bool
  else if looksFloat chars then .float
  else if looksInteger chars then .integer
  else if text = "<<" then .merge
  else if nullWords.contains text then .null
  else if (Stamp.read? chars).isSome then .stamp
  else if text = "=" then .default
  else .text

/-- The value of a scalar of a kind. -/
def Kind.scalar (kind : Kind) (text : String) : Except Defect Scalar :=
  match kind with
  | .null => .ok .null
  | .bool => match truthWords.lookup text.toLower with
    | some value => .ok (.bool value)
    | none => .error .malformed
  | .integer => .integer <$> readInteger text.toList
  | .float => .float <$> readFloat text.toList
  | .text => .ok (.text text)
  | .stamp => match Stamp.read? text.toList with
    | some written => match written.scalar with
      | .ok scalar => .ok scalar
      | .error misfit => .error (.worthless (.value (.calendar misfit)))
    | none => .error .malformed
  | .bytes =>
    if text.toList.all fun c => c.toNat < 0x80 then
      match Text.Base64.decode? text.toList with
      | some written => .ok (.bytes written)
      | none => .error .malformed
    else .error .malformed
  | .merge => .error .malformed
  | .default => .error .malformed
  | .list => .error .malformed
  | .pairs => .error .malformed
  | .map => .error .malformed
  | .set => .error .malformed
  | .unknown => .error .malformed

end LineScript.Yaml
