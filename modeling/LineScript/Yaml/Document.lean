import LineScript.Yaml.Node
import LineScript.Yaml.Tokens

/-!
# Documents
The value that a document holds. In a map the key `<<` takes over the entries of another map, or of
several, in front of its own; later entries win over earlier ones, and of several maps that are
taken over the earlier one wins.
-/
namespace LineScript.Yaml

/-- An entry of a map before the map is made: a scalar key with its value, or what is taken over. -/
inductive Part where
  | entry (key : Scalar) (value : Value)
  | taken (entries : List (Scalar × Value))

def entriesOfParts (parts : List Part) : List (Scalar × Value) :=
  let front := parts.flatMap fun
    | .taken entries => entries
    | .entry _ _ => []
  let own := parts.filterMap fun
    | .entry key value => some (key, value)
    | .taken _ => none
  (front ++ own).foldl (fun entries entry => Value.putEntry entry.1 entry.2 entries) []

mutual

/-- The value of a node. -/
def Node.value : Node → Except Defect Value
  | .scalar kind text => .scalar <$> kind.scalar text
  | .list kind items =>
    if kind = .list then .list <$> values items
    else if kind = .pairs then .list <$> pairs items
    else .error .malformed
  | .map kind entries =>
    if kind = .map then do return .map (entriesOfParts (← parts entries))
    else if kind = .set then do return .set ((entriesOfParts (← parts entries)).map (·.1))
    else .error .malformed
  | .again isMap => .ok (.again isMap)

/-- The entries that a node gives to the map that takes it over, whatever kind its tag asks for. -/
def taken : Node → Except Defect (List (Scalar × Value))
  | .map _ entries => entriesOfParts <$> parts entries
  | .list _ items => do return (← takenAll items).reverse.flatten
  | .scalar _ _ => .error .malformed
  | .again _ => .error .malformed

/-- The entries of several maps that are taken over. -/
def takenAll : List Node → Except Defect (List (List (Scalar × Value)))
  | [] => .ok []
  | .map _ entries :: rest => do
    let first := entriesOfParts (← parts entries)
    return first :: (← takenAll rest)
  | _ :: _ => .error .malformed

def values : List Node → Except Defect (List Value)
  | [] => .ok []
  | node :: rest => do
    let value ← node.value
    return value :: (← values rest)

/-- The pairs that maps of one entry each make. -/
def pairs : List Node → Except Defect (List Value)
  | [] => .ok []
  | .map _ [(key, value)] :: rest => do
    let first ← key.value
    let second ← value.value
    return .pair first second :: (← pairs rest)
  | _ :: _ => .error .malformed

/-- The parts of a map in order. Only scalars can be keys. -/
def parts : List (Node × Node) → Except Defect (List Part)
  | [] => .ok []
  | (.scalar kind text, node) :: rest => do
    let part ←
      if kind = .merge then .taken <$> taken node
      else do
        let key ← if kind = .default then pure (.text text) else kind.scalar text
        pure (.entry key (← node.value))
    return part :: (← parts rest)
  | (.list _ _, _) :: _ => .error .malformed
  | (.map _ _, _) :: _ => .error .malformed
  | (.again _, _) :: _ => .error .malformed

end

/-- The value that a document holds; an empty document holds none. -/
def read (text : List Char) : Except Defect (Option Value) := do
  if text.all isAllowed then
    match ← Node.ofTokens (tokens text) with
    | some node => some <$> node.value
    | none => return none
  else throw .malformed

end LineScript.Yaml
