import LineScript.Yaml.Kind
import LineScript.Yaml.Token

/-!
# The nodes of a document
A document is a tree of scalars, lists and maps. A link stands for the node with its anchor; inside
of that node itself it only says that the node is met again.
-/
namespace LineScript.Yaml

/-- A node: what it is and of which kind it is to be. -/
inductive Node where
  | scalar (kind : Kind) (text : String)
  | list (kind : Kind) (items : List Node)
  | map (kind : Kind) (entries : List (Node × Node))
  | again (isMap : Bool)

/-- A node that has an anchor: itself, or whether it is a map while it is still open. -/
inductive Anchored where
  | closed (node : Node)
  | opened (isMap : Bool)

/-- What is known while a tree is put together. -/
structure Composing where
  tokens : List Token
  /-- What the handles of tags stand for. -/
  handles : List (String × String)
  anchors : List (String × Anchored)

/-- A step of putting a tree together. -/
abbrev Compose := StateT Composing (Except Defect)

/-- The handles that need no directive. -/
def standardHandles : List (String × String) := [("!", "!"), ("!!", standardBase)]

/-- The null that stands where nothing does. -/
def Node.nothing : Node := .scalar .null ""

/-- Anchor and tag of a node. -/
structure Properties where
  anchor : Option String
  tag : Option String

/-- The kind of a collection; only a tag can make it another one than it looks. -/
def Properties.kind (properties : Properties) (kind : Kind) : Kind :=
  match properties.tag with
  | none => kind
  | some "!" => kind
  | some tag => .ofTag tag

/-- The kind of a scalar. The lone exclamation mark has it looked at like a plain one. -/
def Properties.scalarKind (properties : Properties) (isPlain : Bool) (text : String) : Kind :=
  match properties.tag with
  | none => if isPlain then .ofPlain text else .text
  | some "!" => .ofPlain text
  | some tag => .ofTag tag

namespace Compose

/-- The next token; behind the last one nothing can be read. -/
def peek : Compose Token := do
  match (← get).tokens with
  | [] => return .broken .malformed
  | token :: _ => return token

def skip : Compose Unit :=
  modify fun composing => { composing with tokens := composing.tokens.tail }

def fail {α : Type} : Compose α := do
  match ← peek with
  | .broken defect => throw defect
  | _ => throw .malformed

/-- Notes the node of an anchor. -/
def note (anchor : Option String) (anchored : Anchored) : Compose Unit :=
  match anchor with
  | none => return
  | some name =>
    modify fun composing => { composing with anchors := (name, anchored) :: composing.anchors }

/-- The text of a tag whose handle is replaced by what it stands for. -/
def tagText (handle : Option String) (suffix : String) : Compose String := do
  match handle with
  | none => return suffix
  | some handle => match (← get).handles.lookup handle with
    | some base => return base ++ suffix
    | none => fail

def anchor? : Compose (Option String) := do
  match ← peek with
  | .anchor name => skip; return some name
  | _ => return none

def tag? : Compose (Option (Option String × String)) := do
  match ← peek with
  | .tag handle suffix => skip; return some (handle, suffix)
  | _ => return none

/-- Anchor and tag at the front, in any order. An anchor can be given once only. -/
def properties : Compose Properties := do
  let anchor ← anchor?
  let tag ← tag?
  let anchor ← if anchor.isNone && tag.isSome then anchor? else pure anchor
  let tag ← tag.mapM fun tag => tagText tag.1 tag.2
  match anchor with
  | some name => if ((← get).anchors.lookup name).isSome then fail
  | none => pure ()
  return ⟨anchor, tag⟩

/-- The node that a link stands for. -/
def linked (name : String) : Compose Node := do
  match (← get).anchors.lookup name with
  | some (.closed node) => return node
  | some (.opened isMap) => return .again isMap
  | none => throw .malformed

/-- Where a node stands: only outside brackets it may be a block, and behind a key also a list
whose items are not indented. -/
structure Place where
  allowsBlock : Bool
  allowsItems : Bool

/-- Behind a dash, or at the top. -/
def Place.block : Place := ⟨true, false⟩

/-- Behind the mark of a key or a value in a block. -/
def Place.keyed : Place := ⟨true, true⟩

/-- Between brackets. -/
def Place.flow : Place := ⟨false, false⟩

/-- A node that is complete. -/
def closed (properties : Properties) (node : Node) : Compose Node := do
  note properties.anchor (.closed node)
  return node

/-- A list, given how its items are read. -/
def listOf (properties : Properties) (items : Compose (List Node)) : Compose Node := do
  note properties.anchor (.opened false)
  closed properties (.list (properties.kind .list) (← items))

/-- A map, given how its entries are read. -/
def mapOf (properties : Properties) (entries : Compose (List (Node × Node))) : Compose Node := do
  note properties.anchor (.opened true)
  closed properties (.map (properties.kind .map) (← entries))

/-- A scalar that is left out: it must at least have an anchor or a tag. -/
def leftOut (properties : Properties) : Compose Node :=
  if properties.anchor.isNone && properties.tag.isNone then fail
  else closed properties (.scalar (properties.scalarKind true "") "")

/-- What a reader makes of the front, or nothing in front of a token that ends the place. -/
def slot (ends : Token → Bool) (read : Compose Node) : Compose Node := do
  if ends (← peek) then return .nothing else read

/-- Takes the mark of a value and reads the value; without the mark there is nothing. -/
def valueSlot (ends : Token → Bool) (read : Compose Node) : Compose Node := do
  match ← peek with
  | .value => skip; slot ends read
  | _ => return .nothing

/-- Takes the comma between two parts; in front of the first part there is none. -/
def separator (isFirst : Bool) : Compose Unit := do
  if isFirst then return
  else match ← peek with
    | .entry => skip
    | _ => fail

/-- The token begins the next item of a block, or ends it. -/
def endsItem : Token → Bool
  | .item => true
  | .blockEnd => true
  | _ => false

/-- The token begins the next key or value of a block, or ends it. -/
def endsKeyed : Token → Bool
  | .key => true
  | .value => true
  | .blockEnd => true
  | _ => false

/-- The token ends an item behind a key that is not indented. -/
def endsLoose (token : Token) : Bool := endsItem token || endsKeyed token

def endsFlow : Token → Bool
  | .entry => true
  | .closeList => true
  | .closeMap => true
  | _ => false

def endsFlowKey : Token → Bool
  | .value => true
  | token => endsFlow token

mutual

def node (place : Place) : Nat → Compose Node
  | 0 => fail
  | fuel + 1 => do
    match ← peek with
    | .link name =>
      skip
      linked name
    | _ =>
      let properties ← properties
      match ← peek with
      | .scalar isPlain text =>
        skip
        closed properties (.scalar (properties.scalarKind isPlain text) text)
      | .openList =>
        skip
        listOf properties (flowItems true fuel)
      | .openMap =>
        skip
        mapOf properties (flowEntries true fuel)
      | .item =>
        if place.allowsItems then listOf properties (looseItems fuel) else leftOut properties
      | .blockList =>
        if place.allowsBlock then
          skip
          listOf properties (blockItems fuel)
        else leftOut properties
      | .blockMap =>
        if place.allowsBlock then
          skip
          mapOf properties (blockEntries fuel)
        else leftOut properties
      | _ => leftOut properties
termination_by structural fuel => fuel

def blockItems : Nat → Compose (List Node)
  | 0 => fail
  | fuel + 1 => do
    match ← peek with
    | .item =>
      skip
      let item ← slot endsItem (node .block fuel)
      return item :: (← blockItems fuel)
    | .blockEnd =>
      skip
      return []
    | _ => fail
termination_by structural fuel => fuel

/-- The items behind a key that are not indented. -/
def looseItems : Nat → Compose (List Node)
  | 0 => fail
  | fuel + 1 => do
    match ← peek with
    | .item =>
      skip
      let item ← slot endsLoose (node .block fuel)
      return item :: (← looseItems fuel)
    | _ => return []
termination_by structural fuel => fuel

def blockEntries : Nat → Compose (List (Node × Node))
  | 0 => fail
  | fuel + 1 => do
    match ← peek with
    | .key =>
      skip
      let key ← slot endsKeyed (node .keyed fuel)
      let value ← valueSlot endsKeyed (node .keyed fuel)
      return (key, value) :: (← blockEntries fuel)
    | .blockEnd =>
      skip
      return []
    | _ => fail
termination_by structural fuel => fuel

/-- The items between brackets. A key among them makes an item that is a map of one entry. -/
def flowItems (isFirst : Bool) : Nat → Compose (List Node)
  | 0 => fail
  | fuel + 1 => do
    if let .closeList ← peek then
      skip
      return []
    separator isFirst
    match ← peek with
    | .closeList =>
      skip
      return []
    | .key =>
      skip
      let key ← slot endsFlowKey (node .flow fuel)
      let value ← valueSlot endsFlow (node .flow fuel)
      return .map .map [(key, value)] :: (← flowItems false fuel)
    | _ =>
      let item ← node .flow fuel
      return item :: (← flowItems false fuel)
termination_by structural fuel => fuel

/-- The entries between brackets. What stands there without the mark of a key has no value. -/
def flowEntries (isFirst : Bool) : Nat → Compose (List (Node × Node))
  | 0 => fail
  | fuel + 1 => do
    if let .closeMap ← peek then
      skip
      return []
    separator isFirst
    match ← peek with
    | .closeMap =>
      skip
      return []
    | .key =>
      skip
      let key ← slot endsFlowKey (node .flow fuel)
      let value ← valueSlot endsFlow (node .flow fuel)
      return (key, value) :: (← flowEntries false fuel)
    | _ =>
      let key ← node .flow fuel
      return (key, .nothing) :: (← flowEntries false fuel)
termination_by structural fuel => fuel

end

/-- A document of the first version only, each handle given once. -/
def addDirective (isVersioned : Bool) : Directive → Compose Bool
  | .version major => if isVersioned || major != 1 then throw .malformed else return true
  | .handle name base => do
    let composing ← get
    if (composing.handles.lookup name).isSome then throw .malformed
    else
      set { composing with handles := (name, base) :: composing.handles }
      return isVersioned
  | .other => return isVersioned

/-- The directives in front of a document. -/
def directives (isVersioned : Bool) : Nat → Compose Unit
  | 0 => fail
  | fuel + 1 => do
    match ← peek with
    | .directive directive =>
      skip
      directives (← addDirective isVersioned directive) fuel
    | _ => return

/-- The token ends a document that holds nothing. -/
def endsDocument : Token → Bool
  | .directive _ => true
  | .documentStart => true
  | .documentEnd => true
  | .streamEnd => true
  | _ => false

/-- A document behind its mark. -/
def marked (fuel : Nat) : Compose Node := do
  directives false fuel
  modify fun composing => { composing with handles := composing.handles ++ standardHandles }
  match ← peek with
  | .documentStart =>
    skip
    slot endsDocument (node .block fuel)
  | _ => fail

/-- The only document in front of the end; none if there is nothing at all. -/
def document (fuel : Nat) : Compose (Option Node) := do
  match ← peek with
  | .streamEnd => return none
  | .directive _ => some <$> marked fuel
  | .documentStart => some <$> marked fuel
  | _ =>
    modify fun composing => { composing with handles := standardHandles }
    some <$> node .block fuel

/-- Nothing but marks that end a document comes before the end. -/
def finish : Nat → Compose Unit
  | 0 => fail
  | fuel + 1 => do
    match ← peek with
    | .documentEnd =>
      skip
      finish fuel
    | .streamEnd => return
    | _ => fail

end Compose

/-- The only document that tokens make, if they make one at all. -/
def Node.ofTokens (tokens : List Token) : Except Defect (Option Node) :=
  let fuel := 2 * tokens.length + 2
  let read : Compose (Option Node) := do
    let document ← Compose.document fuel
    Compose.finish fuel
    return document
  read.run' ⟨tokens, [], []⟩

end LineScript.Yaml
