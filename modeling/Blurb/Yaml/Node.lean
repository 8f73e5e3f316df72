import Blurb.Yaml.Lexer

/-! # YAML nodes

The tree of a YAML text. The tokens are put together by a machine that keeps the collections that
are still open; anchors are collected in a table, and references stay in the tree as they are. -/

namespace Blurb.Yaml

/-- **A YAML node.** -/
inductive Node where
  /-- A scalar with its tag. -/
  | scalar (style : Style) (tag : Option Text) (text : Text)
  /-- A sequence with its tag. -/
  | sequence (tag : Option Text) (items : List Node)
  /-- A mapping with its tag. -/
  | mapping (tag : Option Text) (entries : List (Node × Node))
  /-- A reference to an anchor. -/
  | alias (id : Nat)

/-- The scalar that stands where nothing is written. -/
def Node.blank : Node := .scalar .plain none []

/-- **An anchored node**: the number of the anchor, its place in the order of anchors in the text,
and the node. -/
structure Anchored where
  /-- The number that references use. -/
  id : Nat
  /-- The place in the order of anchors. -/
  order : Nat
  /-- The node. -/
  node : Node

/-- **A YAML document**: its root, unless the text is empty, and its anchors. -/
structure Document where
  /-- The root. -/
  root : Option Node
  /-- The anchored nodes. -/
  anchors : List Anchored

/-- **The node that a reference stands for**: of several anchors with its number, the last in the
text. -/
def Document.deref? (document : Document) (id : Nat) : Option Node :=
  let better (best : Option Anchored) (next : Anchored) : Option Anchored :=
    if next.id = id && (best.all fun found => found.order < next.order) then some next else best
  (document.anchors.foldl better none).map (·.node)

/-! ## Putting tokens together -/

/-- The anchor of a collection, as number and order, and its tag. -/
structure Properties where
  /-- The number and the order of the anchor. -/
  anchor : Option (Nat × Nat) := none
  /-- The tag. -/
  tag : Option Text := none

/-- **A collection that is still open**, with its latest part first. A mapping keeps the key that
waits for its value. -/
inductive Frame where
  /-- A sequence with its own indentation. -/
  | blockSequence (properties : Properties) (items : List Node)
  /-- A sequence at the indentation of the mapping around it. -/
  | flatSequence (properties : Properties) (items : List Node)
  /-- A mapping with its own indentation. -/
  | blockMapping (properties : Properties) (entries : List (Node × Node)) (key : Option Node)
  /-- A sequence in brackets. -/
  | flowSequence (properties : Properties) (items : List Node)
  /-- A mapping in braces; `bare` tells that the key has no colon. -/
  | flowMapping (properties : Properties) (entries : List (Node × Node)) (key : Option Node)
      (bare : Bool)
  /-- A mapping of a single pair as an item of a sequence in brackets. -/
  | flowPair (key : Option Node)

/-- **What the machine is about to do.** -/
inductive Phase where
  /-- Read a node: a block collection is allowed or not, and so is a flat sequence. -/
  | read (block flat : Bool)
  /-- Hand a finished node to the innermost open collection. -/
  | give (node : Node)
  /-- Go on with the innermost open collection. -/
  | resume
  /-- The root is finished. -/
  | finished (node : Node)

/-- **The machine.** -/
structure Machine where
  /-- What is to be done. -/
  phase : Phase
  /-- The tokens that are left. -/
  tokens : List Token
  /-- The open collections, the innermost first. -/
  frames : List Frame := []
  /-- The numbers of the anchor names. -/
  names : List (Text × Nat) := []
  /-- The number of anchors so far. -/
  count : Nat := 0
  /-- The anchored nodes so far. -/
  anchors : List Anchored := []
  /-- The tag handles. -/
  handles : List (Text × Text)

namespace Machine

/-- Hands over a node next. -/
def giving (m : Machine) (node : Node) : Machine := { m with phase := .give node }

/-- Reads a node next, unless one of the given tokens follows, in which case nothing is written
there. -/
def readUnless (m : Machine) (block flat : Bool) (stops : List Token) : Machine :=
  match m.tokens with
  | [] => { m with phase := .read block flat }
  | token :: _ =>
    if stops.contains token then m.giving .blank else { m with phase := .read block flat }

/-- Enters a finished node under its anchor. -/
def enter (m : Machine) (properties : Properties) (node : Node) : Machine :=
  match properties.anchor with
  | some (id, order) => { m with anchors := ⟨id, order, node⟩ :: m.anchors }
  | none => m

/-- Closes the innermost collection and hands it over. -/
def close (m : Machine) (properties : Properties) (node : Node) : Machine :=
  { m.enter properties node with frames := m.frames.drop 1, phase := .give node }

/-- Replaces the innermost collection. -/
def setTop (m : Machine) (frame : Frame) : Machine :=
  { m with frames := frame :: m.frames.drop 1 }

/-! ### Nodes -/

/-- **An anchor is met.** Its number is the number of names known so far, also where it takes an old
name again. -/
def nameAnchor (m : Machine) (name : Text) : (Nat × Nat) × Machine :=
  let id := m.names.length
  let names :=
    if m.names.any (·.1 == name) then m.names.map fun entry =>
      if entry.1 == name then (name, id) else entry
    else (name, id) :: m.names
  ((id, m.count), { m with names := names, count := m.count + 1 })

/-- The full tag of a handle and a suffix. -/
def fullTag? (m : Machine) (handle suffix : Text) : Option Text :=
  if handle.isEmpty then some suffix else (m.handles.lookup handle).map (· ++ suffix)

/-- The properties of a node: an anchor and a tag in either order. -/
def properties? (m : Machine) : Option (Properties × Machine) :=
  match m.tokens with
  | .anchor name :: .tag handle suffix :: rest => do
    let (anchor, m) := m.nameAnchor name
    let tag ← m.fullTag? handle suffix
    some (⟨some anchor, some tag⟩, { m with tokens := rest })
  | .anchor name :: rest =>
    let (anchor, m) := m.nameAnchor name
    some (⟨some anchor, none⟩, { m with tokens := rest })
  | .tag handle suffix :: .anchor name :: rest => do
    let (anchor, m) := m.nameAnchor name
    let tag ← m.fullTag? handle suffix
    some (⟨some anchor, some tag⟩, { m with tokens := rest })
  | .tag handle suffix :: rest => do
    let tag ← m.fullTag? handle suffix
    some (⟨none, some tag⟩, { m with tokens := rest })
  | _ => some ({}, m)

/-- Opens a collection and goes on with it. -/
def opening (m : Machine) (frame : Frame) : Machine :=
  { m with frames := frame :: m.frames, phase := .resume }

/-- **Reading a node.** A collection is opened, a scalar is handed over; where only properties are
written, they belong to an empty scalar. -/
def readNode? (m : Machine) (block flat : Bool) : Option Machine :=
  match m.tokens with
  | .alias name :: rest =>
    (m.names.lookup name).map fun id => { m with tokens := rest }.giving (.alias id)
  | _ => do
    let (properties, m) ← m.properties?
    let skipped : Machine := { m with tokens := m.tokens.drop 1 }
    let blank : Option Machine :=
      if properties.anchor.isSome || properties.tag.isSome then
        let node := Node.scalar .plain properties.tag []
        some ((m.enter properties node).giving node)
      else none
    match m.tokens with
    | [] => none
    | .blockEntry :: _ => if flat then some (m.opening (.flatSequence properties [])) else blank
    | .scalar style text :: _ =>
      -- a lone exclamation mark says nothing about the value
      let tag := if properties.tag == some ['!'] then none else properties.tag
      let node := Node.scalar style tag text
      some ((skipped.enter properties node).giving node)
    | .flowSequence :: _ => some (skipped.opening (.flowSequence properties []))
    | .flowMapping :: _ => some (skipped.opening (.flowMapping properties [] none false))
    | .blockSequence :: _ =>
      if block then some (skipped.opening (.blockSequence properties [])) else blank
    | .blockMapping :: _ =>
      if block then some (skipped.opening (.blockMapping properties [] none)) else blank
    | _ => blank

/-! ### Collections -/

/-- **Handing a node over** to the innermost collection. -/
def giveNode (m : Machine) (node : Node) : Machine :=
  let m := { m with phase := .resume }
  match m.frames with
  | [] => { m with phase := .finished node }
  | .blockSequence p items :: _ => m.setTop (.blockSequence p (node :: items))
  | .flatSequence p items :: _ => m.setTop (.flatSequence p (node :: items))
  | .flowSequence p items :: _ => m.setTop (.flowSequence p (node :: items))
  | .blockMapping p entries none :: _ => m.setTop (.blockMapping p entries (some node))
  | .blockMapping p entries (some key) :: _ =>
    m.setTop (.blockMapping p ((key, node) :: entries) none)
  | .flowMapping p entries none bare :: _ => m.setTop (.flowMapping p entries (some node) bare)
  | .flowMapping p entries (some key) _ :: _ =>
    m.setTop (.flowMapping p ((key, node) :: entries) none false)
  | .flowPair none :: _ => m.setTop (.flowPair (some node))
  | .flowPair (some key) :: _ => m.close {} (.mapping none [(key, node)])

/-- A collection in brackets goes on: either it ends, or a further part follows, behind a comma
unless it is the first. -/
def flowPart? (tokens : List Token) (isFirst : Bool) (ending : Token) : Option (List Token) :=
  match tokens with
  | [] => none
  | token :: rest =>
    if token = ending || isFirst then some tokens
    else if token = .flowEntry then some rest
    else none

/-- **Going on with the innermost collection**, as the next token tells. -/
def resumeTop? (m : Machine) : Option Machine :=
  let skipped : Machine := { m with tokens := m.tokens.drop 1 }
  match m.frames with
  | [] => none
  | .blockSequence p items :: _ =>
    match m.tokens with
    | .blockEntry :: _ => some (skipped.readUnless true false [.blockEntry, .blockEnd])
    | .blockEnd :: _ => some (skipped.close p (.sequence p.tag items.reverse))
    | _ => none
  | .flatSequence p items :: _ =>
    match m.tokens with
    | .blockEntry :: _ =>
      some (skipped.readUnless true false [.blockEntry, .key, .value, .blockEnd])
    | _ => some (m.close p (.sequence p.tag items.reverse))
  | .blockMapping p entries none :: _ =>
    match m.tokens with
    | .key :: _ => some (skipped.readUnless true true [.key, .value, .blockEnd])
    | .blockEnd :: _ => some (skipped.close p (.mapping p.tag entries.reverse))
    | _ => none
  | .blockMapping _ _ (some _) :: _ =>
    match m.tokens with
    | .value :: _ => some (skipped.readUnless true true [.key, .value, .blockEnd])
    | _ => some (m.giving .blank)
  | .flowSequence p items :: _ => do
    let tokens ← flowPart? m.tokens items.isEmpty .flowSequenceEnd
    let rest : Machine := { m with tokens := tokens.drop 1 }
    match tokens with
    | .key :: _ => some (rest.opening (.flowPair none))
    | .flowSequenceEnd :: _ => some (rest.close p (.sequence p.tag items.reverse))
    | _ => some { m with tokens := tokens, phase := .read false false }
  | .flowPair none :: _ =>
    match m.tokens with
    | .value :: _ | .flowEntry :: _ | .flowSequenceEnd :: _ => some (skipped.giving .blank)
    | _ => some { m with phase := .read false false }
  | .flowPair (some _) :: _ =>
    match m.tokens with
    | .value :: _ => some (skipped.readUnless false false [.flowEntry, .flowSequenceEnd])
    | _ => some (m.giving .blank)
  | .flowMapping p entries none _ :: _ => do
    let tokens ← flowPart? m.tokens entries.isEmpty .flowMappingEnd
    let rest : Machine := { m with tokens := tokens.drop 1 }
    match tokens with
    | .key :: _ => some (rest.readUnless false false [.value, .flowEntry, .flowMappingEnd])
    | .flowMappingEnd :: _ => some (rest.close p (.mapping p.tag entries.reverse))
    | _ =>
      let bare := m.setTop (.flowMapping p entries none true)
      some { bare with tokens := tokens, phase := .read false false }
  | .flowMapping _ _ (some _) true :: _ => some (m.giving .blank)
  | .flowMapping _ _ (some _) false :: _ =>
    match m.tokens with
    | .value :: _ => some (skipped.readUnless false false [.flowEntry, .flowMappingEnd])
    | _ => some (m.giving .blank)

/-- Runs the machine until the root is finished. -/
def run? : Nat → Machine → Option (Node × Machine)
  | 0, _ => none
  | fuel + 1, m =>
    match m.phase with
    | .finished node => some (node, m)
    | .read block flat => (m.readNode? block flat).bind (run? fuel)
    | .give node => run? fuel (m.giveNode node)
    | .resume => m.resumeTop?.bind (run? fuel)

end Machine

/-! ## Documents -/

/-- The handles that are known without a directive. -/
def defaultHandles : List (Text × Text) :=
  [(['!'], ['!']), (['!', '!'], "tag:yaml.org,2002:".toList)]

/-- **The directives before a document**: at most one version, which has to be 1.1 or 1.2, and tag
handles, each once. -/
def directives? : Bool → List (Text × Text) → List Token → Option (List (Text × Text) × List Token)
  | seen, handles, .version major minor :: rest =>
    if seen || major != 1 || (minor != 1 && minor != 2) then none
    else directives? true handles rest
  | seen, handles, .tagHandle handle uri :: rest =>
    if handles.any (·.1 == handle) then none
    else directives? seen (handles ++ [(handle, uri)]) rest
  | _, handles, rest => some (handles, rest)

/-- Nothing but document ends stands before the end of the text. -/
def isTail : List Token → Bool
  | [.streamEnd] => true
  | .documentEnd :: rest => isTail rest
  | _ => false

/-- **A node and nothing behind it**, where `handles` are the tag handles of the directives. -/
def nodeDocument? (handles : List (Text × Text)) (tokens : List Token) : Option Document := do
  let m : Machine :=
    { phase := .read true false, tokens := tokens, handles := handles ++ defaultHandles }
  let (root, m) ← m.run? (16 * (tokens.length + 4))
  if isTail m.tokens then some ⟨some root, m.anchors⟩ else none

/-- **The document of a text**: a text holds one document at most. -/
def Document.ofTokens? (tokens : List Token) : Option Document :=
  match tokens with
  | [.streamEnd] => some ⟨none, []⟩
  | .version .. :: _ | .tagHandle .. :: _ | .documentStart :: _ => do
    let (handles, rest) ← directives? false [] tokens
    match rest with
    | .documentStart :: rest =>
      if isTail rest then some ⟨some .blank, []⟩ else nodeDocument? handles rest
    | _ => none
  | _ => nodeDocument? [] tokens

/-- **Reading a YAML text.** -/
def Document.parse? (t : Text) : Option Document := (tokens? t).bind Document.ofTokens?

end Blurb.Yaml
