import Fleet.Yaml.Lexer

/-!
# From tokens to nodes

The documents of a YAML text, each a tree of scalars, sequences and mappings. Names given to nodes
are numbered in the order in which they are given; a reference is to the latest node of its name
before it. Where a node may be left out a null stands for it.

The functions that read nodes call each other; the first argument bounds how deeply.
-/

namespace Fleet.Yaml

/-- A node of a document. -/
inductive Node where
  /-- A scalar: whether it is plain, its tag, and its text. -/
  | scalar (plain : Bool) (tag : Option Tag) (text : String)
  | sequence (items : List Node)
  | mapping (entries : List (Node × Node))
  /-- A reference to a named node, by number. -/
  | reference (number : Nat)
  deriving Repr

namespace Node

/-- What stands for a node that is left out. -/
def missing : Node := scalar true none "~"

/-- What is known while nodes are read. -/
structure Names where
  /-- The latest number of each name, the latest name first. -/
  latest : List (String × Nat) := []
  /-- The named nodes, by number. -/
  nodes : List (Nat × Node) := []
  /-- The next number. -/
  next : Nat := 1
  deriving Repr

/-- Tokens that are left, with what is known of names. -/
structure Input where
  tokens : List Token
  names : Names := {}
  deriving Repr

namespace Input

/-- Without the next token. -/
def drop (i : Input) : Input := { i with tokens := i.tokens.tail }

/-- The next token. -/
def peek (i : Input) : Option Token := i.tokens.head?

/-- With a name for a node that is still to be read, and its number. -/
def name (i : Input) (name : String) : Nat × Input :=
  (i.names.next, { i with names := { i.names with
    latest := (name, i.names.next) :: i.names.latest, next := i.names.next + 1 } })

/-- With a named node. -/
def define (i : Input) (number : Option Nat) (node : Node) : Input :=
  match number with
  | some number => { i with names := { i.names with nodes := (number, node) :: i.names.nodes } }
  | none => i

end Input

/-- Reads the name and the tag before a node, in either order. -/
def properties (i : Input) : Option Nat × Option Tag × Input :=
  match i.peek with
  | some (.anchor name) =>
    let (number, i) := i.drop.name name
    match i.peek with
    | some (.tag tag) => (some number, some tag, i.drop)
    | _ => (some number, none, i)
  | some (.tag tag) =>
    match i.drop.peek with
    | some (.anchor name) =>
      let (number, i) := i.drop.drop.name name
      (some number, some tag, i)
    | _ => (none, some tag, i.drop)
  | _ => (none, none, i)

/-- What stands for a node that is left out after its name or tag. -/
def bare (number : Option Nat) (tag : Option Tag) (i : Input) : Option (Node × Input) :=
  if number.isSome || tag.isSome then
    let node : Node := .scalar true tag ""
    some (node, i.define number node)
  else none

mutual

/-- Reads a node. In a block it may be indented, and where it belongs to a key it may be a sequence
that is not. -/
def read (block unindented : Bool) : Nat → Input → Option (Node × Input)
  | 0, _ => none
  | depth + 1, i =>
    match i.peek with
    | some (.alias name) =>
      (i.names.latest.find? fun known => known.1 == name).map fun known =>
        (.reference known.2, i.drop)
    | _ =>
      let (number, tag, i) := properties i
      let finish (result : Option (Node × Input)) : Option (Node × Input) :=
        result.map fun (node, i) => (node, i.define number node)
      match i.peek with
      | some (.scalar plain text) => finish (some (.scalar plain tag text, i.drop))
      | some .flowSequence =>
        finish ((readFlowSequence true depth i.drop).map fun (items, i) => (.sequence items, i))
      | some .flowMapping =>
        finish ((readFlowMapping true depth i.drop).map fun (entries, i) => (.mapping entries, i))
      | some .blockEntry =>
        if unindented then
          finish ((readUnindented depth i).map fun (items, i) => (.sequence items, i))
        else bare number tag i
      | some .blockSequence =>
        if block then
          finish ((readBlockSequence depth i.drop).map fun (items, i) => (.sequence items, i))
        else bare number tag i
      | some .blockMapping =>
        if block then
          finish ((readBlockMapping depth i.drop).map fun (entries, i) => (.mapping entries, i))
        else bare number tag i
      | _ => bare number tag i

/-- Reads the entries of a sequence that is indented. -/
def readBlockSequence : Nat → Input → Option (List Node × Input)
  | 0, _ => none
  | depth + 1, i =>
    match i.peek with
    | some .blockEnd => some ([], i.drop)
    | some .blockEntry => do
      let i := i.drop
      let (item, i) ← match i.peek with
        | some .blockEntry | some .blockEnd => some (missing, i)
        | _ => read true false depth i
      let (items, i) ← readBlockSequence depth i
      return (item :: items, i)
    | _ => none

/-- Reads the entries of a sequence that is not indented. -/
def readUnindented : Nat → Input → Option (List Node × Input)
  | 0, _ => none
  | depth + 1, i =>
    match i.peek with
    | some .blockEntry => do
      let i := i.drop
      let (item, i) ← match i.peek with
        | some .blockEntry | some .key | some .value | some .blockEnd => some (missing, i)
        | _ => read true false depth i
      let (items, i) ← readUnindented depth i
      return (item :: items, i)
    | _ => some ([], i)

/-- Reads a key or a value of a mapping that is indented. -/
def readBlockPart : Nat → Input → Option (Node × Input)
  | 0, _ => none
  | depth + 1, i =>
    match i.peek with
    | some .key | some .value | some .blockEnd => some (missing, i)
    | _ => read true true depth i

/-- Reads the entries of a mapping that is indented. -/
def readBlockMapping : Nat → Input → Option (List (Node × Node) × Input)
  | 0, _ => none
  | depth + 1, i =>
    match i.peek with
    | some .blockEnd => some ([], i.drop)
    | some .key | some .value => do
      let (key, i) ← if i.peek = some .key then readBlockPart depth i.drop else some (missing, i)
      let (value, i) ←
        if i.peek = some .value then readBlockPart depth i.drop else some (missing, i)
      let (entries, i) ← readBlockMapping depth i
      return ((key, value) :: entries, i)
    | _ => none

/-- Reads the items of a sequence between brackets. -/
def readFlowSequence (first : Bool) : Nat → Input → Option (List Node × Input)
  | 0, _ => none
  | depth + 1, i =>
    if i.peek = some .flowSequenceEnd then some ([], i.drop)
    else do
      let i ← if first then some i else if i.peek = some .flowEntry then some i.drop else none
      match i.peek with
      | some .flowSequenceEnd => return ([], i.drop)
      | some .key => do
        let (entry, i) ← readFlowPair depth i.drop
        let (items, i) ← readFlowSequence false depth i
        return (.mapping [entry] :: items, i)
      | _ => do
        let (item, i) ← read false false depth i
        let (items, i) ← readFlowSequence false depth i
        return (item :: items, i)

/-- Reads the only entry of a mapping without braces. -/
def readFlowPair : Nat → Input → Option ((Node × Node) × Input)
  | 0, _ => none
  | depth + 1, i => do
    let (key, i) ← match i.peek with
      | some .value | some .flowEntry | some .flowSequenceEnd => some (missing, i.drop)
      | _ => read false false depth i
    let (value, i) ← match i.peek with
      | some .value =>
        match i.drop.peek with
        | some .flowEntry | some .flowSequenceEnd => some (missing, i.drop)
        | _ => read false false depth i.drop
      | _ => some (missing, i)
    return ((key, value), i)

/-- Reads the entries of a mapping between braces. -/
def readFlowMapping (first : Bool) : Nat → Input → Option (List (Node × Node) × Input)
  | 0, _ => none
  | depth + 1, i =>
    if i.peek = some .flowMappingEnd then some ([], i.drop)
    else do
      let i ← if first then some i else if i.peek = some .flowEntry then some i.drop else none
      match i.peek with
      | some .flowMappingEnd => return ([], i.drop)
      | some .key | some .value => do
        let (key, i) ← if i.peek = some .value then some (missing, i) else
          match i.drop.peek with
          | some .value | some .flowEntry | some .flowMappingEnd => some (missing, i.drop)
          | _ => read false false depth i.drop
        let (value, i) ← match i.peek with
          | some .value =>
            match i.drop.peek with
            | some .flowEntry | some .flowMappingEnd => some (missing, i.drop)
            | _ => read false false depth i.drop
          | _ => some (missing, i)
        let (entries, i) ← readFlowMapping false depth i
        return ((key, value) :: entries, i)
      | _ => do
        let (key, i) ← read false false depth i
        let (entries, i) ← readFlowMapping false depth i
        return ((key, missing) :: entries, i)

end

/-- A document: its node and the named nodes. -/
structure Document where
  node : Node
  /-- The named nodes, by number. -/
  named : List (Nat × Node)
  deriving Repr

/-- Skips tokens of a kind. -/
def skipAll (token : Token) (i : Input) : Input :=
  { i with tokens := i.tokens.dropWhile (· == token) }

/-- Reads a document up to its end. One that is begun by dashes may be empty. -/
def readContent (depth : Nat) (opened : Bool) (i : Input) : Option (Node × Input) := do
  let (node, i) ← match opened, i.peek with
    | true, none | true, some .directive | true, some .documentStart | true, some .documentEnd =>
      some (missing, i)
    | _, _ => read true false depth i
  return (node, if i.peek = some .documentEnd then i.drop else i)

/-- Reads the documents of a text, so many at most. Only the first may do without dashes. -/
def readDocuments (depth : Nat) (first : Bool) : Nat → Input → Option (List Document)
  | 0, _ => none
  | limit + 1, i => do
    let i := if first then i else skipAll .documentEnd i
    match i.peek with
    | none => return []
    | some _ =>
      let start := skipAll .directive i
      let opened := start.peek == some .documentStart
      if !opened && (!first || i.peek = some .directive) then none
      else
        let (node, rest) ← readContent depth opened (if opened then start.drop else start)
        let document : Document := ⟨node, rest.names.nodes⟩
        let later ← readDocuments depth false limit { tokens := rest.tokens }
        return document :: later

end Node

/-- The documents of a text; none if it is malformed. -/
def documents? (text : String) : Option (List Node.Document) := do
  let tokens ← tokens? text
  Node.readDocuments (8 * tokens.length + 8) true (tokens.length + 1) { tokens }

end Fleet.Yaml
