import LintBridge.Yaml.Lexer
import LintBridge.Yaml.Tag
/-!
The tree of a YAML document, and its reading from tokens. Aliases are replaced by the
nodes that they name; a node can be named once it is complete.
-/
namespace LintBridge.Yaml

inductive Node where
  | scalar (tag : Tag) (text : String)
  | sequence (tag : Tag) (items : List Node)
  | mapping (tag : Tag) (entries : List (Node × Node))
  deriving Repr

def Node.tag : Node → Tag
  | scalar t _ | sequence t _ | mapping t _ => t

/-- An empty scalar. -/
def Node.empty : Node := .scalar .null ""

/-- What is known while a document is read: the tag handles and the named nodes; a name is
taken as soon as its node begins. -/
structure Scope where
  handles : Assoc String String
  taken : List String
  nodes : Assoc String Node

/-- A reading from tokens. -/
abbrev Parsed (α : Type) := Except Refusal (α × Scope × List Token)

/-- Anchor and tag in front of a node. -/
structure Properties where
  anchor : Option String
  tag : Option TagText

/-- The anchor and the tag, in either order. -/
def properties : List Token → Properties × List Token
  | .anchor a :: .tag t :: rest => (⟨some a, some t⟩, rest)
  | .anchor a :: rest => (⟨some a, none⟩, rest)
  | .tag t :: .anchor a :: rest => (⟨some a, some t⟩, rest)
  | .tag t :: rest => (⟨none, some t⟩, rest)
  | rest => (⟨none, none⟩, rest)

/-- The full name of a tag. -/
def Scope.tagName (s : Scope) (t : TagText) : Except Refusal String :=
  match t.handle with
  | none => .ok t.suffix
  | some handle =>
    match s.handles.get? handle with
    | some lead => .ok (lead ++ t.suffix)
    | none => .error .malformed

/-- The tag of a collection; without one of its own it is the usual one. -/
def collectionTag (usual : Tag) : Option String → Tag
  | none | some "!" => usual
  | some name => .ofName name

/-- The tag of a scalar: read off its text if it is plain or carries a bare mark. -/
def scalarTag (plain : Bool) (text : String) : Option String → Tag
  | none => if plain then .ofPlain text else .str
  | some "!" => .ofPlain text
  | some name => .ofName name

/-- Note that a name is taken; no name is taken twice. -/
def Scope.take (s : Scope) (anchor : Option String) : Except Refusal Scope :=
  match anchor with
  | none => .ok s
  | some a => if s.taken.contains a then .error .malformed else .ok { s with taken := a :: s.taken }

/-- Give a name to a complete node. -/
def Scope.name (s : Scope) (anchor : Option String) (n : Node) : Scope :=
  match anchor with
  | none => s
  | some a => { s with nodes := s.nodes.put a n }

/-- Where a node stands: within a flow collection, in a block, or in a block where a
sequence need not be indented. -/
inductive Place where
  | flow | block | blockValue
  deriving DecidableEq, Repr

/-- Does a value of a block mapping end before it began? -/
def endsBlockPart : List Token → Bool
  | .key :: _ | .value :: _ | .blockEnd :: _ => true
  | _ => false

mutual
def node : Nat → Place → Scope → List Token → Parsed Node
  | 0, _, _, _ => .error .malformed
  | fuel + 1, place, s, ts =>
    match ts with
    | .alias_ a :: rest =>
      match s.nodes.get? a with
      | some n => .ok (n, s, rest)
      | none => .error .malformed
    | _ =>
      let (p, rest) := properties ts
      match p.tag.mapM s.tagName with
      | .error r => .error r
      | .ok tag =>
        match s.take p.anchor with
        | .error r => .error r
        | .ok s =>
          match content fuel place tag s rest with
          | .error r => .error r
          | .ok (some n, s, rest) => .ok (n, s.name p.anchor n, rest)
          | .ok (none, s, rest) =>
            if p.anchor.isSome || p.tag.isSome then
              let n := Node.scalar (scalarTag true "" tag) ""
              .ok (n, s.name p.anchor n, rest)
            else .error .malformed
/-- What follows the properties of a node; `none` if that is no content. -/
def content : Nat → Place → Option String → Scope → List Token → Parsed (Option Node)
  | 0, _, _, _, _ => .error .malformed
  | fuel + 1, place, tag, s, ts =>
    match ts with
    | .blockEntry :: _ =>
      if place = .blockValue then
        (loose fuel s ts []).map fun (xs, rest) =>
          (some (.sequence (collectionTag .seq tag) xs), rest)
      else .ok (none, s, ts)
    | .scalar text plain :: rest => .ok (some (.scalar (scalarTag plain text tag) text), s, rest)
    | .flowSequenceStart :: rest =>
      (flowItems fuel true s rest []).map fun (xs, rest) =>
        (some (.sequence (collectionTag .seq tag) xs), rest)
    | .flowMappingStart :: rest =>
      (flowEntries fuel true s rest []).map fun (es, rest) =>
        (some (.mapping (collectionTag .map tag) es), rest)
    | .blockSequenceStart :: rest =>
      if place = .flow then .ok (none, s, ts)
      else (blockItems fuel s rest []).map fun (xs, rest) =>
        (some (.sequence (collectionTag .seq tag) xs), rest)
    | .blockMappingStart :: rest =>
      if place = .flow then .ok (none, s, ts)
      else (blockEntries fuel s rest []).map fun (es, rest) =>
        (some (.mapping (collectionTag .map tag) es), rest)
    | _ => .ok (none, s, ts)
/-- The items of a block sequence up to its end. -/
def blockItems : Nat → Scope → List Token → List Node → Parsed (List Node)
  | 0, _, _, _ => .error .malformed
  | fuel + 1, s, ts, acc =>
    match ts with
    | .blockEnd :: rest => .ok (acc.reverse, s, rest)
    | .blockEntry :: rest =>
      match rest with
      | .blockEntry :: _ | .blockEnd :: _ => blockItems fuel s rest (.empty :: acc)
      | _ =>
        match node fuel .block s rest with
        | .error r => .error r
        | .ok (n, s, rest) => blockItems fuel s rest (n :: acc)
    | _ => .error .malformed
/-- The items of a sequence that is not indented; no token marks its end. -/
def loose : Nat → Scope → List Token → List Node → Parsed (List Node)
  | 0, _, _, _ => .error .malformed
  | fuel + 1, s, ts, acc =>
    match ts with
    | .blockEntry :: rest =>
      match rest with
      | .blockEntry :: _ | .key :: _ | .value :: _ | .blockEnd :: _ =>
        loose fuel s rest (.empty :: acc)
      | _ =>
        match node fuel .block s rest with
        | .error r => .error r
        | .ok (n, s, rest) => loose fuel s rest (n :: acc)
    | _ => .ok (acc.reverse, s, ts)
/-- The entries of a block mapping up to its end. -/
def blockEntries : Nat → Scope → List Token → List (Node × Node) → Parsed (List (Node × Node))
  | 0, _, _, _ => .error .malformed
  | fuel + 1, s, ts, acc =>
    match ts with
    | .blockEnd :: rest => .ok (acc.reverse, s, rest)
    | .key :: rest =>
      match blockPart fuel s rest with
      | .error r => .error r
      | .ok (k, s, rest) =>
        match rest with
        | .value :: rest =>
          match blockPart fuel s rest with
          | .error r => .error r
          | .ok (v, s, rest) => blockEntries fuel s rest ((k, v) :: acc)
        | _ => blockEntries fuel s rest ((k, .empty) :: acc)
    | _ => .error .malformed
/-- A key or a value of a block mapping, which may be left out. -/
def blockPart : Nat → Scope → List Token → Parsed Node
  | 0, _, _ => .error .malformed
  | fuel + 1, s, ts => if endsBlockPart ts then .ok (.empty, s, ts) else node fuel .blockValue s ts
/-- The items of a flow sequence up to its end. A key makes an item a mapping of one entry. -/
def flowItems : Nat → Bool → Scope → List Token → List Node → Parsed (List Node)
  | 0, _, _, _, _ => .error .malformed
  | fuel + 1, first, s, ts, acc =>
    match ts with
    | .flowSequenceEnd :: rest => .ok (acc.reverse, s, rest)
    | _ =>
      match flowComma first ts with
      | none => .error .malformed
      | some ts =>
        match ts with
        | .flowSequenceEnd :: rest => .ok (acc.reverse, s, rest)
        | .key :: rest =>
          match flowPart fuel s rest with
          | .error r => .error r
          | .ok (k, s, rest) =>
            match rest with
            | .value :: rest =>
              match flowPart fuel s rest with
              | .error r => .error r
              | .ok (v, s, rest) => flowItems fuel false s rest (.mapping .map [(k, v)] :: acc)
            | _ => flowItems fuel false s rest (.mapping .map [(k, .empty)] :: acc)
        | _ =>
          match node fuel .flow s ts with
          | .error r => .error r
          | .ok (n, s, rest) => flowItems fuel false s rest (n :: acc)
/-- The entries of a flow mapping up to its end. -/
def flowEntries : Nat → Bool → Scope → List Token → List (Node × Node) →
    Parsed (List (Node × Node))
  | 0, _, _, _, _ => .error .malformed
  | fuel + 1, first, s, ts, acc =>
    match ts with
    | .flowMappingEnd :: rest => .ok (acc.reverse, s, rest)
    | _ =>
      match flowComma first ts with
      | none => .error .malformed
      | some ts =>
        match ts with
        | .flowMappingEnd :: rest => .ok (acc.reverse, s, rest)
        | .key :: rest =>
          match flowEntryPart fuel s rest with
          | .error r => .error r
          | .ok (k, s, rest) =>
            match rest with
            | .value :: rest =>
              match flowEntryValue fuel s rest with
              | .error r => .error r
              | .ok (v, s, rest) => flowEntries fuel false s rest ((k, v) :: acc)
            | _ => flowEntries fuel false s rest ((k, .empty) :: acc)
        | _ =>
          match node fuel .flow s ts with
          | .error r => .error r
          | .ok (n, s, rest) => flowEntries fuel false s rest ((n, .empty) :: acc)
/-- The comma in front of every part of a flow collection but the first. -/
def flowComma (first : Bool) (ts : List Token) : Option (List Token) :=
  if first then some ts
  else match ts with
    | .flowEntry :: rest => some rest
    | _ => none
/-- A key or a value inside a flow sequence, which may be left out. -/
def flowPart : Nat → Scope → List Token → Parsed Node
  | 0, _, _ => .error .malformed
  | fuel + 1, s, ts =>
    match ts with
    | .value :: _ | .flowEntry :: _ | .flowSequenceEnd :: _ => .ok (.empty, s, ts)
    | _ => node fuel .flow s ts
/-- A key of a flow mapping, which may be left out. -/
def flowEntryPart : Nat → Scope → List Token → Parsed Node
  | 0, _, _ => .error .malformed
  | fuel + 1, s, ts =>
    match ts with
    | .value :: _ | .flowEntry :: _ | .flowMappingEnd :: _ => .ok (.empty, s, ts)
    | _ => node fuel .flow s ts
/-- A value of a flow mapping, which may be left out. -/
def flowEntryValue : Nat → Scope → List Token → Parsed Node
  | 0, _, _ => .error .malformed
  | fuel + 1, s, ts =>
    match ts with
    | .flowEntry :: _ | .flowMappingEnd :: _ => .ok (.empty, s, ts)
    | _ => node fuel .flow s ts
end

/-- The tag handles of a document: those of its directives and the two usual ones. A handle
is declared once, the version once, and its first number is one. -/
def directives : List Token → Bool → Assoc String String →
    Except Refusal (Assoc String String × List Token)
  | .directive (.version major) :: rest, seen, handles =>
    if seen || major ≠ 1 then .error .malformed else directives rest true handles
  | .directive (.tag handle lead) :: rest, seen, handles =>
    if (handles.get? handle).isSome then .error .malformed
    else directives rest seen (handles.put handle lead)
  | .directive .other :: rest, seen, handles => directives rest seen handles
  | rest, _, handles =>
    let usual (h lead : String) (m : Assoc String String) :=
      if (m.get? h).isSome then m else m.put h lead
    .ok (usual "!" "!" (usual "!!" tagLead handles), rest)

/-- Marks of ended documents, and nothing behind them. -/
def isDone (ts : List Token) : Bool := (ts.dropWhile (· = .documentEnd)).isEmpty

/-- The only document of a text; `none` for a text without one. -/
def documentOf (ts : List Token) : Except Refusal (Option Node) := do
  match ts with
  | [] => return none
  | _ =>
    let explicit := match ts with
      | .directive _ :: _ | .documentStart :: _ => true
      | _ => false
    let (handles, rest) ← directives ts false []
    let rest ← match explicit, rest with
      | true, .documentStart :: rest => pure rest
      | true, _ => throw .malformed
      | false, rest => pure rest
    let scope : Scope := ⟨handles, [], []⟩
    let empty := explicit && match rest with
      | [] | .directive _ :: _ | .documentStart :: _ | .documentEnd :: _ => true
      | _ => false
    let (n, rest) ←
      if empty then pure (Node.empty, rest)
      else do
        let (n, _, rest) ← node (10 * rest.length + 10) .block scope rest
        pure (n, rest)
    if isDone rest then return some n else throw .malformed

/-- The tree of a text. -/
def Node.ofText (s : String) : Except Refusal (Option Node) := do documentOf (← tokens s.toList)

end LintBridge.Yaml
