import Gauge.Settings.Yaml.Token

/-! # Nodes of YAML documents

A document as a tree of scalars, sequences and mappings. A node may have an anchor, and an alias stands
for the node with its anchor.
-/
namespace Gauge.Yaml

structure Properties (α : Type) where
  anchor : Option α := none
  tag : Option String := none

inductive Node (α : Type) where
  | alias (anchor : α)
  | scalar (p : Properties α) (text : String) (isPlain : Bool)
  | sequence (p : Properties α) (items : List (Node α))
  | mapping (p : Properties α) (entries : List (Node α × Node α))

namespace Node

def empty {α : Type} (p : Properties α) : Node α := .scalar p "" true

def commonHandles : List (String × String) := [("!", "!"), ("!!", "tag:yaml.org,2002:")]

def fullTag? (handles : List (String × String)) (t : Tag) : Option String :=
  if t.handle = "" then some t.suffix
  else (handles.lookup t.handle).map (· ++ t.suffix)

def properties? (handles : List (String × String)) :
    List Token → Option (Properties String × List Token)
  | .anchor a :: .tag t :: rest => do pure (⟨some a, some (← fullTag? handles t)⟩, rest)
  | .tag t :: .anchor a :: rest => do pure (⟨some a, some (← fullTag? handles t)⟩, rest)
  | .anchor a :: rest => some (⟨some a, none⟩, rest)
  | .tag t :: rest => do pure (⟨none, some (← fullTag? handles t)⟩, rest)
  | rest => some ({}, rest)

mutual

/-- The node at the front. After a key or a colon of a block mapping, dashes may stand without a block
sequence of their own (`entry`). -/
def read (handles : List (String × String)) (entry : Bool) :
    (fuel : Nat) → List Token → Option (Node String × List Token)
  | 0, _ => none
  | _ + 1, .alias name :: rest => some (.alias name, rest)
  | fuel + 1, tokens =>
    match properties? handles tokens with
    | none => none
    | some (p, rest) =>
      match rest with
      | .blockEntry :: _ =>
        if entry then (dashes handles false fuel rest).map fun (ns, rest) => (.sequence p ns, rest)
        else if p.anchor.isSome || p.tag.isSome then some (empty p, rest)
        else none
      | .scalar text isPlain :: rest => some (.scalar p text isPlain, rest)
      | .flowSequence :: rest =>
        (flowItems handles true fuel rest).map fun (ns, rest) => (.sequence p ns, rest)
      | .flowMapping :: rest =>
        (flowEntries handles true fuel rest).map fun (es, rest) => (.mapping p es, rest)
      | .blockSequence :: rest =>
        (dashes handles true fuel rest).map fun (ns, rest) => (.sequence p ns, rest)
      | .blockMapping :: rest =>
        (blockEntries handles fuel rest).map fun (es, rest) => (.mapping p es, rest)
      | rest => if p.anchor.isSome || p.tag.isSome then some (empty p, rest) else none

def dashes (handles : List (String × String)) (closed : Bool) :
    (fuel : Nat) → List Token → Option (List (Node String) × List Token)
  | 0, _ => none
  | fuel + 1, .blockEntry :: rest =>
    let missing :=
      match rest with
      | .blockEntry :: _ | .blockEnd :: _ => true
      | .key :: _ | .value :: _ => !closed
      | _ => false
    match if missing then some (empty {}, rest) else read handles false fuel rest with
    | none => none
    | some (n, rest) => (dashes handles closed fuel rest).map fun (ns, rest) => (n :: ns, rest)
  | _ + 1, .blockEnd :: rest => if closed then some ([], rest) else some ([], .blockEnd :: rest)
  | _ + 1, rest => if closed then none else some ([], rest)

def blockPart (handles : List (String × String)) :
    (fuel : Nat) → List Token → Option (Node String × List Token)
  | 0, _ => none
  | fuel + 1, rest =>
    match rest with
    | .key :: _ | .value :: _ | .blockEnd :: _ => some (empty {}, rest)
    | rest => read handles true fuel rest

def blockEntries (handles : List (String × String)) :
    (fuel : Nat) → List Token → Option (List (Node String × Node String) × List Token)
  | 0, _ => none
  | _ + 1, .blockEnd :: rest => some ([], rest)
  | fuel + 1, .key :: rest =>
    match blockPart handles fuel rest with
    | none => none
    | some (k, rest) =>
      let valued :=
        match rest with
        | .value :: rest => blockPart handles fuel rest
        | rest => some (empty {}, rest)
      match valued with
      | none => none
      | some (v, rest) =>
        (blockEntries handles fuel rest).map fun (es, rest) => ((k, v) :: es, rest)
  | _ + 1, _ => none

/-- The entry of a flow sequence after a question mark: a mapping of one entry. An empty key takes the
token after it along. -/
def pair (handles : List (String × String)) :
    (fuel : Nat) → List Token → Option (Node String × List Token)
  | 0, _ => none
  | fuel + 1, rest =>
    let keyed :=
      match rest with
      | .value :: rest | .flowEntry :: rest | .flowSequenceEnd :: rest => some (empty {}, rest)
      | rest => read handles false fuel rest
    match keyed with
    | none => none
    | some (k, rest) =>
      let valued :=
        match rest with
        | .value :: .flowEntry :: rest => some (empty {}, Token.flowEntry :: rest)
        | .value :: .flowSequenceEnd :: rest => some (empty {}, Token.flowSequenceEnd :: rest)
        | .value :: rest => read handles false fuel rest
        | rest => some (empty {}, rest)
      valued.map fun (v, rest) => (.mapping {} [(k, v)], rest)

/-- The entries of a flow sequence up to its bracket. A comma stands before each but the `first`. -/
def flowItems (handles : List (String × String)) (first : Bool) :
    (fuel : Nat) → List Token → Option (List (Node String) × List Token)
  | 0, _ => none
  | _ + 1, .flowSequenceEnd :: rest => some ([], rest)
  | fuel + 1, tokens =>
    let separated :=
      match first, tokens with
      | true, rest => some rest
      | false, .flowEntry :: rest => some rest
      | false, _ => none
    match separated with
    | none => none
    | some (.flowSequenceEnd :: rest) => some ([], rest)
    | some (.key :: rest) =>
      match pair handles fuel rest with
      | none => none
      | some (n, rest) => (flowItems handles false fuel rest).map fun (ns, rest) => (n :: ns, rest)
    | some rest =>
      match read handles false fuel rest with
      | none => none
      | some (n, rest) => (flowItems handles false fuel rest).map fun (ns, rest) => (n :: ns, rest)

def flowPart (handles : List (String × String)) :
    (fuel : Nat) → List Token → Option (Node String × List Token)
  | 0, _ => none
  | fuel + 1, rest =>
    match rest with
    | .flowEntry :: _ | .flowMappingEnd :: _ => some (empty {}, rest)
    | rest => read handles false fuel rest

def flowEntries (handles : List (String × String)) (first : Bool) :
    (fuel : Nat) → List Token → Option (List (Node String × Node String) × List Token)
  | 0, _ => none
  | _ + 1, .flowMappingEnd :: rest => some ([], rest)
  | fuel + 1, tokens =>
    let separated :=
      match first, tokens with
      | true, rest => some rest
      | false, .flowEntry :: rest => some rest
      | false, _ => none
    match separated with
    | none => none
    | some (.flowMappingEnd :: rest) => some ([], rest)
    | some (.key :: rest) =>
      let keyed :=
        match rest with
        | .value :: rest => some (empty {}, Token.value :: rest)
        | rest => flowPart handles fuel rest
      match keyed with
      | none => none
      | some (k, rest) =>
        let valued :=
          match rest with
          | .value :: rest => flowPart handles fuel rest
          | rest => some (empty {}, rest)
        match valued with
        | none => none
        | some (v, rest) =>
          (flowEntries handles false fuel rest).map fun (es, rest) => ((k, v) :: es, rest)
    | some rest =>
      match read handles false fuel rest with
      | none => none
      | some (k, rest) =>
        (flowEntries handles false fuel rest).map fun (es, rest) => ((k, empty {}) :: es, rest)

end

/-- The handles that the directives at the front give, and the tokens after them. There is at most one
version, which is 1.1 or 1.2, and no handle is given twice. -/
def directives? (version : Bool) (handles : List (String × String)) :
    List Token → Option (List (String × String) × List Token)
  | .directive (.version major minor) :: rest =>
    if !version && major = 1 && (minor = 1 || minor = 2) then directives? true handles rest else none
  | .directive (.handle name beginning) :: rest =>
    if (handles.lookup name).isSome then none
    else directives? version ((name, beginning) :: handles) rest
  | rest => some (handles, rest)

def ofDocument? (tokens : List Token) : Option (Node String × List Token) := do
  let node (handles : List (String × String)) (tokens : List Token) :=
    read (handles ++ commonHandles) false (2 * tokens.length + 2) tokens
  match tokens with
  | .directive _ :: _ | .documentStart :: _ =>
    let (handles, rest) ← directives? false [] tokens
    match rest with
    | .documentStart :: rest =>
      match rest with
      | [] | .directive _ :: _ | .documentStart :: _ | .documentEnd :: _ => pure (empty {}, rest)
      | rest => node handles rest
    | _ => none
  | tokens => node [] tokens

def ofTokens? (tokens : List Token) : Option (Node String) := do
  if tokens.isEmpty then return empty {}
  let (n, rest) ← ofDocument? tokens
  if (rest.dropWhile (· = .documentEnd)).isEmpty then pure n else none

end Node
end Gauge.Yaml
