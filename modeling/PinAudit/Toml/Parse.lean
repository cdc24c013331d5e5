import PinAudit.Toml.Scalar

/-!
# Reading a TOML document

A document is read in three steps: its text is cut into tokens (`Toml.Token.scan`), the tokens
are read into expressions (`Toml.Expression.readAll`), and the expressions are assembled here
into the root table, decoding keys and values as they come. An error of the first two steps
comes before any error of the last.

While assembling, the document is a `Tree` that remembers how each table came to be: as a
table on the way to a header (`implicit`), by a header of its own (`header`), or by a dotted key
(`dotted`).

- A header walks its key from the root through tables of any kind and into the last table of an
  array of tables, making missing tables on the way. The table it names may be new or made on
  the way to an earlier header; an array-of-tables header adds a table to an array of tables.
- A key-value pair walks its dotted part from the current table through tables made on the way
  to headers or by dotted keys, and arrays of tables, making missing tables as dotted; the table
  it ends in must have been made by a dotted key exactly when the key is dotted. The last part of
  its key must be new there.
- Inline tables and arrays are values; nothing extends them. Inside an inline table the entries
  follow the rules of key-value pairs.

Every other case is a `duplicate key` at the key part where it is found, or, when a dotted key
meets a value that is not a table, `cannot extend value of type … with a dotted key`.

Main definitions: `Toml.Tree`, `Toml.Tree.place`, `Toml.parse`.
-/

namespace PinAudit.Toml

/-- How a table came to be. -/
inductive Origin where
  | implicit
  | header
  | dotted
  deriving DecidableEq, Repr

/-- **A document being read**: values, tables with their entries (key, key span, tree), and
arrays of tables. -/
inductive Tree where
  | leaf (v : Value) (span : Span)
  | node (entries : List (String × Span × Tree)) (origin : Origin)
  | nodes (items : List Tree)
  deriving Repr, Inhabited

/-- The name of a value's kind, for messages. -/
def Value.kindName : Value → String
  | .str _ => "string"
  | .integer _ => "integer"
  | .float _ => "float"
  | .boolean _ => "boolean"
  | .datetime _ => "datetime"
  | .array _ => "array"
  | .table _ => "table"

/-- The error for a key part where the document already has something else. -/
def duplicateKey (span : Span) : Error := Error.about "duplicate key" span

/-- How a key part is walked. -/
inductive Walk where
  /-- A part of a header's key, or of the key of the current table. -/
  | header
  /-- A part of a dotted key. -/
  | dotted
  deriving DecidableEq, Repr

/-- What is done with the last part of a key. -/
inductive Goal where
  /-- `[key]`: define a table. -/
  | table
  /-- `[[key]]`: add a table to an array of tables. -/
  | arrayTable
  /-- `key = value`; `dotted` when the key has more than one part. -/
  | assign (v : Value) (span : Span) (dotted : Bool)

/-- **Meet a goal** in the entries of a table of some origin, at its last key part. -/
def meet (goal : Goal) (origin : Origin) (key : String × Span) (entries : List (String × Span × Tree)) :
    Except Error (List (String × Span × Tree)) :=
  let (k, s) := key
  match goal with
  | .table =>
    match entries.find? (·.1 == k) with
    | none => .ok (entries ++ [(k, s, .node [] .header)])
    | some (_, _, .node es .implicit) =>
      .ok (entries.map fun e => if e.1 == k then (e.1, e.2.1, .node es .header) else e)
    | some _ => .error (duplicateKey s)
  | .arrayTable =>
    match entries.find? (·.1 == k) with
    | none => .ok (entries ++ [(k, s, .nodes [.node [] .header])])
    | some (_, _, .nodes items) =>
      .ok (entries.map fun e => if e.1 == k then (e.1, e.2.1, .nodes (items ++ [.node [] .header])) else e)
    | some _ => .error (duplicateKey s)
  | .assign v vs dotted =>
    if dotted != (origin == .dotted) then .error (duplicateKey s)
    else
      match entries.find? (·.1 == k) with
      | none => .ok (entries ++ [(k, s, .leaf v vs)])
      | some _ => .error (duplicateKey s)

mutual

/-- **Place a goal** in a tree along a path of key parts, each with how it is walked, ending at
the last part `key`. -/
def Tree.place (goal : Goal) (key : String × Span) :
    List (String × Span × Walk) → Tree → Except Error Tree
  | [], .node es origin => do pure (.node (← meet goal origin key es) origin)
  | [], .nodes items => do pure (.nodes (← placeLast goal key [] items))
  | [], .leaf _ _ => .error (duplicateKey key.2)
  | (k, s, walk) :: rest, .node es origin => do
    pure (.node (← placeEntries goal key k s walk rest es) origin)
  | path, .nodes items => do pure (.nodes (← placeLast goal key path items))
  | (_, s, _) :: _, .leaf _ _ => .error (duplicateKey s)

/-- Walk into the entry `k` of a table's entries, making it when missing. -/
def placeEntries (goal : Goal) (key : String × Span) (k : String) (s : Span) (walk : Walk)
    (rest : List (String × Span × Walk)) :
    List (String × Span × Tree) → Except Error (List (String × Span × Tree))
  | [] => do
    let fresh : Tree := .node [] (if walk == .header then .implicit else .dotted)
    pure [(k, s, ← fresh.place goal key rest)]
  | (k', s', t) :: more =>
    if k' == k then
      match t, walk with
      | .node _ .header, .dotted => .error (duplicateKey s)
      | .leaf (.table _) _, _ => .error (duplicateKey s)
      | .leaf (.array _) _, _ => .error (duplicateKey s)
      | .leaf v _, _ =>
        .error (Error.about ("cannot extend value of type " ++ v.kindName ++ " with a dotted key") s)
      | _, _ => do pure ((k', s', ← t.place goal key rest) :: more)
    else do pure ((k', s', t) :: (← placeEntries goal key k s walk rest more))

/-- Walk into the last table of an array of tables. -/
def placeLast (goal : Goal) (key : String × Span) (path : List (String × Span × Walk)) :
    List Tree → Except Error (List Tree)
  | [] => .ok []
  | [t] => do pure [← t.place goal key path]
  | t :: more => do pure (t :: (← placeLast goal key path more))

end

mutual

/-- **The value of a document tree**; a table's span is the span of the key that named it. -/
def Tree.toValue (span : Span) : Tree → Value × Span
  | .leaf v s => (v, s)
  | .node es _ => (.table (entriesToValue es), span)
  | .nodes items => (.array (itemsToValue span items), span)

/-- The entries of a table as values. -/
def entriesToValue : List (String × Span × Tree) → List (String × Span × Value × Span)
  | [] => []
  | (k, s, t) :: more =>
    let (v, vs) := t.toValue s
    (k, s, v, vs) :: entriesToValue more

/-- The tables of an array as values. -/
def itemsToValue (span : Span) : List Tree → List (Value × Span)
  | [] => []
  | t :: more => t.toValue span :: itemsToValue span more

end

/-- The names of a key's parts, in order. -/
def decodeKeys (keys : List Piece) : Except Error (List (String × Span)) :=
  keys.mapM fun p => do pure (← p.decodeKey, p.span)

/-- A key split into its dotted part and its last part. -/
def splitLast (keys : List (String × Span)) : List (String × Span) × (String × Span) :=
  match keys.reverse with
  | last :: init => (init.reverse, last)
  | [] => ([], ("", Span.at 0))

/-- Path steps of one kind of walk. -/
def steps (walk : Walk) (keys : List (String × Span)) : List (String × Span × Walk) :=
  keys.map fun (k, s) => (k, s, walk)

mutual

/-- **The value of a value as written**, decoding as it goes. -/
def Node.decode : Node → Except Error (Value × Span)
  | .scalar p => do pure (← p.decodeValue, p.span)
  | .array span items => do pure (.array (← decodeItems items), span)
  | .inlineTable span entries => do
    let t ← decodeEntries entries (.node [] .header)
    pure ((t.toValue span).1, span)

/-- The items of an array. -/
def decodeItems : List Node → Except Error (List (Value × Span))
  | [] => .ok []
  | n :: ns => do
    let v ← n.decode
    pure (v :: (← decodeItems ns))

/-- The entries of an inline table, placed in its tree. -/
def decodeEntries : List (List Piece × Node) → Tree → Except Error Tree
  | [], t => .ok t
  | (keys, n) :: more, t => do
    let ks ← decodeKeys keys
    let (v, vs) ← n.decode
    let (init, last) := splitLast ks
    let t ← t.place (.assign v vs (init.length > 0)) last (steps .dotted init)
    decodeEntries more t

end

/-- **Assemble the expressions** of a document into its tree; `current` is the key of the
current table. -/
def assemble : List Expression → Tree → List (String × Span) → Except Error Tree
  | [], root, _ => .ok root
  | .table keys :: more, root, _ => do
    let ks ← decodeKeys keys
    let (init, last) := splitLast ks
    let root ← root.place .table last (steps .header init)
    assemble more root ks
  | .arrayTable keys :: more, root, _ => do
    let ks ← decodeKeys keys
    let (init, last) := splitLast ks
    let root ← root.place .arrayTable last (steps .header init)
    assemble more root ks
  | .keyValue keys n :: more, root, current => do
    let ks ← decodeKeys keys
    let (v, vs) ← n.decode
    let (init, last) := splitLast ks
    let root ← root.place (.assign v vs (init.length > 0)) last
      (steps .header current ++ steps .dotted init)
    assemble more root current

/-- **Read a TOML document** into its root table. -/
def parse (text : String) : Except Error Value := do
  let expressions ← Expression.readAll (Token.scan text)
  let root ← assemble expressions (.node [] .header) []
  pure (root.toValue (Span.at 0)).1

end PinAudit.Toml
