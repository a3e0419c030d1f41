/-
RentalRouting/Toml/Document.lean

Building the tables of a TOML document from its statements.

The pairs before the first header go into the root table, and those after a header into
that header's table.  A dotted key walks through tables, making the missing ones; those it
makes are implicit and dotted, and an implicit table it walks through becomes dotted too.  A header walks through tables the same way, its missing
tables implicit but not dotted, and through an array of tables to its last table.  The
rules that keep every table defined once:

* a key may be given only once in its table;
* a dotted key may not go through a table defined by a header, and a pair without a dot
  may not go into a table that only dotted keys made, nor a dotted pair into one that only
  headers made;
* a header may name a table only if it does not exist yet or only headers on the way to
  other tables made it;
* nothing may go through a value that is not a table, an inline table included;
* `[[key]]` adds a table to an array of tables, and to no other array.

Each key, then each value, is read before it is put in place, so the first fault in the
order of the document is the one given; an array of tables is checked when its table ends.
-/
import RentalRouting.Toml.Scalar

namespace RentalRouting.Toml

/-- A key of a table, with the span of the part that named it. -/
structure KeyName where
  name : String
  start : Nat
  stop : Nat
  deriving Repr

/-- How a table came to be: made on the way by a header or a dotted key (`implicit`), made
by dotted keys (`dotted`), or written inline. -/
structure Shape where
  implicit : Bool
  dotted : Bool
  inline : Bool
  deriving DecidableEq, Repr

/-- The shape of a table written by a header, or of the root. -/
def Shape.plain : Shape := ⟨false, false, false⟩

/-- A value of a document; `tables` marks an array made by `[[key]]` headers. -/
inductive Node where
  | scalar (s : Scalar)
  | array (items : List Node) (tables : Bool)
  | table (entries : List (KeyName × Node)) (shape : Shape)
  deriving Repr

/-- The entries of a table. -/
abbrev Entries := List (KeyName × Node)

/-- The name of the type of a value. -/
def Node.typeName : Node → String
  | .scalar (.string _) => "string"
  | .scalar (.boolean _) => "boolean"
  | .scalar (.integer _ _) => "integer"
  | .scalar (.float _) => "float"
  | .scalar (.datetime _) => "datetime"
  | .array _ _ => "array"
  | .table _ _ => "table"

/-- The value of a key of a table. -/
def lookupEntry (name : String) (es : Entries) : Option Node :=
  (es.find? (·.1.name = name)).map (·.2)

/-- Replace the value of a key of a table. -/
def replaceEntry (name : String) (v : Node) (es : Entries) : Entries :=
  es.map fun (k, w) => if k.name = name then (k, v) else (k, w)

/-- Take a key out of a table: its value and the other entries. -/
def removeEntry (name : String) (es : Entries) : Option (Node × Entries) :=
  (lookupEntry name es).map fun v => (v, es.filter (·.1.name != name))

/-- The fault of a key given twice. -/
def duplicateAt (k : KeyName) : Fault := ⟨k.start, k.stop, "duplicate key", none⟩

/-- Walk a path from a table, making the missing tables (dotted ones when `dotted`), and
change the table reached with `f`. -/
def descend {α : Type} (dotted : Bool) (f : Entries → Shape → Except Fault (Entries × Shape × α)) :
    List KeyName → Entries → Shape → Except Fault (Entries × Shape × α)
  | [], es, sh => f es sh
  | k :: ks, es, sh =>
    match lookupEntry k.name es with
    | none => do
      let (es', sh', a) ← descend dotted f ks [] ⟨true, dotted, false⟩
      pure (es ++ [(k, .table es' sh')], sh, a)
    | some (.array items true) =>
      match items.getLast? with
      | some (.table tes tsh) => do
        let (tes', tsh', a) ← descend dotted f ks tes tsh
        pure (replaceEntry k.name (.array (items.dropLast ++ [.table tes' tsh']) true) es, sh, a)
      | _ => .error (duplicateAt k)
    | some (.table tes tsh) =>
      if tsh.inline then
        .error ⟨k.start, k.stop, "cannot extend value of type inline table with a dotted key", none⟩
      else if dotted && !tsh.implicit then .error (duplicateAt k)
      else do
        let (tes', tsh', a) ← descend dotted f ks tes (if dotted then { tsh with dotted := true } else tsh)
        pure (replaceEntry k.name (.table tes' tsh') es, sh, a)
    | some other =>
      .error ⟨k.start, k.stop, "cannot extend value of type " ++ other.typeName ++ " with a dotted key", none⟩

/-- Put a value at a dotted key in a table: `path` leads to the table of `key`. -/
def capture (path : List KeyName) (key : KeyName) (v : Node) (es : Entries) (sh : Shape) :
    Except Fault (Entries × Shape) := do
  let (es', sh', _) ← descend true (fun pes psh => do
      if psh.dotted == path.isEmpty then throw (duplicateAt key)
      if (lookupEntry key.name pes).isSome then throw (duplicateAt key)
      pure (pes ++ [(key, v)], psh, ())) path es sh
  pure (es', sh')

/-- The names of the parts of a key. -/
def readKey (parts : List KeyPart) : Except Fault (List KeyName) :=
  parts.mapM fun p => do pure ⟨← p.read, p.start, p.stop⟩

mutual

/-- A written value, read: its keys and scalars read, and its inline tables built. -/
def readWritten : Written → Except Fault Node
  | .scalar start text form => Node.scalar <$> readScalar start text form
  | .array items => do pure (.array (← readItems items) false)
  | .table pairs => do
    let (es, sh) ← readPairs pairs [] Shape.plain
    pure (.table es { sh with inline := true })

/-- The items of an array, read. -/
def readItems : List Written → Except Fault (List Node)
  | [] => pure []
  | w :: ws => do
    let n ← readWritten w
    pure (n :: (← readItems ws))

/-- The pairs of an inline table, read into its entries: each key is read, then its value,
then the pair is put in place. -/
def readPairs : List (List KeyPart × Written) → Entries → Shape → Except Fault (Entries × Shape)
  | [], es, sh => pure (es, sh)
  | (parts, w) :: more, es, sh => do
    let names ← readKey parts
    let v ← readWritten w
    let (es, sh) ← match names.getLast? with
      | some key => capture names.dropLast key v es sh
      | none => pure (es, sh)
    readPairs more es sh

end

/-- What the statements build: the root table, the table of the last header, and that
header (whether it is an array of tables, and its key). -/
structure Builder where
  root : Entries
  current : Entries
  shape : Shape
  header : Option (Bool × List KeyName)

/-- The root table once the table of the last header is put in its place. -/
def Builder.finish (b : Builder) : Except Fault Entries :=
  match b.header with
  | none => pure b.current
  | some (array, path) =>
    match path.getLast? with
    | none => pure b.root
    | some key => do
      let table := Node.table b.current b.shape
      let (root, _, _) ← descend false (fun pes psh =>
          if array then
            match lookupEntry key.name pes with
            | none => pure (pes ++ [(key, .array [table] true)], psh, ())
            | some (.array items true) =>
              pure (replaceEntry key.name (.array (items ++ [table]) true) pes, psh, ())
            | some _ => .error (duplicateAt key)
          else pure (pes ++ [(key, table)], psh, ())) path.dropLast b.root Shape.plain
      pure root

/-- Begin the table of a header, the root holding everything before it. -/
def startTable (root : Entries) (array : Bool) (path : List KeyName) : Except Fault Builder :=
  match path.getLast?, array with
  | some key, false => do
    let (root, _, (es, sh)) ← descend false (fun pes psh =>
        match removeEntry key.name pes with
        | none => pure (pes, psh, ([], Shape.plain))
        | some (.table tes tsh, rest) =>
          if tsh.implicit && !tsh.dotted then pure (rest, psh, (tes, tsh))
          else .error (duplicateAt key)
        | some _ => .error (duplicateAt key)) path.dropLast root Shape.plain
    pure ⟨root, es, { sh with implicit := false }, some (false, path)⟩
  | _, _ => pure ⟨root, [], Shape.plain, some (array, path)⟩

/-- Build the tables of statements. -/
def build (b : Builder) : List Statement → Except Fault Entries
  | [] => b.finish
  | .header array key :: more => do
    let root ← b.finish
    let names ← readKey key
    build (← startTable root array names) more
  | .pair key w :: more => do
    let names ← readKey key
    let v ← readWritten w
    let (es, sh) ← match names.getLast? with
      | some k => capture names.dropLast k v b.current b.shape
      | none => pure (b.current, b.shape)
    build { b with current := es, shape := sh } more

/-- The root table of a document, or its first fault: first the shape of the whole
document is checked, then its tables are built. -/
def readDocument (text : String) : Except Fault Entries := do
  let chars := text.toList
  let statements ← parseStatements chars.length (tokenize chars)
  build ⟨[], [], Shape.plain, none⟩ statements

end RentalRouting.Toml
