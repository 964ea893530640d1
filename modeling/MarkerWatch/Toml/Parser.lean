import MarkerWatch.Toml.Strings

/-!
# Documents

A document is read in two steps: first its lines as statements, then the statements as one table.
The second step refuses whatever is defined twice.
-/

namespace MarkerWatch.Toml

/-- The rest after a comment, or the text itself where there is none.  A comment ends before the
end of its line. -/
def skipComment : List Char → Option (List Char)
  | '#' :: rest =>
    let after := rest.dropWhile isPlain
    match after with
    | [] | '\n' :: _ | '\r' :: '\n' :: _ => some after
    | _ => none
  | cs => some cs

/-- The rest after the end of a line, which blanks and a comment may precede. -/
def lineEnd? (cs : List Char) : Option (List Char) :=
  (skipComment (cs.dropWhile isSpace)).bind fun after =>
    match after with
    | [] => some []
    | '\n' :: rest => some rest
    | '\r' :: '\n' :: rest => some rest
    | _ => none

/-- The rest after blanks, comments and line ends. -/
def skipLines : Nat → List Char → Option (List Char)
  | 0, cs => some cs
  | n + 1, cs =>
    match cs.dropWhile isSpace with
    | '\n' :: rest => skipLines n rest
    | '\r' :: '\n' :: rest => skipLines n rest
    | '#' :: rest => (skipComment ('#' :: rest)).bind (skipLines n)
    | rest => some rest

/-- Whether a character can be part of a key without quotes. -/
def isKeyChar (c : Char) : Bool :=
  c.isAlphanum || c == '_' || c == '-'

/-- A single key. -/
def key? : List Char → Read String
  | '"' :: rest => (basic rest).map fun (cs, after) => (String.ofList cs, after)
  | '\'' :: rest => (literal rest).map fun (cs, after) => (String.ofList cs, after)
  | cs =>
    if (cs.takeWhile isKeyChar).isEmpty then none
    else some (String.ofList (cs.takeWhile isKeyChar), cs.dropWhile isKeyChar)

/-- Keys joined by dots, with the rest after the blanks that follow them. -/
def keyPath? : Nat → List Char → Read (List String)
  | 0, _ => none
  | n + 1, cs =>
    (key? (cs.dropWhile isSpace)).bind fun (key, rest) =>
      match rest.dropWhile isSpace with
      | '.' :: more => (keyPath? n more).map fun (keys, after) => (key :: keys, after)
      | after => some ([key], after)

/-- A table of values with a value put at a path of keys; tables on the way are made as needed.
Nothing may be there already. -/
def Value.put : List String → Value → List (String × Value) → Option (List (String × Value))
  | [], _, _ => none
  | [key], value, entries =>
    if (entries.lookup key).isSome then none else some (entries ++ [(key, value)])
  | key :: keys, value, entries =>
    match entries.lookup key with
    | none => (Value.put keys value []).map fun inner => entries ++ [(key, .table inner)]
    | some (.table inner) =>
      (Value.put keys value inner).map fun inner =>
        entries.map fun entry => if entry.1 == key then (key, .table inner) else entry
    | some _ => none

/-- The items of an array, after its opening bracket. -/
def items? (item : List Char → Read Value) : Nat → List Char → Read (List Value)
  | 0, _ => none
  | n + 1, cs =>
    (skipLines cs.length cs).bind fun cs =>
      match cs with
      | ']' :: rest => some ([], rest)
      | _ =>
        (item cs).bind fun (value, rest) =>
          (skipLines rest.length rest).bind fun rest =>
            match rest with
            | ']' :: rest => some ([value], rest)
            | ',' :: rest => (items? item n rest).map fun (values, rest) => (value :: values, rest)
            | _ => none

/-- The entries of a table in braces, after the brace and the entries already read. -/
def braced? (item : List Char → Read Value) :
    Nat → List (String × Value) → List Char → Read (List (String × Value))
  | 0, _, _ => none
  | n + 1, entries, cs =>
    (keyPath? cs.length cs).bind fun (path, rest) =>
      match rest with
      | '=' :: rest =>
        (item (rest.dropWhile isSpace)).bind fun (value, rest) =>
          (Value.put path value entries).bind fun entries =>
            match rest.dropWhile isSpace with
            | '\x7d' :: rest => some (entries, rest)
            | ',' :: rest => braced? item n entries rest
            | _ => none
      | _ => none

/-- A value; the number bounds how deep values stand in values. -/
def value? : Nat → List Char → Read Value
  | 0, _ => none
  | n + 1, cs =>
    match cs with
    | '"' :: _ | '\'' :: _ =>
      (string? cs).map fun (text, rest) => (.text (String.ofList text), rest)
    | '[' :: rest =>
      (items? (value? n) (rest.length + 1) rest).map fun (values, rest) => (.array values, rest)
    | '\x7b' :: rest =>
      match rest.dropWhile isSpace with
      | '\x7d' :: after => some (.table [], after)
      | inner =>
        (braced? (value? n) inner.length [] inner).map fun (entries, rest) =>
          (.table entries, rest)
    | _ => scalar? cs

/-- The statement at the front of a text, with the rest after its line. -/
def statement? (cs : List Char) : Read Statement :=
  match cs with
  | '[' :: '[' :: rest =>
    (keyPath? rest.length rest).bind fun (path, rest) =>
      match rest with
      | ']' :: ']' :: rest => (lineEnd? rest).map fun rest => (.arrayHeader path, rest)
      | _ => none
  | '[' :: rest =>
    (keyPath? rest.length rest).bind fun (path, rest) =>
      match rest with
      | ']' :: rest => (lineEnd? rest).map fun rest => (.header path, rest)
      | _ => none
  | _ =>
    (keyPath? cs.length cs).bind fun (path, rest) =>
      match rest with
      | '=' :: rest =>
        (value? rest.length (rest.dropWhile isSpace)).bind fun (value, rest) =>
          (lineEnd? rest).map fun rest => (.entry path value, rest)
      | _ => none

/-- The statements of a text; the number bounds how many there are. -/
def statementsFrom? : Nat → List Char → Option (List Statement)
  | 0, _ => none
  | n + 1, cs =>
    (skipLines cs.length cs).bind fun cs =>
      if cs.isEmpty then some []
      else
        (statement? cs).bind fun (statement, rest) =>
          (statementsFrom? n rest).map fun statements => statement :: statements

/-- The statements of a document.  A mark of the byte order at its start is skipped. -/
def statements? (s : String) : Option (List Statement) :=
  let cs := match s.toList with
    | '\uFEFF' :: rest => rest
    | cs => cs
  statementsFrom? (cs.length + 1) cs

/-- How a table came to be: as part of a longer header, by its own header, or by dotted keys. -/
inductive Origin
  | implied
  | header
  | dotted
  deriving DecidableEq, Repr

/-- What a key of an open table stands for: a finished value, a table that headers or dotted keys
may still extend, or an array of such tables, the last of which is open. -/
inductive Item
  | value (v : Value)
  | table (origin : Origin) (entries : List (String × Item))
  | tables (done : List (List (String × Item))) (last : List (String × Item))
  deriving Inhabited

/-- The entries of a table that is still open. -/
abbrev Entries :=
  List (String × Item)

/-- Entries with the item of one key set. -/
def setItem (key : String) (item : Item) : Entries → Entries
  | [] => [(key, item)]
  | entry :: rest => if entry.1 == key then (key, item) :: rest else entry :: setItem key item rest

/-- Entries changed at the end of a path of keys.  Tables on the way are opened, or made with an
origin; those that exist must be of an origin that may be entered. -/
def within (made : Origin) (enter : Origin → Bool) (change : Entries → Option Entries) :
    List String → Entries → Option Entries
  | [], entries => change entries
  | key :: keys, entries =>
    match entries.lookup key with
    | none =>
      (within made enter change keys []).map fun inner =>
        setItem key (.table made inner) entries
    | some (.table origin inner) =>
      if enter origin then
        (within made enter change keys inner).map fun inner =>
          setItem key (.table origin inner) entries
      else
        none
    | some (.tables done last) =>
      if enter .header then
        (within made enter change keys last).map fun last =>
          setItem key (.tables done last) entries
      else
        none
    | some (.value _) => none

/-- Entries with the table of a header opened. -/
def openTable (key : String) (entries : Entries) : Option Entries :=
  match entries.lookup key with
  | none => some (setItem key (.table .header []) entries)
  | some (.table .implied inner) => some (setItem key (.table .header inner) entries)
  | some _ => none

/-- Entries with a further table of an array opened. -/
def openFurther (key : String) (entries : Entries) : Option Entries :=
  match entries.lookup key with
  | none => some (setItem key (.tables [] []) entries)
  | some (.tables done last) => some (setItem key (.tables (done ++ [last]) []) entries)
  | some _ => none

/-- Entries with a value put at a key that is not there yet. -/
def putValue (key : String) (value : Value) (entries : Entries) : Option Entries :=
  if (entries.lookup key).isSome then none else some (setItem key (.value value) entries)

/-- The entries of a document after one more statement, with the path of the open table. -/
def extend (path : List String) (entries : Entries) :
    Statement → Option (List String × Entries)
  | .header keys =>
    match keys.getLast? with
    | none => none
    | some key =>
      (within .implied (fun _ => true) (openTable key) keys.dropLast entries).map (keys, ·)
  | .arrayHeader keys =>
    match keys.getLast? with
    | none => none
    | some key =>
      (within .implied (fun _ => true) (openFurther key) keys.dropLast entries).map (keys, ·)
  | .entry keys value =>
    match keys.getLast? with
    | none => none
    | some key =>
      let change := within .dotted (· != .header) (putValue key value) keys.dropLast
      (within .implied (fun _ => true) change path entries).map (path, ·)

/-- The entries that statements define, starting from an open table. -/
def buildFrom (path : List String) (entries : Entries) : List Statement → Option Entries
  | [] => some entries
  | statement :: rest =>
    (extend path entries statement).bind fun (path, entries) => buildFrom path entries rest

mutual

/-- An item as a value. -/
def Item.toValue : Item → Value
  | .value v => v
  | .table _ entries => .table (entryValues entries)
  | .tables done last => .array (tableValues done ++ [.table (entryValues last)])

/-- Entries as entries of a value. -/
def entryValues : List (String × Item) → List (String × Value)
  | [] => []
  | (key, item) :: rest => (key, item.toValue) :: entryValues rest

/-- Open tables as values. -/
def tableValues : List (List (String × Item)) → List Value
  | [] => []
  | entries :: rest => .table (entryValues entries) :: tableValues rest

end

/-- The table that a document describes, if it is well formed. -/
def parse? (s : String) : Option (List (String × Value)) :=
  ((statements? s).bind (buildFrom [] [])).map entryValues

end MarkerWatch.Toml
