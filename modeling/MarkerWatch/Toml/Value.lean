/-!
# Values of a TOML document

Settings are texts, so numbers, truth values and dates are kept only as scalars without a value.
-/

namespace MarkerWatch.Toml

/-- A value of a document. -/
inductive Value
  | text (s : String)
  | scalar
  | array (items : List Value)
  | table (entries : List (String × Value))
  deriving Repr, Inhabited

/-- The text of a value, if it is one. -/
def Value.text? : Value → Option String
  | .text s => some s
  | _ => none

/-- One line of a document: a table header, the header of a further table in an array of tables, or
a key with its value. -/
inductive Statement
  | header (path : List String)
  | arrayHeader (path : List String)
  | entry (path : List String) (value : Value)
  deriving Repr, Inhabited

end MarkerWatch.Toml
