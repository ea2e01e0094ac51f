import ExprLang.Value.Basic

/-!
# ExprLang.Value.Document

Plain data documents (nothing, booleans, numbers, texts, lists and fields), and the values and
variables made of them.
-/

namespace ExprLang

/-- A document of plain data. -/
inductive Document
  | null
  | boolean (b : Bool)
  | number (x : Float)
  | text (s : String)
  | list (items : List Document)
  | object (fields : List (String × Document))

instance : Inhabited Document := ⟨.null⟩

mutual

/-- The value of a document.  Of two fields of one name the later counts. -/
def Value.ofDocument : Document → Value
  | .null => .null
  | .boolean b => .boolean b
  | .number x => .number x
  | .text s => .string s
  | .list items => .array (Value.ofDocuments items)
  | .object fields => .map (Entries.ofList (Value.ofFields fields))

/-- The values of some documents. -/
def Value.ofDocuments : List Document → List Value
  | [] => []
  | d :: ds => Value.ofDocument d :: Value.ofDocuments ds

/-- The values of some fields. -/
def Value.ofFields : List (String × Document) → List (String × Value)
  | [] => []
  | (n, d) :: fs => (n, Value.ofDocument d) :: Value.ofFields fs

end

/-- The variables of a document: its fields, or none if it has no fields. -/
def Bag.ofDocument (d : Document) : Bag :=
  match Value.ofDocument d with
  | .map entries => entries
  | _ => []

end ExprLang
