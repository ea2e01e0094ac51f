/-!
# ExprLang.Value.Entries

Named entries in the order of their names: the containers of the language and the variables of an
evaluation.  Names are compared by code points, and each occurs once; `Entries.insert` and
`Entries.erase` keep it so.
-/

namespace ExprLang

/-- Entries sorted by name. -/
abbrev Entries (α : Type) := List (String × α)

namespace Entries

variable {α : Type}

/-- The entry under a name. -/
def get? (name : String) : Entries α → Option α
  | [] => none
  | (n, v) :: rest => if n = name then some v else get? name rest

/-- Puts an entry under a name, in place of the one that was there. -/
def insert (name : String) (value : α) : Entries α → Entries α
  | [] => [(name, value)]
  | (n, v) :: rest =>
    if name < n then (name, value) :: (n, v) :: rest
    else if n = name then (name, value) :: rest
    else (n, v) :: insert name value rest

/-- Removes the entry under a name. -/
def erase (name : String) : Entries α → Entries α
  | [] => []
  | (n, v) :: rest => if n = name then rest else (n, v) :: erase name rest

/-- Puts entries one after the other; a later one replaces an earlier one of the same name. -/
def insertAll (entries : Entries α) (more : List (String × α)) : Entries α :=
  more.foldl (fun es e => es.insert e.1 e.2) entries

/-- Entries from a list in any order. -/
def ofList (es : List (String × α)) : Entries α := insertAll [] es

/-- The names, in order. -/
def names (entries : Entries α) : List String := entries.map Prod.fst

end Entries

end ExprLang
