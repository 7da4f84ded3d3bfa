import SqlFilter.Named
import SqlFilter.Value.Display

/-!
# Parameters by name

A bag of named values that remembers the order in which names were first set.  Setting a name again replaces its value
and keeps its place: `get?_set` says which values a bag has after a set, `names_set` which names, in order.
-/

namespace SqlFilter

/-- Named values in the order in which the names were first set. -/
structure Params where
  entries : List (String × Value) := []
deriving DecidableEq

namespace Params

def empty : Params := {}

/-- The bag with a value under a name. -/
def set (p : Params) (name : String) (v : Value) : Params := ⟨Named.put name v p.entries⟩

def get? (p : Params) (name : String) : Option Value := p.entries.lookup name

/-- The bag has a value under the name. -/
def contains (p : Params) (name : String) : Bool := (p.get? name).isSome

def size (p : Params) : Nat := p.entries.length

def names (p : Params) : List String := p.entries.map Prod.fst

def values (p : Params) : List Value := p.entries.map Prod.snd

/-- The bag that holds the entries of a list, set one after the other. -/
def ofList (entries : List (String × Value)) : Params := entries.foldl (fun p e => p.set e.1 e.2) empty

/-- Setting a name changes the value of that name only. -/
theorem get?_set (p : Params) (name k : String) (v : Value) :
    (p.set name v).get? k = if k = name then some v else p.get? k :=
  Named.lookup_put name k v p.entries

/-- A new name comes last; a name that is there keeps its place. -/
theorem names_set (p : Params) (name : String) (v : Value) :
    (p.set name v).names = if name ∈ p.names then p.names else p.names ++ [name] :=
  Named.map_fst_put name v p.entries

/-- A new name comes last with its value. -/
theorem entries_set_of_notMem {p : Params} {name : String} {v : Value} (h : name ∉ p.names) :
    (p.set name v).entries = p.entries ++ [(name, v)] :=
  Named.put_of_notMem h

def toDocument (p : Params) : Document := .table (p.entries.map fun e => (e.1, e.2.toDocument))

end Params

end SqlFilter
