/-!
# Json/Basic — data values

`Json` is the data every part of the library exchanges: render contexts, recipe arguments,
configuration defaults, audit records.  The fields of an object stand in byte order of their names,
each name once; `Fields.insert` keeps that order, and `Fields.get?` reads it.  `get?_insert_self` and
`get?_insert_of_ne` say what an insertion does to every name.
-/

namespace Scaffold

/-- A **number**: an integer of 64 bits, signed or unsigned, or a double. -/
inductive Number where
  | int (n : Int)
  | float (x : Float)
deriving DecidableEq, Inhabited

/-- A **data value**. -/
inductive Json where
  | null
  | bool (b : Bool)
  | num (n : Number)
  | str (s : String)
  | arr (items : List Json)
  | obj (fields : List (String × Json))
deriving Inhabited

/-- The **fields** of an object. -/
abbrev Fields := List (String × Json)

/-- The scope names and contents are rendered against. -/
abbrev Context := Fields

namespace Fields

/-- The value under a name. -/
def get? : Fields → String → Option Json
  | [], _ => none
  | (k, v) :: fs, key => if k = key then some v else get? fs key

/-- Whether a name is held. -/
def has (fs : Fields) (key : String) : Bool := (get? fs key).isSome

/-- Sets the value under a name, in its place in the order of names. -/
def insert : Fields → String → Json → Fields
  | [], key, value => [(key, value)]
  | (k, v) :: fs, key, value =>
    if k = key then (key, value) :: fs
    else if key < k then (key, value) :: (k, v) :: fs
    else (k, v) :: insert fs key value

/-- Removes a name. -/
def erase (fs : Fields) (key : String) : Fields := fs.filter fun f => f.1 ≠ key

/-- Inserts pairs in turn, so that the last of equal names wins. -/
def insertAll (fs : Fields) (pairs : List (String × Json)) : Fields :=
  pairs.foldl (fun acc p => insert acc p.1 p.2) fs

/-- The fields that a list of pairs writes out. -/
def ofPairs (pairs : List (String × Json)) : Fields := insertAll [] pairs

/-- **Flat merge**: the top-level names of `extra` replace those of `context`. -/
def merge (context extra : Fields) : Fields := insertAll context extra

@[simp] theorem get?_nil (key : String) : get? [] key = none := rfl

/-- An inserted value is found. -/
theorem get?_insert_self : ∀ (fs : Fields) (key : String) (value : Json),
    get? (insert fs key value) key = some value
  | [], key, value => by simp [insert, get?]
  | (k, v) :: fs, key, value => by
    by_cases h : k = key
    · simp [insert, get?, h]
    · by_cases hlt : key < k
      · simp [insert, get?, h, hlt]
      · simp [insert, get?, h, hlt, get?_insert_self fs key value]

/-- Other names keep their values. -/
theorem get?_insert_of_ne : ∀ (fs : Fields) (key other : String) (value : Json), key ≠ other →
    get? (insert fs key value) other = get? fs other
  | [], key, other, value, hne => by simp [insert, get?, hne]
  | (k, v) :: fs, key, other, value, hne => by
    by_cases h : k = key
    · subst h; simp [insert, get?, hne]
    · by_cases hlt : key < k
      · simp [insert, get?, h, hlt, hne]
      · simp [insert, get?, h, hlt, get?_insert_of_ne fs key other value hne]

end Fields

namespace Json

/-- An object from pairs in any order. -/
def object (pairs : List (String × Json)) : Json := .obj (Fields.ofPairs pairs)

/-- An integer. -/
def int (n : Int) : Json := .num (.int n)

/-- A list of texts. -/
def strings (xs : List String) : Json := .arr (xs.map .str)

/-- A text, or null. -/
def ofOption : Option String → Json
  | none => .null
  | some s => .str s

/-- Whether the value is an object. -/
def isObject : Json → Bool
  | .obj _ => true
  | _ => false

/-- The fields of an object. -/
def fields? : Json → Option Fields
  | .obj fs => some fs
  | _ => none

/-- The text of a string. -/
def str? : Json → Option String
  | .str s => some s
  | _ => none

/-- The member of an object under a name. -/
def member? : Json → String → Option Json
  | .obj fs, key => Fields.get? fs key
  | _, _ => none

end Json

end Scaffold
