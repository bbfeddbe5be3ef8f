/-!
TOML values, and tables while they are put together. A key is defined once. A table may be stated by
one header, or come from dotted keys, or be implied by the headers of its subtables until it is
stated itself.
-/

namespace ProofTutor

inductive Toml where
  | str (text : String)
  | int (value : Int)
  | float (text : String)
  | bool (value : Bool)
  | datetime (text : String)
  | arr (items : List Toml)
  | table (members : List (String × Toml))
  deriving Inhabited

namespace Toml

inductive Origin where
  | implied | dotted | stated
  deriving DecidableEq, Repr

inductive Draft where
  | value (value : Toml)
  | table (origin : Origin) (members : List (String × Draft))
  | tables (items : List (List (String × Draft)))
  deriving Inhabited

abbrev Members := List (String × Draft)

namespace Members

def lookup? (members : Members) (key : String) : Option Draft :=
  (members.find? (·.1 == key)).map (·.2)

def put (members : Members) (key : String) (draft : Draft) : Members :=
  if members.any (·.1 == key) then
    members.map fun (k, d) => if k == key then (k, draft) else (k, d)
  else members ++ [(key, draft)]

def add? (members : Members) (key : String) (draft : Draft) : Option Members :=
  if members.any (·.1 == key) then none else some (members ++ [(key, draft)])

/-- Adds a value under a dotted key whose last part is `key`. The tables on the way must not be
stated, and the one that gets the value must come from dotted keys. -/
def addDotted? (origin : Origin) (key : String) (value : Toml) :
    (path : List String) → Members → Option Members
  | [], members => if origin = .dotted then members.add? key (.value value) else none
  | name :: path, members =>
    match members.lookup? name with
    | none => do
      let inner ← addDotted? .dotted key value path []
      return members.put name (.table .dotted inner)
    | some (.table .stated _) | some (.value _) | some (.tables []) => none
    | some (.table origin inner) => do
      return members.put name (.table origin (← addDotted? origin key value path inner))
    | some (.tables (last :: earlier)) => do
      return members.put name (.tables ((← addDotted? .stated key value path last) :: earlier))

def addPair? (members : Members) (path : List String) (key : String) (value : Toml) :
    Option Members :=
  if path = [] then members.add? key (.value value) else addDotted? .stated key value path members

def at? (change : Members → Option Members) : (path : List String) → Members → Option Members
  | [], members => change members
  | name :: path, members =>
    match members.lookup? name with
    | none => do return members.put name (.table .implied (← at? change path []))
    | some (.value _) | some (.tables []) => none
    | some (.table origin inner) => do
      return members.put name (.table origin (← at? change path inner))
    | some (.tables (last :: earlier)) => do
      return members.put name (.tables ((← at? change path last) :: earlier))

def state? (members : Members) (key : String) : Option Members :=
  match members.lookup? key with
  | none => some (members.put key (.table .stated []))
  | some (.table .implied inner) => some (members.put key (.table .stated inner))
  | some _ => none

def another? (members : Members) (key : String) : Option Members :=
  match members.lookup? key with
  | none => some (members.put key (.tables [[]]))
  | some (.tables items) => some (members.put key (.tables ([] :: items)))
  | some _ => none

end Members

mutual

def Draft.finish : Draft → Toml
  | .value value => value
  | .table _ members => .table (finishMembers members)
  | .tables items => .arr (finishTables items).reverse

def finishMembers : List (String × Draft) → List (String × Toml)
  | [] => []
  | (key, draft) :: rest => (key, draft.finish) :: finishMembers rest

def finishTables : List (List (String × Draft)) → List Toml
  | [] => []
  | members :: rest => .table (finishMembers members) :: finishTables rest

end

end Toml

end ProofTutor
