import Waterfall.Decode.Fields

/-!
# Records out of trees

Reading a record from the members of a tree that is already in memory, for any kind of tree `N` and
any kind of failure `ε` that includes a `Mismatch`.
-/

namespace Waterfall

/-- A way to read a value out of a node. -/
abbrev Decoder (N ε : Type) (α : Type) := ReaderT N (Except ε) α

namespace Fields

variable {N ε : Type}

/-- Reads the members in order. A name may need to be read itself, and an unknown member is handed
to `ignore`; either may be refused. -/
def readMembers {K : Type} (lift : Mismatch → ε) (name : K → Except ε String)
    (ignore : Decoder N ε Unit) {ts : List Type} (fs : Fields (Decoder N ε) ts) :
    Slots ts → List (K × N) → Except ε (Slots ts)
  | slots, [] => .ok slots
  | slots, (key, node) :: rest => do
    match fs.lookup (← name key) slots with
    | .unknown =>
      ignore node
      readMembers lift name ignore fs slots rest
    | .repeated field => .error (lift (.duplicateField field))
    | .takes read =>
      let slots ← read node
      readMembers lift name ignore fs slots rest

/-- The record given by named members. -/
def ofMembers {K : Type} (lift : Mismatch → ε) (name : K → Except ε String)
    (ignore : Decoder N ε Unit) {ts : List Type} (fs : Fields (Decoder N ε) ts)
    (members : List (K × N)) : Except ε (Values ts) := do
  let slots ← fs.readMembers lift name ignore fs.empty members
  (fs.complete slots).mapError lift

/-- The record given by a list of values in field order, and the values left over. -/
def ofItems (lift : Mismatch → ε) (title : String) (total : Nat) :
    {ts : List Type} → Fields (Decoder N ε) ts → Nat → List N → Except ε (Values ts × List N)
  | _, .nil, _, nodes => .ok ((), nodes)
  | _, fs@(.cons _ _), given, [] => (fs.unlisted title total given).map (·, []) |>.mapError lift
  | _, .cons f rest, given, node :: nodes => do
    let v ← f.read node
    let (vs, left) ← rest.ofItems lift title total (given + 1) nodes
    return ((v, vs), left)

end Fields

end Waterfall
