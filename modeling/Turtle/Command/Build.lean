import Turtle.Fault

/-!
# Building commands from editor data

A command described by the editor (`Draft`) names its form, its identifier, and its kind and
value as raw data. `Draft.build` checks it the way a command must be checked: a move or a turn
checks its kind first and then its value; a block builds its body first, then checks that its
count is an integer and not negative. The first failure in that order is the answer.

`create` is the editor's way to make a fresh command from a kind name and a typed value, with
the editor's defaults, and `Command.withValue` replaces a command's parameter by raw data, a
block's count being clamped at zero first.
-/

namespace Turtle

/-- A command as the editor describes it, before any check. -/
inductive Draft (ι : Type) where
  | mk (form : Form) (id : ι) (kind : Datum) (value : Datum) (body : List (Draft ι))

/-- The integer of a datum that is an integer, or the fault that it is not one. -/
def Datum.toInteger : Datum → Except Fault Int
  | .int n => .ok n
  | d => .error (.notInteger d)

/-- The kind a move or turn is built with: a kind name of the form's own kinds. -/
def Form.checkKind (f : Form) (k : Datum) : Except Fault Kind :=
  match k with
  | .text s =>
    match Kind.ofName? s with
    | some kind =>
      let allowed := match f, kind with
        | .move, .forward | .move, .backward | .turn, .turnRight | .turn, .turnLeft => true
        | _, _ => false
      if allowed then .ok kind else .error (.wrongKind f kind)
    | none => .error (.unknownKind k)
  | _ => .error (.unknownKind k)

/-- The leaf action of a kind with its parameter; a block kind has none. -/
def Kind.action? : Kind → Int → Option Action
  | .forward, n => some (.move .forward n)
  | .backward, n => some (.move .backward n)
  | .turnRight, n => some (.turn .right n)
  | .turnLeft, n => some (.turn .left n)
  | .repeat, _ => none

/-- A block's count from its checked integer. -/
def blockCount (n : Int) : Except Fault Nat :=
  if n < 0 then .error (.negativeCount n) else .ok n.toNat

variable {ι : Type}

mutual

/-- The command a draft describes, or the first fault of its checks. -/
def Draft.build : Draft ι → Except Fault (Command ι)
  | .mk .block i _ v b => do
    let body ← Draft.buildAll b
    let n ← v.toInteger
    let count ← blockCount n
    pure (.block i count body)
  | .mk f i k v _ => do
    let kind ← f.checkKind k
    let n ← v.toInteger
    match kind.action? n with
    | some a => pure (.leaf i a)
    | none => throw (.wrongKind f kind)

/-- The commands a list of drafts describes, or the first fault in order. -/
def Draft.buildAll : List (Draft ι) → Except Fault (List (Command ι))
  | [] => pure []
  | d :: ds => do
    let c ← Draft.build d
    let cs ← Draft.buildAll ds
    pure (c :: cs)

end

/-- A supply of fresh identifiers `gen1`, `gen2`, … in order of creation. -/
structure IdSupply where
  /-- the number of the next identifier -/
  next : Nat := 1
deriving Repr

/-- The next fresh identifier and the supply after it. -/
def IdSupply.take (s : IdSupply) : String × IdSupply :=
  ("gen" ++ toString s.next, ⟨s.next + 1⟩)

/-- The parameter a new command of a kind gets when none is typed. -/
def Kind.defaultValue : Kind → Int
  | .repeat => 2
  | .turnRight | .turnLeft => 90
  | .forward | .backward => 1

/-- The kind a datum asks for: exactly one of the kind names. -/
def Kind.ofDatum (k : Datum) : Except Fault Kind :=
  match k with
  | .text s => match Kind.ofName? s with
    | some kind => .ok kind
    | none => .error (.notAKind k)
  | _ => .error (.notAKind k)

/-- A new command of a kind with a typed value (nothing typed: the kind's default), a block's
count clamped at zero, and the identifier `id`. -/
def Kind.create (kind : Kind) (value : Datum) (id : ι) : Command ι :=
  let n := match value with
    | .none => kind.defaultValue
    | v => v.asInt
  match kind.action? n with
  | some a => .leaf id a
  | none => .block id (max n 0).toNat []

/-- A new command from a kind datum and a typed value, with the given identifier or else a fresh
one. The kind is checked first, and a fresh identifier is only drawn for a valid kind. -/
def create (kind : Datum) (value : Datum) (id : Option String) (ids : IdSupply) :
    Except Fault (Command String × IdSupply) := do
  let k ← Kind.ofDatum kind
  let (i, ids) := match id with
    | some i => (i, ids)
    | none => ids.take
  pure (k.create value i, ids)

/-- A block count from raw data: the larger of the datum and zero, where comparing with zero is
defined for integers, truth values and doubles only. -/
def Datum.clampCount : Datum → Except Fault Datum
  | .int n => .ok (.int (max n 0))
  | .bool b => .ok (.bool b)
  | .float x => .ok (if x < 0 then .int 0 else .float x)
  | d => .error (.notComparable d)

/-- The command with its parameter replaced by raw data, kind and body kept. -/
def Command.withValue : Command ι → Datum → Except Fault (Command ι)
  | .leaf i a, v => do
    let n ← v.toInteger
    pure (.leaf i (a.withValue n))
  | .block i _ b, v => do
    let c ← v.clampCount
    let n ← c.toInteger
    let count ← blockCount n
    pure (.block i count b)

end Turtle
