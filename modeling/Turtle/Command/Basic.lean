/-!
# Commands and programs

A drawing program is a list of commands. A command is a leaf, which moves the pen a number of
cells forward or backward or turns it a number of degrees right or left, or a repeat block,
which runs its body a number of times. Every command carries an identifier of type `ι`.

* `Kind` is the five kinds a command is created with, named as the editor names them.
* `Command.size` and `Program.size` count nodes; `Program.ids` lists the identifiers in pre-order.
* `Program.find?` is the first node in pre-order with a given identifier, and `Program.childrenOf`
  the commands a container addresses: the top level, a block's body, or nothing.
-/

namespace Turtle

/-- The five kinds of command, as the editor names them. -/
inductive Kind where
  | forward
  | backward
  | turnRight
  | turnLeft
  | repeat
deriving Repr, DecidableEq

namespace Kind

/-- The editor's name of a kind. -/
def name : Kind → String
  | .forward => "FORWARD"
  | .backward => "BACKWARD"
  | .turnRight => "TURN_RIGHT"
  | .turnLeft => "TURN_LEFT"
  | .repeat => "REPEAT"

/-- All kinds, in the editor's order. -/
def all : List Kind := [.forward, .backward, .turnRight, .turnLeft, .repeat]

/-- The kind with the given name; names are matched exactly. -/
def ofName? (s : String) : Option Kind := all.find? (·.name == s)

end Kind

/-- The direction of a move. -/
inductive Stroke where
  | forward
  | backward
deriving Repr, DecidableEq

/-- The side of a turn. -/
inductive Rotation where
  | right
  | left
deriving Repr, DecidableEq

/-- What a leaf does. -/
inductive Action where
  /-- move the pen `cells` grid cells along the heading (backward: against it) -/
  | move (way : Stroke) (cells : Int)
  /-- turn the heading `degrees` degrees clockwise (left: counter-clockwise) -/
  | turn (way : Rotation) (degrees : Int)
deriving Repr, DecidableEq

namespace Action

/-- The kind of a leaf action. -/
def kind : Action → Kind
  | .move .forward _ => .forward
  | .move .backward _ => .backward
  | .turn .right _ => .turnRight
  | .turn .left _ => .turnLeft

/-- The parameter of a leaf action. -/
def value : Action → Int
  | .move _ n | .turn _ n => n

/-- The same action with another parameter. -/
def withValue (a : Action) (n : Int) : Action :=
  match a with
  | .move w _ => .move w n
  | .turn w _ => .turn w n

end Action

/-- A command of a drawing program. -/
inductive Command (ι : Type) where
  /-- a move or a turn -/
  | leaf (id : ι) (act : Action)
  /-- a block that runs `body` `count` times -/
  | block (id : ι) (count : Nat) (body : List (Command ι))
deriving Repr

/-- A drawing program: its top-level commands in order. -/
abbrev Program (ι : Type) := List (Command ι)

/-- A leaf taken out of its program, as a run executes it. -/
structure Leaf (ι : Type) where
  id : ι
  act : Action
deriving Repr

variable {ι : Type}

namespace Command

/-- The identifier of a command. -/
def id : Command ι → ι
  | .leaf i _ | .block i _ _ => i

/-- The kind of a command. -/
def kind : Command ι → Kind
  | .leaf _ a => a.kind
  | .block _ _ _ => .repeat

/-- The parameter of a command: a leaf's cells or degrees, a block's count. -/
def value : Command ι → Int
  | .leaf _ a => a.value
  | .block _ n _ => n

/-- The body of a block; a leaf has none. -/
def body : Command ι → List (Command ι)
  | .leaf _ _ => []
  | .block _ _ b => b

/-- The command is a repeat block. -/
def isBlock : Command ι → Bool
  | .leaf _ _ => false
  | .block _ _ _ => true

mutual

/-- The number of nodes of a command's tree. -/
def size : Command ι → Nat
  | .leaf _ _ => 1
  | .block _ _ b => 1 + sizeAll b

/-- The number of nodes of a list of trees. -/
def sizeAll : List (Command ι) → Nat
  | [] => 0
  | c :: cs => size c + sizeAll cs

end

mutual

/-- The identifiers of a command's tree in pre-order. -/
def ids : Command ι → List ι
  | .leaf i _ => [i]
  | .block i _ b => i :: idsAll b

/-- The identifiers of a list of trees in pre-order. -/
def idsAll : List (Command ι) → List ι
  | [] => []
  | c :: cs => ids c ++ idsAll cs

end

end Command

namespace Program

/-- The number of nodes of a program. -/
def size (p : Program ι) : Nat := Command.sizeAll p

/-- The identifiers of a program in pre-order. -/
def ids (p : Program ι) : List ι := Command.idsAll p

variable [DecidableEq ι]

/-- The first command in pre-order with identifier `x`. -/
def find? (x : ι) : Program ι → Option (Command ι)
  | [] => none
  | c :: cs =>
    if c.id = x then some c
    else match c with
      | .leaf _ _ => find? x cs
      | .block _ _ b =>
        match find? x b with
        | some d => some d
        | none => find? x cs

/-- The commands a container addresses: the top level for `none`, the body of the first match
when that is a block, and nothing otherwise. -/
def childrenOf (p : Program ι) : Option ι → Program ι
  | none => p
  | some x =>
    match find? x p with
    | some (.block _ _ b) => b
    | _ => []

end Program

end Turtle
