import Turtle.Command.Basic

/-!
# Positional distance between programs

Two programs are compared position by position, without any search for a better alignment:
at each index present in both, the nodes cost one when their kinds or parameters differ
(identifiers never count, and a block is compared by its count only), and their bodies are
compared the same way, a leaf having an empty body; a node present on one side only costs the
size of its subtree.
-/

namespace Turtle

variable {ι : Type}

namespace Command

/-- Two commands agree as nodes: same kind and same parameter. -/
def sameNode (a b : Command ι) : Bool := a.kind == b.kind && a.value == b.value

mutual

/-- The distance between two commands at the same position: one for differing nodes, plus the
distance between their bodies. -/
def distance : Command ι → Command ι → Nat
  | a@(.leaf _ _), c => (if a.sameNode c then 0 else 1) + sizeAll c.body
  | a@(.block _ _ b), c => (if a.sameNode c then 0 else 1) + distanceAll b c.body

/-- The distance between two lists of commands, position by position; the commands past the end
of the shorter list cost their sizes. -/
def distanceAll : List (Command ι) → List (Command ι) → Nat
  | [], cs => sizeAll cs
  | a :: as, [] => size a + sizeAll as
  | a :: as, c :: cs => distance a c + distanceAll as cs

end

end Command

/-- The positional edit distance between two programs. -/
def Program.distance (p q : Program ι) : Nat := Command.distanceAll p q

end Turtle
