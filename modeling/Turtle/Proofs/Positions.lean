import Mathlib.Algebra.Order.Group.Abs
import Mathlib.Data.Set.Card
import Turtle.Measure.Distance

/-!
# The distance counts the positions where two programs differ

A node of a program is reached by a path of child indices: `i :: π` is the node at `π` below the
`i`-th top-level command, and below a command, `i :: π` goes on into the `i`-th command of its
body. `Program.labelAt` reads the kind and parameter of the node at a path, identifiers left out,
and nothing where the program has no node; `Program.mismatches` are the paths at which two
programs read differently, a node on one side only counting as a difference.

The positional distance is the number of those paths (`Program.distance_eq_ncard`). Its two
charges are the two halves of the count: a pair of nodes at one index costs its own difference
and that of the bodies below, and a subtree without a partner costs its size, which is its number
of paths (`Command.encard_mismatches_nil`). Read as a count, the distance is a pseudometric that
does not see identifiers, between the difference and the sum of the sizes
(`Program.distance_pseudometric`).
-/

namespace Turtle

variable {ι : Type}

namespace Command

/-- The kind and parameter of the node at a path below a command: the command itself at the
empty path, and at `i :: π` the node at `π` below the `i`-th command of its body. -/
def labelAt : Command ι → List Nat → Option (Kind × Int)
  | c, [] => some (c.kind, c.value)
  | c, i :: π => c.body[i]?.bind (labelAt · π)

end Command

namespace Program

/-- The kind and parameter of the node of a program at a path of child indices; the empty path
names no node. -/
def labelAt (p : Program ι) : List Nat → Option (Kind × Int)
  | [] => none
  | i :: π => p[i]?.bind (·.labelAt π)

/-- The paths at which two programs differ: a node on one side only, or nodes of different kinds
or parameters. -/
def mismatches (p q : Program ι) : Set (List Nat) := {π | p.labelAt π ≠ q.labelAt π}

@[simp] theorem labelAt_nil (p : Program ι) : p.labelAt [] = none := rfl

@[simp] theorem labelAt_empty (π : List Nat) : labelAt ([] : Program ι) π = none := by
  cases π <;> rfl

@[simp] theorem labelAt_cons_zero (c : Command ι) (cs : List (Command ι)) (π : List Nat) :
    labelAt (c :: cs) (0 :: π) = c.labelAt π := rfl

/-- Past the first command, a program reads as the rest of it, one index further. -/
theorem labelAt_succ (p : Program ι) (i : Nat) (π : List Nat) :
    p.labelAt ((i + 1) :: π) = labelAt p.tail (i :: π) := by
  cases p <;> rfl

theorem nil_not_mem_mismatches (p q : Program ι) : [] ∉ p.mismatches q := by
  simp [mismatches]

theorem mismatches_comm (p q : Program ι) : p.mismatches q = q.mismatches p := by
  ext π
  exact ne_comm

end Program

namespace Command

@[simp] theorem labelAt_nil (c : Command ι) : c.labelAt [] = some (c.kind, c.value) := rfl

/-- Below a command, paths read as in its body. -/
theorem labelAt_cons (c : Command ι) (i : Nat) (π : List Nat) :
    c.labelAt (i :: π) = Program.labelAt c.body (i :: π) := rfl

theorem sameNode_iff {a c : Command ι} :
    a.sameNode c = true ↔ (a.kind, a.value) = (c.kind, c.value) := by
  simp [sameNode]

/-- Two commands differ at their own node when they are not the same node, and below it where
their bodies differ. -/
theorem encard_labelAt_ne (a c : Command ι) :
    {π | a.labelAt π ≠ c.labelAt π}.encard =
      (if a.sameNode c then 0 else 1) + (Program.mismatches a.body c.body).encard := by
  have hnil := Program.nil_not_mem_mismatches a.body c.body
  by_cases h : a.sameNode c
  · have hset : {π | a.labelAt π ≠ c.labelAt π} = Program.mismatches a.body c.body := by
      ext π
      cases π with
      | nil => simpa [Program.mismatches] using sameNode_iff.1 h
      | cons i π => simp [Program.mismatches, labelAt_cons]
    simp [hset, h]
  · have hset :
        {π | a.labelAt π ≠ c.labelAt π} = insert [] (Program.mismatches a.body c.body) := by
      ext π
      cases π with
      | nil => simpa using mt sameNode_iff.2 h
      | cons i π => simp [Program.mismatches, labelAt_cons]
    rw [hset, Set.encard_insert_of_notMem hnil]
    simp [h, add_comm]

/-- A command has its own node and the nodes of its body. -/
theorem encard_labelAt_ne_none (a : Command ι) :
    {π | a.labelAt π ≠ none}.encard = 1 + (Program.mismatches a.body []).encard := by
  have hset : {π | a.labelAt π ≠ none} = insert [] (Program.mismatches a.body []) := by
    ext π
    cases π with
    | nil => simp
    | cons i π => simp [Program.mismatches, labelAt_cons]
  rw [hset, Set.encard_insert_of_notMem (Program.nil_not_mem_mismatches _ _), add_comm]

end Command

namespace Program

/-- A path one index further starts with a successor. -/
theorem modifyHead_succ_eq_cons {x π : List Nat} {i : Nat} :
    x.modifyHead (· + 1) = i :: π ↔ ∃ j, x = j :: π ∧ i = j + 1 := by
  cases x <;> simp [eq_comm, and_comm]

/-- The paths of a program split at the first index: those into its first command, and those of
the rest, one index further. -/
theorem mismatches_cons (a : Command ι) (as q : Program ι) :
    mismatches (a :: as) q =
      List.cons 0 '' {π | a.labelAt π ≠ q.labelAt (0 :: π)} ∪
        List.modifyHead (· + 1) '' mismatches as q.tail := by
  ext π
  rcases π with _ | ⟨_ | i, π⟩
  · simp [mismatches]
  · simp [mismatches, modifyHead_succ_eq_cons]
  · simp [mismatches, modifyHead_succ_eq_cons, labelAt_succ]

theorem modifyHead_succ_injective :
    Function.Injective (List.modifyHead (· + 1) : List Nat → List Nat) := by
  rintro (_ | ⟨i, π⟩) (_ | ⟨j, ρ⟩) h <;> simp_all

/-- So the paths where a program with a first command differs from another are counted at the
first index and in the rest. -/
theorem encard_mismatches_cons (a : Command ι) (as q : Program ι) :
    (mismatches (a :: as) q).encard =
      {π | a.labelAt π ≠ q.labelAt (0 :: π)}.encard + (mismatches as q.tail).encard := by
  have hdisj : Disjoint (List.cons 0 '' {π | a.labelAt π ≠ q.labelAt (0 :: π)})
      (List.modifyHead (· + 1) '' mismatches as q.tail) := by
    rw [Set.disjoint_left]
    rintro _ ⟨π, -, rfl⟩ ⟨ρ, -, h⟩
    obtain ⟨j, -, hj⟩ := modifyHead_succ_eq_cons.1 h
    omega
  rw [mismatches_cons, Set.encard_union_eq hdisj, List.cons_injective.encard_image,
    modifyHead_succ_injective.encard_image]

end Program

namespace Command

mutual

/-- A command has one path per node. -/
theorem encard_nodes : ∀ c : Command ι, {π | c.labelAt π ≠ none}.encard = c.size
  | .leaf _ _ => by simp [encard_labelAt_ne_none, body, Program.mismatches, size]
  | .block _ _ b => by
    rw [encard_labelAt_ne_none, body, encard_mismatches_nil b, size]
    push_cast
    rfl

/-- A list of commands has one path per node: the paths where it differs from no commands. -/
theorem encard_mismatches_nil :
    ∀ cs : List (Command ι), (Program.mismatches cs []).encard = sizeAll cs
  | [] => by simp [Program.mismatches, sizeAll]
  | c :: cs => by
    rw [Program.encard_mismatches_cons]
    simp [encard_nodes c, encard_mismatches_nil cs, sizeAll]

end

mutual

/-- **The distance between two commands counts the paths where they differ.** -/
theorem distance_eq_encard :
    ∀ a c : Command ι, (distance a c : ℕ∞) = {π | a.labelAt π ≠ c.labelAt π}.encard
  | .leaf i x, c => by
    rw [encard_labelAt_ne, body, Program.mismatches_comm, encard_mismatches_nil, distance]
    split <;> simp
  | .block i n b, c => by
    rw [encard_labelAt_ne, body, ← distanceAll_eq_encard b c.body, distance]
    split <;> simp

/-- The distance between two lists of commands counts the paths where they differ. -/
theorem distanceAll_eq_encard : ∀ as cs : List (Command ι),
    (distanceAll as cs : ℕ∞) = (Program.mismatches as cs).encard
  | [], cs => by rw [Program.mismatches_comm, encard_mismatches_nil, distanceAll]
  | a :: as, [] => by
    rw [distanceAll, encard_mismatches_nil (a :: as), sizeAll]
  | a :: as, c :: cs => by
    rw [Program.encard_mismatches_cons, distanceAll, Nat.cast_add, distance_eq_encard a c,
      distanceAll_eq_encard as cs]
    rfl

end

end Command

namespace Program

/-- **The positional distance counts the paths where two programs differ.** -/
theorem distance_eq_encard (p q : Program ι) : (p.distance q : ℕ∞) = (p.mismatches q).encard :=
  Command.distanceAll_eq_encard p q

theorem distance_eq_ncard (p q : Program ι) : p.distance q = (p.mismatches q).ncard := by
  rw [Set.ncard_def, ← distance_eq_encard, ENat.toNat_natCast]

theorem distance_comm (p q : Program ι) : p.distance q = q.distance p := by
  have h := distance_eq_encard p q
  rw [mismatches_comm, ← distance_eq_encard] at h
  exact_mod_cast h

theorem distance_eq_zero_iff {p q : Program ι} :
    p.distance q = 0 ↔ ∀ π, p.labelAt π = q.labelAt π := by
  rw [← Nat.cast_eq_zero (R := ℕ∞), distance_eq_encard, Set.encard_eq_zero,
    Set.eq_empty_iff_forall_notMem]
  simp [mismatches]

theorem distance_self (p : Program ι) : p.distance p = 0 :=
  distance_eq_zero_iff.2 fun _ => rfl

/-- Where two programs differ, one of them differs from any third. -/
theorem mismatches_subset_union (p q r : Program ι) :
    p.mismatches r ⊆ p.mismatches q ∪ q.mismatches r := by
  intro π hpr
  by_contra h
  simp only [Set.mem_union, mismatches, Set.mem_ofPred_eq, not_or, not_not] at h
  exact hpr (h.1.trans h.2)

theorem distance_triangle (p q r : Program ι) : p.distance r ≤ p.distance q + q.distance r := by
  have h : (p.distance r : ℕ∞) ≤ p.distance q + q.distance r := by
    rw [distance_eq_encard, distance_eq_encard, distance_eq_encard]
    exact (Set.encard_le_encard (mismatches_subset_union p q r)).trans (Set.encard_union_le _ _)
  exact_mod_cast h

@[simp] theorem distance_nil_left (q : Program ι) : distance [] q = q.size := by
  simp [distance, size, Command.distanceAll]

@[simp] theorem distance_nil_right (p : Program ι) : p.distance [] = p.size := by
  rw [distance_comm, distance_nil_left]

/-- A program is at most the distance larger than another. -/
theorem size_le_size_add_distance (p q : Program ι) : p.size ≤ q.size + p.distance q :=
  calc p.size = p.distance [] := (distance_nil_right p).symm
    _ ≤ p.distance q + q.distance [] := distance_triangle p q []
    _ = q.size + p.distance q := by rw [distance_nil_right, Nat.add_comm]

theorem distance_le_size_add_size (p q : Program ι) : p.distance q ≤ p.size + q.size :=
  calc p.distance q ≤ p.distance [] + distance [] q := distance_triangle p [] q
    _ = p.size + q.size := by rw [distance_nil_right, distance_nil_left]

/-- **The positional distance is a pseudometric that does not see identifiers.** It is
symmetric; it is zero exactly between programs that read the same at every path, that is of one
shape with the same kind and parameter at every node; and it satisfies the triangle inequality.
It lies between the difference and the sum of the sizes, is the size itself from no program, and
is the number of paths at which the two programs differ. -/
theorem distance_pseudometric (a b c : Program ι) :
    a.distance b = b.distance a ∧
    (a.distance b = 0 ↔ ∀ π, a.labelAt π = b.labelAt π) ∧
    a.distance c ≤ a.distance b + b.distance c ∧
    |(a.size : ℤ) - b.size| ≤ a.distance b ∧ a.distance b ≤ a.size + b.size ∧
    distance [] b = b.size ∧
    a.distance b = {π | a.labelAt π ≠ b.labelAt π}.ncard := by
  refine ⟨distance_comm a b, distance_eq_zero_iff, distance_triangle a b c, ?_,
    distance_le_size_add_size a b, distance_nil_left b, distance_eq_ncard a b⟩
  have hab := size_le_size_add_distance a b
  have hba := size_le_size_add_distance b a
  rw [distance_comm b a] at hba
  rw [abs_sub_le_iff]
  omega

end Program

end Turtle
