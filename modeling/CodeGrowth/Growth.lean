import CodeGrowth.Loop
import CodeGrowth.Recursion

/-!
# Growth estimate

The running time is put into one of four orders. Depth decides first: two levels are quadratic,
three or more are cubic or worse, whether loops or other blocks make them. Only below that does it
matter whether there is a loop at all. Recursion leaves the order as it is and adds a caveat.
-/
namespace CodeGrowth.Growth

inductive Order where
  | constant
  | linear
  | quadratic
  | cubic
  deriving DecidableEq, Repr

namespace Order

def level : Order → Nat
  | constant => 0
  | linear => 1
  | quadratic => 2
  | cubic => 3

def label : Order → String
  | constant => "O(1)"
  | linear => "O(n)"
  | quadratic => "O(n²)"
  | cubic => "O(n³) or higher"

def message : Order → String
  | constant =>
    "No loops detected. Runtime does not grow significantly with input size (constant time)."
  | linear =>
    "Single-layer loops detected. Runtime typically grows roughly linearly with input size."
  | quadratic => "Nested loops detected. Runtime likely grows quadratically with input size."
  | cubic => "Deep nesting of loops suggests cubic or higher time complexity."

/-- The order of a program with this many loops and this nesting depth. -/
def ofShape (totalLoops nestDepth : Nat) : Order :=
  if 3 ≤ nestDepth then cubic
  else if 2 ≤ nestDepth then quadratic
  else if 0 < totalLoops then linear
  else constant

end Order

/-- The highest level of an order. -/
def maxLevel : Nat := 3

theorem level_le_maxLevel (order : Order) : order.level ≤ maxLevel := by
  cases order <;> decide

def recursionLabel : String := " (with recursion)"

def recursionCaveat : String :=
  " Recursion is present. Exact complexity depends on the recurrence relation " ++
    "(e.g., T(n)=T(n-1)+O(1) → O(n), T(n)=2T(n-1)+O(1) → O(2ⁿ))."

structure Estimate where
  label : String
  message : String
  totalLoops : Nat
  level : Nat
  deriving DecidableEq, Repr

def estimate (loops : Loop.Counts) (recursion : Recursion.Info) (nestDepth : Nat) : Estimate :=
  let order := Order.ofShape loops.total nestDepth
  let caveat (text : String) : String := if recursion.hasRecursion then text else ""
  ⟨order.label ++ caveat recursionLabel, order.message ++ caveat recursionCaveat, loops.total,
    order.level⟩

end CodeGrowth.Growth
