import CompilationChecks.SortedTable

/-!
How many calls are open, counted for each thread and each delegate on its own. A count exists
only while it is not zero, so when no call is open there is nothing left to remember.
-/

namespace CompilationChecks.Log

/-- A thread together with a delegate that it calls. -/
structure Lane where
  /-- The number of the thread. -/
  thread : UInt64
  /-- The number of the delegate. -/
  delegate : Nat
  deriving DecidableEq, Repr

namespace Lane

instance : Ord Lane :=
  ⟨compareLex (compareOn Lane.thread) (compareOn Lane.delegate)⟩

instance : Std.TransOrd Lane :=
  inferInstanceAs (Std.TransCmp (compareLex (compareOn Lane.thread) (compareOn Lane.delegate)))

instance : Std.LawfulEqOrd Lane where
  eq_of_compare {left right} same := by
    have both := compareLex_eq_eq.1 same
    have sameThread : left.thread = right.thread :=
      Std.LawfulEqOrd.eq_of_compare both.1
    have sameDelegate : left.delegate = right.delegate :=
      Std.LawfulEqOrd.eq_of_compare both.2
    cases left
    cases right
    simp_all

end Lane

/-- The number of open calls of each lane that has any. No count comes near `2 ^ 32`, so all of them
fit into the 32 bits in which events show depths: an open call keeps a frame on the stack of its
thread, and no stack has room for so many. -/
abbrev Depths := SortedTable Lane Nat

namespace Depths

/-- The number of open calls of a lane. -/
def count (depths : Depths) (lane : Lane) : Nat :=
  (depths.find? lane).getD 0

/-- A call of a lane begins. -/
def enter (depths : Depths) (lane : Lane) : Depths :=
  depths.update lane fun open? => open?.getD 0 + 1

/-- A call of a lane ends. -/
def leave (depths : Depths) (lane : Lane) : Depths :=
  match depths.find? lane with
  | none => depths
  | some count => if count ≤ 1 then depths.erase lane else depths.insert lane (count - 1)

end Depths

end CompilationChecks.Log
