import Mathlib.Init

/-!
# Ends of the process

The program stops itself in two ways: a failing `assert` and a call of `myexit`. A use of
a pointer that was never set has no defined result at all, and a loop may never end; the
model stops there too.
Every modelled function that can do so returns in `Exec`, so that a state after a stopped
process does not exist. An error return of a C function is an ordinary value instead.
-/
namespace Udp2raw

/-- Why the process stopped. -/
inductive Fault where
  /-- A failing `assert`, with its condition. -/
  | assertion (condition : String)
  /-- A call of `myexit`, with the message logged before it. -/
  | exit (message : String)
  /-- The use of an unset or dangling pointer. -/
  | undefined (pointer : String)
  /-- A loop that does not end. -/
  | endless (loop : String)
  deriving DecidableEq, Repr

/-- A computation that may stop the process. -/
abbrev Exec (α : Type) := Except Fault α

/-- `assert(condition)`. -/
def assert (condition : Bool) (text : String) : Exec Unit :=
  if condition then .ok () else .error (.assertion text)

end Udp2raw
