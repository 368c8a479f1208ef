import LateBinding.Call

/-!
The locks of calls that run at the same time. A call keeps its target locked
while its body runs, and its body waits for the objects among its arguments. So
a call keeps its target only once it saw each of these objects unlocked while it
held the target; when it sees one locked, it lets the target go and starts over.
A schedule says which call takes the next step. Locks of readers are left out:
they could only hold steps back, so every order of steps that they allow is a
schedule here.
-/

namespace LateBinding.Locking

structure Request where
  target : Nat
  readers : List Nat
  target_notMem : target ∉ readers

/-- The request of a call on an object, unless the call is refused because the
object is its own argument. -/
def Request.ofCall? (target : Nat) (handles : List (Position × Handle)) : Option Request :=
  if free : target ∉ handles.map (·.2.id) then some ⟨target, handles.map (·.2.id), free⟩
  else none

theorem Request.isSome_ofCall? (target : Nat) (handles : List (Position × Handle)) :
    (Request.ofCall? target handles).isSome = (aliasAt? target handles).isNone := by
  unfold Request.ofCall? aliasAt?
  split
  · next free =>
      have unseen : (handles.find? fun entry => entry.2.id == target) = none := by
        simp only [List.find?_eq_none, beq_iff_eq]
        intro entry member same
        exact free (same ▸ List.mem_map_of_mem member)
      simp [unseen]
  · next seen =>
      obtain ⟨entry, member, same⟩ := List.mem_map.mp (Classical.not_not.mp seen)
      have found : (handles.find? fun entry => entry.2.id == target).isSome :=
        List.find?_isSome.mpr ⟨entry, member, by simp [same]⟩
      cases first : handles.find? fun entry => entry.2.id == target with
      | none => simp [first] at found
      | some _ => simp

inductive Phase where
  | waiting
  /-- Holds the lock and has these objects left to look at. -/
  | probing (left : List Nat)
  /-- Saw a locked object and is about to let go. -/
  | yielding
  | kept
  | finished
  deriving DecidableEq

def Phase.holds : Phase → Bool
  | .probing _ | .yielding | .kept => true
  | .waiting | .finished => false

structure Caller where
  request : Request
  phase : Phase

def isLocked (callers : List Caller) (id : Nat) : Bool :=
  callers.any fun caller => caller.phase.holds && caller.request.target == id

/-- One step of a call, given which objects are locked. A call that cannot go
on stays where it is. -/
def Caller.advance (locked : Nat → Bool) (caller : Caller) : Caller :=
  { caller with phase :=
      match caller.phase with
      | .waiting =>
          if locked caller.request.target then .waiting else .probing caller.request.readers
      | .probing [] => .kept
      | .probing (reader :: left) => if locked reader then .yielding else .probing left
      | .yielding => .waiting
      | .kept => .finished
      | .finished => .finished }

def step (callers : List Caller) (turn : Nat) : List Caller :=
  callers.modify turn (·.advance (isLocked callers))

def run (requests : List Request) (schedule : List Nat) : List Caller :=
  schedule.foldl step (requests.map fun request => ⟨request, .waiting⟩)

/-- The body of one call may wait for the other: both keep their targets, and
one reads what the other keeps. -/
def WaitsFor (callers : List Caller) (reader keeper : Nat) : Prop :=
  ∃ a b, callers[reader]? = some a ∧ callers[keeper]? = some b ∧
    a.phase = .kept ∧ b.phase = .kept ∧ b.request.target ∈ a.request.readers

end LateBinding.Locking
