import LateBinding.Instance

/-!
The objects of a program by number. An object is never taken away; its number
is its identity.
-/

namespace LateBinding

structure Heap (σ : Type) where
  cells : List (Instance σ)

namespace Heap

variable {σ : Type}

def empty : Heap σ := ⟨[]⟩

def read? (heap : Heap σ) (id : Nat) : Option (Instance σ) :=
  heap.cells[id]?

def write (heap : Heap σ) (id : Nat) (content : Instance σ) : Heap σ :=
  ⟨heap.cells.set id content⟩

def nextId (heap : Heap σ) : Nat :=
  heap.cells.length

def allocate (heap : Heap σ) (content : Instance σ) : Heap σ :=
  ⟨heap.cells ++ [content]⟩

theorem read?_write (heap : Heap σ) (id other : Nat) (content : Instance σ) :
    (heap.write id content).read? other =
      if id = other then (heap.read? other).map fun _ => content else heap.read? other := by
  by_cases same : id = other
  · subst same
    by_cases inside : id < heap.cells.length <;> simp [read?, write, inside]
  · simp [read?, write, same]

theorem read?_allocate (heap : Heap σ) (id : Nat) (content : Instance σ) :
    (heap.allocate content).read? id =
      if id = heap.nextId then some content else heap.read? id := by
  split
  · next same => simp [same, read?, allocate, nextId]
  · next other =>
      unfold nextId at other
      unfold read? allocate
      by_cases before : id < heap.cells.length
      · exact List.getElem?_append_left before
      · have beyond : heap.cells.length + 1 ≤ id := by omega
        rw [List.getElem?_eq_none (by simpa using beyond), List.getElem?_eq_none (by omega)]

end Heap

end LateBinding
