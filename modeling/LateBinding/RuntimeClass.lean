import LateBinding.Body
import LateBinding.Modifiers
import LateBinding.Text.Quoted

/-!
Registered classes. A class is the root of its hierarchy or derived from one
base class; its table holds the inherited slots with its own overrides put in,
so that a virtual call is one look-up.
-/

namespace LateBinding

variable {σ ε : Type}

/-- What fills a slot: the name of the method, the class whose registration
filled it last, and a body unless the slot is still abstract. -/
structure TableEntry (σ ε : Type) where
  name : String
  declaredBy : String
  body : Option (MethodBody σ ε)

namespace TableEntry

def isAbstract (entry : TableEntry σ ε) : Bool :=
  entry.body.isNone

def inspect (entry : TableEntry σ ε) : String :=
  Text.record "VirtualSlot"
    [("name", Text.quote entry.name), ("declared_by", Text.quote entry.declaredBy),
     ("abstract", Text.flag entry.isAbstract)]

end TableEntry

/-- Slots and what fills them. No slot is listed twice. -/
structure MethodTable (σ ε : Type) where
  entries : List (Fingerprint × TableEntry σ ε)

namespace MethodTable

def empty : MethodTable σ ε := ⟨[]⟩

def find? (table : MethodTable σ ε) (slot : Fingerprint) : Option (TableEntry σ ε) :=
  table.entries.lookup slot

/-- Fills the first entry of a slot, or adds one at the end. -/
def fill (slot : Fingerprint) (entry : TableEntry σ ε) :
    List (Fingerprint × TableEntry σ ε) → List (Fingerprint × TableEntry σ ε)
  | [] => [(slot, entry)]
  | first :: rest =>
      if slot = first.1 then (slot, entry) :: rest else first :: fill slot entry rest

def insert (table : MethodTable σ ε) (slot : Fingerprint) (entry : TableEntry σ ε) :
    MethodTable σ ε :=
  ⟨fill slot entry table.entries⟩

def size (table : MethodTable σ ε) : Nat :=
  table.entries.length

def slots (table : MethodTable σ ε) : List Fingerprint :=
  table.entries.map (·.1)

def firstAbstract? (table : MethodTable σ ε) : Option (TableEntry σ ε) :=
  (table.entries.map (·.2)).find? (·.isAbstract)

theorem find?_empty (slot : Fingerprint) : (empty : MethodTable σ ε).find? slot = none :=
  rfl

theorem lookup_fill (slot other : Fingerprint) (entry : TableEntry σ ε)
    (entries : List (Fingerprint × TableEntry σ ε)) :
    (fill slot entry entries).lookup other =
      if other = slot then some entry else entries.lookup other := by
  induction entries with
  | nil =>
      by_cases same : other = slot
      · simp [fill, same]
      · have differ : (other == slot) = false := by simpa using same
        simp [fill, List.lookup_cons, same, differ]
  | cons first rest ih =>
      rcases first with ⟨key, old⟩
      by_cases known : slot = key
      · subst key
        by_cases same : other = slot
        · simp [fill, same]
        · have differ : (other == slot) = false := by simpa using same
          simp [fill, List.lookup_cons, same, differ]
      · by_cases same : other = key
        · subst key
          simp [fill, known, Ne.symm known]
        · have differ : (other == key) = false := by simpa using same
          simpa [fill, List.lookup_cons, known, differ] using ih

theorem find?_insert (table : MethodTable σ ε) (slot other : Fingerprint) (entry : TableEntry σ ε) :
    (table.insert slot entry).find? other =
      if other = slot then some entry else table.find? other :=
  lookup_fill slot other entry table.entries

theorem mem_fill {slot other : Fingerprint} {entry : TableEntry σ ε}
    {entries : List (Fingerprint × TableEntry σ ε)} :
    other ∈ (fill slot entry entries).map (·.1) ↔
      other = slot ∨ other ∈ entries.map (·.1) := by
  induction entries with
  | nil => simp [fill]
  | cons first rest ih =>
      by_cases known : slot = first.1
      · simp [fill, known]
      · simp only [fill, known, ↓reduceIte, List.map_cons, List.mem_cons, ih, or_left_comm]

theorem nodup_fill {slot : Fingerprint} {entry : TableEntry σ ε}
    {entries : List (Fingerprint × TableEntry σ ε)} (apart : (entries.map (·.1)).Nodup) :
    ((fill slot entry entries).map (·.1)).Nodup := by
  induction entries with
  | nil => simp [fill]
  | cons first rest ih =>
      rw [List.map_cons, List.nodup_cons] at apart
      by_cases known : slot = first.1
      · simpa [fill, known] using apart
      · rw [fill, if_neg known, List.map_cons, List.nodup_cons]
        refine ⟨fun member => ?_, ih apart.2⟩
        rcases mem_fill.mp member with same | old
        · exact known same.symm
        · exact apart.1 old

theorem nodup_slots_insert (table : MethodTable σ ε) (slot : Fingerprint) (entry : TableEntry σ ε)
    (apart : table.slots.Nodup) : (table.insert slot entry).slots.Nodup :=
  nodup_fill apart

end MethodTable

structure ClassRecord (σ ε : Type) where
  name : String
  native : NativeType
  kind : Kind
  modifiers : Modifiers
  table : MethodTable σ ε

inductive RuntimeClass (σ ε : Type) where
  | root (own : ClassRecord σ ε)
  | derived (own : ClassRecord σ ε) (base : RuntimeClass σ ε)

namespace RuntimeClass

def own : RuntimeClass σ ε → ClassRecord σ ε
  | .root own | .derived own _ => own

def base? : RuntimeClass σ ε → Option (RuntimeClass σ ε)
  | .root _ => none
  | .derived _ base => some base

def onBase (own : ClassRecord σ ε) : Option (RuntimeClass σ ε) → RuntimeClass σ ε
  | none => .root own
  | some base => .derived own base

def name (c : RuntimeClass σ ε) : String := c.own.name
def native (c : RuntimeClass σ ε) : NativeType := c.own.native
def kind (c : RuntimeClass σ ε) : Kind := c.own.kind
def modifiers (c : RuntimeClass σ ε) : Modifiers := c.own.modifiers
def table (c : RuntimeClass σ ε) : MethodTable σ ε := c.own.table
def isAbstract (c : RuntimeClass σ ε) : Bool := c.modifiers.isAbstract
def isSealed (c : RuntimeClass σ ε) : Bool := c.modifiers.isSealed

/-- A class is identified by its name, so it can be referred to before it is registered. -/
def fingerprint (c : RuntimeClass σ ε) : Fingerprint := .ofName c.name

/-- The class and its base classes, nearest first. -/
def ancestors : RuntimeClass σ ε → List (RuntimeClass σ ε)
  | .root own => [.root own]
  | .derived own base => .derived own base :: base.ancestors

def lineage (c : RuntimeClass σ ε) : List NativeType :=
  c.ancestors.map native

def derivesFrom (c : RuntimeClass σ ε) (type : NativeType) : Bool :=
  c.ancestors.any fun ancestor => decide (ancestor.native = type)

def resolve (c : RuntimeClass σ ε) (slot : Fingerprint) : Option (TableEntry σ ε) :=
  c.table.find? slot

def tableSize (c : RuntimeClass σ ε) : Nat :=
  c.table.size

def inspect (c : RuntimeClass σ ε) : String :=
  Text.record "ClassInfo"
    [("name", Text.quote c.name), ("kind", c.kind.inspect),
     ("flags", c.modifiers.inspect), ("base", Text.quoteOption (c.base?.map name)),
     ("vtable_len", toString c.tableSize)]

end RuntimeClass

end LateBinding
