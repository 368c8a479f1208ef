import LateBinding.Datum
import LateBinding.Member
import LateBinding.Routine

/-!
Registration of classes. A registration collects what a class is to be; building
it checks the whole and yields the class with descriptors of its members. The
checks run in a fixed order, and the first that is violated names the error:
modifiers, base class, methods in the order of declaration, slots left empty,
property names, signatures of constructors.
-/

namespace LateBinding

variable {σ ε : Type}

inductive MethodForm (σ ε : Type) where
  | direct (routine : MethodRoutine σ ε)
  | virtual (routine : MethodRoutine σ ε)
  | abstract (params : List ParamType)

def MethodForm.params : MethodForm σ ε → List ParamType
  | .direct routine | .virtual routine => routine.params
  | .abstract params => params

structure MethodDeclaration (σ ε : Type) where
  name : String
  returns : Option NativeType
  form : MethodForm σ ε

def MethodDeclaration.slot (method : MethodDeclaration σ ε) : Fingerprint :=
  .ofSlot method.name (ParamType.fingerprints method.form.params)

inductive PropertyDeclaration (σ ε : Type) where
  | writable (name : String) (routine : SetterRoutine σ ε)
  | readOnly (name : String) (type : ParamType)

def PropertyDeclaration.name : PropertyDeclaration σ ε → String
  | .writable name _ | .readOnly name _ => name

structure Registration (σ ε : Type) where
  name : String
  native : NativeType
  kind : Kind
  modifiers : Modifiers
  base : Option (RuntimeClass σ ε)
  constructors : List (ConstructorRoutine σ ε)
  properties : List (PropertyDeclaration σ ε)
  methods : List (MethodDeclaration σ ε)

structure RegisteredClass (σ ε : Type) where
  runtimeClass : RuntimeClass σ ε
  constructors : List (Constructor σ ε)
  properties : List (Property σ ε)
  methods : List (Method σ ε)

/-- The first element that stands in the list before, or among those seen. -/
def firstRepeated {α : Type} [DecidableEq α] : List α → List α → Option α
  | _, [] => none
  | seen, first :: rest =>
      if first ∈ seen then some first else firstRepeated (first :: seen) rest

theorem firstRepeated_eq_none {α : Type} [DecidableEq α] (seen list : List α) :
    firstRepeated seen list = none ↔ list.Nodup ∧ ∀ a ∈ list, a ∉ seen := by
  induction list generalizing seen with
  | nil => simp [firstRepeated]
  | cons first rest ih =>
      by_cases known : first ∈ seen
      · simp [firstRepeated, known]
      · rw [firstRepeated, if_neg known, ih, List.nodup_cons]
        constructor
        · rintro ⟨apart, fresh⟩
          refine ⟨⟨fun member => fresh first member List.mem_cons_self, apart⟩, ?_⟩
          intro a member
          rcases List.mem_cons.mp member with same | later
          · exact same ▸ known
          · exact fun old => fresh a later (List.mem_cons_of_mem first old)
        · rintro ⟨⟨absent, apart⟩, fresh⟩
          refine ⟨apart, fun a later old => ?_⟩
          rcases List.mem_cons.mp old with same | older
          · exact absent (same ▸ later)
          · exact fresh a (List.mem_cons_of_mem first later) older

namespace Registration

def start (name : String) (native : NativeType) (kind : Kind) : Registration σ ε :=
  ⟨name, native, kind, .plain, none, [], [], []⟩

def extending (r : Registration σ ε) (base : RuntimeClass σ ε) : Registration σ ε :=
  { r with base := some base }

def modified (r : Registration σ ε) (modifiers : Modifiers) : Registration σ ε :=
  { r with modifiers := r.modifiers.union modifiers }

def constructor (r : Registration σ ε) (routine : ConstructorRoutine σ ε) : Registration σ ε :=
  { r with constructors := r.constructors ++ [routine] }

def property (r : Registration σ ε) (name : String) (routine : SetterRoutine σ ε) :
    Registration σ ε :=
  { r with properties := r.properties ++ [.writable name routine] }

def readOnlyProperty (r : Registration σ ε) (name : String) (type : ParamType) :
    Registration σ ε :=
  { r with properties := r.properties ++ [.readOnly name type] }

def method (r : Registration σ ε) (name : String) (returns : Option NativeType)
    (form : MethodForm σ ε) : Registration σ ε :=
  { r with methods := r.methods ++ [⟨name, returns, form⟩] }

def receiver (r : Registration σ ε) : Receiver σ :=
  .of r.kind r.native

theorem receiver_of_value {r : Registration σ ε} (kind : r.kind = .value) :
    r.receiver = .value r.native r.native.shortName := by
  rw [receiver, kind]
  rfl

theorem receiver_of_reference {r : Registration σ ε} (kind : r.kind = .reference) :
    r.receiver = .object (·.lentAt? r.native) r.native.shortName := by
  rw [receiver, kind]
  rfl

def checkBase (r : Registration σ ε) : Except RegistrationError Unit :=
  if r.modifiers.isAbstract && r.modifiers.isSealed then .error (.abstractAndSealed r.name)
  else
    match r.base with
    | none => .ok ()
    | some base =>
        if base.kind = .value then .error (.valueBase r.name base.name)
        else if base.isSealed then .error (.sealedBase r.name base.name)
        else .ok ()

/-- Enters methods into a table, given the slots declared so far. A direct
method takes its signature and no slot. -/
def enter (r : Registration σ ε) :
    List Fingerprint → MethodTable σ ε → List (MethodDeclaration σ ε) →
    Except RegistrationError (MethodTable σ ε)
  | _, table, [] => .ok table
  | seen, table, method :: rest =>
      if method.slot ∈ seen then .error (.duplicate r.name method.name)
      else
        let seen := method.slot :: seen
        match method.form with
        | .direct _ => r.enter seen table rest
        | .virtual routine =>
            let entry := ⟨method.name, r.name, some (routine.body r.receiver)⟩
            r.enter seen (table.insert method.slot entry) rest
        | .abstract _ =>
            if r.modifiers.isAbstract then
              r.enter seen (table.insert method.slot ⟨method.name, r.name, none⟩) rest
            else .error (.abstractMethodOnConcrete r.name method.name)

def inherited (r : Registration σ ε) : MethodTable σ ε :=
  (r.base.map (·.table)).getD .empty

def checkComplete (r : Registration σ ε) (table : MethodTable σ ε) :
    Except RegistrationError Unit :=
  if r.modifiers.isAbstract then .ok ()
  else
    match table.firstAbstract? with
    | none => .ok ()
    | some entry => .error (.unimplemented r.name entry.name)

def checkProperties (r : Registration σ ε) : Except RegistrationError Unit :=
  match firstRepeated [] (r.properties.map (·.name)) with
  | none => .ok ()
  | some name => .error (.duplicate r.name name)

/-- Constructors bear the name of their class, also in errors. -/
def checkConstructors (r : Registration σ ε) : Except RegistrationError Unit :=
  match firstRepeated [] (r.constructors.map fun c => ParamType.fingerprints c.params) with
  | none => .ok ()
  | some _ => .error (.duplicate r.name r.name)

def classWith (r : Registration σ ε) (table : MethodTable σ ε) : RuntimeClass σ ε :=
  .onBase ⟨r.name, r.native, r.kind, r.modifiers, table⟩ r.base

def constructorOf (r : Registration σ ε) (c : RuntimeClass σ ε) (routine : ConstructorRoutine σ ε) :
    Constructor σ ε :=
  ⟨c, routine.params, routine.body r.kind r.native⟩

def propertyOf (r : Registration σ ε) (c : RuntimeClass σ ε) :
    PropertyDeclaration σ ε → Property σ ε
  | .writable name routine => ⟨c, name, routine.type, some (routine.body r.receiver)⟩
  | .readOnly name type => ⟨c, name, type, none⟩

def methodOf (r : Registration σ ε) (c : RuntimeClass σ ε) (method : MethodDeclaration σ ε) :
    Method σ ε :=
  let declared := Method.mk c method.name method.form.params method.returns
  match method.form with
  | .direct routine => declared .direct (some (routine.body r.receiver))
  | .virtual routine => declared (.virtual method.slot) (some (routine.body r.receiver))
  | .abstract _ => declared (.virtual method.slot) none

/-- The class and its descriptors, the checks apart. -/
def describe (r : Registration σ ε) (table : MethodTable σ ε) : RegisteredClass σ ε :=
  let c := r.classWith table
  ⟨c, r.constructors.map (r.constructorOf c), r.properties.map (r.propertyOf c),
    r.methods.map (r.methodOf c)⟩

def build (r : Registration σ ε) : Except RegistrationError (RegisteredClass σ ε) := do
  r.checkBase
  let table ← r.enter [] r.inherited r.methods
  r.checkComplete table
  r.checkProperties
  r.checkConstructors
  return r.describe table

end Registration

namespace RegisteredClass

def constructorOfArity? (c : RegisteredClass σ ε) (arity : Nat) : Option (Constructor σ ε) :=
  c.constructors.find? fun member => member.params.length == arity

def propertyNamed? (c : RegisteredClass σ ε) (name : String) : Option (Property σ ε) :=
  c.properties.find? fun member => member.name == name

def methodNamed? (c : RegisteredClass σ ε) (name : String) : Option (Method σ ε) :=
  c.methods.find? fun member => member.name == name

end RegisteredClass

end LateBinding
