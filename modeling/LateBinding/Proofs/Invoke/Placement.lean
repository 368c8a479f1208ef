import LateBinding.Proofs.Invoke.Access

/-!
Where in an object a member works. An object is checked against its class place by
place, but the body of a member finds its part by type alone, and takes the first one.
That is the part beside the class that registered the body exactly if no class nearer
to the object is registered for the same type. The parts around it stay as they are.
-/

namespace LateBinding

variable {σ ε : Type}

open Registration Obstacle

namespace Instance

/-- All parts but the last, which shows no base, lend the base that they show. -/
def LendsBases (whole : Instance σ) : Prop :=
  ∀ part ∈ whole.parts.dropLast, part.lends = .bases 1

instance (whole : Instance σ) : Decidable whole.LendsBases :=
  inferInstanceAs (Decidable (∀ part ∈ whole.parts.dropLast, part.lends = .bases 1))

theorem take_layers_putAt {place : Nat} {whole inner : Instance σ}
    (found : whole.at? (.bases place) = some inner) (new : Instance σ) :
    (whole.putAt (.bases place) new).layers.take place = whole.layers.take place := by
  have inside := Nat.le_of_lt (lt_length_of_at? found)
  rw [shape_eq_map_layers, List.length_map] at inside
  rw [(layers_of_at? found).2]
  exact List.take_left' (List.length_take_of_le inside)

-- The parts around a type that is shown are not the last part.
theorem LendsBases.opens {whole : Instance σ} (lends : whole.LendsBases) {type : NativeType}
    (shown : type ∈ whole.shape) : whole.Opens type := by
  intro layer around
  rw [outside_eq_take] at around
  have early := List.idxOf_lt_length_of_mem shown
  have count : whole.shape.length = whole.layers.length := by
    rw [shape_eq_map_layers, List.length_map]
  apply lends
  rw [List.dropLast_eq_take, parts_eq_map_layers, ← List.map_take, List.length_map]
  exact List.mem_map_of_mem (List.take_subset_take_left _ (by omega) around)

end Instance

namespace RuntimeClass

def placeOf (c : RuntimeClass σ ε) (type : NativeType) : Nat :=
  c.lineage.idxOf type

/-- The first part of the type is no farther than this distance, and at this distance
exactly if no nearer class is registered for the type. -/
def PlacedBy (c : RuntimeClass σ ε) (distance : Nat) (type : NativeType) : Prop :=
  c.placeOf type ≤ distance ∧
    (c.placeOf type = distance ↔ ∀ nearer ∈ c.ancestors.take distance, nearer.native ≠ type)

theorem placedBy {c d : RuntimeClass σ ε} {distance : Nat}
    (there : c.ancestors[distance]? = some d) : c.PlacedBy distance d.native := by
  unfold PlacedBy placeOf lineage
  generalize c.ancestors = ancestors at there ⊢
  induction ancestors generalizing distance with
  | nil => cases there
  | cons first above ih =>
      rw [List.map_cons, List.idxOf_cons]
      cases distance with
      | zero =>
          obtain rfl : first = d := Option.some.inj there
          simp
      | succ distance =>
          obtain ⟨within, alone⟩ := ih there
          by_cases hit : first.native = d.native
          · simp [hit]
          · have miss : (first.native == d.native) = false := beq_eq_false_iff_ne.mpr hit
            simp [hit, miss, within, alone]

end RuntimeClass

namespace ObjectRef

/-- How a call ends whose function works at this place of an object. The function runs
once on what is there and leaves it changed at that place; the parts around the place are
as they were in any case. -/
structure WorksAt (object : ObjectRef σ ε) (heap : Heap σ) (content : Instance σ) (place : Nat)
    (granted : Prop) (run : Instance σ → Touch σ (Attempt ε Unit)) (arguments : List (Argument σ))
    (completion : Completion σ ε) : Prop where
  works : granted → ∃ loan : Loan σ, loan.whole = content ∧ loan.place = .bases place ∧
    loan.part.layers = content.layers.drop place ∧
    completion.RanOn (.object object) loan arguments (run loan.part)
  spares : ¬ granted → completion.Untouched heap (.object object)
  around : ∀ now, completion.heap.content? object = some now →
    now.layers.take place = content.layers.take place

variable {object : ObjectRef σ ε} {heap : Heap σ} {content : Instance σ}

theorem WorksAt.of_decides (held : heap.content? object = some content) {place : Nat}
    {granted ran : Prop} {obstacles : List (Obstacle ε)}
    {run : Instance σ → Touch σ (Attempt ε Unit)} {arguments : List (Argument σ)}
    {completion : Completion σ ε}
    (decides : Decides obstacles (fun error => completion = .refused heap (.object object) error)
      ran)
    (rejects : ∀ obstacle ∈ obstacles, obstacle.error.isRejection)
    (clear : verdict obstacles = .ok () ↔ granted)
    (works : ran → ∃ loan : Loan σ, loan.whole = content ∧ loan.place = .bases place ∧
      completion.RanOn (.object object) loan arguments (run loan.part)) :
    object.WorksAt heap content place granted run arguments completion := by
  unfold Decides at decides
  cases first : verdict obstacles with
  | error error =>
      rw [first] at decides
      have denied : ¬ granted := fun permitted => by
        rw [clear.mpr permitted] at first
        cases first
      refine ⟨fun permitted => absurd permitted denied,
        fun _ => ⟨error, isRejection_of_verdict rejects first, decides⟩, fun now left => ?_⟩
      rw [decides] at left
      rw [Option.some.inj (held.symm.trans left)]
  | ok _ =>
      rw [first] at decides
      obtain ⟨loan, rfl, there, once⟩ := works decides
      have found := loan.found
      rw [there] at found
      refine ⟨fun _ => ⟨loan, rfl, there, (Instance.layers_of_at? found).1, once⟩,
        fun denied => absurd (clear.mp first) denied, fun now left => ?_⟩
      rw [(once.object object rfl).2, Heap.content?, Heap.read?_write, if_pos rfl, there] at left
      obtain ⟨_, _, rfl⟩ := Option.map_eq_some_iff.mp left
      exact Instance.take_layers_putAt found _

theorem WorksAt.congr {place : Nat} {granted permitted : Prop}
    {run : Instance σ → Touch σ (Attempt ε Unit)} {arguments : List (Argument σ)}
    {completion : Completion σ ε}
    (ends : object.WorksAt heap content place granted run arguments completion)
    (same : granted ↔ permitted) :
    object.WorksAt heap content place permitted run arguments completion :=
  ⟨fun allowed => ends.works (same.mpr allowed), fun denied => ends.spares (denied ∘ same.mp),
    ends.around⟩

theorem lentAt?_eq_placeOf (takes : object.runtimeClass.Takes content)
    (lends : content.LendsBases) {type : NativeType} (isA : object.IsA type) :
    content.lentAt? type = some (.bases (object.runtimeClass.placeOf type)) := by
  obtain ⟨seen, found⟩ := object.exists_viewAs? takes isA
  have shown : type ∈ content.shape :=
    (content.isSome_viewAs? type).mp (Option.isSome_of_eq_some found)
  rw [((lends.opens shown).leads shown).lentAt?_eq, takes.2.2, RuntimeClass.placeOf]

theorem loan_of_reach? (held : heap.content? object = some content)
    (takes : object.runtimeClass.Takes content) (lends : content.LendsBases)
    {r : Registration σ ε} (isA : object.IsA r.native) {loan : Loan σ}
    (reached : r.receiver.reach? heap (.object object) = some loan) :
    loan.whole = content ∧ loan.place = .bases (object.runtimeClass.placeOf r.native) := by
  obtain ⟨_, there, found⟩ := lentAt?_of_reach? reached
  obtain rfl : content = loan.whole := Option.some.inj (held.symm.trans there)
  exact ⟨rfl, Option.some.inj (found.symm.trans (object.lentAt?_eq_placeOf takes lends isA))⟩

end ObjectRef

namespace Obstacle

theorem isRejection_of_mem_assignment {p : Property σ ε} {receiver : Receiver σ} {heap : Heap σ}
    {target value : Datum σ ε} :
    ∀ obstacle ∈ ofAssignment p receiver heap target value, obstacle.error.isRejection :=
  List.forall_mem_append.mpr ⟨List.forall_mem_cons.mpr ⟨rfl, List.forall_mem_singleton.mpr rfl⟩,
    isRejection_of_mem_loan⟩

theorem isRejection_of_mem_call {m : Method σ ε} {own : Implementation σ ε} {heap : Heap σ}
    {target : Datum σ ε} {arguments : List (Datum σ ε)} :
    ∀ obstacle ∈ ofCall m (some own) heap target arguments, obstacle.error.isRejection :=
  List.forall_mem_append.mpr ⟨List.forall_mem_cons.mpr ⟨rfl, isRejection_of_mem_arguments⟩,
    List.forall_mem_cons.mpr ⟨rfl,
      List.forall_mem_append.mpr ⟨isRejection_of_mem_loan, isRejection_of_mem_arguments⟩⟩⟩

variable {heap : Heap σ} {object : ObjectRef σ ε} {content : Instance σ}

theorem stands_ofReach (held : heap.content? object = some content)
    (takes : object.runtimeClass.Takes content) (lends : content.LendsBases)
    {r : Registration σ ε} (kind : r.kind = .reference) (isA : object.IsA r.native) :
    (ofReach r.receiver heap (.object object)).stands = false := by
  have lent := object.lentAt?_eq_placeOf takes lends isA
  have listed := (content.isSome_lentAt? r.native).mp (Option.isSome_of_eq_some lent)
  exact Bool.eq_false_iff.mpr fun lacking => (isNone_reach?_iff kind held).mp lacking listed

theorem verdict_ofAssignment_iff (held : heap.content? object = some content)
    (takes : object.runtimeClass.Takes content) (lends : content.LendsBases) {p : Property σ ε}
    (inside : (Datum.object object).InstanceOf p.declaring) {r : Registration σ ε}
    (kind : r.kind = .reference) (own : r.native = p.declaring.native) (value : Datum σ ε) :
    verdict (ofAssignment p r.receiver heap (.object object) value) = .ok () ↔
      p.type.Admits value ∧ (Datum.object object).sameObject value = false := by
  have isA : object.IsA r.native := by
    rw [own]
    exact inside.2
  rw [ofAssignment_eq, verdict_append_eq_ok_iff, verdict_beforeAssignment_iff,
    verdict_cons_eq_ok_iff, stands_ofReach held takes lends kind isA]
  simp [inside, verdict]

theorem verdict_ofCall_iff (held : heap.content? object = some content)
    (takes : object.runtimeClass.Takes content) (lends : content.LendsBases) {m : Method σ ε}
    (inside : (Datum.object object).InstanceOf m.declaring)
    (has : m.lacksBody (.object object) = false) {own : Implementation σ ε}
    (kind : own.owner.kind = .reference) (isA : object.IsA own.owner.native)
    (arguments : List (Datum σ ε)) :
    verdict (ofCall m (some own) heap (.object object) arguments) = .ok () ↔
      List.Forall₂ ParamType.Admits m.params arguments ∧
      (∀ datum ∈ arguments, (Datum.object object).sameObject datum = false) ∧
      List.Forall₂ ParamType.Admits own.routine.params arguments := by
  rw [ofCall_some, verdict_append_eq_ok_iff, verdict_beforeLoan_iff, verdict_cons_eq_ok_iff,
    verdict_ofArguments_iff, stands_ofReach held takes lends kind isA]
  simp [inside, has, and_assoc]

end Obstacle

namespace Registered

variable {object : ObjectRef σ ε} {chain : List (Registration σ ε)}

theorem instanceOf_of_mem (known : Registered object.runtimeClass chain)
    (kind : object.runtimeClass.kind = .reference) {c : RuntimeClass σ ε}
    (member : c ∈ object.runtimeClass.ancestors) : (Datum.object object).InstanceOf c :=
  ⟨known.kind_of_mem kind member, c, member, rfl⟩

-- Whatever function is selected, a class of the object's hierarchy registered it.
theorem isA_of_selected (known : Registered object.runtimeClass chain) {r : Registration σ ε}
    {d : RegisteredClass σ ε} (accepted : r.build = .ok d)
    (isA : object.IsA d.runtimeClass.native) {method : MethodDeclaration σ ε}
    {own : Implementation σ ε} (selected : r.selected? method chain = some own) :
    object.IsA own.owner.native := by
  unfold selected? at selected
  split at selected
  · obtain ⟨⟨s, declared⟩, nearest, implemented⟩ := Option.bind_eq_some_iff.mp selected
    obtain ⟨routine, _, rfl⟩ := Option.map_eq_some_iff.mp implemented
    obtain ⟨distance, there⟩ := List.getElem?_of_mem (mem_of_nearest? nearest).1
    obtain ⟨entry, built, ancestor⟩ := known.exists_ancestor_at there
    exact ⟨entry.runtimeClass, List.mem_of_getElem? ancestor, native_of_build built⟩
  · obtain ⟨routine, _, rfl⟩ := Option.map_eq_some_iff.mp selected
    rwa [native_of_build accepted] at isA

-- Objects have no open slots, so a slot of one of their classes selects a function.
theorem exists_selected (known : Registered object.runtimeClass chain)
    (concrete : object.runtimeClass.isAbstract = false) {r : Registration σ ε}
    {d : RegisteredClass σ ε} (accepted : r.build = .ok d)
    (member : d.runtimeClass ∈ object.runtimeClass.ancestors) {method : MethodDeclaration σ ε}
    (declared : method ∈ r.methods) (takes : method.takesSlot) :
    ∃ (distance : Nat) (s : Registration σ ε) (own : MethodDeclaration σ ε)
        (routine : MethodRoutine σ ε),
      chain[distance]? = some s ∧ own ∈ s.methods ∧ own.routine? = some routine ∧
      object.runtimeClass.resolve method.slot = some (s.entryOf own) ∧
      r.selected? method chain = some ⟨routine, s⟩ := by
  have there := resolve_of_declared accepted declared takes
  obtain ⟨entry, found⟩ := Option.isSome_iff_exists.mp
    (known.isSome_resolve_of_mem member (Option.isSome_of_eq_some there))
  obtain ⟨body, filled⟩ := known.body_of_concrete concrete found
  have walked := found
  rw [known.resolve_eq_nearest] at walked
  obtain ⟨⟨s, own⟩, nearest, rfl⟩ := Option.map_eq_some_iff.mp walked
  obtain ⟨routine, written, _⟩ := Option.map_eq_some_iff.mp filled
  obtain ⟨within, listed, _, _⟩ := mem_of_nearest? nearest
  obtain ⟨distance, atDistance⟩ := List.getElem?_of_mem within
  refine ⟨distance, s, own, routine, atDistance, listed, written, found, ?_⟩
  simp [selected?, takes, nearest, implementation?, written]

end Registered

-- Once a function is selected, the call works where its class has the first part.
theorem ObjectRef.WorksAt.of_call {object : ObjectRef σ ε} {heap : Heap σ} {content : Instance σ}
    (held : heap.content? object = some content) (takes : object.runtimeClass.Takes content)
    (lends : content.LendsBases) {chain : List (Registration σ ε)}
    (known : Registered object.runtimeClass chain) {r : Registration σ ε} {d : RegisteredClass σ ε}
    (accepted : r.build = .ok d) (inside : (Datum.object object).InstanceOf d.runtimeClass)
    {method : MethodDeclaration σ ε} {own : Implementation σ ε}
    (selected : r.selected? method chain = some own) {arguments : List (Datum σ ε)}
    {completion : Completion σ ε}
    (decides : Decides
      (ofCall (r.methodOf d.runtimeClass method) (r.selected? method chain) heap (.object object)
        arguments)
      (fun error => completion = .refused heap (.object object) error)
      (∃ own loan, r.selected? method chain = some own ∧
        own.owner.receiver.reach? heap (.object object) = some loan ∧
        completion.RanOn (.object object) loan (arguments.map Datum.argument)
          (own.routine.run heap loan.part (arguments.map Datum.argument)))) :
    object.WorksAt heap content (object.runtimeClass.placeOf own.owner.native)
      (List.Forall₂ ParamType.Admits (r.methodOf d.runtimeClass method).params arguments ∧
        (∀ datum ∈ arguments, (Datum.object object).sameObject datum = false) ∧
        List.Forall₂ ParamType.Admits own.routine.params arguments)
      (fun part => own.routine.run heap part (arguments.map Datum.argument))
      (arguments.map Datum.argument) completion := by
  have isA := known.isA_of_selected accepted inside.2 selected
  have kind := known.reference_of_selected takes.1 ((kind_of_build accepted).symm.trans inside.1)
    selected
  have has := known.lacksBody_methodOf r d.runtimeClass method
  rw [selected] at has decides
  rw [← r.declaring_methodOf d.runtimeClass method] at inside
  refine .of_decides held decides isRejection_of_mem_call
    (verdict_ofCall_iff held takes lends inside has kind isA arguments) ?_
  rintro ⟨chosen, loan, same, reached, once⟩
  obtain rfl : own = chosen := Option.some.inj same
  obtain ⟨whole, place⟩ := object.loan_of_reach? held takes lends isA reached
  exact ⟨loan, whole, place, once⟩

/-- A member of a class works on the first part of the class's type in an object that
lends its bases, and a virtual method on the first part of the type of the class that
registered the function which fills its slot. This is the part beside that class exactly
if no class nearer to the object is registered for the same type. A call that is not granted
changes nothing. -/
theorem members_work_on_first_part_of_type {object : ObjectRef σ ε} {heap : Heap σ}
    {content : Instance σ} (held : heap.content? object = some content)
    (takes : object.runtimeClass.Takes content) (lends : content.LendsBases)
    {chain : List (Registration σ ε)} (known : Registered object.runtimeClass chain)
    {r : Registration σ ε} {d : RegisteredClass σ ε} (accepted : r.build = .ok d) {distance : Nat}
    (there : object.runtimeClass.ancestors[distance]? = some d.runtimeClass)
    (factory : Factory) (naming : Naming) :
    object.runtimeClass.PlacedBy distance d.runtimeClass.native ∧
    (∀ p ∈ d.properties, ∀ invoker, (factory.propertyInvoker naming p).answer = .ok invoker →
      ∃ name routine, .writable name routine ∈ r.properties ∧
        r.propertyOf d.runtimeClass (.writable name routine) = p ∧ ∀ value,
        object.WorksAt heap content (object.runtimeClass.placeOf d.runtimeClass.native)
          (p.type.Admits value ∧ (Datum.object object).sameObject value = false)
          (fun part => routine.run heap part value.argument) [value.argument]
          (invoker.invoke heap (.object object) value)) ∧
    (∀ m ∈ d.methods, ∀ invoker, (factory.methodInvoker naming m).answer = .ok invoker →
      ∃ method ∈ r.methods, r.methodOf d.runtimeClass method = m ∧
        (∀ routine, method.form = .direct routine → ∀ arguments,
          object.WorksAt heap content (object.runtimeClass.placeOf d.runtimeClass.native)
            (List.Forall₂ ParamType.Admits m.params arguments ∧
              ∀ datum ∈ arguments, (Datum.object object).sameObject datum = false)
            (fun part => routine.run heap part (arguments.map Datum.argument))
            (arguments.map Datum.argument) (invoker.invoke heap (.object object) arguments)) ∧
        (method.takesSlot → ∃ (selecting : Nat) (s : Registration σ ε) (own : MethodDeclaration σ ε)
            (routine : MethodRoutine σ ε),
          chain[selecting]? = some s ∧ own ∈ s.methods ∧ own.routine? = some routine ∧
          object.runtimeClass.resolve method.slot = some (s.entryOf own) ∧
          object.runtimeClass.PlacedBy selecting s.native ∧ ∀ arguments,
          object.WorksAt heap content (object.runtimeClass.placeOf s.native)
            (List.Forall₂ ParamType.Admits m.params arguments ∧
              (∀ datum ∈ arguments, (Datum.object object).sameObject datum = false) ∧
              List.Forall₂ ParamType.Admits routine.params arguments)
            (fun part => routine.run heap part (arguments.map Datum.argument))
            (arguments.map Datum.argument)
            (invoker.invoke heap (.object object) arguments))) := by
  have member := List.mem_of_getElem? there
  have inside := known.instanceOf_of_mem takes.1 member
  have native := native_of_build accepted
  have kind : r.kind = .reference := (kind_of_build accepted).symm.trans inside.1
  have sound : (Datum.object object).ObjectOf chain := by
    intro ref same
    cases same
    exact ⟨known, object.made_of_takes takes⟩
  refine ⟨RuntimeClass.placedBy there, ?properties, ?methods⟩
  case properties =>
    intro p declared invoker made
    obtain ⟨name, routine, listed, described, decides⟩ :=
      RegisteredClass.decides_of_property accepted declared made
    refine ⟨name, routine, listed, described, fun value => ?_⟩
    subst described
    refine .of_decides held (decides heap (.object object) value) isRejection_of_mem_assignment
      (verdict_ofAssignment_iff held takes lends inside kind native.symm value) ?_
    rintro ⟨loan, reached, once⟩
    have isA : object.IsA r.native := by
      rw [← native]
      exact inside.2
    obtain ⟨whole, place⟩ := object.loan_of_reach? held takes lends isA reached
    rw [native]
    exact ⟨loan, whole, place, once⟩
  case methods =>
    intro m declared invoker made
    obtain ⟨method, listed, described, decides⟩ :=
      RegisteredClass.decides_of_method accepted declared made
    subst described
    refine ⟨method, listed, rfl, ?direct, ?slot⟩
    case direct =>
      intro routine form arguments
      have own : method.routine? = some routine := by
        rw [MethodDeclaration.routine?, form]
      have selected : r.selected? method chain = some ⟨routine, r⟩ := by
        simp [selected?, MethodDeclaration.takesSlot, form, implementation?, own]
      have types : (r.methodOf d.runtimeClass method).params = routine.params := by
        rw [methodOf_eq, MethodDeclaration.params_of_routine? own]
      have works := ObjectRef.WorksAt.of_call held takes lends known accepted inside selected
        (decides heap (.object object) arguments chain sound)
      rw [native]
      -- A function with parameters of its own method admits what was admitted before.
      exact works.congr ⟨fun granted => ⟨granted.1, granted.2.1⟩,
        fun granted => ⟨granted.1, granted.2, types ▸ granted.1⟩⟩
    case slot =>
      intro takesSlot
      obtain ⟨selecting, s, own, routine, atDistance, within, written, found, selected⟩ :=
        known.exists_selected takes.2.1 accepted member listed takesSlot
      obtain ⟨entry, built, ancestor⟩ := known.exists_ancestor_at atDistance
      have placed := RuntimeClass.placedBy ancestor
      rw [native_of_build built] at placed
      exact ⟨selecting, s, own, routine, atDistance, within, written, found, placed,
        fun arguments => .of_call held takes lends known accepted inside selected
          (decides heap (.object object) arguments chain sound)⟩

namespace Ledgers

-- No class nearer than books is one of books, so the diary is bound where the book is.
theorem diary_is_bound_as_book :
    diaryContent.LendsBases ∧ diaryClass.runtimeClass.placeOf bookType = 1 ∧
    ∃ invoker, (Factory.methodInvoker ⟨.compiled, .default⟩ .first bindMethod).answer =
        .ok invoker ∧
      ∃ loan : Loan Nat, loan.whole = diaryContent ∧ loan.place = .bases 1 ∧
        loan.part.layers = diaryContent.layers.drop 1 ∧
        (invoker.invoke shelf (.object someDiary) [.object someBook]).RanOn (.object someDiary)
          loan [.object someBook.handle]
          (bindIn.run shelf loan.part [.object someBook.handle]) := by
  have held : shelf.content? someDiary = some diaryContent := rfl
  have lends : diaryContent.LendsBases := by decide
  have there : someDiary.runtimeClass.ancestors[1]? = some bookClass.runtimeClass := rfl
  obtain ⟨invoker, made⟩ : ∃ invoker,
      (Factory.methodInvoker ⟨.compiled, .default⟩ .first bindMethod).answer = .ok invoker :=
    ⟨_, rfl⟩
  obtain ⟨⟨_, alone⟩, _, methods⟩ := members_work_on_first_part_of_type held ⟨rfl, rfl, rfl⟩
    lends diary_registered book_build there ⟨.compiled, .default⟩ .first
  have place : diaryClass.runtimeClass.placeOf bookType = 1 := alone.mpr (by decide)
  obtain ⟨method, listed, described, _, slot⟩ := methods bindMethod List.mem_cons_self invoker made
  obtain rfl := List.mem_singleton.mp listed
  obtain ⟨selecting, s, own, routine, atDistance, within, written, _, _, works⟩ := slot rfl
  -- Only the book has methods, so it registered the function.
  match selecting, atDistance with
  | 0, first =>
      obtain rfl : diary = s := Option.some.inj first
      cases within
  | 1, second =>
      obtain rfl : book = s := Option.some.inj second
      obtain rfl := List.mem_singleton.mp within
      obtain rfl : bindIn = routine := Option.some.inj written
      have admits : List.Forall₂ ParamType.Admits [.reference bookType false]
          [Datum.object someBook] := .cons (by decide) .nil
      have worked := (works [.object someBook]).works ⟨admits, by decide, admits⟩
      change ∃ loan : Loan Nat, _ ∧
        loan.place = .bases (diaryClass.runtimeClass.placeOf bookType) ∧ _ at worked
      rw [place] at worked
      exact ⟨lends, place, invoker, made, worked⟩

def editionType : NativeType := ⟨3, "lib::Edition"⟩

def stamp : MethodRoutine Nat String :=
  .ofContents [] fun lent _ => ⟨.ok (), ["stamp"], lent.mapState (· + 100)⟩

def edition : Registration Nat String :=
  (start "Edition" editionType .reference).method "stamp" none (.direct stamp)

def editionClass : RegisteredClass Nat String := edition.describe edition.finalTable

def reprint : Registration Nat String :=
  (start "Reprint" editionType .reference).extending editionClass.runtimeClass

def reprintClass : RegisteredClass Nat String := reprint.describe reprint.finalTable

theorem edition_build : edition.build = .ok editionClass :=
  (build_eq_ok_iff _ _).mpr ⟨⟨rfl, List.nodup_singleton _, by decide, rfl, rfl, rfl⟩, rfl⟩

theorem reprint_build : reprint.build = .ok reprintClass :=
  (build_eq_ok_iff _ _).mpr ⟨⟨rfl, List.nodup_nil, by decide, rfl, rfl, rfl⟩, rfl⟩

def reprintContent : Instance Nat :=
  .derived ⟨editionType, 1, [.base]⟩ (.root ⟨editionType, 2, []⟩)

def someReprint : ObjectRef Nat String := ⟨0, reprintClass.runtimeClass⟩

def stampMethod : Method Nat String :=
  edition.methodOf editionClass.runtimeClass ⟨"stamp", none, .direct stamp⟩

/-- The reprint is stamped itself, and not the edition that it embeds, though the edition
is the part at the distance of the class that registered the stamp. -/
theorem reprint_is_stamped_itself :
    let heap := Heap.empty.allocate reprintContent
    Registered reprintClass.runtimeClass [reprint, edition] ∧
    reprintClass.runtimeClass.instantiate .empty reprintContent = .ok (someReprint, heap) ∧
    reprintContent.LendsBases ∧
    someReprint.runtimeClass.ancestors[1]? = some editionClass.runtimeClass ∧
    stampMethod ∈ editionClass.methods ∧
    ∃ invoker, (Factory.methodInvoker ⟨.compiled, .default⟩ .first stampMethod).answer =
        .ok invoker ∧
      (invoker.invoke heap (.object someReprint) []).heap.content? someReprint =
        some (.derived ⟨editionType, 101, [.base]⟩ (.root ⟨editionType, 2, []⟩)) ∧
      ¬ ∃ loan : Loan Nat, loan.whole = reprintContent ∧ loan.place = .bases 1 ∧
        (invoker.invoke heap (.object someReprint) []).RanOn (.object someReprint) loan []
          (stamp.run heap loan.part []) := by
  have known : Registered reprintClass.runtimeClass [reprint, edition] :=
    .derived (.root edition_build rfl) reprint_build rfl
  have made := (reprintClass.runtimeClass.instantiate_eq_ok_iff .empty _ reprintContent
    someReprint).mpr ⟨⟨rfl, rfl, rfl⟩, rfl, rfl⟩
  refine ⟨known, made, by decide, rfl, List.mem_cons_self, _, rfl, rfl, ?_⟩
  rintro ⟨loan, whole, place, once⟩
  have found := loan.found
  rw [whole, place] at found
  have part : loan.part = .root ⟨editionType, 2, []⟩ := (Option.some.inj found).symm
  have lent := congrArg (List.map (·.receiver)) once.runs
  rw [part] at lent
  exact absurd lent (by decide)

end Ledgers

end LateBinding
