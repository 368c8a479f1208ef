import LateBinding.Proofs.Invoke.Confinement
import LateBinding.Proofs.Invoke.Override
import LateBinding.Proofs.Object.Reachable

/-!
Writing against reading. An object is checked against its class by the bases that its
parts show, and the bodies of its members come to their part by what the parts lend. So
an object that passes for a type may have no part to write as that type, or another one
than it shows. A call that passed every check of its target then fails on its target
after all, or works on the other part.
-/

namespace LateBinding

variable {σ ε : Type}

open Registration Obstacle

theorem ObjectRef.exists_viewAs? {object : ObjectRef σ ε} {content : Instance σ}
    (takes : object.runtimeClass.Takes content) {type : NativeType} (isA : object.IsA type) :
    ∃ seen, content.viewAs? type = some seen :=
  Option.isSome_iff_exists.mp
    ((takes.isSome_viewAs? type).mp ((object.derivesFrom_iff type).mpr isA))

theorem Registration.isNone_reach?_iff {r : Registration σ ε} (kind : r.kind = .reference)
    {heap : Heap σ} {object : ObjectRef σ ε} {content : Instance σ}
    (held : heap.content? object = some content) :
    (r.receiver.reach? heap (.object object)).isNone ↔ r.native ∉ content.lentTypes := by
  have borrowed : r.receiver.reach? heap (.object object) = content.borrowAs? r.native := by
    rw [receiver_of_reference kind, Receiver.reach?, held]
    rfl
  rw [borrowed, ← Instance.isSome_borrowAs?]
  simp

theorem Heap.isSome_modifyAs? {heap : Heap σ} {object : ObjectRef σ ε} {content : Instance σ}
    (held : heap.content? object = some content) (type : NativeType)
    (f : Instance σ → Instance σ) :
    (heap.modifyAs? object type f).isSome ↔ type ∈ content.lentTypes := by
  rw [← Instance.isSome_borrowAs?, modifyAs?, held]
  cases borrowed : content.borrowAs? type with
  | none => simp [borrowed]
  | some loan => simp [borrowed]

/-- A call fails on its target if it reports a mismatch there. -/
def InvokeError.blamesTarget : InvokeError ε → Bool
  | .typeMismatch .target _ _ => true
  | _ => false

def Outcome.blamesTarget {α : Type} (outcome : Outcome σ ε α) : Bool :=
  match outcome.answer with
  | .error error => error.blamesTarget
  | .ok _ => false

namespace Obstacle

theorem verdict_cons_eq_ok_iff (first : Obstacle ε) (rest : List (Obstacle ε)) :
    verdict (first :: rest) = .ok () ↔ first.stands = false ∧ verdict rest = .ok () := by
  rw [verdict_cons]
  cases first.stands <;> simp

theorem verdict_append_eq_ok_iff (front back : List (Obstacle ε)) :
    verdict (front ++ back) = .ok () ↔ verdict front = .ok () ∧ verdict back = .ok () := by
  rw [verdict_append]
  cases verdict front <;> simp [Except.bind]

theorem verdict_aliases_eq_ok_iff (target : Datum σ ε) (entries : List (Position × Datum σ ε)) :
    verdict (entries.map (ofAlias target)) = .ok () ↔
      ∀ datum ∈ entries.map (·.2), target.sameObject datum = false := by
  induction entries with
  | nil => simp [verdict]
  | cons entry rest ih =>
      rw [List.map_cons, verdict_cons_eq_ok_iff, ih, List.map_cons, List.forall_mem_cons]
      rfl

theorem data_numbered (arguments : List (Datum σ ε)) :
    (numbered arguments).map (·.2) = arguments := by
  rw [numbered, List.map_map]
  exact List.zipIdx_map_fst 0 arguments

def ofReach (receiver : Receiver σ) (heap : Heap σ) (target : Datum σ ε) : Obstacle ε :=
  ⟨(receiver.reach? heap target).isNone, .typeMismatch .target receiver.name target.typeName⟩

def beforeAssignment (p : Property σ ε) (target value : Datum σ ε) : List (Obstacle ε) :=
  [ofTarget p.declaring target, ofArgument .value p.type value, ofAlias target (.value, value)]

def beforeLoan (m : Method σ ε) (target : Datum σ ε) (arguments : List (Datum σ ε)) :
    List (Obstacle ε) :=
  (ofTarget m.declaring target :: ofArguments m.params arguments) ++
    ofSlot m target :: (numbered arguments).map (ofAlias target)

theorem ofCall_some (m : Method σ ε) (own : Implementation σ ε) (heap : Heap σ) (target : Datum σ ε)
    (arguments : List (Datum σ ε)) :
    ofCall m (some own) heap target arguments =
      beforeLoan m target arguments ++
        ofReach own.owner.receiver heap target :: ofArguments own.routine.params arguments := by
  simp [ofCall, beforeLoan, Implementation.obstacles, ofLoan, ofReach]

theorem ofAssignment_eq (p : Property σ ε) (receiver : Receiver σ) (heap : Heap σ)
    (target value : Datum σ ε) :
    ofAssignment p receiver heap target value =
      beforeAssignment p target value ++ [ofReach receiver heap target] :=
  rfl

theorem verdict_beforeAssignment_iff (p : Property σ ε) (target value : Datum σ ε) :
    verdict (beforeAssignment p target value) = .ok () ↔
      target.InstanceOf p.declaring ∧ p.type.Admits value ∧ target.sameObject value = false := by
  rw [beforeAssignment, verdict_cons_eq_ok_iff, verdict_cons_eq_ok_iff, verdict_cons_eq_ok_iff]
  simp [ofTarget, ofArgument, ofAlias, verdict]

theorem verdict_beforeLoan_iff (m : Method σ ε) (target : Datum σ ε)
    (arguments : List (Datum σ ε)) :
    verdict (beforeLoan m target arguments) = .ok () ↔
      target.InstanceOf m.declaring ∧ List.Forall₂ ParamType.Admits m.params arguments ∧
      m.lacksBody target = false ∧
      ∀ datum ∈ arguments, target.sameObject datum = false := by
  rw [beforeLoan, verdict_append_eq_ok_iff, verdict_cons_eq_ok_iff, verdict_cons_eq_ok_iff,
    verdict_ofArguments_iff, verdict_aliases_eq_ok_iff, data_numbered, and_assoc]
  simp [ofTarget, ofSlot]

def blames (obstacles : List (Obstacle ε)) : Bool :=
  match verdict obstacles with
  | .error error => error.blamesTarget
  | .ok _ => false

/-- None of the obstacles that stand is one of the target. -/
def Quiet (obstacles : List (Obstacle ε)) : Prop :=
  ∀ obstacle ∈ obstacles, obstacle.stands → obstacle.error.blamesTarget = false

theorem Quiet.blames {obstacles : List (Obstacle ε)} (quiet : Quiet obstacles) :
    blames obstacles = false := by
  unfold Obstacle.blames
  split
  · next error refused =>
      obtain ⟨obstacle, member, stands, rfl⟩ := mem_of_verdict refused
      exact quiet obstacle member stands
  · rfl

-- An obstacle of the target counts once nothing before it stands, and nothing after it does.
theorem blames_iff {front back : List (Obstacle ε)} {obstacle : Obstacle ε} (early : Quiet front)
    (late : Quiet back) (blamed : obstacle.error.blamesTarget) :
    blames (front ++ obstacle :: back) ↔ verdict front = .ok () ∧ obstacle.stands := by
  have quietFront := early.blames
  have quietBack := late.blames
  unfold blames at quietFront quietBack ⊢
  rw [verdict_append]
  cases clear : verdict front with
  | error error =>
      rw [clear] at quietFront
      simp [Except.bind, quietFront]
  | ok _ =>
      simp only [Except.bind, verdict_cons]
      cases obstacle.stands with
      | true => simpa using blamed
      | false => simpa using quietBack

theorem quiet_ofArguments (types : List ParamType) (arguments : List (Datum σ ε)) :
    Quiet (ofArguments types arguments) := by
  refine List.forall_mem_cons.mpr ⟨fun _ => rfl, fun obstacle member _ => ?_⟩
  obtain ⟨_, _, rfl⟩ := List.mem_map.mp member
  rfl

theorem quiet_ofTarget {c : RuntimeClass σ ε} {target : Datum σ ε} (inside : target.InstanceOf c) :
    Quiet [ofTarget c target] := by
  refine List.forall_mem_singleton.mpr fun stands => ?_
  simp [ofTarget, inside] at stands

theorem quiet_beforeAssignment {p : Property σ ε} {target : Datum σ ε}
    (inside : target.InstanceOf p.declaring) (value : Datum σ ε) :
    Quiet (beforeAssignment p target value) := by
  refine List.forall_mem_cons.mpr ⟨quiet_ofTarget inside _ List.mem_cons_self, ?_⟩
  exact List.forall_mem_cons.mpr ⟨fun _ => rfl, List.forall_mem_singleton.mpr fun _ => rfl⟩

theorem quiet_beforeLoan {m : Method σ ε} {target : Datum σ ε}
    (inside : target.InstanceOf m.declaring) (arguments : List (Datum σ ε)) :
    Quiet (beforeLoan m target arguments) := by
  refine List.forall_mem_append.mpr ⟨List.forall_mem_cons.mpr ⟨?_, quiet_ofArguments _ _⟩,
    List.forall_mem_cons.mpr ⟨fun _ => rfl, fun obstacle member _ => ?_⟩⟩
  · exact quiet_ofTarget inside _ List.mem_cons_self
  · obtain ⟨_, _, rfl⟩ := List.mem_map.mp member
    rfl

-- A function that ran fails in its own way.
theorem blamesTarget_of_ranOn {target : Datum σ ε} {loan : Loan σ}
    {arguments : List (Argument σ)} {touch : Touch σ (Attempt ε Unit)} {after : Completion σ ε}
    (ran : after.RanOn target loan arguments touch) : after.blamesTarget = false := by
  rw [Outcome.blamesTarget, ran.answer]
  cases touch.result <;> rfl

theorem blamesTarget_of_decides {obstacles : List (Obstacle ε)} {heap : Heap σ} {target : Datum σ ε}
    {completion : Completion σ ε} {granted : Prop}
    (decides : Decides obstacles (fun error => completion = .refused heap target error) granted)
    (runs : granted → completion.blamesTarget = false) :
    completion.blamesTarget = blames obstacles := by
  unfold Decides at decides
  unfold blames
  cases first : verdict obstacles with
  | error error =>
      rw [first] at decides
      rw [decides]
      rfl
  | ok _ =>
      rw [first] at decides
      exact runs decides

end Obstacle

theorem ObjectRef.made_of_takes {object : ObjectRef σ ε} {content : Instance σ}
    (takes : object.runtimeClass.Takes content) : object.Made := by
  have full : Heap.nextId ⟨List.replicate object.id content⟩ = object.id := List.length_replicate
  have made := (object.runtimeClass.instantiate_eq_ok_iff ⟨List.replicate object.id content⟩ _
    content object).mpr ⟨takes, by rw [full], rfl⟩
  exact ⟨_, content, _, made⟩

theorem Registration.declaring_methodOf (r : Registration σ ε) (c : RuntimeClass σ ε)
    (method : MethodDeclaration σ ε) : (r.methodOf c method).declaring = c := by
  rw [methodOf_eq]

namespace Registered

theorem exists_ancestor_at {c : RuntimeClass σ ε} {chain : List (Registration σ ε)}
    (known : Registered c chain) {distance : Nat} {r : Registration σ ε}
    (there : chain[distance]? = some r) :
    ∃ entry, r.build = .ok entry ∧ c.ancestors[distance]? = some entry.runtimeClass := by
  obtain ⟨inside, same⟩ := List.getElem?_eq_some_iff.mp there
  have along : distance < c.ancestors.length := by rwa [known.in_step.length_eq]
  obtain ⟨entry, built, ancestor⟩ := known.in_step.get along inside
  rw [List.get_eq_getElem, same] at built
  exact ⟨entry, built, List.getElem?_eq_some_iff.mpr ⟨along, ancestor.symm⟩⟩

variable {object : ObjectRef σ ε} {chain : List (Registration σ ε)}

-- A call lacks a body exactly if no function is selected for it.
theorem lacksBody_methodOf (known : Registered object.runtimeClass chain) (r : Registration σ ε)
    (c : RuntimeClass σ ε) (method : MethodDeclaration σ ε) :
    (r.methodOf c method).lacksBody (.object object) = (r.selected? method chain).isNone := by
  rw [methodOf_eq]
  cases takes : method.takesSlot with
  | false =>
      obtain ⟨routine, own⟩ := method.exists_routine_of_direct takes
      simp [Method.lacksBody, selected?, takes, implementation?, own]
  | true =>
      simp only [Method.lacksBody, selected?, takes, if_true]
      rw [known.body_of_slot, Option.isNone_map]

theorem reference_of_selected (known : Registered object.runtimeClass chain)
    (kind : object.runtimeClass.kind = .reference) {r : Registration σ ε}
    (reference : r.kind = .reference) {method : MethodDeclaration σ ε} {own : Implementation σ ε}
    (selected : r.selected? method chain = some own) : own.owner.kind = .reference := by
  unfold selected? at selected
  split at selected
  · exact known.kind_of_implementation kind selected
  · obtain ⟨routine, _, rfl⟩ := Option.map_eq_some_iff.mp selected
    exact reference

end Registered

namespace Obstacle

variable {heap : Heap σ} {object : ObjectRef σ ε} {content : Instance σ}

theorem blames_ofAssignment_iff (held : heap.content? object = some content) {p : Property σ ε}
    (inside : (Datum.object object).InstanceOf p.declaring) {r : Registration σ ε}
    (kind : r.kind = .reference) (value : Datum σ ε) :
    blames (ofAssignment p r.receiver heap (.object object) value) ↔
      p.type.Admits value ∧ (Datum.object object).sameObject value = false ∧
        r.native ∉ content.lentTypes := by
  rw [ofAssignment_eq, blames_iff (quiet_beforeAssignment inside value)
    (fun _ none => absurd none List.not_mem_nil) rfl, verdict_beforeAssignment_iff, ofReach,
    isNone_reach?_iff kind held]
  simp [inside, and_assoc]

theorem blames_ofCall_iff (held : heap.content? object = some content)
    {chain : List (Registration σ ε)} (known : Registered object.runtimeClass chain)
    (kind : object.runtimeClass.kind = .reference) {r : Registration σ ε} {d : RegisteredClass σ ε}
    (accepted : r.build = .ok d) (inside : (Datum.object object).InstanceOf d.runtimeClass)
    (method : MethodDeclaration σ ε) (arguments : List (Datum σ ε)) :
    blames (ofCall (r.methodOf d.runtimeClass method) (r.selected? method chain) heap
        (.object object) arguments) ↔
      List.Forall₂ ParamType.Admits (r.methodOf d.runtimeClass method).params arguments ∧
      (∀ datum ∈ arguments, (Datum.object object).sameObject datum = false) ∧
      ∃ own, r.selected? method chain = some own ∧
        own.owner.native ∉ content.lentTypes := by
  have reference : r.kind = .reference := (kind_of_build accepted).symm.trans inside.1
  have isOne := inside
  rw [← r.declaring_methodOf d.runtimeClass method] at isOne
  have lacks := known.lacksBody_methodOf r d.runtimeClass method
  cases selected : r.selected? method chain with
  | none =>
      have quiet : Quiet (ofCall (r.methodOf d.runtimeClass method) none heap (.object object)
          arguments) := by
        refine List.forall_mem_append.mpr ⟨List.forall_mem_cons.mpr ⟨?_, quiet_ofArguments _ _⟩, ?_⟩
        · exact quiet_ofTarget isOne _ List.mem_cons_self
        · exact List.forall_mem_singleton.mpr fun _ => rfl
      simp [quiet.blames]
  | some own =>
      have owned := known.reference_of_selected kind reference selected
      rw [selected] at lacks
      rw [ofCall_some, blames_iff (quiet_beforeLoan isOne arguments) (quiet_ofArguments _ _) rfl,
        verdict_beforeLoan_iff, ofReach, isNone_reach?_iff owned held]
      simp [isOne, lacks, and_assoc]

end Obstacle

/-- In every reachable state an object shows a part as each type that it passes for. It
lends one for writing exactly if the type is among those that its parts lend in turn, and
the one that it shows exactly if each of them leads on to a shown part not beyond that.
A member of one of its classes fails on its target, though the target is an instance of
its class, exactly if nothing else was in the way and the object does not lend the type of
the class that registered the function. -/
theorem writing_needs_open_parts {w : World σ ε} (reached : w.Reachable) {object : ObjectRef σ ε}
    (member : object ∈ w.objects) :
    ∃ content, w.heap.content? object = some content ∧
      (∀ type, (Datum.object object).downcast? type = some object →
        (∃ seen, content.viewAs? type = some seen ∧
          content.at? (.bases (content.shape.idxOf type)) = some seen) ∧
        ((content.lentAt? type).isSome ↔ type ∈ content.lentTypes) ∧
        (content.lentAt? type = some (.bases (content.shape.idxOf type)) ↔ content.Leads type) ∧
        (content.Opens type → content.Leads type) ∧
        ∀ f, (w.heap.modifyAs? object type f).isSome ↔ type ∈ content.lentTypes) ∧
      ∀ chain, Registered object.runtimeClass chain →
        ∀ (r : Registration σ ε) d, r.build = .ok d →
          (Datum.object object).InstanceOf d.runtimeClass → ∀ (factory : Factory) naming,
        (∀ p ∈ d.properties, ∀ invoker,
          (factory.propertyInvoker naming p).answer = .ok invoker → ∀ value,
            (invoker.invoke w.heap (.object object) value).blamesTarget ↔
              p.type.Admits value ∧ (Datum.object object).sameObject value = false ∧
                d.runtimeClass.native ∉ content.lentTypes) ∧
        (∀ m ∈ d.methods, ∀ invoker, (factory.methodInvoker naming m).answer = .ok invoker →
          ∃ method ∈ r.methods, r.methodOf d.runtimeClass method = m ∧ ∀ arguments,
            ((invoker.invoke w.heap (.object object) arguments).blamesTarget ↔
              List.Forall₂ ParamType.Admits m.params arguments ∧
              (∀ datum ∈ arguments, (Datum.object object).sameObject datum = false) ∧
              ∃ own, r.selected? method chain = some own ∧
                own.owner.native ∉ content.lentTypes)) := by
  obtain ⟨content, held, takes⟩ := reached.inLine object member
  refine ⟨content, held, ?types, ?members⟩
  case types =>
    intro type passes
    have isA := (object.derivesFrom_iff type).mp ((object.downcast?_iff type).mp passes)
    obtain ⟨seen, found⟩ := object.exists_viewAs? takes isA
    have shown : type ∈ content.shape :=
      (content.isSome_viewAs? type).mp (Option.isSome_of_eq_some found)
    refine ⟨⟨seen, found, (content.viewAs?_eq_at? type).symm.trans found⟩,
      content.isSome_lentAt? type, Instance.lentAt?_eq_shown_iff shown,
      fun opens => opens.leads shown, Heap.isSome_modifyAs? held type⟩
  case members =>
    intro chain known r d accepted inside factory naming
    constructor
    · intro p declared invoker made value
      obtain ⟨name, routine, _, described, decides⟩ :=
        RegisteredClass.decides_of_property accepted declared made
      have blamed := blamesTarget_of_decides (decides w.heap (.object object) value)
        fun ⟨_, _, ran⟩ => blamesTarget_of_ranOn ran
      subst described
      rw [blamed, native_of_build accepted]
      exact blames_ofAssignment_iff held inside ((kind_of_build accepted).symm.trans inside.1) value
    · intro m declared invoker made
      obtain ⟨method, listed, described, decides⟩ :=
        RegisteredClass.decides_of_method accepted declared made
      refine ⟨method, listed, described, fun arguments => ?_⟩
      have sound : (Datum.object object).ObjectOf chain := by
        intro ref same
        cases same
        exact ⟨known, object.made_of_takes takes⟩
      have blamed := blamesTarget_of_decides (decides w.heap (.object object) arguments chain sound)
        fun ⟨_, _, _, _, ran⟩ => blamesTarget_of_ranOn ran
      subst described
      rw [blamed]
      exact blames_ofCall_iff held known takes.1 accepted inside method arguments

namespace Ledgers

def diaryContent : Instance Nat :=
  .derived ⟨⟨2, "lib::Diary"⟩, 5, [.base]⟩ (.root ⟨bookType, 10, []⟩)

theorem shelf_reachable : World.Reachable ⟨shelf, [someBook, someDiary]⟩ := by
  have diaryMade := (diaryClass.runtimeClass.instantiate_eq_ok_iff .empty _ diaryContent
    someDiary).mpr ⟨⟨rfl, rfl, rfl⟩, rfl, rfl⟩
  have bookMade := (bookClass.runtimeClass.instantiate_eq_ok_iff
    (Heap.empty.allocate diaryContent) shelf (.root ⟨bookType, 7, []⟩) someBook).mpr
      ⟨⟨rfl, rfl, rfl⟩, rfl, rfl⟩
  exact .next (.next .start (.instantiate diaryMade)) (.instantiate bookMade)

theorem diaryContent_lentTypes : diaryContent.lentTypes = [⟨2, "lib::Diary"⟩, bookType] := by
  simp [diaryContent, Instance.lentTypes, Instance.lent?, Instance.at?, Instance.turn?,
    Instance.outer, Instance.native]

-- The diary lends its book, so the book can be written in it and binds others in.
theorem diary_lends_book :
    World.Reachable ⟨shelf, [someBook, someDiary]⟩ ∧
    diaryContent.lentAt? bookType = some (.bases 1) ∧
    (∀ f, (shelf.modifyAs? someDiary bookType f).isSome) ∧
    ∃ invoker, (Factory.methodInvoker ⟨.compiled, .default⟩ .first bindMethod).answer =
        .ok invoker ∧
      (invoker.invoke shelf (.object someDiary) [.object someBook]).blamesTarget = false := by
  obtain ⟨content, held, types, members⟩ :=
    writing_needs_open_parts shelf_reachable (.tail _ (.head _))
  obtain rfl : diaryContent = content := Option.some.inj held
  have lent : bookType ∈ diaryContent.lentTypes := by
    rw [diaryContent_lentTypes]
    exact .tail _ (.head _)
  obtain ⟨_, _, same, opens, written⟩ := types bookType rfl
  refine ⟨shelf_reachable, same.mpr (opens (by decide)), fun f => (written f).mpr lent, ?_⟩
  obtain ⟨invoker, made⟩ : ∃ invoker,
      (Factory.methodInvoker ⟨.compiled, .default⟩ .first bindMethod).answer = .ok invoker :=
    ⟨_, rfl⟩
  have calls := (members [diary, book] diary_registered book bookClass book_build (by decide)
    ⟨.compiled, .default⟩ .first).2 bindMethod List.mem_cons_self invoker made
  obtain ⟨method, listed, _, blamed⟩ := calls
  obtain rfl := List.mem_singleton.mp listed
  refine ⟨invoker, made, Bool.eq_false_iff.mpr fun blames => ?_⟩
  obtain ⟨_, _, own, selected, shut⟩ := (blamed [.object someBook]).mp blames
  -- Only the book has methods, so it registered the function.
  obtain rfl : ⟨bindIn, book⟩ = own := Option.some.inj (Eq.trans (by rfl) selected)
  exact shut lent

/-- A diary that does not lend the book that it is. -/
def keptDiary : Instance Nat :=
  .derived ⟨⟨2, "lib::Diary"⟩, 5, []⟩ (.root ⟨bookType, 10, []⟩)

/-- Its class takes the diary, which passes for a book and shows one; but it cannot be
written as a book, and binding in a book fails on the diary. -/
theorem kept_diary_fails_as_target :
    let heap := (Heap.empty.allocate keptDiary).allocate (.root ⟨bookType, 7, []⟩)
    diaryClass.runtimeClass.instantiate .empty keptDiary =
      .ok (someDiary, Heap.empty.allocate keptDiary) ∧
    (Datum.object someDiary).downcast? bookType = some someDiary ∧
    keptDiary.viewAs? bookType = some (.root ⟨bookType, 10, []⟩) ∧
    keptDiary.lentAt? bookType = none ∧
    heap.modifyAs? someDiary bookType id = none ∧
    (Datum.object someDiary).InstanceOf bookClass.runtimeClass ∧
    ∃ invoker, (Factory.methodInvoker ⟨.compiled, .default⟩ .first bindMethod).answer =
        .ok invoker ∧
      invoker.invoke heap (.object someDiary) [.object someBook] =
        .refused heap (.object someDiary) (.typeMismatch .target "Book" "Diary") := by
  have made := (diaryClass.runtimeClass.instantiate_eq_ok_iff .empty _ keptDiary someDiary).mpr
    ⟨⟨rfl, rfl, rfl⟩, rfl, rfl⟩
  exact ⟨made, rfl, rfl, rfl, rfl, by decide, _, rfl, rfl⟩

end Ledgers

end LateBinding
