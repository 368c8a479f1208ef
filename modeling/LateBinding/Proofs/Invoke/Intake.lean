import LateBinding.Routine

/-!
How a body takes in the arguments of a call for its function. It counts them first and
then takes them one by one, each for the next type that waits, with an index that is
counted apart from them. A run of takes is accounted for by the arguments it took, so
no type is ever left without one, the index is the place of the argument in the call,
and a take fails at the leftmost argument that does not convert. Bodies differ in what
they do with the arguments, not in how they take them.
-/

namespace LateBinding

variable {σ ε : Type}

namespace ParamType

def conversions (types : List ParamType) (arguments : List (Argument σ)) :
    List (Except ConversionError (Argument σ)) :=
  List.zipWith convert types arguments

/-- The leftmost argument that does not convert stands at the index, for this cause. -/
structure FailsFirst (types : List ParamType) (arguments : List (Argument σ)) (index : Nat)
    (cause : ConversionError) : Prop where
  fails : (conversions types arguments)[index]? = some (.error cause)
  earlier : ∀ place < index, ∃ converted,
    (conversions types arguments)[place]? = some (.ok converted)

theorem FailsFirst.of_split {types : List ParamType} {arguments taken : List (Argument σ)}
    {cause : ConversionError} {later : List (Except ConversionError (Argument σ))}
    (split : conversions types arguments = taken.map .ok ++ .error cause :: later) :
    FailsFirst types arguments taken.length cause := by
  constructor
  · rw [split, List.getElem?_append_right (by simp)]
    simp
  · intro place before
    refine ⟨taken[place], ?_⟩
    rw [split, List.getElem?_append_left (by simpa using before), List.getElem?_map,
      List.getElem?_eq_getElem before]
    rfl

theorem FailsFirst.unique {types : List ParamType} {arguments : List (Argument σ)}
    {index place : Nat} {cause other : ConversionError}
    (here : FailsFirst types arguments index cause)
    (there : FailsFirst types arguments place other) : index = place ∧ cause = other := by
  rcases Nat.lt_trichotomy index place with before | same | behind
  · obtain ⟨_, accepted⟩ := there.earlier index before
    cases here.fails.symm.trans accepted
  · subst same
    cases here.fails.symm.trans there.fails
    exact ⟨rfl, rfl⟩
  · obtain ⟨_, accepted⟩ := here.earlier place behind
    cases there.fails.symm.trans accepted

theorem not_failsFirst_of_converted {types : List ParamType}
    {arguments converted : List (Argument σ)}
    (all : conversions types arguments = converted.map .ok) (index : Nat)
    (cause : ConversionError) : ¬ FailsFirst types arguments index cause := by
  intro first
  have failed := first.fails
  rw [all, List.getElem?_map] at failed
  cases held : converted[index]? with
  | none => simp [held] at failed
  | some argument => simp [held] at failed

-- No argument is left, or the next one does not convert, or it does and the others stay.
theorem takeNext_cases (type : ParamType) (index : Nat) (left : List (Argument σ)) :
    (left = [] ∧ type.takeNext (ε := ε) index left = .error (.arityMismatch (index + 1) index)) ∨
    (∃ argument rest cause, left = argument :: rest ∧ type.convert argument = .error cause ∧
      type.takeNext (ε := ε) index left = .error (.ofConversion (.argument index) cause)) ∨
    (∃ argument rest converted, left = argument :: rest ∧
      type.convert argument = .ok converted ∧
      type.takeNext (ε := ε) index left = .ok (converted, rest)) := by
  cases left with
  | nil => exact .inl ⟨rfl, rfl⟩
  | cons argument rest =>
      right
      cases own : type.convert argument with
      | error cause =>
          refine .inl ⟨argument, rest, cause, rfl, own, ?_⟩
          rw [takeNext, convertAt, own]
          rfl
      | ok converted =>
          refine .inr ⟨argument, rest, converted, rfl, own, ?_⟩
          rw [takeNext, convertAt, own]
          rfl

end ParamType

/-- A body between two takes: the index of the next one, the types that wait, and the
arguments that are left for them. -/
structure Intake (σ : Type) where
  index : Nat
  waiting : List ParamType
  left : List (Argument σ)

namespace Intake

def start (types : List ParamType) (arguments : List (Argument σ)) : Intake σ :=
  ⟨0, types, arguments⟩

/-- Takes in a row, with what they made of the arguments, from one intake to another. -/
inductive Yields (ε : Type) : Intake σ → List (Argument σ) → Intake σ → Prop
  | none (intake : Intake σ) : Yields ε intake [] intake
  | next {index : Nat} {type : ParamType} {types : List ParamType}
      {left rest taken : List (Argument σ)} {first : Argument σ} {after : Intake σ} :
      type.takeNext (ε := ε) index left = .ok (first, rest) →
      Yields ε ⟨index + 1, types, rest⟩ taken after →
      Yields ε ⟨index, type :: types, left⟩ (first :: taken) after

def IsShort (intake : Intake σ) : Prop :=
  intake.waiting ≠ [] ∧ intake.left = []

def FailsWith (intake : Intake σ) (error : InvokeError ε) : Prop :=
  ∃ type types, intake.waiting = type :: types ∧
    type.takeNext intake.index intake.left = .error error

/-- Arguments taken stand for as many types and as many arguments, and the index has
moved on by their number. -/
structure Accounts (before : Intake σ) (taken : List (Argument σ)) (after : Intake σ) :
    Prop where
  conversions : ParamType.conversions before.waiting before.left =
    taken.map .ok ++ ParamType.conversions after.waiting after.left
  index : after.index = before.index + taken.length
  waiting : before.waiting.length = taken.length + after.waiting.length
  left : before.left.length = taken.length + after.left.length

theorem Accounts.next {index : Nat} {type : ParamType} {types : List ParamType}
    {left rest taken : List (Argument σ)} {first : Argument σ} {after : Intake σ}
    (took : type.takeNext (ε := ε) index left = .ok (first, rest))
    (later : Accounts ⟨index + 1, types, rest⟩ taken after) :
    Accounts ⟨index, type :: types, left⟩ (first :: taken) after := by
  rcases type.takeNext_cases (ε := ε) index left with
    ⟨_, short⟩ | ⟨_, _, _, _, _, failed⟩ | ⟨argument, others, converted, rfl, own, given⟩
  · cases short.symm.trans took
  · cases failed.symm.trans took
  · cases given.symm.trans took
    obtain ⟨conversions, moved, waiting, left⟩ := later
    constructor
    · have behind : List.zipWith ParamType.convert types rest =
          taken.map .ok ++ ParamType.conversions after.waiting after.left := conversions
      rw [ParamType.conversions, List.zipWith_cons_cons, own, behind]
      rfl
    · simp only [List.length_cons] at moved ⊢
      omega
    · simp only [List.length_cons] at waiting ⊢
      omega
    · simp only [List.length_cons] at left ⊢
      omega

theorem Yields.accounts {before after : Intake σ} {taken : List (Argument σ)}
    (run : Yields ε before taken after) : Accounts before taken after := by
  induction run with
  | none intake => exact ⟨rfl, rfl, (Nat.zero_add _).symm, (Nat.zero_add _).symm⟩
  | next took _ later => exact later.next took

/-- A run of takes that starts with an argument for each type never comes to a type
without one. -/
theorem Yields.not_isShort {before after : Intake σ} {taken : List (Argument σ)}
    (run : Yields ε before taken after) (count : before.waiting.length = before.left.length) :
    ¬ after.IsShort := by
  rintro ⟨waits, none⟩
  have waiting := run.accounts.waiting
  have left := run.accounts.left
  rw [none, List.length_nil] at left
  exact waits (List.eq_nil_of_length_eq_zero (by omega))

theorem convertFrom_cases (intake : Intake σ) :
    (∃ taken after, Yields ε intake taken after ∧ after.waiting = [] ∧
      ParamType.convertFrom (ε := ε) intake.index intake.waiting intake.left = .ok taken) ∨
    ∃ taken after error, Yields ε intake taken after ∧ after.FailsWith error ∧
      ParamType.convertFrom (ε := ε) intake.index intake.waiting intake.left = .error error := by
  obtain ⟨index, types, left⟩ := intake
  induction types generalizing index left with
  | nil => exact .inl ⟨[], _, .none _, rfl, rfl⟩
  | cons type types ih =>
      cases took : type.takeNext (ε := ε) index left with
      | error error =>
          refine .inr ⟨[], _, error, .none _, ⟨type, types, rfl, took⟩, ?_⟩
          rw [ParamType.convertFrom, took]
          rfl
      | ok given =>
          obtain ⟨first, rest⟩ := given
          have step := ParamType.convertFrom_of_takeNext took types
          rcases ih (index + 1) rest with
            ⟨taken, after, run, served, whole⟩ | ⟨taken, after, error, run, failed, stopped⟩
          · refine .inl ⟨first :: taken, after, .next took run, served, ?_⟩
            rw [step, whole]
            rfl
          · refine .inr ⟨first :: taken, after, error, .next took run, failed, ?_⟩
            rw [step, stopped]
            rfl

end Intake

namespace ParamType

theorem convertAll_cases {types : List ParamType} {arguments : List (Argument σ)}
    (count : types.length = arguments.length) :
    (∃ converted, conversions types arguments = converted.map .ok ∧
      convertAll (ε := ε) types arguments = .ok converted) ∨
    ∃ index cause, FailsFirst types arguments index cause ∧
      convertAll (ε := ε) types arguments = .error (.ofConversion (.argument index) cause) := by
  rw [convertAll, if_pos count]
  rcases Intake.convertFrom_cases (ε := ε) (Intake.start types arguments) with
    ⟨taken, after, run, served, whole⟩ | ⟨taken, after, error, run, failed, stopped⟩
  · refine .inl ⟨taken, ?_, whole⟩
    have accounted := run.accounts.conversions
    rw [served] at accounted
    exact accounted.trans (List.append_nil _)
  · obtain ⟨type, behind, waits, failed⟩ := failed
    have accounted := run.accounts
    have place : after.index = taken.length := accounted.index.trans (Nat.zero_add _)
    rcases type.takeNext_cases (ε := ε) after.index after.left with
      ⟨short, _⟩ | ⟨argument, rest, cause, next, own, refused⟩ | ⟨_, _, _, _, _, given⟩
    · exact absurd ⟨by simp [waits], short⟩ (run.not_isShort count)
    · have split := accounted.conversions
      rw [waits, next, conversions, conversions, List.zipWith_cons_cons, own] at split
      cases refused.symm.trans failed
      exact .inr ⟨taken.length, cause, .of_split split, place ▸ stopped⟩
    · cases given.symm.trans failed

end ParamType

open ParamType

/-- How arguments are taken in for a function. A wrong count is refused, then the
leftmost argument that does not convert, and otherwise the function runs on what the
arguments convert to, in their order. -/
structure TakesIn (types : List ParamType) (arguments : List (Argument σ))
    (refused : InvokeError ε → Prop) (ran : List (Argument σ) → Prop) : Prop where
  miscounted : types.length ≠ arguments.length →
    refused (.arityMismatch types.length arguments.length)
  unconvertible : types.length = arguments.length →
    ∀ index cause, FailsFirst types arguments index cause →
      refused (.ofConversion (.argument index) cause)
  converted : types.length = arguments.length →
    (∀ index cause, ¬ FailsFirst types arguments index cause) →
      ∃ converted, conversions types arguments = converted.map .ok ∧ ran converted

theorem TakesIn.of_convertAll {types : List ParamType} {arguments : List (Argument σ)}
    {refused : InvokeError ε → Prop} {ran : List (Argument σ) → Prop}
    (refuses : ∀ error, convertAll types arguments = .error error → refused error)
    (runs : ∀ converted, convertAll (ε := ε) types arguments = .ok converted → ran converted) :
    TakesIn types arguments refused ran where
  miscounted count := refuses _ (by rw [convertAll, if_neg count])
  unconvertible count index cause first := by
    rcases convertAll_cases (ε := ε) count with
      ⟨converted, all, _⟩ | ⟨place, other, there, stopped⟩
    · exact absurd first (not_failsFirst_of_converted all index cause)
    · obtain ⟨rfl, rfl⟩ := first.unique there
      exact refuses _ stopped
  converted count none := by
    rcases convertAll_cases (ε := ε) count with
      ⟨converted, all, whole⟩ | ⟨place, other, there, _⟩
    · exact ⟨converted, all, runs converted whole⟩
    · exact absurd there (none place other)

variable {ρ : Type}

structure Outcome.Refuses (outcome : Outcome σ ε ρ) (heap : Heap σ) (error : InvokeError ε) :
    Prop where
  answer : outcome.answer = .error error
  runs : outcome.runs = []
  heap : outcome.heap = heap

structure Outcome.Returns (outcome : Outcome σ ε ρ) (arguments : List (Argument σ))
    (made : Making σ ρ) : Prop where
  answer : outcome.answer = .ok made.result
  runs : outcome.runs = [⟨none, arguments, made.lines⟩]
  heap : outcome.heap = made.heap

structure Change.Refuses (change : Change σ ε ρ) (heap : Heap σ) (lent : Instance σ)
    (error : InvokeError ε) : Prop where
  outcome : change.toOutcome.Refuses heap error
  receiver : change.receiver = lent

structure Change.Returns (change : Change σ ε ρ) (lent : Instance σ)
    (arguments : List (Argument σ)) (touch : Touch σ ρ) : Prop where
  answer : change.answer = .ok touch.result
  runs : change.runs = [⟨some lent, arguments, touch.lines⟩]
  heap : change.heap = touch.heap
  receiver : change.receiver = touch.receiver

-- What a conversion fails for is told as a mismatch, and a function only returns.
theorem TakesIn.arityMismatch_iff {types : List ParamType} {arguments : List (Argument σ)}
    {refused : InvokeError ε → Prop} {ran : List (Argument σ) → Prop}
    (takes : TakesIn types arguments refused ran) {answer : Except (InvokeError ε) ρ}
    (refuses : ∀ error, refused error → answer = .error error)
    (returns : ∀ converted, ran converted → ∃ result, answer = .ok result) :
    (∃ expected actual, answer = .error (.arityMismatch expected actual)) ↔
      types.length ≠ arguments.length := by
  constructor
  · rintro ⟨expected, actual, answered⟩ count
    by_cases stops : ∃ index cause, FailsFirst types arguments index cause
    · obtain ⟨index, cause, first⟩ := stops
      have told := refuses _ (takes.unconvertible count index cause first)
      cases cause <;> cases told.symm.trans answered
    · obtain ⟨converted, _, ran⟩ := takes.converted count fun index cause first =>
        stops ⟨index, cause, first⟩
      obtain ⟨result, returned⟩ := returns converted ran
      cases returned.symm.trans answered
  · exact fun count => ⟨_, _, refuses _ (takes.miscounted count)⟩

theorem ConstructorFunction.takesIn (f : ConstructorFunction σ ρ) (heap : Heap σ)
    (arguments : List (Argument σ)) :
    TakesIn f.params arguments ((f.construct (ε := ε) heap arguments).Refuses heap)
      fun converted => (f.construct (ε := ε) heap arguments).Returns converted
        (f.run heap converted) := by
  apply TakesIn.of_convertAll
  · intro error refused
    rw [construct, refused]
    exact ⟨rfl, rfl, rfl⟩
  · intro converted whole
    rw [construct, whole]
    exact ⟨rfl, rfl, rfl⟩

theorem MethodFunction.takesIn (f : MethodFunction σ ρ) (heap : Heap σ) (lent : Instance σ)
    (arguments : List (Argument σ)) :
    TakesIn f.params arguments ((f.invokeOn (ε := ε) heap lent arguments).Refuses heap lent)
      fun converted => (f.invokeOn (ε := ε) heap lent arguments).Returns lent converted
        (f.run heap lent converted) := by
  apply TakesIn.of_convertAll
  · intro error refused
    rw [invokeOn, refused]
    exact ⟨⟨rfl, rfl, rfl⟩, rfl⟩
  · intro converted whole
    rw [invokeOn, whole]
    exact ⟨rfl, rfl, rfl, rfl⟩

/-- Every function runs on its converted arguments or not at all. Its adapter answers a
wrong count, and nothing else, with the two counts; then it refuses the leftmost
argument that does not convert, by its place and with the cause. A refusal runs nothing
and leaves what was lent and all objects as they were. In any other call the function
runs once, on what the arguments convert to, and its result is returned; one that may
only look at what it is lent leaves it as it was. While arguments are taken, as many as
there are types, none is ever missing. -/
theorem functions_run_on_converted_arguments :
    (∀ (f : ConstructorFunction σ ρ) heap arguments,
      TakesIn f.params arguments ((f.construct (ε := ε) heap arguments).Refuses heap)
        (fun converted => (f.construct (ε := ε) heap arguments).Returns converted
          (f.run heap converted)) ∧
      ((∃ expected actual, (f.construct (ε := ε) heap arguments).answer =
          .error (.arityMismatch expected actual)) ↔ f.params.length ≠ arguments.length)) ∧
    (∀ (f : MethodFunction σ ρ) heap lent arguments,
      TakesIn f.params arguments ((f.invokeOn (ε := ε) heap lent arguments).Refuses heap lent)
        (fun converted => (f.invokeOn (ε := ε) heap lent arguments).Returns lent converted
          (f.run heap lent converted)) ∧
      ((∃ expected actual, (f.invokeOn (ε := ε) heap lent arguments).answer =
          .error (.arityMismatch expected actual)) ↔ f.params.length ≠ arguments.length) ∧
      TakesIn f.params arguments
        ((f.shared.invokeOn (ε := ε) heap lent arguments).Refuses heap lent)
        (fun converted => (f.shared.invokeOn (ε := ε) heap lent arguments).Returns lent converted
          { f.run heap lent converted with receiver := lent }) ∧
      ((∃ expected actual, (f.shared.invokeOn (ε := ε) heap lent arguments).answer =
          .error (.arityMismatch expected actual)) ↔ f.params.length ≠ arguments.length)) ∧
    ∀ (types : List ParamType) (arguments : List (Argument σ)),
      types.length = arguments.length →
        ∀ taken after, Intake.Yields ε (.start types arguments) taken after →
          ¬ after.IsShort := by
  have counted (f : MethodFunction σ ρ) (heap : Heap σ) (lent : Instance σ)
      (arguments : List (Argument σ)) :
      (∃ expected actual, (f.invokeOn (ε := ε) heap lent arguments).answer =
        .error (.arityMismatch expected actual)) ↔ f.params.length ≠ arguments.length :=
    (f.takesIn heap lent arguments).arityMismatch_iff (fun _ refused => refused.outcome.answer)
      fun _ returned => ⟨_, returned.answer⟩
  refine ⟨fun f heap arguments => ⟨f.takesIn heap arguments, ?_⟩,
    fun f heap lent arguments => ⟨f.takesIn heap lent arguments, counted f heap lent arguments,
      f.shared.takesIn heap lent arguments, counted f.shared heap lent arguments⟩,
    fun types arguments count taken after run => run.not_isShort count⟩
  exact (f.takesIn heap arguments).arityMismatch_iff (fun _ refused => refused.answer)
    fun _ returned => ⟨_, returned.answer⟩

/-! A desk that lends out books for a number of days, and gives out slips. -/
namespace Desk

def daysType : NativeType := ⟨4, "u32"⟩

def bookType : NativeType := ⟨1, "lib::Book"⟩

def lendOut : MethodFunction Nat String :=
  .ofContents [.value daysType "u32", .reference bookType false] fun desk _ =>
    ⟨"slip", ["lend"], desk.mapState (· + 1)⟩

def desk : Instance Nat := .root ⟨⟨5, "lib::Desk"⟩, 0, []⟩

def week : Argument Nat := .value (.root ⟨daysType, 7, []⟩)

def atlas : Argument Nat := .object ⟨0, "Atlas", [⟨2, "lib::Atlas"⟩, bookType]⟩

-- A week alone is too little, a week with no book is refused for the book, and an atlas is
-- lent out as the book that it is. When the book has its turn, an argument is left for it.
theorem atlas_lent_for_a_week :
    (lendOut.invokeOn (ε := String) .empty desk [week]).Refuses .empty desk
      (.arityMismatch 2 1) ∧
    (lendOut.invokeOn (ε := String) .empty desk [week, .null]).Refuses .empty desk
      (.typeMismatch (.argument 1) "Book" "null") ∧
    (lendOut.invokeOn (ε := String) .empty desk [week, atlas]).Returns desk [week, atlas]
      ⟨⟨"slip", ["lend"], .root ⟨⟨5, "lib::Desk"⟩, 1, []⟩⟩, .empty⟩ ∧
    ∃ after, Intake.Yields String (.start lendOut.params [week, atlas]) [week] after ∧
      after.waiting = [.reference bookType false] ∧ ¬ after.IsShort := by
  obtain ⟨_, methods, supplied⟩ :=
    functions_run_on_converted_arguments (σ := Nat) (ε := String) (ρ := String)
  have takes (arguments : List (Argument Nat)) := (methods lendOut .empty desk arguments).1
  have weekFirst : ∀ place < 1, ∃ converted,
      (conversions lendOut.params [week, .null])[place]? = some (.ok converted) := by
    intro place before
    obtain rfl : place = 0 := by omega
    exact ⟨week, rfl⟩
  have all : conversions lendOut.params [week, atlas] = [week, atlas].map .ok := rfl
  obtain ⟨converted, same, returned⟩ :=
    (takes [week, atlas]).converted rfl (not_failsFirst_of_converted all)
  obtain rfl : [week, atlas] = converted :=
    (List.map_inj_right fun _ _ same => Except.ok.inj same).mp (all.symm.trans same)
  have taken : Intake.Yields String (.start lendOut.params [week, atlas]) [week]
      ⟨1, [.reference bookType false], [atlas]⟩ := .next rfl (.none _)
  exact ⟨(takes [week]).miscounted (by decide),
    (takes [week, .null]).unconvertible rfl 1 (.nullReference "Book") ⟨rfl, weekFirst⟩,
    returned, _, taken, rfl, supplied _ _ rfl _ _ taken⟩

end Desk

end LateBinding
