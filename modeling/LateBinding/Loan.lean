import LateBinding.Instance

/-!
Borrowing for writing. A writer who asks for a type is led from an instance to
what its outermost part lends, and on from there, until an instance has that
type. The way is kept with the loan, so that what comes back is put where it was
taken from.
-/

namespace LateBinding

namespace Instance

variable {σ : Type}

def turn? : Instance σ → Turn → Option (Instance σ)
  | .derived _ base, .base => some base
  | .holding whole _, .base => whole.turn? .base
  | .holding _ aside, .aside 0 => some aside
  | .holding whole _, .aside (index + 1) => whole.turn? (.aside index)
  | _, _ => none

def at? (whole : Instance σ) : Place → Option (Instance σ)
  | [] => some whole
  | turn :: rest => (whole.turn? turn).bind (·.at? rest)

def putTurn : Instance σ → Turn → Instance σ → Instance σ
  | .derived part _, .base, new => .derived part new
  | .holding whole aside, .base, new => .holding (whole.putTurn .base new) aside
  | .holding whole _, .aside 0, new => .holding whole new
  | .holding whole aside, .aside (index + 1), new =>
      .holding (whole.putTurn (.aside index) new) aside
  | whole, _, _ => whole

/-- Puts an instance in the place of another, if there is one at the place. -/
def putAt (whole : Instance σ) : Place → Instance σ → Instance σ
  | [], new => new
  | turn :: rest, new =>
      match whole.turn? turn with
      | none => whole
      | some inner => whole.putTurn turn (inner.putAt rest new)

/-- How many instances there are inside, those not shown included. -/
def size : Instance σ → Nat
  | .root _ => 1
  | .derived _ base => base.size + 1
  | .holding whole aside => whole.size + aside.size + 1

theorem size_lt_of_turn? {whole inner : Instance σ} {turn : Turn}
    (inside : whole.turn? turn = some inner) : inner.size < whole.size := by
  fun_induction turn? whole turn with
  | case1 part base => cases inside; exact Nat.lt_succ_self _
  | case2 whole aside ih | case4 whole aside index ih =>
      have smaller := ih inside
      simp only [size]
      omega
  | case3 whole aside => cases inside; simp only [size]; omega
  | case5 => cases inside

theorem size_le_of_at? {whole inner : Instance σ} {place : Place}
    (inside : whole.at? place = some inner) : inner.size ≤ whole.size := by
  induction place generalizing whole with
  | nil => cases inside; exact Nat.le_refl _
  | cons turn rest ih =>
      obtain ⟨next, entered, beyond⟩ := Option.bind_eq_some_iff.mp inside
      exact Nat.le_trans (ih beyond) (Nat.le_of_lt (size_lt_of_turn? entered))

def lent? (whole : Instance σ) : Option (Instance σ) :=
  match whole.outer.lends with
  | [] => none
  | turn :: rest => whole.at? (turn :: rest)

theorem size_lt_of_lent? {whole inner : Instance σ} (lent : whole.lent? = some inner) :
    inner.size < whole.size := by
  unfold lent? at lent
  split at lent
  · cases lent
  · obtain ⟨next, entered, beyond⟩ := Option.bind_eq_some_iff.mp lent
    exact Nat.lt_of_le_of_lt (size_le_of_at? beyond) (size_lt_of_turn? entered)

/-- Where an instance is borrowed for writing as a type: the first of that type
among the instance, what it lends, what that lends in turn, and so on. -/
@[semireducible] def lentAt? (type : NativeType) (whole : Instance σ) : Option Place :=
  if whole.native = type then some []
  else
    match _lent : whole.lent? with
    | none => none
    | some inner => (inner.lentAt? type).map (whole.outer.lends ++ ·)
  termination_by whole.size
  decreasing_by exact size_lt_of_lent? _lent

theorem outer_putTurn (whole new : Instance σ) (turn : Turn) :
    (whole.putTurn turn new).outer = whole.outer := by
  fun_induction putTurn whole turn new with
  | case1 | case3 | case5 => rfl
  | case2 whole aside new ih | case4 whole aside index new ih => exact ih

theorem turn?_putTurn {whole inner : Instance σ} {turn : Turn} (new : Instance σ)
    (inside : whole.turn? turn = some inner) :
    (whole.putTurn turn new).turn? turn = some new := by
  fun_induction turn? whole turn with
  | case1 | case3 => rfl
  | case2 whole aside ih | case4 whole aside index ih => exact ih inside
  | case5 => cases inside

theorem turn?_putTurn_of_ne (whole new : Instance σ) {turn other : Turn} (apart : turn ≠ other) :
    (whole.putTurn turn new).turn? other = whole.turn? other := by
  fun_induction putTurn whole turn new generalizing other with
  | case1 part base new =>
      cases other with
      | base => exact absurd rfl apart
      | aside count => rfl
  | case2 whole aside new ih =>
      match other with
      | .base => exact absurd rfl apart
      | .aside 0 => rfl
      | .aside (count + 1) => exact ih (fun same => nomatch same)
  | case3 whole aside new =>
      match other with
      | .base => rfl
      | .aside 0 => exact absurd rfl apart
      | .aside (count + 1) => rfl
  | case4 whole aside index new ih =>
      match other with
      | .base => exact ih (fun same => nomatch same)
      | .aside 0 => rfl
      | .aside (count + 1) =>
          refine ih fun same => apart ?_
          rw [Turn.aside.inj same]
  | case5 => rfl

theorem putTurn_of_turn? {whole inner : Instance σ} {turn : Turn}
    (inside : whole.turn? turn = some inner) : whole.putTurn turn inner = whole := by
  fun_induction turn? whole turn with
  | case1 | case3 => cases inside; rfl
  | case2 whole aside ih | case4 whole aside index ih => rw [putTurn, ih inside]
  | case5 => cases inside

theorem at?_append (whole : Instance σ) (way rest : Place) :
    whole.at? (way ++ rest) = (whole.at? way).bind (·.at? rest) := by
  induction way generalizing whole with
  | nil => rfl
  | cons turn way ih =>
      simp only [List.cons_append, at?, Option.bind_assoc]
      exact Option.bind_congr fun inner _ => ih inner

theorem at?_putAt {whole inner : Instance σ} {place : Place} (new : Instance σ)
    (inside : whole.at? place = some inner) : (whole.putAt place new).at? place = some new := by
  induction place generalizing whole with
  | nil => rfl
  | cons turn rest ih =>
      obtain ⟨next, entered, beyond⟩ := Option.bind_eq_some_iff.mp inside
      simp only [putAt, entered, at?, turn?_putTurn _ entered]
      exact ih beyond

theorem putAt_of_at? {whole inner : Instance σ} {place : Place}
    (inside : whole.at? place = some inner) : whole.putAt place inner = whole := by
  induction place generalizing whole with
  | nil => exact (Option.some.inj inside).symm
  | cons turn rest ih =>
      obtain ⟨next, entered, beyond⟩ := Option.bind_eq_some_iff.mp inside
      simp only [putAt, entered, ih beyond, putTurn_of_turn? entered]

end Instance

/-- An instance on loan from a place inside another. -/
structure Loan (σ : Type) where
  whole : Instance σ
  place : Place
  part : Instance σ
  found : whole.at? place = some part

namespace Loan

variable {σ : Type}

def ofWhole (whole : Instance σ) : Loan σ :=
  ⟨whole, [], whole, rfl⟩

def take? (whole : Instance σ) (place : Place) : Option (Loan σ) :=
  match found : whole.at? place with
  | none => none
  | some part => some ⟨whole, place, part, found⟩

/-- The whole with what came back in the place of what was lent, of the same type as that. -/
def putBack (loan : Loan σ) (part : Instance σ) : Instance σ :=
  loan.whole.putAt loan.place (part.withNative loan.part.native)

theorem ext {a b : Loan σ} (whole : a.whole = b.whole) (place : a.place = b.place) : a = b := by
  rcases a with ⟨whole, place, part, found⟩
  rcases b with ⟨_, _, other, again⟩
  cases whole
  cases place
  cases found.symm.trans again
  rfl

theorem take?_eq_some {whole : Instance σ} {place : Place} {loan : Loan σ} :
    take? whole place = some loan ↔ loan.whole = whole ∧ loan.place = place := by
  unfold take?
  split
  · next missing =>
      constructor
      · intro taken
        cases taken
      · rintro ⟨rfl, rfl⟩
        cases missing.symm.trans loan.found
  · next part found =>
      constructor
      · intro taken
        cases taken
        exact ⟨rfl, rfl⟩
      · rintro ⟨same, there⟩
        exact congrArg some (ext same.symm there.symm)

theorem isSome_take? (whole : Instance σ) (place : Place) :
    (take? whole place).isSome = (whole.at? place).isSome := by
  unfold take?
  split <;> simp_all

theorem putBack_part (loan : Loan σ) : loan.putBack loan.part = loan.whole := by
  rw [putBack, Instance.withNative_native, Instance.putAt_of_at? loan.found]

end Loan

def Instance.borrowAs? {σ : Type} (type : NativeType) (whole : Instance σ) : Option (Loan σ) :=
  (whole.lentAt? type).bind (Loan.take? whole)

end LateBinding
