import LateBinding.Datum

/-!
The parts of an instance against the ancestry of a class. A class takes an
instance as the content of an object exactly if the types of its parts are those
of the class and its base classes, one by one and to the end. A cell keeps its
types as long as what is put back into it has the types of what was lent.
-/

namespace LateBinding

variable {σ ε : Type}

namespace Instance

def shape (whole : Instance σ) : List NativeType :=
  whole.parts.map (·.native)

theorem shape_root (part : Part σ) : (root part).shape = [part.native] :=
  rfl

theorem shape_derived (part : Part σ) (base : Instance σ) :
    (derived part base).shape = part.native :: base.shape :=
  rfl

theorem head?_shape (whole : Instance σ) : whole.shape.head? = some whole.native :=
  head?_natives whole

theorem shape_ne_nil (whole : Instance σ) : whole.shape ≠ [] := by
  intro empty
  have first := head?_shape whole
  rw [empty] at first
  cases first

theorem native_of_shape {whole other : Instance σ} (same : whole.shape = other.shape) :
    whole.native = other.native := by
  have heads := congrArg List.head? same
  rw [head?_shape, head?_shape] at heads
  exact Option.some.inj heads

theorem shape_putTurn {whole inner new : Instance σ} {turn : Turn}
    (inside : whole.turn? turn = some inner) (same : new.shape = inner.shape) :
    (whole.putTurn turn new).shape = whole.shape := by
  fun_induction turn? whole turn with
  | case1 part base =>
      cases inside
      rw [putTurn, shape_derived, same, shape_derived]
  | case2 whole aside ih | case4 whole aside index ih => exact ih inside
  | case3 => rfl
  | case5 => cases inside

theorem shape_putAt {whole inner new : Instance σ} {place : Place}
    (inside : whole.at? place = some inner) (same : new.shape = inner.shape) :
    (whole.putAt place new).shape = whole.shape := by
  induction place generalizing whole with
  | nil =>
      cases inside
      exact same
  | cons turn rest ih =>
      obtain ⟨next, entered, beyond⟩ := Option.bind_eq_some_iff.mp inside
      simp only [putAt, entered]
      exact shape_putTurn entered (ih beyond)

end Instance

-- What comes back is given the type that was lent. It had that type already, so nothing changes.
theorem Loan.shape_putBack {loan : Loan σ} {part : Instance σ}
    (same : part.shape = loan.part.shape) : (loan.putBack part).shape = loan.whole.shape := by
  have own : part.withNative loan.part.native = part := by
    rw [← Instance.native_of_shape same, Instance.withNative_native]
  rw [putBack, own]
  exact Instance.shape_putAt loan.found same

namespace RuntimeClass

theorem lineage_root (own : ClassRecord σ ε) : (root own).lineage = [own.native] :=
  rfl

theorem lineage_derived (own : ClassRecord σ ε) (base : RuntimeClass σ ε) :
    (derived own base).lineage = own.native :: base.lineage :=
  rfl

theorem lineage_ne_nil (c : RuntimeClass σ ε) : c.lineage ≠ [] := by
  cases c <;> exact List.cons_ne_nil _ _

theorem head?_lineage (c : RuntimeClass σ ε) : c.lineage.head? = some c.native := by
  cases c <;> rfl

theorem derivesFrom_iff_mem (c : RuntimeClass σ ε) (type : NativeType) :
    c.derivesFrom type ↔ type ∈ c.lineage := by
  simp [derivesFrom, lineage]

end RuntimeClass

-- The walk stops with the shorter of the two chains, and is in step only if both end there.
theorem Instance.alignsWith_iff (content : Instance σ) (c : RuntimeClass σ ε) :
    content.alignsWith c ↔ content.shape = c.lineage := by
  induction content generalizing c with
  | root part =>
      cases c with
      | root own => simp [alignsWith, shape_root, RuntimeClass.lineage_root]
      | derived own base =>
          simp [alignsWith, shape_root, RuntimeClass.lineage_derived, base.lineage_ne_nil.symm]
  | derived part base ih =>
      cases c with
      | root own =>
          simp [alignsWith, shape_derived, RuntimeClass.lineage_root, base.shape_ne_nil]
      | derived own above =>
          simp [alignsWith, shape_derived, RuntimeClass.lineage_derived, ih]
  | holding whole aside ih => exact ih c

namespace RuntimeClass

/-- Objects of the class may hold the content. -/
def Takes (c : RuntimeClass σ ε) (content : Instance σ) : Prop :=
  c.kind = .reference ∧ c.isAbstract = false ∧ content.shape = c.lineage

theorem checkContent_eq_ok_iff (c : RuntimeClass σ ε) (content : Instance σ) :
    c.checkContent content = .ok () ↔ c.Takes content := by
  unfold checkContent Takes
  rw [← content.alignsWith_iff]
  split
  · next misfit =>
      constructor
      · intro accepted
        cases accepted
      · rintro ⟨kind, _, aligned⟩
        rcases misfit with other | apart
        · exact absurd kind other
        · -- Chains that are in step begin with the same type.
          have heads := congrArg List.head? ((content.alignsWith_iff c).mp aligned)
          rw [content.head?_shape, c.head?_lineage] at heads
          exact absurd (Option.some.inj heads) apart
  · next fits =>
      have kind : c.kind = .reference :=
        Classical.not_not.mp (not_or.mp fits).1
      split
      · next bare => simp [bare]
      · next concrete =>
          split
          · next aligned => simp [kind, concrete, aligned]
          · next apart => simp [apart]

theorem instantiate_eq_ok_iff (c : RuntimeClass σ ε) (heap after : Heap σ) (content : Instance σ)
    (object : ObjectRef σ ε) :
    c.instantiate heap content = .ok (object, after) ↔
      c.Takes content ∧ object = ⟨heap.nextId, c⟩ ∧ after = heap.allocate content := by
  rw [instantiate, ← checkContent_eq_ok_iff]
  cases c.checkContent content with
  | error error => simp [Except.map]
  | ok _ => simp [Except.map, eq_comm]

end RuntimeClass

end LateBinding
