import LateBinding.Proofs.Object.Shape
import Mathlib.Data.List.Basic
import Mathlib.Data.List.TakeWhile

/-!
Reading against writing. Readers go from part to part by the bases that the parts
show, writers by what the parts lend, and nothing in an instance ties the two
together. The walks come to the same part exactly if each part that the writer
meets lends a base which it shows, or one that this base shows in turn, not beyond
the first part of the type.
-/

namespace LateBinding

variable {σ : Type}

def Place.bases (count : Nat) : Place :=
  List.replicate count .base

theorem Place.bases_append (near far : Nat) :
    (bases near ++ bases far : Place) = bases (near + far) :=
  List.replicate_append_replicate

theorem idxOf_drop {α : Type} [DecidableEq α] {a : α} {count : Nat} {list : List α}
    (absent : a ∉ list.take count) (inside : count ≤ list.length) :
    list.idxOf a = count + (list.drop count).idxOf a := by
  conv => lhs; rw [← List.take_append_drop count list]
  rw [List.idxOf_append_of_notMem absent, List.length_take, Nat.min_eq_left inside]

namespace Instance

/-! What is shown. -/

/-- Each part with all that it holds, the base that it shows apart. -/
def layers : Instance σ → List (Instance σ)
  | .root part => [.root part]
  | .derived part base => .root part :: base.layers
  | .holding whole aside => whole.layers.modifyHead (.holding · aside)

theorem layers_eq_cons (whole : Instance σ) :
    ∃ first rest, whole.layers = first :: rest ∧ first.outer = whole.outer := by
  induction whole with
  | root part => exact ⟨_, _, rfl, rfl⟩
  | derived part base => exact ⟨_, _, rfl, rfl⟩
  | holding whole aside ih =>
      obtain ⟨first, rest, same, own⟩ := ih
      exact ⟨.holding first aside, rest, by rw [layers, same, List.modifyHead_cons], own⟩

theorem parts_eq_map_layers (whole : Instance σ) : whole.parts = whole.layers.map outer := by
  induction whole with
  | root part => rfl
  | derived part base ih => rw [parts, layers, ih, List.map_cons, outer]
  | holding whole aside ih =>
      obtain ⟨first, rest, same, own⟩ := whole.layers_eq_cons
      rw [parts, layers, ih, same]
      rfl

theorem shape_eq_map_layers (whole : Instance σ) : whole.shape = whole.layers.map native := by
  rw [shape, parts_eq_map_layers, List.map_map]
  rfl

theorem shape_eq_cons (whole : Instance σ) : ∃ rest, whole.shape = whole.native :: rest := by
  obtain ⟨first, rest, same, own⟩ := whole.layers_eq_cons
  exact ⟨rest.map native, by rw [shape_eq_map_layers, same, List.map_cons, native, own]; rfl⟩

theorem layers_of_base {whole base : Instance σ} (shown : whole.turn? .base = some base) :
    ∃ own, whole.layers = own :: base.layers ∧
      ∀ new, (whole.putTurn .base new).layers = own :: new.layers := by
  induction whole with
  | root part => cases shown
  | derived part inner =>
      cases shown
      exact ⟨.root part, rfl, fun _ => rfl⟩
  | holding whole aside ih =>
      obtain ⟨own, same, put⟩ := ih shown
      refine ⟨.holding own aside, by rw [layers, same, List.modifyHead_cons], fun new => ?_⟩
      rw [putTurn, layers, put, List.modifyHead_cons]

theorem layers_of_at? {whole inner : Instance σ} {count : Nat}
    (found : whole.at? (.bases count) = some inner) :
    inner.layers = whole.layers.drop count ∧
      ∀ new, (whole.putAt (.bases count) new).layers =
        whole.layers.take count ++ new.layers := by
  induction count generalizing whole with
  | zero =>
      cases found
      exact ⟨rfl, fun _ => rfl⟩
  | succ count ih =>
      obtain ⟨base, shown, beyond⟩ := Option.bind_eq_some_iff.mp found
      obtain ⟨own, same, put⟩ := layers_of_base shown
      obtain ⟨dropped, replaced⟩ := ih beyond
      refine ⟨by rw [dropped, same, List.drop_succ_cons], fun new => ?_⟩
      have further := replaced new
      simp only [Place.bases] at further
      simp only [Place.bases, List.replicate_succ, putAt, shown, put, same, further,
        List.take_succ_cons, List.cons_append]

theorem shape_of_at? {whole inner : Instance σ} {count : Nat}
    (found : whole.at? (.bases count) = some inner) :
    inner.shape = whole.shape.drop count := by
  rw [shape_eq_map_layers, shape_eq_map_layers, (layers_of_at? found).1, List.map_drop]

theorem lt_length_of_at? {whole inner : Instance σ} {count : Nat}
    (found : whole.at? (.bases count) = some inner) : count < whole.shape.length := by
  have left := inner.shape_ne_nil
  rw [shape_of_at? found, ne_eq, List.drop_eq_nil_iff] at left
  omega

theorem idxOf_shape_of_miss {type : NativeType} {whole : Instance σ} (miss : whole.native ≠ type) :
    ∃ count, whole.shape.idxOf type = count + 1 := by
  obtain ⟨rest, same⟩ := whole.shape_eq_cons
  exact ⟨rest.idxOf type, by rw [same, List.idxOf_cons_ne _ miss]⟩

theorem idxOf_shape_of_hit {type : NativeType} {whole : Instance σ} (hit : whole.native = type) :
    whole.shape.idxOf type = 0 := by
  obtain ⟨rest, same⟩ := whole.shape_eq_cons
  rw [same, hit, List.idxOf_cons_self]

-- Looking for a type is looking for its first place among the types of the parts.
theorem viewAs?_eq_at? (type : NativeType) (whole : Instance σ) :
    whole.viewAs? type = whole.at? (.bases (whole.shape.idxOf type)) := by
  induction whole with
  | root part =>
      have only : (root part).shape = [part.native] := rfl
      by_cases hit : part.native = type
      · rw [viewAs?, if_pos hit, only, hit, List.idxOf_cons_self]
        rfl
      · rw [viewAs?, if_neg hit, only, List.idxOf_cons_ne _ hit]
        rfl
  | derived part base ih =>
      by_cases hit : part.native = type
      · rw [viewAs?, if_pos hit, shape_derived, hit, List.idxOf_cons_self]
        rfl
      · rw [viewAs?, if_neg hit, ih, shape_derived, List.idxOf_cons_ne _ hit]
        rfl
  | holding whole aside ih =>
      have same : (holding whole aside).shape = whole.shape := rfl
      by_cases hit : whole.native = type
      · rw [viewAs?, if_pos hit, same, idxOf_shape_of_hit hit]
        rfl
      · obtain ⟨count, far⟩ := idxOf_shape_of_miss hit
        rw [viewAs?, if_neg hit, ih, same, far]
        rfl

/-- The parts around the first one of a type, with all that they hold. -/
def outside (type : NativeType) (whole : Instance σ) : List (Instance σ) :=
  whole.layers.takeWhile fun layer => decide (layer.native ≠ type)

theorem outside_of_native {type : NativeType} {whole : Instance σ} (own : whole.native = type) :
    whole.outside type = [] := by
  obtain ⟨first, rest, same, outermost⟩ := whole.layers_eq_cons
  have hit : first.native = type := (congrArg Part.native outermost).trans own
  rw [outside, same]
  exact List.takeWhile_cons_of_neg fun other => of_decide_eq_true other hit

theorem outside_eq_take (type : NativeType) (whole : Instance σ) :
    whole.outside type = whole.layers.take (whole.shape.idxOf type) := by
  rw [outside, shape_eq_map_layers]
  induction whole.layers with
  | nil => rfl
  | cons layer rest ih =>
      by_cases hit : layer.native = type
      · simp [hit]
      · rw [List.map_cons, List.idxOf_cons_ne _ hit, List.take_succ_cons, ← ih]
        exact List.takeWhile_cons_of_pos (decide_eq_true hit)

/-- What is put in the place of the first part of a type stands there in the same
surroundings, and is what the type shows. -/
theorem surrounds_putAt {type : NativeType} {whole seen new : Instance σ}
    (found : whole.viewAs? type = some seen) (own : new.native = type) :
    (whole.putAt (.bases (whole.shape.idxOf type)) new).outside type = whole.outside type ∧
      (whole.putAt (.bases (whole.shape.idxOf type)) new).viewAs? type = some new := by
  rw [viewAs?_eq_at?] at found
  have layers := (layers_of_at? found).2 new
  have before : ∀ layer ∈ whole.layers.take (whole.shape.idxOf type), layer.native ≠ type := by
    intro layer around
    rw [← outside_eq_take, outside] at around
    simpa using List.mem_takeWhile_imp around
  constructor
  · rw [outside, layers, List.takeWhile_append_of_pos fun layer around =>
      decide_eq_true (before layer around), ← outside, outside_of_native own, List.append_nil,
      outside_eq_take]
  · have inside : whole.shape.idxOf type ≤ whole.layers.length := by
      rw [shape_eq_map_layers, ← List.length_map (f := native)]
      exact List.idxOf_le_length
    have absent : type ∉ (whole.layers.take (whole.shape.idxOf type)).map native := by
      rintro listed
      obtain ⟨layer, around, hit⟩ := List.mem_map.mp listed
      exact before layer around hit
    have place : (whole.putAt (.bases (whole.shape.idxOf type)) new).shape.idxOf type =
        whole.shape.idxOf type := by
      rw [shape_eq_map_layers, layers, List.map_append, List.idxOf_append_of_notMem absent,
        ← shape_eq_map_layers, idxOf_shape_of_hit own, List.length_map, List.length_take,
        Nat.min_eq_left inside]
      rfl
    rw [viewAs?_eq_at?, place]
    exact at?_putAt new found

theorem parts_putTurn_aside {whole inner : Instance σ} {index : Nat} (new : Instance σ)
    (inside : whole.turn? (.aside index) = some inner) :
    (whole.putTurn (.aside index) new).parts = whole.parts := by
  induction whole generalizing index with
  | root part => cases inside
  | derived part base => cases inside
  | holding whole aside ih =>
      cases index with
      | zero => rfl
      | succ index => exact ih inside

theorem map_outer_outside (type : NativeType) (whole : Instance σ) :
    (whole.outside type).map outer = whole.parts.takeWhile fun part => part.native ≠ type := by
  rw [outside, parts_eq_map_layers, List.takeWhile_map]
  rfl

-- An instance of the type at any place is not around the first one, and is replaced by one.
theorem map_outer_outside_putAt {type : NativeType} {whole inner new : Instance σ} {place : Place}
    (inside : whole.at? place = some inner) (own : inner.native = type)
    (same : new.native = type) :
    ((whole.putAt place new).outside type).map outer = (whole.outside type).map outer := by
  induction place generalizing whole with
  | nil =>
      cases inside
      rw [putAt, outside_of_native same, outside_of_native own]
  | cons turn rest ih =>
      obtain ⟨next, entered, beyond⟩ := Option.bind_eq_some_iff.mp inside
      have further := ih beyond
      simp only [putAt, entered]
      rw [map_outer_outside, map_outer_outside] at further ⊢
      cases turn with
      | base =>
          obtain ⟨first, layers, put⟩ := layers_of_base entered
          simp only [parts_eq_map_layers, layers, put, List.map_cons, List.takeWhile_cons] at further ⊢
          rw [further]
      | aside index => rw [parts_putTurn_aside _ entered]

/-! What is lent. -/

theorem lentAt?_of_lent? {type : NativeType} {whole inner : Instance σ}
    (miss : whole.native ≠ type) (lent : whole.lent? = some inner) :
    whole.lentAt? type = (inner.lentAt? type).map (whole.outer.lends ++ ·) := by
  rw [lentAt?, if_neg miss]
  split
  · next none =>
      rw [none] at lent
      cases lent
  · next found =>
      cases found.symm.trans lent
      rfl

/-- The types that the writer's walk comes to, if no type stops it. -/
@[semireducible] def lentTypes (whole : Instance σ) : List NativeType :=
  whole.native ::
    match _lent : whole.lent? with
    | none => []
    | some inner => inner.lentTypes
  termination_by whole.size
  decreasing_by exact size_lt_of_lent? _lent

theorem at?_of_lent? {whole inner : Instance σ} (lent : whole.lent? = some inner) :
    whole.outer.lends ≠ [] ∧ whole.at? whole.outer.lends = some inner := by
  unfold lent? at lent
  split at lent
  · cases lent
  · next turn rest same =>
      rw [same]
      exact ⟨List.cons_ne_nil _ _, lent⟩

theorem lent?_of_at? {whole inner : Instance σ} (lends : whole.outer.lends ≠ [])
    (there : whole.at? whole.outer.lends = some inner) : whole.lent? = some inner := by
  unfold lent?
  split
  · next none => exact absurd none lends
  · next turn rest same => rwa [same] at there

theorem exists_at?_of_lentAt? {type : NativeType} {whole : Instance σ} {place : Place}
    (found : whole.lentAt? type = some place) :
    ∃ part, whole.at? place = some part ∧ part.native = type := by
  fun_induction lentAt? type whole generalizing place with
  | case1 whole hit =>
      cases found
      exact ⟨whole, rfl, hit⟩
  | case2 => cases found
  | case3 whole miss inner lent ih =>
      obtain ⟨rest, further, rfl⟩ := Option.map_eq_some_iff.mp found
      obtain ⟨part, there, own⟩ := ih further
      refine ⟨part, ?_, own⟩
      rw [at?_append, (at?_of_lent? lent).2]
      exact there

theorem isSome_lentAt? (type : NativeType) (whole : Instance σ) :
    (whole.lentAt? type).isSome ↔ type ∈ whole.lentTypes := by
  fun_induction lentAt? type whole with
  | case1 whole hit =>
      rw [lentTypes, hit]
      simp
  | case2 whole miss none =>
      rw [lentTypes]
      split
      · simpa using Ne.symm miss
      · next found => cases none.symm.trans found
  | case3 whole miss inner lent ih =>
      rw [lentTypes]
      split
      · next none => cases none.symm.trans lent
      · next found =>
          cases found.symm.trans lent
          simpa [Ne.symm miss] using ih

theorem isSome_borrowAs? (type : NativeType) (whole : Instance σ) :
    (whole.borrowAs? type).isSome ↔ type ∈ whole.lentTypes := by
  rw [← isSome_lentAt?, borrowAs?]
  cases found : whole.lentAt? type with
  | none => rfl
  | some place =>
      obtain ⟨part, there, _⟩ := exists_at?_of_lentAt? found
      simp [Loan.isSome_take?, there]

/-- Each part that the writer's walk meets before the type lends a base that it shows,
or one that this base shows in turn, and none beyond the first part of the type. -/
inductive Leads (type : NativeType) : Instance σ → Prop
  | here {whole : Instance σ} : whole.native = type → Leads type whole
  | onward {whole inner : Instance σ} {count : Nat} :
      type ∉ whole.shape.take (count + 1) →
      whole.outer.lends = .bases (count + 1) →
      whole.at? (.bases (count + 1)) = some inner →
      inner.Leads type → Leads type whole

theorem Leads.lentAt?_eq {type : NativeType} {whole : Instance σ} (leads : whole.Leads type) :
    whole.lentAt? type = some (.bases (whole.shape.idxOf type)) := by
  induction leads with
  | here hit =>
      rw [lentAt?, if_pos hit, idxOf_shape_of_hit hit]
      rfl
  | @onward whole inner count absent lends there further ih =>
      have miss : whole.native ≠ type := by
        obtain ⟨rest, same⟩ := whole.shape_eq_cons
        rw [same, List.take_succ_cons] at absent
        exact fun hit => absent (hit ▸ List.mem_cons_self)
      have lent : whole.lent? = some inner :=
        lent?_of_at? (by rw [lends]; exact List.cons_ne_nil _ _) (by rw [lends]; exact there)
      have inside := Nat.le_of_lt (lt_length_of_at? there)
      rw [lentAt?_of_lent? miss lent, ih, lends, Option.map_some, Place.bases_append,
        shape_of_at? there, ← idxOf_drop absent inside]

theorem leads_of_lentAt? {type : NativeType} {whole : Instance σ} (shown : type ∈ whole.shape)
    (found : whole.lentAt? type = some (.bases (whole.shape.idxOf type))) : whole.Leads type := by
  fun_induction lentAt? type whole with
  | case1 whole hit => exact .here hit
  | case2 => cases found
  | case3 whole miss inner lent ih =>
      obtain ⟨rest, further, way⟩ := Option.map_eq_some_iff.mp found
      obtain ⟨lends, there⟩ := at?_of_lent? lent
      obtain ⟨total, near, far⟩ := List.append_eq_replicate_iff.mp way
      obtain ⟨count, steps⟩ : ∃ count, whole.outer.lends.length = count + 1 :=
        Nat.exists_eq_add_one_of_ne_zero (mt List.eq_nil_of_length_eq_zero lends)
      rw [steps] at near total
      rw [near] at there
      -- The way as a whole leads to the first part of the type, so its beginning goes no farther.
      have absent : type ∉ whole.shape.take (count + 1) := by
        intro listed
        have early := List.idxOf_lt_length_of_mem listed
        rw [List.length_take] at early
        have same : (whole.shape.take (count + 1)).idxOf type = whole.shape.idxOf type := by
          conv => rhs; rw [← List.take_append_drop (count + 1) whole.shape]
          rw [List.idxOf_append_of_mem listed]
        omega
      have behind := shape_of_at? there
      have further_on := idxOf_drop absent (Nat.le_of_lt (lt_length_of_at? there))
      refine .onward absent near there (ih ?_ ?_)
      · rw [behind]
        have parted := shown
        rw [← List.take_append_drop (count + 1) whole.shape] at parted
        exact (List.mem_append.mp parted).resolve_left absent
      · have length : rest.length = (whole.shape.drop (count + 1)).idxOf type := by omega
        rw [further, behind, ← length]
        exact congrArg some far

theorem lentAt?_eq_shown_iff {type : NativeType} {whole : Instance σ}
    (shown : type ∈ whole.shape) :
    whole.lentAt? type = some (.bases (whole.shape.idxOf type)) ↔ whole.Leads type :=
  ⟨leads_of_lentAt? shown, Leads.lentAt?_eq⟩

/-- Every part around the first one of the type lends the base that it shows. -/
def Opens (type : NativeType) (whole : Instance σ) : Prop :=
  ∀ layer ∈ whole.outside type, layer.outer.lends = .bases 1

instance (type : NativeType) (whole : Instance σ) : Decidable (whole.Opens type) :=
  inferInstanceAs (Decidable (∀ layer ∈ whole.outside type, layer.outer.lends = .bases 1))

theorem outside_of_base {type : NativeType} {whole base : Instance σ}
    (miss : whole.native ≠ type) (shown : whole.turn? .base = some base) :
    ∃ own, own.outer = whole.outer ∧ whole.outside type = own :: base.outside type := by
  obtain ⟨own, same, _⟩ := layers_of_base shown
  obtain ⟨first, rest, also, outermost⟩ := whole.layers_eq_cons
  obtain ⟨rfl, _⟩ := List.cons.inj (same.symm.trans also)
  have other : own.native ≠ type := fun hit =>
    miss ((congrArg Part.native outermost).symm.trans hit)
  refine ⟨own, outermost, ?_⟩
  rw [outside, same]
  exact List.takeWhile_cons_of_pos (decide_eq_true other)

theorem Opens.leads {type : NativeType} {whole : Instance σ} (opens : whole.Opens type)
    (shown : type ∈ whole.shape) : whole.Leads type := by
  have seen := (isSome_viewAs? type whole).mpr shown
  rw [viewAs?_eq_at?] at seen
  induction far : whole.shape.idxOf type generalizing whole with
  | zero =>
      obtain ⟨rest, same⟩ := whole.shape_eq_cons
      refine .here (by_contra fun miss => ?_)
      rw [same, List.idxOf_cons_ne _ miss] at far
      cases far
  | succ count ih =>
      have miss : whole.native ≠ type := by
        intro hit
        rw [idxOf_shape_of_hit hit] at far
        cases far
      rw [far] at seen
      obtain ⟨found, there⟩ := Option.isSome_iff_exists.mp seen
      obtain ⟨base, turned, beyond⟩ := Option.bind_eq_some_iff.mp there
      obtain ⟨own, outermost, around⟩ := outside_of_base miss turned
      obtain ⟨rest, same⟩ := whole.shape_eq_cons
      have lower : whole.at? (.bases 1) = some base :=
        Option.bind_eq_some_iff.mpr ⟨base, turned, rfl⟩
      have behind := shape_of_at? lower
      rw [same, List.drop_succ_cons, List.drop_zero] at behind
      rw [Opens, around, List.forall_mem_cons, outermost] at opens
      have near : base.shape.idxOf type = count := by
        rw [same, List.idxOf_cons_ne _ miss, ← behind] at far
        exact Nat.succ.inj far
      refine .onward ?_ opens.1 lower (ih opens.2 ?_ ?_ near)
      · rw [same, List.take_succ_cons, List.take_zero, List.mem_singleton]
        exact Ne.symm miss
      · rw [behind]
        rw [same] at shown
        exact (List.mem_cons.mp shown).resolve_left (Ne.symm miss)
      · rw [near]
        exact Option.isSome_of_eq_some beyond

-- An open walk that ends has followed the shown bases all the way.
theorem Opens.mem_shape {type : NativeType} {whole : Instance σ} (opens : whole.Opens type)
    (found : (whole.lentAt? type).isSome) : type ∈ whole.shape := by
  fun_induction lentAt? type whole with
  | case1 whole hit =>
      obtain ⟨rest, same⟩ := whole.shape_eq_cons
      rw [same, hit]
      exact List.mem_cons_self
  | case2 => cases found
  | case3 whole miss inner lent ih =>
      obtain ⟨first, rest, same, outermost⟩ := whole.layers_eq_cons
      have around : first ∈ whole.outside type := by
        have other : first.native ≠ type :=
          fun hit => miss ((congrArg Part.native outermost).symm.trans hit)
        simp [outside, same, other]
      have lends := opens first around
      rw [outermost] at lends
      have there := (at?_of_lent? lent).2
      rw [lends] at there
      obtain ⟨base, shown, here⟩ := Option.bind_eq_some_iff.mp there
      obtain rfl : base = inner := Option.some.inj here
      obtain ⟨own, _, outside⟩ := outside_of_base miss shown
      rw [Opens, outside, List.forall_mem_cons] at opens
      have further := ih opens.2 (by simpa using found)
      rw [shape_of_at? there] at further
      exact List.mem_of_mem_drop further

/-- Putting an instance at a place leaves all parts alone that are not inside it. -/
theorem outer_at?_putAt {whole inner : Instance σ} {place other : Place}
    (inside : whole.at? place = some inner) (new : Instance σ) (apart : ¬ place <+: other) :
    ((whole.putAt place new).at? other).map outer = (whole.at? other).map outer := by
  induction place generalizing whole other with
  | nil => exact absurd List.nil_prefix apart
  | cons turn rest ih =>
      obtain ⟨next, entered, beyond⟩ := Option.bind_eq_some_iff.mp inside
      simp only [putAt, entered]
      cases other with
      | nil => exact congrArg some (outer_putTurn whole _ turn)
      | cons first later =>
          by_cases same : turn = first
          · subst same
            rw [at?, turn?_putTurn _ entered, at?, entered]
            exact ih beyond fun starts => apart (List.cons_prefix_cons.mpr ⟨rfl, starts⟩)
          · rw [at?, turn?_putTurn_of_ne whole _ same, at?]

end Instance

end LateBinding
