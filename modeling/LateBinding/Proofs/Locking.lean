import LateBinding.Locking
import Mathlib.Logic.Function.Basic
import Mathlib.Logic.Relation

/-!
Calls that keep locks never wait for each other in a ring. A look at an object lasts
an instant, so an object that was seen free may be taken right after. It is taken
later than the target of the call that saw it, though; so along a chain of calls that
wait for each other, locks were taken later and later, and no chain comes back.
-/

namespace LateBinding.Locking

def Caller.HasSeen (caller : Caller) (id : Nat) : Prop :=
  match caller.phase with
  | .probing left => id ∈ caller.request.readers ∧ id ∉ left
  | .kept => id ∈ caller.request.readers
  | .waiting | .yielding | .finished => False

theorem not_holds_of_free {callers : List Caller} {id : Nat} (free : isLocked callers id = false)
    {caller : Caller} (member : caller ∈ callers) (same : caller.request.target = id) :
    caller.phase.holds = false := by
  have unlocked := List.any_eq_false.mp free caller member
  simpa [same] using unlocked

/-- All that a step can do: leave the call with no object seen, as when it takes its
target, or see at most one more object, a free one, while the target is held as before. -/
theorem Caller.advance_cases (locked : Nat → Bool) (caller : Caller) :
    (∀ id, ¬ (caller.advance locked).HasSeen id) ∨
    ((caller.advance locked).phase.holds → caller.phase.holds) ∧
      ∀ id, (caller.advance locked).HasSeen id → caller.HasSeen id ∨ locked id = false := by
  obtain ⟨request, phase⟩ := caller
  cases phase with
  | waiting =>
      left
      intro id seen
      by_cases taken : locked request.target <;> simp [advance, HasSeen, taken] at seen
  | probing left =>
      right
      cases left with
      | nil => exact ⟨fun _ => rfl, fun id seen => .inl ⟨seen, List.not_mem_nil⟩⟩
      | cons reader left =>
          refine ⟨fun _ => rfl, fun id seen => ?_⟩
          by_cases taken : locked reader
          · simp [advance, HasSeen, taken] at seen
          · simp only [advance, HasSeen, taken] at seen
            by_cases same : id = reader
            · exact .inr (by simpa [same] using taken)
            · exact .inl ⟨seen.1, List.not_mem_cons_of_ne_of_not_mem same seen.2⟩
  | yielding => exact .inl fun id seen => seen
  | kept => exact .inl fun id seen => seen
  | finished => exact .inl fun id seen => seen

/-- Every call bears a stamp from when it last took its target. Who holds an object that
a call saw free took it after that call took its own target. -/
structure Ordered (callers : List Caller) (stamp : Nat → Nat) (clock : Nat) : Prop where
  past : ∀ i, stamp i < clock
  later : ∀ {i j : Nat} {a b : Caller}, callers[i]? = some a → callers[j]? = some b →
    b.phase.holds → a.HasSeen b.request.target → stamp i < stamp j

theorem ordered_start (requests : List Request) :
    Ordered (requests.map fun request => ⟨request, .waiting⟩) (fun _ => 0) 1 := by
  refine ⟨fun _ => Nat.one_pos, fun {i j a b} there _ _ seen => ?_⟩
  rw [List.getElem?_map] at there
  obtain ⟨request, _, rfl⟩ := Option.map_eq_some_iff.mp there
  exact seen.elim

theorem getElem?_step (callers : List Caller) (turn i : Nat) :
    (step callers turn)[i]? = (callers[i]?).map fun caller =>
      if turn = i then caller.advance (isLocked callers) else caller :=
  List.getElem?_modify ..

theorem stepped_or_kept {callers : List Caller} {turn i : Nat} {caller : Caller}
    (there : (step callers turn)[i]? = some caller) :
    turn = i ∧ (∃ before, callers[i]? = some before ∧
      caller = before.advance (isLocked callers)) ∨
    turn ≠ i ∧ callers[i]? = some caller := by
  rw [getElem?_step] at there
  obtain ⟨before, known, rfl⟩ := Option.map_eq_some_iff.mp there
  by_cases mine : turn = i
  · exact .inl ⟨mine, before, known, if_pos mine⟩
  · rw [if_neg mine]
    exact .inr ⟨mine, known⟩

-- A call whose step leaves it with nothing seen is stamped anew: it may just have
-- taken its target, and all that others saw they saw before.
theorem Ordered.renew {callers : List Caller} {stamp : Nat → Nat} {clock turn : Nat}
    (ordered : Ordered callers stamp clock)
    (blank : ∀ caller, callers[turn]? = some caller →
      ∀ id, ¬ (caller.advance (isLocked callers)).HasSeen id) :
    Ordered (step callers turn) (Function.update stamp turn clock) (clock + 1) := by
  constructor
  · intro i
    by_cases mine : i = turn
    · simp [mine]
    · rw [Function.update_of_ne mine]
      exact Nat.lt_succ_of_lt (ordered.past i)
  · intro i j a b reader keeper holds seen
    rcases stepped_or_kept reader with ⟨rfl, before, known, rfl⟩ | ⟨other, known⟩
    · exact absurd seen (blank before known _)
    · rw [Function.update_of_ne (Ne.symm other)]
      rcases stepped_or_kept keeper with ⟨rfl, _⟩ | ⟨apart, there⟩
      · rw [Function.update_self]
        exact ordered.past i
      · rw [Function.update_of_ne (Ne.symm apart)]
        exact ordered.later known there holds seen

-- A call that goes on holding its target sees objects that nobody holds right now.
theorem Ordered.keep {callers : List Caller} {stamp : Nat → Nat} {clock turn : Nat}
    (ordered : Ordered callers stamp clock)
    (goesOn : ∀ caller, callers[turn]? = some caller →
      ((caller.advance (isLocked callers)).phase.holds → caller.phase.holds) ∧
        ∀ id, (caller.advance (isLocked callers)).HasSeen id →
          caller.HasSeen id ∨ isLocked callers id = false) :
    Ordered (step callers turn) stamp clock := by
  refine ⟨ordered.past, fun {i j a b} reader keeper holds seen => ?_⟩
  obtain ⟨own, there, held, same⟩ : ∃ own, callers[j]? = some own ∧ own.phase.holds ∧
      b.request = own.request := by
    rcases stepped_or_kept keeper with ⟨rfl, own, there, rfl⟩ | ⟨_, there⟩
    · exact ⟨own, there, (goesOn own there).1 holds, rfl⟩
    · exact ⟨b, there, holds, rfl⟩
  rw [same] at seen
  rcases stepped_or_kept reader with ⟨rfl, before, known, rfl⟩ | ⟨_, known⟩
  · rcases (goesOn before known).2 _ seen with earlier | free
    · exact ordered.later known there held earlier
    · have apart := not_holds_of_free free (List.mem_of_getElem? there) rfl
      rw [apart] at held
      cases held
  · exact ordered.later known there held seen

theorem Ordered.step {callers : List Caller} {stamp : Nat → Nat} {clock : Nat}
    (ordered : Ordered callers stamp clock) (turn : Nat) :
    ∃ stamp clock, Ordered (step callers turn) stamp clock := by
  cases present : callers[turn]? with
  | none =>
      refine ⟨stamp, clock, ordered.keep fun caller there => ?_⟩
      rw [present] at there
      cases there
  | some caller =>
      have only : ∀ other, callers[turn]? = some other → other = caller := by
        intro other there
        exact Option.some.inj (there.symm.trans present)
      rcases caller.advance_cases (isLocked callers) with blank | goesOn
      · exact ⟨_, _, ordered.renew fun other there => only other there ▸ blank⟩
      · exact ⟨_, _, ordered.keep fun other there => only other there ▸ goesOn⟩

theorem exists_ordered_foldl (schedule : List Nat) {callers : List Caller} {stamp : Nat → Nat}
    {clock : Nat} (ordered : Ordered callers stamp clock) :
    ∃ stamp clock, Ordered (schedule.foldl Locking.step callers) stamp clock := by
  induction schedule generalizing callers stamp clock with
  | nil => exact ⟨stamp, clock, ordered⟩
  | cons turn rest ih =>
      obtain ⟨_, _, next⟩ := ordered.step turn
      exact ih next

theorem exists_ordered (requests : List Request) (schedule : List Nat) :
    ∃ stamp clock, Ordered (run requests schedule) stamp clock :=
  exists_ordered_foldl schedule (ordered_start requests)

theorem Ordered.lt_of_waitsFor {callers : List Caller} {stamp : Nat → Nat} {clock : Nat}
    (ordered : Ordered callers stamp clock) {reader keeper : Nat}
    (waits : WaitsFor callers reader keeper) : stamp reader < stamp keeper := by
  obtain ⟨a, b, known, there, keeps, held, reads⟩ := waits
  refine ordered.later known there ?_ ?_
  · rw [held]
    rfl
  · rw [Caller.HasSeen, keeps]
    exact reads

-- Along a chain of calls that wait for each other stamps go up.
theorem Ordered.lt_of_transGen {callers : List Caller} {stamp : Nat → Nat} {clock : Nat}
    (ordered : Ordered callers stamp clock) {first last : Nat}
    (chain : Relation.TransGen (WaitsFor callers) first last) : stamp first < stamp last := by
  induction chain with
  | single waits => exact ordered.lt_of_waitsFor waits
  | tail _ waits ih => exact Nat.lt_trans ih (ordered.lt_of_waitsFor waits)

theorem request_step (callers : List Caller) (turn : Nat) :
    (step callers turn).map (·.request) = callers.map (·.request) := by
  apply List.ext_getElem?
  intro i
  rw [List.getElem?_map, List.getElem?_map, getElem?_step, Option.map_map]
  apply Option.map_congr
  intro caller _
  rw [Function.comp_apply]
  split
  · rfl
  · rfl

theorem request_run (requests : List Request) (schedule : List Nat) :
    (run requests schedule).map (·.request) = requests := by
  have kept : ∀ callers : List Caller,
      (schedule.foldl step callers).map (·.request) = callers.map (·.request) := by
    induction schedule with
    | nil => exact fun _ => rfl
    | cons turn rest ih => exact fun callers => (ih _).trans (request_step callers turn)
  rw [run, kept, List.map_map]
  exact List.map_id _

/-- Calls that keep their targets never wait for each other in a ring, of whatever
length, whatever they ask for and in whatever order they take their steps. So of two
calls that read each other's targets at most one keeps its own. -/
theorem kept_locks_form_no_ring (requests : List Request) (schedule : List Nat) :
    (∀ call, ¬ Relation.TransGen (WaitsFor (run requests schedule)) call call) ∧
    ∀ (one other : Nat) (p q : Request), requests[one]? = some p → requests[other]? = some q →
      q.target ∈ p.readers → p.target ∈ q.readers →
      ¬ (((run requests schedule)[one]?).map (·.phase) = some .kept ∧
        ((run requests schedule)[other]?).map (·.phase) = some .kept) := by
  obtain ⟨stamp, clock, ordered⟩ := exists_ordered requests schedule
  have acyclic : ∀ call, ¬ Relation.TransGen (WaitsFor (run requests schedule)) call call :=
    fun call ring => Nat.lt_irrefl _ (ordered.lt_of_transGen ring)
  refine ⟨acyclic, ?_⟩
  rintro one other p q asked wanted reads readBack ⟨keeps, kept⟩
  obtain ⟨a, known, own⟩ := Option.map_eq_some_iff.mp keeps
  obtain ⟨b, there, held⟩ := Option.map_eq_some_iff.mp kept
  have requested : ∀ (i : Nat) (caller : Caller) (request : Request),
      (run requests schedule)[i]? = some caller → requests[i]? = some request →
      caller.request = request := by
    intro i caller request present listed
    rw [← request_run requests schedule, List.getElem?_map, present] at listed
    exact Option.some.inj listed
  obtain rfl := requested one a p known asked
  obtain rfl := requested other b q there wanted
  have forth : WaitsFor (run requests schedule) one other :=
    ⟨a, b, known, there, own, held, reads⟩
  have back : WaitsFor (run requests schedule) other one :=
    ⟨b, a, there, known, held, own, readBack⟩
  exact acyclic one (.tail (.single forth) back)

/-- Three calls in a ring: each reads what the next one takes. The last two also read
each other's targets. -/
def ring : List Request := [⟨0, [1], by decide⟩, ⟨1, [2], by decide⟩, ⟨2, [0, 1], by decide⟩]

-- The second call takes what the first one saw free, and the first may wait for it. The
-- third one finds the ring closed and starts over.
theorem ring_stays_open :
    let left := run ring [0, 0, 0, 1, 1, 1, 2, 2]
    left.map (·.phase) = [.kept, .kept, .yielding] ∧ WaitsFor left 0 1 ∧
      (∀ call, ¬ Relation.TransGen (WaitsFor left) call call) ∧
      ¬ ((left[1]?).map (·.phase) = some .kept ∧ (left[2]?).map (·.phase) = some .kept) := by
  obtain ⟨acyclic, apart⟩ := kept_locks_form_no_ring ring [0, 0, 0, 1, 1, 1, 2, 2]
  refine ⟨by decide, ?_, acyclic, apart 1 2 _ _ rfl rfl (by decide) (by decide)⟩
  exact ⟨⟨_, .kept⟩, ⟨_, .kept⟩, rfl, rfl, rfl, rfl, by decide⟩

end LateBinding.Locking
