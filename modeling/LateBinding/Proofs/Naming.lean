import LateBinding.Factory
import Mathlib.Algebra.Group.Nat.Defs

/-!
Names over a whole run of requests. Serials go to the tagged names alone, in the order
in which invokers are made, and a tag spells its serial with a fixed number of digits;
so tagged names differ, whatever stands before the tags.
-/

namespace LateBinding

namespace Text

def lowerHex : List Char := "0123456789abcdef".toList

/-- The number that digits spell, most significant digit first. -/
def readHex (digits : List Char) : Nat :=
  digits.foldl (fun n digit => 16 * n + lowerHex.idxOf digit) 0

theorem idxOf_hexDigit (n : Nat) : lowerHex.idxOf (hexDigit n) = n % 16 := by
  have low : ∀ d < 16, lowerHex.idxOf (hexDigit d) = d := by decide
  have same : hexDigit (n % 16) = hexDigit n := by simp [hexDigit]
  rw [← same]
  exact low _ (Nat.mod_lt n (by decide))

theorem hexDigit_mem (n : Nat) : hexDigit n ∈ lowerHex := by
  rw [← List.idxOf_lt_length_iff, idxOf_hexDigit]
  exact Nat.mod_lt n (by decide)

theorem mem_lowerHex {width n : Nat} {digit : Char} (member : digit ∈ hexDigits width n) :
    digit ∈ lowerHex := by
  induction width generalizing n with
  | zero => cases member
  | succ width ih =>
      rcases List.mem_append.mp member with front | last
      · exact ih front
      · rw [List.mem_singleton.mp last]
        exact hexDigit_mem n

theorem readHex_hexDigits (width n : Nat) : readHex (hexDigits width n) = n % 16 ^ width := by
  induction width generalizing n with
  | zero => exact (Nat.mod_one n).symm
  | succ width ih =>
      have front : readHex (hexDigits width (n / 16)) = n / 16 % 16 ^ width := ih (n / 16)
      unfold readHex at front
      rw [readHex, hexDigits, List.foldl_append, front, Nat.pow_succ', Nat.mod_mul]
      simp only [List.foldl_cons, List.foldl_nil, idxOf_hexDigit]
      omega

end Text

/-- The name is the prefix and 32 lower-case hexadecimal digits, the last 16 of which
spell the serial. -/
def TaggedName (name namePrefix : String) (serial : Nat) : Prop :=
  ∃ digits : List Char, name = namePrefix ++ String.ofList digits ∧ digits.length = 32 ∧
    (∀ digit ∈ digits, digit ∈ Text.lowerHex) ∧ Text.readHex (digits.drop 16) = serial

theorem taggedName_tag (namePrefix : String) (serial : UInt64) :
    TaggedName (namePrefix ++ Naming.tag serial) namePrefix serial.toNat := by
  refine ⟨Text.hexDigits 16 (Digest.Xxh64.ofWord Naming.scrambleSeed serial).toNat ++
    Text.hexDigits 16 serial.toNat, ?_, ?_, ?_, ?_⟩
  · rw [Naming.tag, Text.hex64, Text.hex64, String.ofList_append]
  · simp [Text.hexDigits_length]
  · intro digit member
    rcases List.mem_append.mp member with front | back
    · exact Text.mem_lowerHex front
    · exact Text.mem_lowerHex back
  · rw [List.drop_left' (Text.hexDigits_length ..), Text.readHex_hexDigits]
    exact Nat.mod_eq_of_lt serial.toNat_lt

-- Tags are of one length, so they stand at the same place of a name however it is
-- divided into prefix and tag.
theorem TaggedName.serial_eq {name namePrefix other : String} {serial another : Nat}
    (first : TaggedName name namePrefix serial) (second : TaggedName name other another) :
    serial = another := by
  obtain ⟨digits, rfl, length, _, spelled⟩ := first
  obtain ⟨others, same, count, _, spells⟩ := second
  have texts := congrArg String.toList same
  rw [String.toList_append, String.toList_append, String.toList_ofList, String.toList_ofList]
    at texts
  obtain rfl := List.append_inj_right' texts (length.trans count.symm)
  exact spelled.symm.trans spells

theorem nodup_of_taggedName {tagged : List (String × String)}
    (names : ∀ i namePrefix name, tagged[i]? = some (namePrefix, name) →
      TaggedName name namePrefix (i + 1)) : (tagged.map (·.2)).Nodup := by
  rw [List.Nodup, List.pairwise_map, List.pairwise_iff_getElem]
  intro i j first second before same
  have one : TaggedName tagged[i].2 tagged[i].1 (i + 1) :=
    names i _ _ (List.getElem?_eq_getElem first)
  have other : TaggedName tagged[j].2 tagged[j].1 (j + 1) :=
    names j _ _ (List.getElem?_eq_getElem second)
  rw [same] at one
  have serials := one.serial_eq other
  omega

variable {σ ε : Type}

/-! Runs of requests to any factories. -/

inductive Member (σ ε : Type) where
  | constructor (c : Constructor σ ε)
  | property (p : Property σ ε)
  | method (m : Method σ ε)

structure Request (σ ε : Type) where
  factory : Factory
  member : Member σ ε

structure Served (σ ε : Type) extends Request σ ε where
  answer : Except SynthesisError String

namespace Request

def serve (request : Request σ ε) (naming : Naming) : Served σ ε × Naming :=
  match request.member with
  | .constructor c =>
      let made := request.factory.constructorInvoker naming c
      ({ request with answer := made.answer.map (·.name) }, made.naming)
  | .property p =>
      let made := request.factory.propertyInvoker naming p
      ({ request with answer := made.answer.map (·.name) }, made.naming)
  | .method m =>
      let made := request.factory.methodInvoker naming m
      ({ request with answer := made.answer.map (·.name) }, made.naming)

def serveAll : Naming → List (Request σ ε) → List (Served σ ε) × Naming
  | naming, [] => ([], naming)
  | naming, request :: rest =>
      let first := request.serve naming
      let later := serveAll first.2 rest
      (first.1 :: later.1, later.2)

end Request

/-- The prefix and the name of an invoker that was made with a tagged name. -/
def Served.tagged? (served : Served σ ε) : Option (String × String) :=
  match served.answer with
  | .error _ => none
  | .ok name =>
      if served.factory.options.tagged then some (served.factory.options.namePrefix, name)
      else none

-- A factory takes the next name for an invoker that it makes, and none for a rejected
-- member.
theorem Factory.finish_cases {α β : Type} (factory : Factory) (naming : Naming) (sort : String)
    (plan : Except SynthesisError α) {make : String → α → β} (report : String → Event)
    {name : β → String} (named : ∀ text a, name (make text a) = text) :
    let made := factory.finish naming sort plan make report
    (∃ error, made.answer.map name = .error error ∧ made.naming = naming) ∨
      made.answer.map name = .ok (naming.next factory.options).1 ∧
        made.naming = (naming.next factory.options).2 := by
  cases plan with
  | error error => exact .inl ⟨error, rfl, rfl⟩
  | ok a => exact .inr ⟨congrArg Except.ok (named _ a), rfl⟩

namespace Request

theorem serve_cases (request : Request σ ε) (naming : Naming) :
    (∃ error, (request.serve naming).1.answer = .error error ∧
      (request.serve naming).2 = naming) ∨
    (request.serve naming).1.answer = .ok (naming.next request.factory.options).1 ∧
      (request.serve naming).2 = (naming.next request.factory.options).2 := by
  obtain ⟨⟨strategy, options⟩, member⟩ := request
  cases member with
  | constructor c =>
      cases strategy with
      | compiled => exact Factory.finish_cases _ naming _ _ _ fun _ _ => rfl
      | interpreted => exact Factory.finish_cases _ naming _ _ _ fun _ _ => rfl
  | property p =>
      cases strategy with
      | compiled => exact Factory.finish_cases _ naming _ _ _ fun _ _ => rfl
      | interpreted => exact Factory.finish_cases _ naming _ _ _ fun _ _ => rfl
  | method m =>
      cases strategy with
      | compiled => exact Factory.finish_cases _ naming _ _ _ fun _ _ => rfl
      | interpreted => exact Factory.finish_cases _ naming _ _ _ fun _ _ => rfl

theorem toRequest_serve (request : Request σ ε) (naming : Naming) :
    (request.serve naming).1.toRequest = request := by
  obtain ⟨factory, member⟩ := request
  cases member with
  | constructor c => rfl
  | property p => rfl
  | method m => rfl

theorem toRequest_serveAll (naming : Naming) (requests : List (Request σ ε)) :
    (serveAll naming requests).1.map Served.toRequest = requests := by
  induction requests generalizing naming with
  | nil => rfl
  | cons request rest ih => rw [serveAll, List.map_cons, toRequest_serve, ih]

theorem serve_tagged (request : Request σ ε) (serial : Nat) :
    let first := request.serve ⟨.ofNat serial⟩
    first.1.tagged? = none ∧ first.2 = ⟨.ofNat serial⟩ ∨
      (∃ namePrefix, first.1.tagged? =
        some (namePrefix, namePrefix ++ Naming.tag (.ofNat serial))) ∧
        first.2 = ⟨.ofNat (serial + 1)⟩ := by
  have own := congrArg Request.factory (request.toRequest_serve ⟨.ofNat serial⟩)
  rcases request.serve_cases ⟨.ofNat serial⟩ with ⟨error, rejected, same⟩ | ⟨granted, next⟩
  · left
    exact ⟨by simp only [Served.tagged?, rejected], same⟩
  · rw [Naming.next] at granted next
    cases tagged : request.factory.options.tagged with
    | false =>
        left
        simp only [tagged, Bool.false_eq_true, if_false] at granted next
        refine ⟨?_, next⟩
        simp only [Served.tagged?, granted, own, tagged, Bool.false_eq_true, if_false]
    | true =>
        right
        simp only [tagged, if_true] at granted next
        refine ⟨⟨request.factory.options.namePrefix, ?_⟩, ?_⟩
        · simp only [Served.tagged?, granted, own, tagged, if_true]
        · rw [next, UInt64.ofNat_add]
          rfl

/-- Over a run, tagged names have the serials from the first one on, without a gap. -/
theorem serials_serveAll (serial : Nat) (requests : List (Request σ ε)) :
    let run := serveAll ⟨.ofNat serial⟩ requests
    let tagged := run.1.filterMap Served.tagged?
    (∀ i namePrefix name, tagged[i]? = some (namePrefix, name) →
      name = namePrefix ++ Naming.tag (.ofNat (serial + i))) ∧
    run.2 = ⟨.ofNat (serial + tagged.length)⟩ := by
  induction requests generalizing serial with
  | nil => exact ⟨fun _ _ _ found => by simp [serveAll] at found, rfl⟩
  | cons request rest ih =>
      rcases request.serve_tagged serial with ⟨none, same⟩ | ⟨⟨own, one⟩, next⟩
      · simp only [serveAll, List.filterMap_cons, none, same]
        exact ih serial
      · obtain ⟨later, last⟩ := ih (serial + 1)
        simp only [serveAll, List.filterMap_cons, one, next]
        refine ⟨fun i namePrefix name found => ?_, ?_⟩
        · cases i with
          | zero =>
              cases found
              rfl
          | succ i =>
              rw [later i namePrefix name found, Nat.add_right_comm]
              rfl
        · rw [last, List.length_cons, Nat.add_right_comm]
          rfl

end Request

open Request

/-- Of fewer than `2 ^ 64` requests to a fresh naming, the ones that are granted a tagged
name have the serials from 1 on in their names, one by one in the order of the requests;
those that are rejected or untagged take none. So no two tagged names are the same. -/
theorem tagged_names_differ (requests : List (Request σ ε)) (few : requests.length < 2 ^ 64) :
    let run := serveAll .first requests
    let tagged := run.1.filterMap Served.tagged?
    run.1.map Served.toRequest = requests ∧
    (∀ i namePrefix name, tagged[i]? = some (namePrefix, name) →
      TaggedName name namePrefix (i + 1)) ∧
    run.2 = ⟨.ofNat (tagged.length + 1)⟩ ∧
    (tagged.map (·.2)).Nodup := by
  intro run tagged
  have count : tagged.length < 2 ^ 64 := by
    have listed := congrArg List.length (toRequest_serveAll .first requests)
    rw [List.length_map] at listed
    exact Nat.lt_of_le_of_lt (List.length_filterMap_le ..) (listed ▸ few)
  obtain ⟨serials, last⟩ := serials_serveAll 1 requests
  have names : ∀ i namePrefix name, tagged[i]? = some (namePrefix, name) →
      TaggedName name namePrefix (i + 1) := by
    intro i namePrefix name found
    have inside : i < tagged.length := (List.getElem?_eq_some_iff.mp found).1
    rw [serials i namePrefix name found, Nat.add_comm]
    have spelled := taggedName_tag namePrefix (.ofNat (i + 1))
    have fits : i + 1 < UInt64.size := Nat.lt_of_le_of_lt inside count
    rwa [UInt64.toNat_ofNat_of_lt' fits] at spelled
  refine ⟨toRequest_serveAll .first requests, names, ?_, nodup_of_taggedName names⟩
  rw [Nat.add_comm]
  exact last

def boxing (modifiers : Modifiers) : Constructor Unit String :=
  ⟨.root ⟨"Box", ⟨1, "zoo::Box"⟩, .value, modifiers, .empty⟩, [],
    .ofFunction .value fun heap _ => ⟨.ok ⟨.value, .root ⟨⟨1, "zoo::Box"⟩, (), []⟩⟩, [], heap⟩⟩

/-- The second of these requests is rejected and the third wants no tag. The prefix of
the last is that of the first with a digit behind it. -/
def orders : List (Request Unit String) :=
  [⟨⟨.compiled, ⟨"box", true⟩⟩, .constructor (boxing .plain)⟩,
    ⟨⟨.interpreted, ⟨"box", true⟩⟩, .constructor (boxing ⟨true, false⟩)⟩,
    ⟨⟨.compiled, ⟨"box", false⟩⟩, .constructor (boxing .plain)⟩,
    ⟨⟨.interpreted, ⟨"box0", true⟩⟩, .constructor (boxing .plain)⟩]

theorem orders_named :
    orders.length < 2 ^ 64 ∧
    ∃ one other, (serveAll .first orders).1.filterMap Served.tagged? =
        [("box", one), ("box0", other)] ∧
      TaggedName one "box" 1 ∧ TaggedName other "box0" 2 ∧ one ≠ other := by
  have few : orders.length < 2 ^ 64 := by decide
  obtain ⟨one, other, served⟩ : ∃ one other, (serveAll .first orders).1.filterMap
      Served.tagged? = [("box", one), ("box0", other)] := ⟨_, _, rfl⟩
  obtain ⟨_, names, _, apart⟩ := tagged_names_differ orders few
  rw [served] at names apart
  refine ⟨few, one, other, served, names 0 _ _ rfl, names 1 _ _ rfl, fun same => ?_⟩
  exact (List.nodup_cons.mp apart).1 (List.mem_singleton.mpr same)

end LateBinding
