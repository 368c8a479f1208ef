import LateBinding.Fingerprint

/-!
What the fingerprint of a method or property keeps of its owner and its name. The fold
of parameters loses nothing of its seed, since the separator is odd. The seed takes the
digests of owner and name together by exclusive or, and this forgets which is which: one
of the two names is known from the other, but not both from the fingerprint.
-/

namespace LateBinding

open Digest

/-- The digest does not coincide on two of these texts. -/
def Digest.Xxh64.TellsApart (texts : List String) : Prop :=
  ∀ text ∈ texts, ∀ other ∈ texts, Xxh64.ofText text = Xxh64.ofText other → text = other

instance (texts : List String) : Decidable (Xxh64.TellsApart texts) :=
  inferInstanceAs (Decidable (∀ text ∈ texts, ∀ other ∈ texts,
    Xxh64.ofText text = Xxh64.ofText other → text = other))

namespace Fingerprint

/-! Folding. -/

/-- The word that takes a factor of `separator` back. -/
def separatorInverse : UInt64 := 0xd3f20f0a40208825

theorem separator_mul_inverse : separator * separatorInverse = 1 := by decide

theorem mul_separator_inj {word other : UInt64} :
    word * separator = other * separator ↔ word = other := by
  constructor
  · intro same
    have back := congrArg (· * separatorInverse) same
    simpa only [UInt64.mul_assoc, separator_mul_inverse, UInt64.mul_one] using back
  · rintro rfl
    rfl

theorem mixFrom_inj (position : Nat) (params : List Fingerprint) {seed other : UInt64} :
    mixFrom position seed params = mixFrom position other params ↔ seed = other := by
  induction params generalizing position seed other with
  | nil => exact Iff.rfl
  | cons param rest ih =>
      rw [mixFrom, mixFrom, ih, UInt64.add_left_inj, mul_separator_inj]

/-! Owner and name. -/

def blend (owner name : String) : UInt64 :=
  Xxh64.ofText owner ^^^ Xxh64.ofText name

theorem blend_comm (owner name : String) : blend owner name = blend name owner :=
  UInt64.xor_comm _ _

theorem blend_left_inj (owner owner' name : String) :
    blend owner name = blend owner' name ↔ Xxh64.ofText owner = Xxh64.ofText owner' :=
  UInt64.xor_left_inj _

theorem blend_right_inj (owner name name' : String) :
    blend owner name = blend owner name' ↔ Xxh64.ofText name = Xxh64.ofText name' :=
  UInt64.xor_right_inj _

theorem ofProperty_ofName (owner name : String) :
    ofProperty (ofName owner) name = ⟨propertyDomain ^^^ typeDomain ^^^ blend owner name⟩ := by
  simp only [ofProperty, ofName, blend, UInt64.xor_assoc]

theorem ofMethod_ofName (owner name : String) (params : List Fingerprint) :
    ofMethod (ofName owner) name params =
      ⟨mix (methodDomain ^^^ typeDomain ^^^ blend owner name) params⟩ := by
  simp only [ofMethod, ofName, blend, UInt64.xor_assoc]

theorem ofProperty_eq_iff (owner name owner' name' : String) :
    ofProperty (ofName owner) name = ofProperty (ofName owner') name' ↔
      blend owner name = blend owner' name' := by
  rw [ofProperty_ofName, ofProperty_ofName, mk.injEq, UInt64.xor_right_inj]

theorem ofMethod_eq_iff (owner name owner' name' : String) (params : List Fingerprint) :
    ofMethod (ofName owner) name params = ofMethod (ofName owner') name' params ↔
      blend owner name = blend owner' name' := by
  rw [ofMethod_ofName, ofMethod_ofName, mk.injEq, mix, mix, mixFrom_inj, UInt64.xor_right_inj]

-- One of the two names has to be known. The digests of four names may meet without any two
-- of them being the same.
theorem blend_eq_iff {owner name owner' name' : String}
    (apart : Xxh64.TellsApart [owner, name, owner', name'])
    (known : owner = owner' ∨ name = name') :
    blend owner name = blend owner' name' ↔ owner = owner' ∧ name = name' := by
  constructor
  · intro same
    rcases known with rfl | rfl
    · have digests := (blend_right_inj owner name name').mp same
      exact ⟨rfl, apart name (by simp) name' (by simp) digests⟩
    · have digests := (blend_left_inj owner owner' name).mp same
      exact ⟨apart owner (by simp) owner' (by simp) digests, rfl⟩
  · rintro ⟨rfl, rfl⟩
    rfl

/-- Two methods with the same parameters, or two properties, have one fingerprint exactly
if the digests of owner and name come to the same exclusive or. So the fingerprint tells
the members of one owner apart, and the owners of one name, as far as the digest tells
their names apart. It never tells a member from the one with owner and name exchanged. -/
theorem member_fingerprints_meet_iff (owner name owner' name' : String)
    (params : List Fingerprint) :
    (ofMethod (ofName owner) name params = ofMethod (ofName owner') name' params ↔
      Xxh64.ofText owner ^^^ Xxh64.ofText name = Xxh64.ofText owner' ^^^ Xxh64.ofText name') ∧
    (ofProperty (ofName owner) name = ofProperty (ofName owner') name' ↔
      Xxh64.ofText owner ^^^ Xxh64.ofText name = Xxh64.ofText owner' ^^^ Xxh64.ofText name') ∧
    (Xxh64.TellsApart [owner, name, owner', name'] → owner = owner' ∨ name = name' →
      (ofMethod (ofName owner) name params = ofMethod (ofName owner') name' params ↔
        owner = owner' ∧ name = name') ∧
      (ofProperty (ofName owner) name = ofProperty (ofName owner') name' ↔
        owner = owner' ∧ name = name')) ∧
    ofMethod (ofName owner) name params = ofMethod (ofName name) owner params ∧
    ofProperty (ofName owner) name = ofProperty (ofName name) owner := by
  refine ⟨ofMethod_eq_iff _ _ _ _ _, ofProperty_eq_iff _ _ _ _, ?known, ?method, ?property⟩
  case known =>
    intro apart known
    have blends := blend_eq_iff apart known
    exact ⟨(ofMethod_eq_iff _ _ _ _ _).trans blends, (ofProperty_eq_iff _ _ _ _).trans blends⟩
  case method => exact (ofMethod_eq_iff _ _ _ _ _).mpr (blend_comm owner name)
  case property => exact (ofProperty_eq_iff _ _ _ _).mpr (blend_comm owner name)

-- A method keeps its fingerprint from those of the same name on other classes.
theorem speak_of_dog_differs :
    Xxh64.TellsApart ["Animal", "speak", "Dog", "speak"] ∧
    ofMethod (ofName "Animal") "speak" [ofName "i32"] ≠
      ofMethod (ofName "Dog") "speak" [ofName "i32"] := by
  have apart : Xxh64.TellsApart ["Animal", "speak", "Dog", "speak"] := by decide +kernel
  obtain ⟨_, _, tells, _⟩ :=
    member_fingerprints_meet_iff "Animal" "speak" "Dog" "speak" [ofName "i32"]
  have known := tells apart (.inr rfl)
  refine ⟨apart, fun same => ?_⟩
  exact absurd (known.1.mp same).1 (by decide)

/-- The shelf of a book and the book of a shelf are one member to their fingerprints, and
this is no fault of the digest. -/
theorem exchanged_names_coincide :
    Xxh64.TellsApart ["Book", "Shelf", "Shelf", "Book"] ∧ ("Book", "Shelf") ≠ ("Shelf", "Book") ∧
    ofMethod (ofName "Book") "Shelf" [ofName "i32"] =
      ofMethod (ofName "Shelf") "Book" [ofName "i32"] ∧
    ofProperty (ofName "Book") "Shelf" = ofProperty (ofName "Shelf") "Book" :=
  ⟨by decide +kernel, by decide, by decide +kernel, by decide +kernel⟩

end Fingerprint

end LateBinding
