import LateBinding.Proofs.Fingerprint.Identity
import Mathlib.Data.Int.ModEq
import Mathlib.Data.Nat.ModEq
import Mathlib.Tactic.LinearCombination
import Mathlib.Tactic.Ring

/-!
Whether a fingerprint shows the order of two neighbouring parameters. Exchanging them changes
two terms of the fold, and the changes may cancel. Nothing around the two has a part in it,
only their position. What decides is the lowest bit in which they differ: the factor of the
fold is one more than a multiple of four, so the lower change cannot be made up for, unless
the markers of the two positions help from the bit above.
-/

namespace LateBinding

/-! Numbers that differ from a bit on. -/

/-- The lowest bit in which two numbers differ. -/
structure FirstDifference (bit a b : Nat) : Prop where
  below : ∀ i < bit, a.testBit i = b.testBit i
  differ : a.testBit bit ≠ b.testBit bit

namespace FirstDifference

theorem agree_below_iff (bit a b : Nat) :
    (∀ i < bit, a.testBit i = b.testBit i) ↔ (2 ^ bit : Int) ∣ a - b := by
  have rests : (∀ i < bit, a.testBit i = b.testBit i) ↔ b % 2 ^ bit = a % 2 ^ bit := by
    constructor
    · intro agree
      apply Nat.eq_of_testBit_eq
      intro i
      by_cases low : i < bit <;> simp [low, agree]
    · intro same i low
      have bits := congrArg (Nat.testBit · i) same
      simpa [low] using bits.symm
  rw [rests]
  have divides := Nat.modEq_iff_dvd (n := 2 ^ bit) (a := b) (b := a)
  exact_mod_cast divides

/-- The difference has exactly so many factors of two. -/
theorem iff_sub (bit a b : Nat) :
    FirstDifference bit a b ↔ ∃ k : Int, (a : Int) - b = 2 ^ bit * (2 * k + 1) := by
  constructor
  · rintro ⟨below, differ⟩
    obtain ⟨quotient, split⟩ := (agree_below_iff bit a b).mp below
    rcases Int.even_or_odd' quotient with ⟨k, rfl | rfl⟩
    · -- An even quotient would make them agree in this bit as well.
      have further : (2 ^ (bit + 1) : Int) ∣ a - b := ⟨k, by rw [split]; ring⟩
      exact absurd ((agree_below_iff _ a b).mpr further bit (Nat.lt_succ_self bit)) differ
    · exact ⟨k, split⟩
  · rintro ⟨k, split⟩
    have below := (agree_below_iff bit a b).mpr ⟨_, split⟩
    refine ⟨below, fun same => ?_⟩
    have agree : ∀ i < bit + 1, a.testBit i = b.testBit i := by
      intro i low
      rcases Nat.lt_succ_iff_lt_or_eq.mp low with lower | rfl
      · exact below i lower
      · exact same
    obtain ⟨quotient, again⟩ := (agree_below_iff _ a b).mp agree
    rw [split, pow_succ, mul_assoc] at again
    have odd := mul_left_cancel₀ (pow_ne_zero bit two_ne_zero) again
    omega

/-- A mask that is added without carry to both leaves the difference where it is. -/
theorem xor_iff (mask bit a b : Nat) :
    FirstDifference bit (mask ^^^ a) (mask ^^^ b) ↔ FirstDifference bit a b := by
  constructor
  · rintro ⟨below, differ⟩
    simp only [Nat.testBit_xor, Bool.xor_right_inj, ne_eq] at below differ
    exact ⟨below, differ⟩
  · rintro ⟨below, differ⟩
    refine ⟨fun i low => ?_, ?_⟩
    · rw [Nat.testBit_xor, Nat.testBit_xor, below i low]
    · rwa [Nat.testBit_xor, Nat.testBit_xor, ne_eq, Bool.xor_right_inj]

end FirstDifference

theorem xor_add_two_and (a b : Nat) : (a ^^^ b) + 2 * (a &&& b) = a + b := by
  induction a using Nat.strongRecOn generalizing b with
  | ind a ih =>
      by_cases zero : a = 0
      · subst zero
        simp
      · -- Halves by induction, and the lowest bits by cases.
        have halves := ih (a / 2) (by omega) (b / 2)
        rw [← Nat.xor_div_two, ← Nat.and_div_two] at halves
        have xorBit := @Nat.xor_mod_two_eq_one a b
        have andBit := @Nat.and_mod_two_eq_one a b
        omega

theorem toNat_xor_add (word mask : UInt64) :
    (word ^^^ mask).toNat + 2 * (word &&& mask).toNat = word.toNat + mask.toNat := by
  rw [UInt64.toNat_xor, UInt64.toNat_and]
  exact xor_add_two_and _ _

namespace Fingerprint

/-! The two terms. -/

def marked (position : Nat) (param : Fingerprint) : UInt64 :=
  marker position ^^^ param.word

def markerChange (position : Nat) : UInt64 :=
  marker position ^^^ marker (position + 1)

/-- The bits of a marked parameter that the next marker would turn over. -/
def turned (position : Nat) (param : Fingerprint) : UInt64 :=
  marked position param &&& markerChange position

/-- Exchanging the parameters at a position and the next changes two terms of the fold by
amounts that cancel. -/
def Interchangeable (position : Nat) (a b : Fingerprint) : Prop :=
  separator * (marked position a - marked position b) =
    marked (position + 1) a - marked (position + 1) b

instance (position : Nat) (a b : Fingerprint) : Decidable (Interchangeable position a b) :=
  inferInstanceAs (Decidable (_ = _))

/-- Nothing in front of the two and nothing behind them decides whether their order shows. -/
theorem mixFrom_exchange_iff (position : Nat) (seed : UInt64) (a b : Fingerprint)
    (front back : List Fingerprint) :
    mixFrom position seed (front ++ a :: b :: back) =
        mixFrom position seed (front ++ b :: a :: back) ↔
      Interchangeable (position + front.length) a b := by
  rw [mixFrom_append, mixFrom_append]
  generalize mixFrom position seed front = seed
  rw [mixFrom, mixFrom, mixFrom, mixFrom, mixFrom_inj, Interchangeable, marked, marked, marked,
    marked]
  constructor
  · intro same
    grind
  · intro same
    grind

theorem marked_succ (position : Nat) (param : Fingerprint) :
    marked (position + 1) param = marked position param ^^^ markerChange position := by
  calc marker (position + 1) ^^^ param.word
      = (marker position ^^^ marker position) ^^^ marker (position + 1) ^^^ param.word := by
        rw [UInt64.xor_self, UInt64.zero_xor]
    _ = marker position ^^^ param.word ^^^ (marker position ^^^ marker (position + 1)) := by
        ac_rfl

/-- The separator is one more than four times this number, which is odd. -/
def quarter : Int := 0x12f2535af41814eb

theorem interchangeable_iff_dvd (position : Nat) (a b : Fingerprint) :
    Interchangeable position a b ↔
      (2 ^ 63 : Int) ∣ 2 * quarter * ((marked position a).toNat - (marked position b).toNat) +
        ((turned position a).toNat - (turned position b).toNat) := by
  have first := toNat_xor_add (marked position a) (markerChange position)
  have second := toNat_xor_add (marked position b) (markerChange position)
  rw [← marked_succ] at first second
  have factor : separator.toNat = 0x4bc94d6bd06053ad := rfl
  rw [Interchangeable, ← UInt64.toNat_inj, UInt64.toNat_mul, UInt64.toNat_sub, UInt64.toNat_sub,
    factor, turned, turned, quarter]
  have := (marked position a).toNat_lt
  have := (marked position b).toNat_lt
  have := (marked (position + 1) a).toNat_lt
  have := (marked (position + 1) b).toNat_lt
  omega

theorem testBit_marked (position : Nat) (param : Fingerprint) (bit : Nat) :
    (marked position param).toNat.testBit bit =
      ((marker position).toNat.testBit bit ^^ param.word.toNat.testBit bit) := by
  rw [marked, UInt64.toNat_xor, Nat.testBit_xor]

theorem testBit_turned (position : Nat) (param : Fingerprint) (bit : Nat) :
    (turned position param).toNat.testBit bit =
      ((marked position param).toNat.testBit bit && (markerChange position).toNat.testBit bit) := by
  rw [turned, UInt64.toNat_and, Nat.testBit_and]

/-! The lowest bit. -/

def FirstDiffer (bit : Nat) (a b : Fingerprint) : Prop :=
  FirstDifference bit a.word.toNat b.word.toNat

theorem firstDifference_marked {bit : Nat} {a b : Fingerprint} (position : Nat)
    (first : FirstDiffer bit a b) :
    FirstDifference bit (marked position a).toNat (marked position b).toNat := by
  rw [marked, marked, UInt64.toNat_xor, UInt64.toNat_xor]
  exact (FirstDifference.xor_iff _ _ _ _).mpr first

theorem quarter_odd : ∃ k, quarter = 2 * k + 1 :=
  ⟨0x97929ad7a0c0a75, rfl⟩

/-- Below the two highest bits, a lost order leaves its trace in the markers: what is turned
over makes up for the change one bit above. -/
theorem Interchangeable.turned_above {position bit : Nat} {a b : Fingerprint}
    (exchange : Interchangeable position a b) (first : FirstDiffer bit a b) (low : bit < 62) :
    FirstDifference (bit + 1) (turned position a).toNat (turned position b).toNat := by
  obtain ⟨k, split⟩ := (FirstDifference.iff_sub _ _ _).mp (firstDifference_marked position first)
  obtain ⟨n, odd⟩ := quarter_odd
  obtain ⟨quotient, sum⟩ := (interchangeable_iff_dvd position a b).mp exchange
  obtain ⟨high, rest⟩ : ∃ high, 63 = bit + 2 + high := ⟨61 - bit, by omega⟩
  have power : (2 : Int) ^ 63 = 2 ^ bit * (4 * 2 ^ high) := by
    rw [rest, pow_add, pow_add]
    ring
  rw [split, odd, power] at sum
  apply (FirstDifference.iff_sub _ _ _).mpr
  refine ⟨2 ^ high * quotient - (2 * n * k + n + k) - 1, ?_⟩
  linear_combination sum

theorem Interchangeable.markers {position bit : Nat} {a b : Fingerprint}
    (exchange : Interchangeable position a b) (first : FirstDiffer bit a b) (low : bit < 62) :
    (markerChange position).toNat.testBit bit = false ∧
    (markerChange position).toNat.testBit (bit + 1) = true ∧
    a.word.toNat.testBit (bit + 1) ≠ b.word.toNat.testBit (bit + 1) := by
  obtain ⟨below, above⟩ := exchange.turned_above first low
  have here := (firstDifference_marked position first).differ
  have same := below bit (Nat.lt_succ_self bit)
  rw [testBit_turned, testBit_turned] at same above
  refine ⟨?off, ?on, fun agree => ?_⟩
  case off =>
    cases change : (markerChange position).toNat.testBit bit with
    | false => rfl
    | true =>
        rw [change, Bool.and_true, Bool.and_true] at same
        exact absurd same here
  case on =>
    cases change : (markerChange position).toNat.testBit (bit + 1) with
    | true => rfl
    | false => simp [change] at above
  rw [testBit_marked, testBit_marked, agree] at above
  exact above rfl

theorem interchangeable_iff_of_high {position bit : Nat} {a b : Fingerprint}
    (first : FirstDiffer bit a b) (high : 62 ≤ bit) :
    Interchangeable position a b ↔
      ∀ i < 63, (turned position a).toNat.testBit i = (turned position b).toNat.testBit i := by
  obtain ⟨k, split⟩ := (FirstDifference.iff_sub _ _ _).mp (firstDifference_marked position first)
  have terms : (2 ^ 63 : Int) ∣
      2 * quarter * ((marked position a).toNat - (marked position b).toNat) := by
    obtain ⟨rest, rfl⟩ := Nat.exists_eq_add_of_le high
    refine ⟨quarter * (2 ^ rest * (2 * k + 1)), ?_⟩
    rw [split, pow_add]
    ring
  rw [interchangeable_iff_dvd, Int.dvd_add_right terms, FirstDifference.agree_below_iff]

theorem turned_agree_below {position bit : Nat} {a b : Fingerprint} (first : FirstDiffer bit a b) :
    ∀ i < bit, (turned position a).toNat.testBit i = (turned position b).toNat.testBit i := by
  intro i low
  rw [testBit_turned, testBit_turned, (firstDifference_marked position first).below i low]

theorem interchangeable_of_top {a b : Fingerprint} (first : FirstDiffer 63 a b) (position : Nat) :
    Interchangeable position a b :=
  (interchangeable_iff_of_high first (by decide)).mpr (turned_agree_below first)

theorem interchangeable_iff_next_to_top {a b : Fingerprint} (first : FirstDiffer 62 a b)
    (position : Nat) :
    Interchangeable position a b ↔ (markerChange position).toNat.testBit 62 = false := by
  rw [interchangeable_iff_of_high first (Nat.le_refl 62)]
  have here := (firstDifference_marked position first).differ
  constructor
  · intro agree
    have same := agree 62 (by decide)
    rw [testBit_turned, testBit_turned] at same
    cases change : (markerChange position).toNat.testBit 62 with
    | false => rfl
    | true =>
        rw [change, Bool.and_true, Bool.and_true] at same
        exact absurd same here
  · intro kept i low
    rcases Nat.lt_succ_iff_lt_or_eq.mp low with lower | rfl
    · exact turned_agree_below first i lower
    · rw [testBit_turned, testBit_turned, kept, Bool.and_false, Bool.and_false]

-- The first two markers agree in bit 62, the third and the fourth do not.
example : Interchangeable 0 ⟨0⟩ ⟨0x4000000000000000⟩ ∧
    ¬ Interchangeable 2 ⟨0⟩ ⟨0x4000000000000000⟩ := by
  decide +kernel

theorem exists_firstDiffer {a b : Fingerprint} (differ : a ≠ b) :
    ∃ bit < 64, FirstDiffer bit a b := by
  have words : a.word.toNat ≠ b.word.toNat := by
    intro same
    cases a
    cases b
    exact differ (congrArg mk (UInt64.toNat_inj.mp same))
  have some := Nat.exists_testBit_ne_of_ne words
  refine ⟨Nat.find some, ?_, fun i low => ?_, Nat.find_spec some⟩
  · by_contra high
    have bits (word : UInt64) : word.toNat.testBit (Nat.find some) = false :=
      Nat.testBit_lt_two_pow (Nat.lt_of_lt_of_le word.toNat_lt
        (Nat.pow_le_pow_right (by decide) (by omega)))
    exact Nat.find_spec some ((bits a.word).trans (bits b.word).symm)
  · exact not_not.mp (Nat.find_min some low)

/-! Slots, methods and constructors. -/

/-- Whether the order of two neighbours shows in a slot, a method or a constructor is a matter
of the two and of their position alone. It shows if they differ first below bit 62, unless the
next marker keeps that bit, turns over the one above, and they differ there as well. Two that
differ in the highest bit alone are taken for each other everywhere. -/
theorem order_shows_unless_interchangeable (owner : Fingerprint) (name : String)
    (front back : List Fingerprint) (a b : Fingerprint) :
    (ofSlot name (front ++ a :: b :: back) = ofSlot name (front ++ b :: a :: back) ↔
      Interchangeable front.length a b) ∧
    (ofMethod owner name (front ++ a :: b :: back) = ofMethod owner name (front ++ b :: a :: back) ↔
      Interchangeable front.length a b) ∧
    (ofConstructor owner (front ++ a :: b :: back) = ofConstructor owner (front ++ b :: a :: back) ↔
      Interchangeable front.length a b) ∧
    (a ≠ b → ∃ bit < 64, FirstDiffer bit a b) ∧
    ∀ bit, FirstDiffer bit a b →
      (bit = 63 → Interchangeable front.length a b) ∧
      (bit = 62 → (Interchangeable front.length a b ↔
        (markerChange front.length).toNat.testBit 62 = false)) ∧
      (bit < 62 → (markerChange front.length).toNat.testBit bit = true ∨
          (markerChange front.length).toNat.testBit (bit + 1) = false ∨
          a.word.toNat.testBit (bit + 1) = b.word.toNat.testBit (bit + 1) →
        ¬ Interchangeable front.length a b) := by
  have fold (seed : UInt64) :
      mix seed (front ++ a :: b :: back) = mix seed (front ++ b :: a :: back) ↔
      Interchangeable front.length a b := by
    rw [mix, mix, mixFrom_exchange_iff, Nat.zero_add]
  refine ⟨?slot, ?method, ?constructor, exists_firstDiffer, fun bit first => ⟨?top, ?next, ?low⟩⟩
  case slot => rw [ofSlot, ofSlot, mk.injEq, fold]
  case method => rw [ofMethod, ofMethod, mk.injEq, fold]
  case constructor => rw [ofConstructor, ofConstructor, mk.injEq, fold]
  case top =>
    rintro rfl
    exact interchangeable_of_top first _
  case next =>
    rintro rfl
    exact interchangeable_iff_next_to_top first _
  case low =>
    intro low helped exchange
    obtain ⟨kept, turned, differ⟩ := exchange.markers first low
    rcases helped with turns | keeps | agree
    · rw [kept] at turns
      cases turns
    · rw [turned] at keeps
      cases keeps
    · exact differ agree

-- These two differ in the lowest bit, and the second marker turns over none of the lowest two.
theorem number_before_text_shows :
    ofName "i32" ≠ ofName "String" ∧ FirstDiffer 0 (ofName "i32") (ofName "String") ∧
    ofSlot "f" [ofName "i32", ofName "String"] ≠ ofSlot "f" [ofName "String", ofName "i32"] := by
  have first : FirstDiffer 0 (ofName "i32") (ofName "String") :=
    ⟨fun i low => absurd low (Nat.not_lt_zero i), by decide +kernel⟩
  obtain ⟨slot, _, _, _, cases⟩ := order_shows_unless_interchangeable (ofName "Point") "f" [] []
    (ofName "i32") (ofName "String")
  have shows := (cases 0 first).2.2 (by decide) (.inr (.inl (by decide +kernel)))
  exact ⟨by decide +kernel, first, fun same => shows (slot.mp same)⟩

/-- The fingerprints of these two type names differ in the highest bit alone. -/
theorem exchanged_neighbours_coincide :
    ofName "i32" ≠ ofName "Dolpqjfzewrhimmi" ∧
    ofSlot "f" [ofName "i32", ofName "Dolpqjfzewrhimmi"] =
      ofSlot "f" [ofName "Dolpqjfzewrhimmi", ofName "i32"] ∧
    ofMethod (ofName "Point") "f" [ofName "i32", ofName "Dolpqjfzewrhimmi"] =
      ofMethod (ofName "Point") "f" [ofName "Dolpqjfzewrhimmi", ofName "i32"] ∧
    ofConstructor (ofName "Point") [ofName "i32", ofName "Dolpqjfzewrhimmi"] =
      ofConstructor (ofName "Point") [ofName "Dolpqjfzewrhimmi", ofName "i32"] :=
  ⟨by decide +kernel, by decide +kernel, by decide +kernel, by decide +kernel⟩

end Fingerprint

end LateBinding
