import Mathlib.Algebra.Ring.Nat
import FlowSteer.Flow.Key

/-!
# Hashes of similar keys

The hash of a flow key takes the thirteen bytes of the key one after another into its state. No step
loses anything: the factor of a step has an inverse modulo `2 ^ 64`.

1. `StreamHash.run_injective`: different states stay different, whatever bytes follow.
2. `StreamHash.run_ne_of_differences`: bytes that differ in one place have different hashes.
3. `FlowKey.encode_injective`: different keys have different bytes.
4. `FlowKey.separates`: all three for the hashes of keys.
-/

namespace FlowSteer

/-- Number of places at which two rows of bytes differ. -/
def differences (first second : List UInt8) : Nat :=
  (first.zip second).countP fun bytes => bytes.1 != bytes.2

theorem differences_cons (byte other : UInt8) (first second : List UInt8) :
    differences (byte :: first) (other :: second) =
      differences first second + if byte = other then 0 else 1 := by
  unfold differences
  rw [List.zip_cons_cons, List.countP_cons]
  by_cases same : byte = other <;> simp [same]

/-- Rows of one length that differ nowhere are the same. -/
theorem eq_of_differences {first second : List UInt8} (sameLength : first.length = second.length)
    (none : differences first second = 0) : first = second := by
  induction first generalizing second with
  | nil => exact (List.length_eq_zero_iff.1 sameLength.symm).symm
  | cons byte rest ih =>
      cases second with
      | nil => cases sameLength
      | cons other others =>
          rw [differences_cons, Nat.add_eq_zero_iff] at none
          obtain ⟨noneLater, noneHere⟩ := none
          have same : byte = other := by
            by_contra different
            rw [if_neg different] at noneHere
            cases noneHere
          rw [same, ih (Nat.succ.inj sameLength) noneLater]

namespace StreamHash

/-! ## Steps -/

/-- Inverse of the factor modulo `2 ^ 64`. -/
def primeInverse : UInt64 := 0xce965057aff6957b

theorem prime_mul_primeInverse : prime * primeInverse = 1 := by decide

theorem mul_prime_injective : Function.Injective (· * prime) := by
  apply Function.LeftInverse.injective (g := (· * primeInverse))
  intro state
  show state * prime * primeInverse = state
  rw [UInt64.mul_assoc, prime_mul_primeInverse, UInt64.mul_one]

theorem step_injective (byte : UInt8) : Function.Injective (step · byte) := by
  intro state other same
  exact (UInt64.xor_left_inj byte.toUInt64).1 (mul_prime_injective same)

theorem step_byte_injective (state : UInt64) : Function.Injective (step state) := by
  intro byte other same
  exact UInt8.toUInt64_inj.1 ((UInt64.xor_right_inj state).1 (mul_prime_injective same))

/-! ## Runs -/

/-- Different states stay different, whatever bytes follow. -/
theorem run_injective (bytes : List UInt8) : Function.Injective (run · bytes) := by
  induction bytes with
  | nil => exact Function.injective_id
  | cons byte rest ih => exact ih.comp (step_injective byte)

/-- Bytes that differ in one place lead from one state to different states. -/
theorem run_ne_of_differences {first second : List UInt8}
    (sameLength : first.length = second.length) (once : differences first second = 1)
    (state : UInt64) : run state first ≠ run state second := by
  induction first generalizing second state with
  | nil => cases once
  | cons byte rest ih =>
      cases second with
      | nil => cases sameLength
      | cons other others =>
          have restLength : rest.length = others.length := Nat.succ.inj sameLength
          rw [differences_cons] at once
          by_cases same : byte = other
          · rw [if_pos same] at once
            rw [same]
            exact ih restLength once (step state other)
          · rw [if_neg same] at once
            -- The states differ here, and the bytes that follow are the same.
            rw [eq_of_differences restLength (Nat.succ.inj once)]
            exact fun merged => same (step_byte_injective state (run_injective others merged))

end StreamHash

namespace FlowKey

/-! ## Bytes of a key -/

/-- The bytes of a word are its digits in base 256, the highest first. -/
theorem toNat_bytes16 (word : UInt16) : (bytes16 word).map UInt8.toNat =
    [word.toNat / 2 ^ 8 % 2 ^ 8, word.toNat % 2 ^ 8] := by
  simp [bytes16, Nat.shiftRight_eq_div_pow]

theorem toNat_bytes32 (word : UInt32) : (bytes32 word).map UInt8.toNat =
    [word.toNat / 2 ^ 24 % 2 ^ 8, word.toNat / 2 ^ 16 % 2 ^ 8, word.toNat / 2 ^ 8 % 2 ^ 8,
      word.toNat % 2 ^ 8] := by
  simp [bytes32, Nat.shiftRight_eq_div_pow]

theorem bytes16_injective : Function.Injective bytes16 := by
  intro word other same
  have digits := congrArg (List.map UInt8.toNat) same
  rw [toNat_bytes16, toNat_bytes16] at digits
  simp only [List.cons.injEq, and_true] at digits
  have wordBelow := word.toNat_lt
  have otherBelow := other.toNat_lt
  apply UInt16.toNat_inj.1
  omega

theorem bytes32_injective : Function.Injective bytes32 := by
  intro word other same
  have digits := congrArg (List.map UInt8.toNat) same
  rw [toNat_bytes32, toNat_bytes32] at digits
  simp only [List.cons.injEq, and_true] at digits
  have wordBelow := word.toNat_lt
  have otherBelow := other.toNat_lt
  apply UInt32.toNat_inj.1
  omega

theorem length_encode (key : FlowKey) : key.encode.length = 13 := rfl

/-- Different keys have different bytes. -/
theorem encode_injective : Function.Injective encode := by
  intro key other same
  obtain ⟨same, protocol⟩ := List.append_inj' same rfl
  obtain ⟨same, targetPort⟩ := List.append_inj' same rfl
  obtain ⟨same, sourcePort⟩ := List.append_inj' same rfl
  obtain ⟨sourceAddress, targetAddress⟩ := List.append_inj' same rfl
  cases key
  cases other
  rw [mk.injEq]
  exact ⟨bytes32_injective sourceAddress, bytes32_injective targetAddress,
    bytes16_injective sourcePort, bytes16_injective targetPort, List.singleton_inj.1 protocol⟩

/-! ## Hashes of keys -/

/-- Keys whose bytes differ in one place have different hashes. -/
theorem hash_ne_of_differences {key other : FlowKey}
    (once : differences key.encode other.encode = 1) : key.hash ≠ other.hash := by
  have sameLength : key.encode.length = other.encode.length := by
    rw [length_encode, length_encode]
  unfold hash
  exact StreamHash.run_ne_of_differences sameLength once StreamHash.offset

/-- The hash sets keys apart that differ in one byte, and loses nothing on the way: a key can be
told from its bytes, and two states never become one. -/
structure Separates : Prop where
  length : ∀ key : FlowKey, key.encode.length = 13
  hashes : ∀ key other : FlowKey, differences key.encode other.encode = 1 → key.hash ≠ other.hash
  encodings : ∀ key other : FlowKey, key ≠ other → key.encode ≠ other.encode
  states : ∀ state other bytes, state ≠ other →
    StreamHash.run state bytes ≠ StreamHash.run other bytes

theorem separates : Separates where
  length := length_encode
  hashes := fun _ _ once => hash_ne_of_differences once
  encodings := fun _ _ different => encode_injective.ne different
  states := fun _ _ bytes different => (StreamHash.run_injective bytes).ne different

/-- Two streams between the same hosts, to ports next to each other. -/
theorem separates_of_neighbouring_ports :
    let key : FlowKey := {
      sourceAddress := 0x0a000001, targetAddress := 0x0a000002
      sourcePort := 40000, targetPort := 443, protocol := 6 }
    differences key.encode { key with targetPort := 442 }.encode = 1 ∧
      key.hash ≠ { key with targetPort := 442 }.hash := by
  intro key
  have once : differences key.encode { key with targetPort := 442 }.encode = 1 := by decide
  exact ⟨once, separates.hashes _ _ once⟩

end FlowKey

end FlowSteer
