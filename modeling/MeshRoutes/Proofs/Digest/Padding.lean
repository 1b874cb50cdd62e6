import Mathlib.Tactic.Ring
import MeshRoutes.Digest.Sha256
import MeshRoutes.Proofs.Digest.Standard

/-!
# Bytes and words as bits

The hash works on bytes and words, the standard on bits. Bytes, the words they make up and the
bytes of a word are different cuts of the same bits, and the padding by whole bytes is the
shortest one.

* `field_flatMap_bits`, `map_field_range`: numbers written one behind the other are the fields of
  their bits.
* `ofBytes_pad`: the padded bytes are the padded message.
* `blocksOf_pad`: the blocks are those of the padded message.
-/

namespace MeshRoutes.SecureHash

/-! ## Bits of numbers -/

@[simp] theorem length_bits (width n : Nat) : (bits width n).length = width := by
  induction width with
  | zero => rfl
  | succ width ih => rw [bits, List.length_cons, ih]

/-- Bits are cut by a shift. -/
theorem bits_add (front back n : Nat) :
    bits (front + back) n = bits front (n >>> back) ++ bits back n := by
  induction front with
  | zero => rw [Nat.zero_add, bits, List.nil_append]
  | succ front ih =>
    rw [Nat.add_right_comm, bits, bits, ih, Nat.testBit_shiftRight, Nat.add_comm back,
      List.cons_append]

theorem bits_mod {width bound : Nat} (le : width ≤ bound) (n : Nat) :
    bits width (n % 2 ^ bound) = bits width n := by
  induction width with
  | zero => rfl
  | succ width ih =>
    rw [bits, bits, ih (Nat.le_of_succ_le le), Nat.testBit_mod_two_pow,
      decide_eq_true (Nat.lt_of_succ_le le), Bool.true_and]

theorem bits_mul_add (front back : Nat) {n : Nat} (m : Nat) (lt : n < 2 ^ back) :
    bits (front + back) (m * 2 ^ back + n) = bits front m ++ bits back n := by
  have head : (m * 2 ^ back + n) >>> back = m := by
    rw [Nat.shiftRight_eq_div_pow, Nat.add_comm, Nat.add_mul_div_right _ _ (Nat.two_pow_pos back),
      Nat.div_eq_of_lt lt, Nat.zero_add]
  have tail : (m * 2 ^ back + n) % 2 ^ back = n := by
    rw [Nat.mul_add_mod', Nat.mod_eq_of_lt lt]
  rw [bits_add, head, ← bits_mod (Nat.le_refl back), tail]

theorem value_append (front back : List Bool) :
    value (front ++ back) = value front * 2 ^ back.length + value back := by
  have shift (start : Nat) (tail : List Bool) :
      tail.foldl (fun n bit => 2 * n + bit.toNat) start = start * 2 ^ tail.length + value tail := by
    induction tail generalizing start with
    | nil => simp [value]
    | cons bit tail ih =>
      rw [value, List.foldl_cons, List.foldl_cons, ih, ih, List.length_cons, Nat.pow_succ]
      ring
  rw [value, List.foldl_append, shift]
  rfl

theorem value_bits (width n : Nat) : value (bits width n) = n % 2 ^ width := by
  induction width with
  | zero => rw [Nat.pow_zero, Nat.mod_one]; rfl
  | succ width ih =>
    have head : value [n.testBit width] = (n.testBit width).toNat := Nat.zero_add _
    rw [bits, ← List.singleton_append, value_append, ih, length_bits, head, Nat.toNat_testBit,
      Nat.mod_pow_succ, Nat.add_comm, Nat.mul_comm]

/-! ## Fields -/

theorem length_flatMap_bits (width : Nat) (numbers : List Nat) :
    (numbers.flatMap (bits width)).length = width * numbers.length := by
  induction numbers with
  | nil => rfl
  | cons number numbers ih =>
    rw [List.flatMap_cons, List.length_append, length_bits, ih, List.length_cons, Nat.mul_succ,
      Nat.add_comm]

/-- Numbers written one behind the other are fields. -/
theorem field_flatMap_bits (width : Nat) {numbers : List Nat} {n : Nat} (lt : n < numbers.length) :
    field width (numbers.flatMap (bits width)) n = numbers[n] % 2 ^ width := by
  induction numbers generalizing n with
  | nil => exact absurd lt (Nat.not_lt_zero n)
  | cons number numbers ih =>
    have front := length_bits width number
    cases n with
    | zero =>
      rw [field, Nat.mul_zero, List.drop_zero, List.flatMap_cons, List.take_left' front,
        value_bits, List.getElem_cons_zero]
    | succ n =>
      have rest : (bits width number ++ numbers.flatMap (bits width)).drop (width * (n + 1)) =
          (numbers.flatMap (bits width)).drop (width * n) := by
        rw [Nat.mul_succ, Nat.add_comm, ← List.drop_drop, List.drop_left' front]
      rw [field, List.flatMap_cons, rest, List.getElem_cons_succ]
      exact ih (Nat.lt_of_succ_lt_succ lt)

/-- Numbers of few enough bits are read back from their fields. -/
theorem map_field_range {width : Nat} (some_bit : 0 < width) {numbers : List Nat}
    (small : ∀ n ∈ numbers, n < 2 ^ width) :
    (List.range ((numbers.flatMap (bits width)).length / width)).map
      (field width (numbers.flatMap (bits width))) = numbers := by
  rw [length_flatMap_bits, Nat.mul_div_cancel_left _ some_bit]
  refine List.ext_getElem (by simp) fun n _ lt => ?_
  rw [List.getElem_map, List.getElem_range, field_flatMap_bits width lt,
    Nat.mod_eq_of_lt (small _ (List.getElem_mem lt))]

theorem ofBytes_eq_flatMap (bytes : List UInt8) :
    ofBytes bytes = (bytes.map UInt8.toNat).flatMap (bits 8) := (List.flatMap_map ..).symm

theorem length_ofBytes (bytes : List UInt8) : (ofBytes bytes).length = 8 * bytes.length := by
  rw [ofBytes_eq_flatMap, length_flatMap_bits, List.length_map]

theorem ofBytes_append (front back : List UInt8) :
    ofBytes (front ++ back) = ofBytes front ++ ofBytes back := List.flatMap_append

/-- Bytes are what their bits consist of. -/
theorem toBytes_ofBytes (bytes : List UInt8) : toBytes (ofBytes bytes) = bytes := by
  have small : ∀ n ∈ bytes.map UInt8.toNat, n < 2 ^ 8 :=
    List.forall_mem_map.2 fun byte _ => byte.toNat_lt
  have back : UInt8.ofNat ∘ UInt8.toNat = id := funext fun byte => byte.ofNat_toNat
  calc toBytes (ofBytes bytes)
    _ = ((List.range ((ofBytes bytes).length / 8)).map (field 8 (ofBytes bytes))).map
        UInt8.ofNat := by
        rw [List.map_map]
        rfl
    _ = (bytes.map UInt8.toNat).map UInt8.ofNat := by
        rw [ofBytes_eq_flatMap, map_field_range (by omega) small]
    _ = bytes := by rw [List.map_map, back, List.map_id]

/-! ## Words -/

theorem toNat_shiftLeft (byte : UInt8) {shift : UInt32} (le : shift.toNat ≤ 24) :
    (byte.toUInt32 <<< shift).toNat = byte.toNat * 2 ^ shift.toNat := by
  have in_word : byte.toNat * 2 ^ shift.toNat < 2 ^ 32 :=
    calc byte.toNat * 2 ^ shift.toNat
      _ < 2 ^ 8 * 2 ^ shift.toNat := Nat.mul_lt_mul_of_pos_right byte.toNat_lt (Nat.two_pow_pos _)
      _ ≤ 2 ^ 8 * 2 ^ 24 := Nat.mul_le_mul_left _ (Nat.pow_le_pow_right (by omega) le)
  rw [UInt32.toNat_shiftLeft, UInt8.toNat_toUInt32, Nat.mod_eq_of_lt (by omega : shift.toNat < 32),
    Nat.shiftLeft_eq, Nat.mod_eq_of_lt in_word]

theorem toNat_word (a b c d : UInt8) :
    (a.toUInt32 <<< 24 ||| b.toUInt32 <<< 16 ||| c.toUInt32 <<< 8 ||| d.toUInt32).toNat =
      a.toNat * 2 ^ 24 + (b.toNat * 2 ^ 16 + (c.toNat * 2 ^ 8 + d.toNat)) := by
  have b_lt := b.toNat_lt
  have c_lt := c.toNat_lt
  have d_lt := d.toNat_lt
  have or_eq_add (n : Nat) {m k : Nat} (m_lt : m < 2 ^ k) : n * 2 ^ k ||| m = n * 2 ^ k + m := by
    rw [← Nat.shiftLeft_eq, Nat.shiftLeft_add_eq_or_of_lt m_lt]
  have first : (a.toUInt32 <<< 24).toNat = a.toNat * 2 ^ 24 := toNat_shiftLeft a (by decide)
  have second : (b.toUInt32 <<< 16).toNat = b.toNat * 2 ^ 16 := toNat_shiftLeft b (by decide)
  have third : (c.toUInt32 <<< 8).toNat = c.toNat * 2 ^ 8 := toNat_shiftLeft c (by decide)
  rw [UInt32.toNat_or, UInt32.toNat_or, UInt32.toNat_or, first, second, third,
    UInt8.toNat_toUInt32, Nat.or_assoc, Nat.or_assoc, or_eq_add c.toNat (by omega),
    or_eq_add b.toNat (by omega), or_eq_add a.toNat (by omega)]

/-- The words of whole words of bytes have the bits of the bytes. -/
theorem flatMap_wordsOf {bytes : List UInt8} (whole : bytes.length % 4 = 0) :
    (Sha256.wordsOf bytes).flatMap (fun word => bits 32 word.toNat) = ofBytes bytes := by
  induction bytes using Sha256.wordsOf.induct with
  | case1 a b c d bytes ih =>
    have rest : bytes.length % 4 = 0 := by
      simp only [List.length_cons] at whole
      omega
    have b_lt := b.toNat_lt
    have c_lt := c.toNat_lt
    have d_lt := d.toNat_lt
    rw [Sha256.wordsOf, List.flatMap_cons, ih rest, toNat_word,
      bits_mul_add 8 24 _ (by omega), bits_mul_add 8 16 _ (by omega),
      bits_mul_add 8 8 _ (by omega)]
    simp only [ofBytes, List.flatMap_cons, List.append_assoc]
  | case2 bytes short =>
    -- fewer than four bytes are no bytes
    match bytes with
    | [] => rfl
    | [_] | [_, _] | [_, _, _] => exact absurd whole (by simp)
    | a :: b :: c :: d :: bytes => exact absurd rfl (short a b c d bytes)

/-- The bytes of a word have its bits. -/
theorem ofBytes_wordBytes (x : UInt32) : ofBytes (Sha256.wordBytes x) = bits 32 x.toNat := by
  have byte (y : UInt32) : bits 8 y.toUInt8.toNat = bits 8 y.toNat := by
    rw [UInt32.toNat_toUInt8, bits_mod (Nat.le_refl 8)]
  have shifted_24 : (x >>> 24).toNat = x.toNat >>> 24 := UInt32.toNat_shiftRight x 24
  have shifted_16 : (x >>> 16).toNat = x.toNat >>> 16 := UInt32.toNat_shiftRight x 16
  have shifted_8 : (x >>> 8).toNat = x.toNat >>> 8 := UInt32.toNat_shiftRight x 8
  rw [bits_add 8 24, bits_add 8 16, bits_add 8 8, ← shifted_24, ← shifted_16, ← shifted_8]
  simp only [ofBytes, Sha256.wordBytes, List.flatMap_cons, List.flatMap_nil, List.append_nil, byte]

/-! ## Padding -/

/-- The fewest zeros behind whole bytes end a byte. -/
theorem zeroCount_mul_eight (length : Nat) :
    zeroCount (8 * length) = 7 + 8 * ((119 - length % 64) % 64) := by
  rw [zeroCount, Nat.find_eq_iff]
  refine ⟨by omega, fun zeros lt => ?_⟩
  omega

theorem pad_length_mod (message : List Bool) : (pad message).length % 512 = 0 := by
  have zeros := Nat.find_spec (exists_zeros message.length)
  simp only [pad, List.length_append, List.length_cons, List.length_replicate, length_bits,
    zeroCount]
  omega

theorem ofBytes_replicate_zero (n : Nat) :
    ofBytes (List.replicate n 0) = List.replicate (8 * n) false := by
  induction n with
  | zero => rfl
  | succ n ih =>
    rw [List.replicate_succ, ofBytes, List.flatMap_cons, ← ofBytes, ih, Nat.mul_succ, Nat.add_comm,
      List.replicate_add]
    rfl

theorem ofBytes_lengthBytes (n : Nat) : ofBytes (Sha256.lengthBytes n) = bits 64 n := by
  have byte (k : Nat) : bits 8 (UInt8.ofNat (k % 256)).toNat = bits 8 k := by
    rw [UInt8.toNat_ofNat', bits_mod (Nat.le_refl 8)]
    exact bits_mod (Nat.le_refl 8) k
  rw [bits_add 8 56, bits_add 8 48, bits_add 8 40, bits_add 8 32, bits_add 8 24, bits_add 8 16,
    bits_add 8 8]
  simp only [ofBytes, Sha256.lengthBytes, List.map_cons, List.map_nil, List.flatMap_cons,
    List.flatMap_nil, List.append_nil, byte]
  rfl

/-- The padded bytes are the padded message. -/
theorem ofBytes_pad (message : List UInt8) :
    ofBytes (Sha256.pad message) = pad (ofBytes message) := by
  have delimiter : ofBytes [0x80] = true :: List.replicate 7 false := by decide
  rw [Sha256.pad, ofBytes_append, ofBytes_append, ofBytes_append, ofBytes_replicate_zero,
    ofBytes_lengthBytes, delimiter, pad, length_ofBytes, zeroCount_mul_eight, List.replicate_add]
  simp only [List.append_assoc, List.cons_append]

/-! ## Blocks -/

/-- The words of whole words of bytes, by their places. -/
theorem wordsOf_eq_map_range {bytes : List UInt8} (whole : bytes.length % 4 = 0) :
    Sha256.wordsOf bytes =
      (List.range ((ofBytes bytes).length / 32)).map fun n => ⟨wordAt (ofBytes bytes) n⟩ := by
  have message : ofBytes bytes = ((Sha256.wordsOf bytes).map UInt32.toNat).flatMap (bits 32) := by
    rw [List.flatMap_map, flatMap_wordsOf whole]
  have small : ∀ n ∈ (Sha256.wordsOf bytes).map UInt32.toNat, n < 2 ^ 32 :=
    List.forall_mem_map.2 fun word _ => word.toNat_lt
  have back : UInt32.ofNat ∘ UInt32.toNat = id := funext fun word => word.ofNat_toNat
  calc Sha256.wordsOf bytes
    _ = ((Sha256.wordsOf bytes).map UInt32.toNat).map UInt32.ofNat := by
        rw [List.map_map, back, List.map_id]
    _ = ((List.range ((ofBytes bytes).length / 32)).map (field 32 (ofBytes bytes))).map
        UInt32.ofNat := by
        rw [message, map_field_range (by omega) small]
    _ = _ := List.map_map ..

/-- Words are cut into blocks by their places. -/
theorem blocksOf_map_range (word : Nat → UInt32) (n : Nat) :
    Sha256.blocksOf ((List.range (16 * n)).map word) =
      (List.range n).map fun i => (List.range 16).map fun t => word (16 * i + t) := by
  induction n generalizing word with
  | zero => rw [Sha256.blocksOf]; rfl
  | succ n ih =>
    have block : ((List.range 16).map word).length = 16 := by
      rw [List.length_map, List.length_range]
    have words : (List.range (16 * (n + 1))).map word =
        (List.range 16).map word ++ (List.range (16 * n)).map fun k => word (16 + k) := by
      rw [Nat.mul_succ, Nat.add_comm, List.range_add, List.map_append, List.map_map]
      rfl
    have blocks : List.range (n + 1) = 0 :: (List.range n).map Nat.succ := List.range_succ_eq_map
    have some_block : ¬((List.range (16 * (n + 1))).map word).length < 16 := by
      rw [List.length_map, List.length_range]
      omega
    rw [Sha256.blocksOf, if_neg some_block, words, List.take_left' block, List.drop_left' block, ih,
      blocks, List.map_cons, List.map_map]
    simp only [Nat.mul_zero, Nat.zero_add, Function.comp_def, Nat.mul_succ, Nat.add_assoc,
      Nat.add_left_comm 16]

/-- The blocks of the padded bytes are those of the padded message. -/
theorem blocksOf_pad (message : List UInt8) :
    Sha256.blocksOf (Sha256.wordsOf (Sha256.pad message)) =
      (List.range ((pad (ofBytes message)).length / 512)).map fun i =>
        (List.range 16).map fun t => ⟨blockAt (pad (ofBytes message)) i t⟩ := by
  have whole := pad_length_mod (ofBytes message)
  have length := length_ofBytes (Sha256.pad message)
  rw [← ofBytes_pad] at whole ⊢
  have words : (ofBytes (Sha256.pad message)).length / 32 =
      16 * ((ofBytes (Sha256.pad message)).length / 512) := by
    omega
  rw [wordsOf_eq_map_range (by omega), words, blocksOf_map_range]
  rfl

end MeshRoutes.SecureHash
