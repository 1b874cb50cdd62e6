import MeshRoutes.Proofs.Digest.Constants
import MeshRoutes.Proofs.Digest.Padding

/-!
# The hash is the one of the standard

The rounds fold over a table of constants and a schedule that is built up newest word first. The
table has the fractions that the standard names, the schedule has the words of its recurrence, and
from round to round and from block to block the state has the standard's variables.

* `roundConstants_eq`, `ofState_initial`: the constants.
* `schedule_eq`: the schedule of a block.
* `ofState_compress`: the state behind a block.
* `ofBytes_digest`: the hash.
-/

namespace MeshRoutes.SecureHash

/-! ## Operations on words -/

theorem toBitVec_rotateRight (x : UInt32) {n : UInt32} (pos : 0 < n.toNat) (lt : n.toNat < 32) :
    (Sha256.rotateRight x n).toBitVec = x.toBitVec.rotateRight n.toNat := by
  have right : (n.toBitVec % 32).toNat = n.toNat := by
    rw [BitVec.toNat_umod]
    exact Nat.mod_eq_of_lt lt
  have left : ((32 - n).toBitVec % 32).toNat = 32 - n.toNat % 32 := by
    have le : n ≤ 32 := UInt32.le_iff_toNat_le.2 (Nat.le_of_lt lt)
    rw [BitVec.toNat_umod, UInt32.toNat_toBitVec, UInt32.toNat_sub_of_le _ _ le]
    change (32 - n.toNat) % 32 = 32 - n.toNat % 32
    omega
  rw [Sha256.rotateRight, UInt32.toBitVec_or, UInt32.toBitVec_shiftRight,
    UInt32.toBitVec_shiftLeft, BitVec.ushiftRight_eq', BitVec.shiftLeft_eq', right, left,
    BitVec.rotateRight_def, Nat.mod_eq_of_lt lt]

theorem toBitVec_upperMix (x : UInt32) : (Sha256.upperMix x).toBitVec = upperMix x.toBitVec := by
  rw [Sha256.upperMix, UInt32.toBitVec_xor, UInt32.toBitVec_xor,
    toBitVec_rotateRight x (by decide) (by decide), toBitVec_rotateRight x (by decide) (by decide),
    toBitVec_rotateRight x (by decide) (by decide)]
  rfl

theorem toBitVec_lowerMix (x : UInt32) : (Sha256.lowerMix x).toBitVec = lowerMix x.toBitVec := by
  rw [Sha256.lowerMix, UInt32.toBitVec_xor, UInt32.toBitVec_xor,
    toBitVec_rotateRight x (by decide) (by decide), toBitVec_rotateRight x (by decide) (by decide),
    toBitVec_rotateRight x (by decide) (by decide)]
  rfl

theorem toBitVec_farMix (x : UInt32) : (Sha256.farMix x).toBitVec = farMix x.toBitVec := by
  rw [Sha256.farMix, UInt32.toBitVec_xor, UInt32.toBitVec_xor,
    toBitVec_rotateRight x (by decide) (by decide), toBitVec_rotateRight x (by decide) (by decide)]
  rfl

theorem toBitVec_nearMix (x : UInt32) : (Sha256.nearMix x).toBitVec = nearMix x.toBitVec := by
  rw [Sha256.nearMix, UInt32.toBitVec_xor, UInt32.toBitVec_xor,
    toBitVec_rotateRight x (by decide) (by decide), toBitVec_rotateRight x (by decide) (by decide)]
  rfl

/-! ## Schedule -/

theorem getD_reverse_map_range {α : Type} (f : Nat → α) (fallback : α) {n j : Nat} (lt : j < n) :
    ((List.range n).map f).reverse.getD j fallback = f (n - 1 - j) := by
  rw [List.getD_eq_getElem _ _ (by simpa using lt), List.getElem_reverse, List.getElem_map,
    List.getElem_range, List.length_map, List.length_range]

/-- A word of the schedule of a block, as a machine word. -/
def scheduled (block : Nat → BitVec 32) (t : Nat) : UInt32 := ⟨scheduleWord block t⟩

theorem scheduled_add_sixteen (block : Nat → BitVec 32) (t : Nat) :
    scheduled block (t + 16) =
      Sha256.nearMix (scheduled block (t + 14)) + scheduled block (t + 9) +
        Sha256.farMix (scheduled block (t + 1)) + scheduled block t := by
  rw [← UInt32.toBitVec_inj]
  simp only [UInt32.toBitVec_add, toBitVec_nearMix, toBitVec_farMix, scheduled]
  rw [scheduleWord, if_neg (by omega)]
  rfl

/-- The schedule that is built up newest word first has the words of the recurrence. -/
theorem extendSchedule_eq (block : Nat → BitVec 32) (n k : Nat) :
    Sha256.extendSchedule n ((List.range (k + 16)).map (scheduled block)).reverse =
      ((List.range (k + 16 + n)).map (scheduled block)).reverse := by
  -- at every length the words built up are the first ones of the schedule
  induction n generalizing k with
  | zero => rfl
  | succ n ih =>
    have next : scheduled block (k + 16) :: ((List.range (k + 16)).map (scheduled block)).reverse =
        ((List.range (k + 1 + 16)).map (scheduled block)).reverse := by
      rw [Nat.add_right_comm k 1, @List.range_succ (k + 16), List.map_append,
        List.reverse_append]
      rfl
    rw [Sha256.extendSchedule, getD_reverse_map_range _ _ (by omega),
      getD_reverse_map_range _ _ (by omega), getD_reverse_map_range _ _ (by omega),
      getD_reverse_map_range _ _ (by omega)]
    have newest : Sha256.nearMix (scheduled block (k + 16 - 1 - 1)) +
        scheduled block (k + 16 - 1 - 6) + Sha256.farMix (scheduled block (k + 16 - 1 - 14)) +
          scheduled block (k + 16 - 1 - 15) = scheduled block (k + 16) :=
      (scheduled_add_sixteen block k).symm
    have places : k + 1 + 16 + n = k + 16 + (n + 1) := by omega
    rw [newest, next, ih, places]

theorem schedule_eq (block : Nat → BitVec 32) :
    Sha256.schedule ((List.range 16).map fun t => ⟨block t⟩) =
      (List.range 64).map (scheduled block) := by
  have first : (List.range 16).map (fun t => (⟨block t⟩ : UInt32)) =
      (List.range (0 + 16)).map (scheduled block) := by
    refine List.map_congr_left fun t mem => ?_
    rw [scheduled, scheduleWord, if_pos (List.mem_range.1 mem)]
  rw [Sha256.schedule, first, extendSchedule_eq, List.reverse_reverse]

/-! ## Rounds -/

/-- The variables that a state holds. -/
def Variables.ofState (s : Sha256.State) : Variables :=
  ⟨s.a.toBitVec, s.b.toBitVec, s.c.toBitVec, s.d.toBitVec, s.e.toBitVec, s.f.toBitVec,
    s.g.toBitVec, s.h.toBitVec⟩

theorem ofState_add (s t : Sha256.State) :
    Variables.ofState (s.add t) = (Variables.ofState t).add (.ofState s) := by
  simp only [Variables.ofState, Sha256.State.add, Variables.add, UInt32.toBitVec_add,
    BitVec.add_comm]

theorem ofState_round (s : Sha256.State) (k word : UInt32) :
    Variables.ofState (Sha256.round s k word) =
      (Variables.ofState s).round k.toBitVec word.toBitVec := by
  simp only [Variables.ofState, Sha256.round, Variables.round, UInt32.toBitVec_add,
    toBitVec_lowerMix, toBitVec_upperMix]
  rfl

theorem ofState_foldl_round (block : Nat → BitVec 32) (s : Sha256.State) (n : Nat) :
    Variables.ofState (((List.range n).map fun t => (⟨constant t⟩, scheduled block t)).foldl
      (fun t (k, word) => Sha256.round t k word) s) = rounds block (.ofState s) n := by
  induction n with
  | zero => rfl
  | succ n ih =>
    rw [List.range_succ, List.map_append, List.foldl_append, List.map_singleton, List.foldl_cons,
      List.foldl_nil, ofState_round, ih]
    rfl

/-- The state behind a block. -/
theorem ofState_compress (s : Sha256.State) (block : Nat → BitVec 32) :
    Variables.ofState (Sha256.compress s ((List.range 16).map fun t => ⟨block t⟩)) =
      (rounds block (.ofState s) 64).add (.ofState s) := by
  rw [Sha256.compress, ofState_add, schedule_eq, roundConstants_eq, List.zip_map',
    ofState_foldl_round]

/-! ## The hash -/

theorem Variables.words_inj {v w : Variables} : v.words = w.words ↔ v = w := by
  simp only [Variables.ext_iff, Variables.words, List.cons.injEq, and_true]

theorem ofState_initial : .ofState Sha256.initial = initial := Variables.words_inj.1 words_initial

/-- The state behind the first blocks of a padded message. -/
theorem ofState_foldl_compress (padded : List Bool) (n : Nat) :
    Variables.ofState (((List.range n).map fun i =>
      (List.range 16).map fun t => ⟨blockAt padded i t⟩).foldl Sha256.compress Sha256.initial) =
        hashValue padded n := by
  induction n with
  | zero => exact ofState_initial
  | succ n ih =>
    rw [@List.range_succ n, List.map_append, List.foldl_append, List.map_singleton, List.foldl_cons,
      List.foldl_nil, ofState_compress, ih, hashValue]

theorem ofBytes_flatMap_wordBytes (words : List UInt32) :
    ofBytes (words.flatMap Sha256.wordBytes) = words.flatMap fun word => bits 32 word.toNat := by
  rw [ofBytes, List.flatMap_assoc]
  exact congrArg words.flatMap (funext ofBytes_wordBytes)

/-- The hash of bytes has the bits of the standard's hash of their bits. -/
theorem ofBytes_digest (message : List UInt8) :
    ofBytes (Sha256.digest message) = digest (ofBytes message) := by
  rw [Sha256.digest, ofBytes_flatMap_wordBytes, blocksOf_pad, digest, ← ofState_foldl_compress]
  rfl

/-- The message "abc", an example of the standard. -/
example : digest (ofBytes [0x61, 0x62, 0x63]) = ofBytes [
    0xba, 0x78, 0x16, 0xbf, 0x8f, 0x01, 0xcf, 0xea, 0x41, 0x41, 0x40, 0xde, 0x5d, 0xae, 0x22, 0x23,
    0xb0, 0x03, 0x61, 0xa3, 0x96, 0x17, 0x7a, 0x9c, 0xb4, 0x10, 0xff, 0x61, 0xf2, 0x00, 0x15,
    0xad] := by
  rw [← ofBytes_digest]
  decide +kernel

end MeshRoutes.SecureHash
