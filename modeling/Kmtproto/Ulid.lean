import Kmtproto.Types
import Kmtproto.Positional

/-! ULIDs. Six bytes of time and ten random ones are one number, written in 26
characters of an alphabet in ASCII order; texts compare as times and then bytes do. -/
namespace Kmtproto
open Json

def crockfordBase32 : Bytes := lit "0123456789ABCDEFGHJKMNPQRSTVWXYZ"

/-- `io.ReadFull` into a buffer of the given size, from a reader of the given bytes. -/
def readFull (size : Nat) (random : Bytes) : Except Err Bytes :=
  if size ≤ random.length then .ok (random.take size)
  else if random.isEmpty then .error (.plain (lit "EOF"))
  else .error (.plain (lit "unexpected EOF"))

def packMillis : Nat → UInt64 → Bytes → Bytes
  | 0, _, tail => tail
  | i+1, millis, tail => packMillis i (millis >>> 8) (millis.toUInt8::tail)

/-- `big.Int.SetBytes`. -/
def setBytes (raw : Bytes) : Nat := Positional.value UInt8.toNat 256 raw

def writeBase32 : Nat → Nat → Bytes → Bytes
  | 0, _, out => out
  | i+1, n, out => writeBase32 i (n/32) (crockfordBase32.getD (n % 32) 0::out)

/-- `NewULID` at a time in milliseconds. -/
def newULID (unixMilli : Int64) (random : Bytes) : Except Err Bytes :=
  let millis := unixMilli.toUInt64
  if millis > 0xFFFFFFFFFFFF then .error (.plain (lit "kmtproto: ULID timestamp out of range"))
  else
    match readFull 10 random with
    | .error error => .error (.wrap (lit "kmtproto: generate ULID randomness") error)
    | .ok bytes => .ok (writeBase32 26 (setBytes (packMillis 6 millis [] ++ bytes)) [])

section Packing

private theorem packMillis_append (i : Nat) (millis : UInt64) (tail : Bytes) :
    packMillis i millis tail = packMillis i millis [] ++ tail := by
  induction i generalizing millis tail with
  | zero => rfl
  | succ i ih =>
    rw [packMillis,packMillis,ih,ih _ [millis.toUInt8],List.append_assoc]
    rfl

private theorem packMillis_digits (i : Nat) (millis : UInt64) :
    (packMillis i millis []).map UInt8.toNat = Positional.spell 256 i millis.toNat [] := by
  induction i generalizing millis with
  | zero => rfl
  | succ i ih =>
    have shifted : (millis >>> 8).toNat = millis.toNat / 256 := by
      rw [UInt64.toNat_shiftRight]
      simp [Nat.shiftRight_eq_div_pow]
    have low : millis.toUInt8.toNat = millis.toNat % 256 := by
      rw [UInt64.toNat_toUInt8]
    rw [packMillis,packMillis_append,List.map_append,ih,Positional.spell,
      Positional.spell_append i _ [millis.toNat % 256],shifted]
    simp [low]

private theorem setBytes_digits (raw : Bytes) : setBytes raw = Positional.value id 256 (raw.map UInt8.toNat) := by
  rw [setBytes,Positional.value,Positional.value,List.foldl_map]
  rfl

private theorem setBytes_packMillis {millis : UInt64} (range : millis.toNat < 2^48) : setBytes (packMillis 6 millis []) = millis.toNat := by
  rw [setBytes_digits,packMillis_digits]
  exact Positional.value_spell 6 range

private theorem byte_small (text : Bytes) : ∀ c ∈ text, c.toNat < 256 := fun c _ => c.toNat_lt

private theorem setBytes_parts {millis : UInt64} {random : Bytes} (range : millis.toNat < 2^48) (length : random.length = 10) :
    setBytes (packMillis 6 millis [] ++ random) = millis.toNat * 256^10 + setBytes random := by
  rw [setBytes,Positional.value_append,length]
  exact congrArg (· * 256^10 + _) (setBytes_packMillis range)

private theorem setBytes_small {random : Bytes} (length : random.length = 10) : setBytes random < 256^10 := by
  have bound := Positional.value_lt UInt8.toNat 256 (byte_small random)
  rwa [length] at bound

end Packing

section Letters

private def letter (d : Nat) : UInt8 := crockfordBase32.getD d 0

private theorem letter_order : ∀ a < 32, ∀ b < 32, letter a < letter b ↔ a < b := by decide +kernel

private theorem letter_injective : Set.InjOn letter {d | d < 32} := by
  intro a first b second same
  have left := letter_order a first b second
  have right := letter_order b second a first
  rw [same] at left right
  have irrefl : ¬ letter b < letter b := UInt8.lt_irrefl _
  apply Nat.le_antisymm
  · exact Nat.le_of_not_lt (fun less => irrefl (right.mpr less))
  · exact Nat.le_of_not_lt (fun less => irrefl (left.mpr less))

private theorem writeBase32_letters (i n : Nat) (out : Bytes) :
    writeBase32 i n out = (Positional.spell 32 i n []).map letter ++ out := by
  induction i generalizing n out with
  | zero => rfl
  | succ i ih =>
    rw [writeBase32,ih,Positional.spell,Positional.spell_append i (n/32) [n % 32],List.map_append,List.append_assoc]
    rfl

private theorem writeBase32_lt_iff {n m : Nat} (first : n < 32^26) (second : m < 32^26) :
    writeBase32 26 n [] < writeBase32 26 m [] ↔ n < m := by
  have small (k : Nat) : ∀ d ∈ Positional.spell 32 26 k [], d ∈ {d | d < 32} := Positional.spell_small (by decide) 26 k
  have lengths : (Positional.spell 32 26 n []).length = (Positional.spell 32 26 m []).length := by
    rw [Positional.spell_length,Positional.spell_length]
  rw [writeBase32_letters,writeBase32_letters,List.append_nil,List.append_nil]
  calc List.Lex (· < ·) ((Positional.spell 32 26 n []).map letter) ((Positional.spell 32 26 m []).map letter)
      ↔ List.Lex (· < ·) (Positional.spell 32 26 n []) (Positional.spell 32 26 m []) :=
        Positional.lex_map_iff letter_order letter_injective (small n) (small m)
    _ ↔ Positional.value id 32 (Positional.spell 32 26 n []) < Positional.value id 32 (Positional.spell 32 26 m []) :=
        Positional.lex_iff_value_lt Function.injective_id lengths (small n) (small m)
    _ ↔ n < m := by rw [Positional.value_spell 26 first,Positional.value_spell 26 second]

private theorem writeBase32_chars (n : Nat) : ∀ c ∈ writeBase32 26 n [], c ∈ crockfordBase32 := by
  intro c member
  rw [writeBase32_letters,List.append_nil] at member
  obtain ⟨d,digit,rfl⟩ := List.mem_map.mp member
  have known : ∀ d < 32, letter d ∈ crockfordBase32 := by decide +kernel
  exact known d (Positional.spell_small (by decide) 26 n d digit)

end Letters

section Order
variable {a b millis : Int64} {r s random text other : Bytes}

def ULIDTime (millis : Int64) : Prop := 0 ≤ millis.toInt ∧ millis.toInt < 2^48

private theorem toUInt64_toNat (millis : Int64) :
    (millis.toUInt64.toNat : Int) = if 0 ≤ millis.toInt then millis.toInt else millis.toInt + 2^64 := by
  have signed : millis.toInt = millis.toBitVec.toInt := rfl
  have unsigned : millis.toUInt64.toNat = millis.toBitVec.toNat := rfl
  have bound := millis.toBitVec.isLt
  rw [signed,unsigned,BitVec.toInt_eq_toNat_cond]
  split <;> split <;> omega

private theorem ulidTime_toNat (range : ULIDTime millis) : (millis.toUInt64.toNat : Int) = millis.toInt := by
  rw [toUInt64_toNat,if_pos range.1]

private theorem newULID_eq (range : ULIDTime millis) (length : random.length = 10) :
    newULID millis random = .ok (writeBase32 26 (millis.toUInt64.toNat * 256^10 + setBytes random) []) := by
  have time := ulidTime_toNat range
  have small : millis.toUInt64.toNat < 2^48 := by have := range.2; omega
  have fits : ¬ millis.toUInt64 > 0xFFFFFFFFFFFF := by
    rw [gt_iff_lt,UInt64.lt_iff_toNat_lt,not_lt]
    exact Nat.le_of_lt_succ small
  have read : readFull 10 random = .ok random := by
    rw [readFull,if_pos (Nat.le_of_eq length.symm),List.take_of_length_le (Nat.le_of_eq length)]
  simp only [newULID,if_neg fits,read,setBytes_parts small length]

private theorem ulid_small (range : ULIDTime millis) (length : random.length = 10) :
    millis.toUInt64.toNat * 256^10 + setBytes random < 32^26 := by
  have time := ulidTime_toNat range
  have small := range.2
  have bytes := setBytes_small length
  omega

private theorem newULID_lt_iff (first : ULIDTime a) (second : ULIDTime b) (left : r.length = 10) (right : s.length = 10)
    (one : newULID a r = .ok text) (two : newULID b s = .ok other) : text < other ↔ a < b ∨ a = b ∧ r < s := by
  rw [newULID_eq first left] at one
  rw [newULID_eq second right] at two
  cases one
  cases two
  have times := ulidTime_toNat first
  have times' := ulidTime_toNat second
  have bytes : r < s ↔ setBytes r < setBytes s := by
    refine Iff.trans ?_ (Positional.lex_iff_value_lt (fun _ _ => UInt8.toNat_inj.mp) (left.trans right.symm)
      (byte_small r) (byte_small s))
    exact Iff.rfl
  rw [writeBase32_lt_iff (ulid_small first left) (ulid_small second right),
    Positional.scaled_lt_iff (setBytes_small left) (setBytes_small right),bytes,Int64.lt_iff_toInt_lt,← Int64.toInt_inj]
  omega

end Order

/-- ULID texts are written for exactly the times in range, and they compare as the pairs of
time and random bytes do. -/
theorem ulid_order :
    (∀ millis random, ULIDTime millis → random.length = 10 →
      ∃ text, newULID millis random = .ok text ∧ text.length = 26 ∧ ∀ c ∈ text, c ∈ crockfordBase32) ∧
    (∀ a b r s text other, ULIDTime a → ULIDTime b → r.length = 10 → s.length = 10 →
      newULID a r = .ok text → newULID b s = .ok other →
      (text < other ↔ a < b ∨ a = b ∧ r < s) ∧ (text = other ↔ a = b ∧ r = s)) ∧
    ∀ millis random, ¬ ULIDTime millis → ∃ error, newULID millis random = .error error := by
  refine ⟨fun millis random range length => ?_,fun a b r s text other first second left right one two => ?_,
    fun millis random outside => ?_⟩
  · refine ⟨_,newULID_eq range length,?_,writeBase32_chars _⟩
    rw [writeBase32_letters,List.append_nil,List.length_map,Positional.spell_length]
  · refine ⟨newULID_lt_iff first second left right one two,fun same => ?_,?_⟩
    · -- equal texts leave neither input below the other
      subst same
      have forward := newULID_lt_iff first second left right one two
      have backward := newULID_lt_iff second first right left two one
      have irrefl : ¬ text < text := List.lt_irrefl text
      rw [forward,not_or,not_and] at irrefl
      have reversed : ¬ (b < a ∨ b = a ∧ s < r) := fun less => List.lt_irrefl text (backward.mpr less)
      rw [not_or,not_and] at reversed
      have times : a = b := by
        apply Int64.toInt_inj.mp
        have low := Int64.lt_iff_toInt_lt.not.mp irrefl.1
        have high := Int64.lt_iff_toInt_lt.not.mp reversed.1
        omega
      exact ⟨times,List.le_antisymm (List.not_lt.mp (reversed.2 times.symm)) (List.not_lt.mp (irrefl.2 times))⟩
    · rintro ⟨rfl,rfl⟩
      exact Except.ok.inj (one.symm.trans two)
  · have time := toUInt64_toNat millis
    have exceeds : millis.toUInt64 > 0xFFFFFFFFFFFF := by
      rw [gt_iff_lt,UInt64.lt_iff_toNat_lt]
      change 0xFFFFFFFFFFFF < millis.toUInt64.toNat
      have low := millis.le_toInt
      unfold ULIDTime at outside
      split at time <;> omega
    exact ⟨_,if_pos exceeds⟩

example : newULID 1 [0,0,0,0,0,0,0,0,0,33] = .ok (lit "00000000010000000000000011") := by decide +kernel

end Kmtproto
