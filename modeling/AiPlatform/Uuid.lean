import Mathlib.Data.List.Basic
import Mathlib.Algebra.Group.Nat.Defs

/-!
UUIDs and the two texts Python makes of one: `uuid.hex`, which is 32 hexadecimal
digits, and `str(uuid)`, which sets them in groups of 8, 4, 4, 4 and 12. Both
determine the UUID, so a store that only knows the text keeps two identities
apart.
-/

namespace AiPlatform

structure Uuid where
  bits : BitVec 128
  deriving DecidableEq

namespace Uuid

/-- The last `count` hexadecimal digits of a number. -/
def nibbles : Nat → Nat → List Char
  | 0, _ => []
  | count + 1, value => nibbles count (value / 16) ++ [Nat.digitChar (value % 16)]

def digits (id : Uuid) : List Char := nibbles 32 id.bits.toNat

def hex (id : Uuid) : String := String.ofList id.digits

/-- `str(uuid)`. -/
def str (id : Uuid) : String :=
  let digits := id.digits
  String.ofList (digits.take 8 ++ '-' :: ((digits.drop 8).take 4 ++ '-' ::
    ((digits.drop 12).take 4 ++ '-' :: ((digits.drop 16).take 4 ++ '-' :: digits.drop 20))))

theorem digitChar_injective {left right : Nat} (small : left < 16) (small' : right < 16)
    (same : Nat.digitChar left = Nat.digitChar right) : left = right := by
  have all : ∀ left right : Fin 16,
      Nat.digitChar left = Nat.digitChar right → left = right := by decide
  exact congrArg Fin.val (all ⟨left, small⟩ ⟨right, small'⟩ same)

theorem length_nibbles (count value : Nat) : (nibbles count value).length = count := by
  induction count generalizing value with
  | zero => rfl
  | succ count ih => simp [nibbles, ih]

theorem nibbles_injective {count left right : Nat} (small : left < 16 ^ count)
    (small' : right < 16 ^ count) (same : nibbles count left = nibbles count right) :
    left = right := by
  induction count generalizing left right with
  | zero => omega
  | succ count ih =>
      obtain ⟨heads, last⟩ := List.append_inj same (by simp [length_nibbles])
      have upper : left / 16 = right / 16 := ih (by omega) (by omega) heads
      have lower : left % 16 = right % 16 :=
        digitChar_injective (by omega) (by omega) (by simpa using last)
      omega

theorem digits_injective {left right : Uuid} (same : left.digits = right.digits) :
    left = right := by
  obtain ⟨left⟩ := left
  obtain ⟨right⟩ := right
  have values : left.toNat = right.toNat :=
    @nibbles_injective 32 _ _ left.isLt right.isLt same
  rw [BitVec.eq_of_toNat_eq values]

theorem str_injective {left right : Uuid} (same : left.str = right.str) : left = right := by
  have long (id : Uuid) : id.digits.length = 32 := length_nibbles _ _
  have texts := String.ofList_injective same
  obtain ⟨first, rest⟩ := List.append_inj texts (by simp [long])
  obtain ⟨second, rest⟩ := List.append_inj (List.cons.inj rest).2 (by simp [long])
  obtain ⟨third, rest⟩ := List.append_inj (List.cons.inj rest).2 (by simp [long])
  obtain ⟨fourth, rest⟩ := List.append_inj (List.cons.inj rest).2 (by simp [long])
  have fifth := (List.cons.inj rest).2
  apply digits_injective
  have groups (id : Uuid) : id.digits = id.digits.take 8 ++ ((id.digits.drop 8).take 4 ++
      ((id.digits.drop 12).take 4 ++ ((id.digits.drop 16).take 4 ++ id.digits.drop 20))) := by
    have four (n : Nat) : (id.digits.drop n).take 4 ++ id.digits.drop (n + 4) =
        id.digits.drop n := by
      rw [← List.drop_drop, List.take_append_drop]
    rw [four 16, four 12, four 8, List.take_append_drop]
  rw [groups left, groups right, first, second, third, fourth, fifth]

@[simp] theorem str_inj {left right : Uuid} : left.str = right.str ↔ left = right :=
  ⟨str_injective, congrArg str⟩

end Uuid

end AiPlatform
