import Mathlib.Data.List.Lex
import ServiceRouting.SortedMap

/-!
# The order of texts by their bytes

Texts are compared code point by code point.  That is the order of their UTF-8 bytes, compared byte
by byte (`bytes_lt_of_lt`): of two different characters the smaller one has the smaller byte at the
first place where their encodings differ.  So a sorted map lists its keys in the order of their
bytes.
-/

set_option autoImplicit false

namespace ServiceRouting

namespace ByteOrder

/-- The UTF-8 encoding of a text. -/
def bytes (text : String) : List UInt8 :=
  text.toUTF8.data.toList

theorem bytes_eq (text : String) : bytes text = text.toList.flatMap String.utf8EncodeChar := by
  rw [bytes, String.toUTF8, ← String.utf8Encode_toList, List.utf8Encode,
    List.toList_data_toByteArray]

/-! ## Single characters -/

/-- A code point as its four digits, the lower three of them of six bits each. -/
theorem eq_digits {value : Nat} (small : value < 0x110000) :
    value = 262144 * (value / 262144 % 8) + 4096 * (value / 4096 % 64) +
      64 * (value / 64 % 64) + value % 64 := by
  omega

theorem digits_lt {smaller larger : Nat} (less : smaller < larger) (small : larger < 0x110000) :
    smaller / 262144 % 8 < larger / 262144 % 8 ∨
      smaller / 262144 % 8 = larger / 262144 % 8 ∧
        (smaller / 4096 % 64 < larger / 4096 % 64 ∨
          smaller / 4096 % 64 = larger / 4096 % 64 ∧
            (smaller / 64 % 64 < larger / 64 % 64 ∨
              smaller / 64 % 64 = larger / 64 % 64 ∧ smaller % 64 < larger % 64)) := by
  have first := eq_digits (less.trans small)
  have second := eq_digits small
  have bound (value : Nat) : value % 64 < 64 := Nat.mod_lt _ (by decide)
  have bounds : smaller % 64 < 64 ∧ smaller / 64 % 64 < 64 ∧ smaller / 4096 % 64 < 64 :=
    ⟨bound _, bound _, bound _⟩
  have others : larger % 64 < 64 ∧ larger / 64 % 64 < 64 ∧ larger / 4096 % 64 < 64 :=
    ⟨bound _, bound _, bound _⟩
  clear bound
  generalize smaller / 262144 % 8 = a at *
  generalize smaller / 4096 % 64 = b at *
  generalize smaller / 64 % 64 = c at *
  generalize smaller % 64 = d at *
  generalize larger / 262144 % 8 = a' at *
  generalize larger / 4096 % 64 = b' at *
  generalize larger / 64 % 64 = c' at *
  generalize larger % 64 = d' at *
  omega

/-- The encodings of different characters differ inside both, so nothing behind them matters. -/
theorem encoded_lt {first second : Char} (less : first < second) (rest other : List UInt8) :
    String.utf8EncodeChar first ++ rest < String.utf8EncodeChar second ++ other := by
  have values : first.val.toNat < second.val.toNat := less
  have small : second.val.toNat < 0x110000 := by
    have valid := second.valid
    unfold UInt32.isValidChar Nat.isValidChar at valid
    omega
  have digits := digits_lt values small
  unfold String.utf8EncodeChar
  generalize first.val.toNat = smaller at *
  generalize second.val.toNat = larger at *
  dsimp only
  -- one goal for each pair of lengths of the two encodings
  repeat' split
  all_goals
    simp (disch := omega) only [Nat.mod_eq_of_lt, List.cons_append, List.nil_append,
      List.cons_lt_cons_iff, UInt8.lt_iff_toNat_lt, ← UInt8.toNat_inj, UInt8.toNat_ofNat',
      Nat.reducePow]
  all_goals omega

/-! ## Texts -/

theorem flatMap_lt {first second : List Char} (less : first < second) :
    first.flatMap String.utf8EncodeChar < second.flatMap String.utf8EncodeChar := by
  induction less with
  | nil =>
    rename_i head rest
    rw [List.flatMap_nil, List.flatMap_cons]
    cases encoded : String.utf8EncodeChar head with
    | nil => exact absurd encoded String.utf8EncodeChar_ne_nil
    | cons byte more => exact List.nil_lt_cons _ _
  | rel smaller => exact encoded_lt smaller _ _
  | cons _ ih =>
    rw [List.flatMap_cons, List.flatMap_cons]
    exact List.append_left_lt ih

/-- Texts stand in the order of their bytes. -/
theorem bytes_lt_of_lt {first second : String} (less : first < second) :
    bytes first < bytes second := by
  rw [bytes_eq, bytes_eq]
  exact flatMap_lt less

end ByteOrder

theorem SortedMap.keys_bytes_increasing {Key Value : Type} [TextKey Key]
    (map : SortedMap Key Value) :
    map.keys.Pairwise fun first second =>
      ByteOrder.bytes (TextKey.text first) < ByteOrder.bytes (TextKey.text second) :=
  map.keys_increasing.imp ByteOrder.bytes_lt_of_lt

end ServiceRouting
