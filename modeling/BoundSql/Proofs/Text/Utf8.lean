import BoundSql.Text.Utf8
import Mathlib.Data.List.Basic

/-! # Decoding of well-formed bytes

The bytes of a text are decoded to the text, character by character: the first byte of a character
tells its size and the range of its second byte, and the payload bits make up its number.
-/

namespace BoundSql.Text.Utf8

theorem loop_eq (bytes : ByteArray) (i : Nat) (taken : List UInt8) :
    ByteArray.toList.loop bytes i taken = taken.reverse ++ bytes.data.toList.drop i := by
  fun_induction ByteArray.toList.loop bytes i taken with
  | case1 i taken hlt ih =>
    have hlen : i < bytes.data.toList.length := by simpa using hlt
    have hget : bytes.get! i = bytes.data.toList[i] := getElem!_pos bytes.data i hlt
    rw [ih, List.drop_eq_getElem_cons hlen, hget, List.reverse_cons, List.append_assoc]
    rfl
  | case2 i taken hlt =>
    have hlen : bytes.data.toList.length ≤ i := by simpa using hlt
    rw [List.drop_eq_nil_of_le hlen, List.append_nil]

theorem encode_eq (s : String) : encode s = s.toList.flatMap String.utf8EncodeChar := by
  have hdata : encode s = s.toByteArray.data.toList := by
    rw [encode, ByteArray.toList, loop_eq]
    rfl
  have hbytes : s.toByteArray = s.toList.utf8Encode := by
    rw [← String.toByteArray_ofList, String.ofList_toList]
  rw [hdata, hbytes, List.utf8Encode, List.toList_data_toByteArray]

theorem lead_two : ∀ m < 32, 2 ≤ m → lead (UInt8.ofNat (m + 192)) = some (2, 0x80, 0xbf) := by
  decide

theorem lead_three : ∀ m < 16, lead (UInt8.ofNat (m + 224)) =
    some (3, if m = 0 then 0xa0 else 0x80, if m = 13 then 0x9f else 0xbf) := by
  decide

theorem lead_four : ∀ m < 5, lead (UInt8.ofNat (m + 240)) =
    some (4, if m = 0 then 0x90 else 0x80, if m = 4 then 0x8f else 0xbf) := by
  decide

theorem toNat_ofNat {n : Nat} (h : n < 256) : (UInt8.ofNat n).toNat = n := by
  rw [UInt8.toNat_ofNat', Nat.mod_eq_of_lt h]

theorem ofNat_lt_iff {n : Nat} (h : n < 256) : UInt8.ofNat n < 0x80 ↔ n < 128 := by
  rw [UInt8.lt_iff_toNat_lt, toNat_ofNat h]
  rfl

theorem isTail_ofNat : ∀ k < 64, isTail (UInt8.ofNat (k + 128)) := by
  decide

theorem payload_ofNat : ∀ k < 64, payload (UInt8.ofNat (k + 128)) = k := by
  decide

theorem not_outside {k : Nat} {low high : UInt8} (hk : k < 64) (hlow : low.toNat ≤ k + 128)
    (hhigh : k + 128 ≤ high.toNat) :
    ¬ (UInt8.ofNat (k + 128) < low || high < UInt8.ofNat (k + 128)) := by
  have hbyte := toNat_ofNat (n := k + 128) (by omega)
  simp only [UInt8.lt_iff_toNat_lt, hbyte, Bool.or_eq_true, decide_eq_true_eq]
  omega

/-- A second byte is in the range that its first byte leaves to it, where the least and the greatest
first byte narrow the range of all bytes that continue a character. -/
theorem not_outside_ite {k : Nat} (low high : UInt8) {least greatest : Prop} [Decidable least]
    [Decidable greatest] (hk : k < 64) (hlow : least → low.toNat ≤ k + 128)
    (hhigh : greatest → k + 128 ≤ high.toNat) :
    ¬ (UInt8.ofNat (k + 128) < (if least then low else 0x80) ||
      (if greatest then high else 0xbf) < UInt8.ofNat (k + 128)) := by
  apply not_outside hk
  · split
    next h => exact hlow h
    next => exact Nat.le_add_left 128 k
  · split
    next h => exact hhigh h
    next => exact Nat.add_le_add_right (Nat.le_of_lt_succ hk) 128

section

variable {m k l j : Nat} (rest : List UInt8)

theorem front_one (hm : m < 128) : front (UInt8.ofNat m) rest = .char (Char.ofNat m) 1 := by
  rw [front, if_pos ((ofNat_lt_iff (by omega)).mpr hm), toNat_ofNat (by omega)]

theorem front_two (hm : 2 ≤ m ∧ m < 32) (hk : k < 64) :
    front (UInt8.ofNat (m + 192)) (UInt8.ofNat (k + 128) :: rest) =
      .char (Char.ofNat (m * 64 + k)) 2 := by
  have hbits : (m + 192) % 32 = m := by omega
  have hsecond : ¬ (UInt8.ofNat (k + 128) < 0x80 || 0xbf < UInt8.ofNat (k + 128)) :=
    not_outside hk (by simp) (by simp; omega)
  rw [front, if_neg (mt (ofNat_lt_iff (by omega)).mp (by omega)), lead_two m hm.2 hm.1]
  simp only [if_neg hsecond, if_true, payload_ofNat k hk, toNat_ofNat (show m + 192 < 256 by omega),
    hbits]

theorem front_three (hm : m < 16) (hk : k < 64) (hl : l < 64) (hlong : m = 0 → 32 ≤ k)
    (hsurrogate : m = 13 → k < 32) :
    front (UInt8.ofNat (m + 224)) (UInt8.ofNat (k + 128) :: UInt8.ofNat (l + 128) :: rest) =
      .char (Char.ofNat ((m * 64 + k) * 64 + l)) 3 := by
  have hbits : (m + 224) % 16 = m := by omega
  have hsecond := not_outside_ite 0xa0 0x9f hk
    (fun h => Nat.add_le_add_right (hlong h) 128)
    (fun h => Nat.add_le_add_right (Nat.le_of_lt_succ (hsurrogate h)) 128)
  rw [front, if_neg (mt (ofNat_lt_iff (by omega)).mp (by omega)), lead_three m hm]
  simp only [if_neg hsecond, isTail_ofNat l hl, payload_ofNat k hk,
    payload_ofNat l hl, toNat_ofNat (show m + 224 < 256 by omega), hbits]
  rfl

theorem front_four (hm : m < 5) (hk : k < 64) (hl : l < 64) (hj : j < 64) (hlong : m = 0 → 16 ≤ k)
    (hlast : m = 4 → k < 16) :
    front (UInt8.ofNat (m + 240))
        (UInt8.ofNat (k + 128) :: UInt8.ofNat (l + 128) :: UInt8.ofNat (j + 128) :: rest) =
      .char (Char.ofNat (((m * 64 + k) * 64 + l) * 64 + j)) 4 := by
  have hbits : (m + 240) % 8 = m := by omega
  have hsecond := not_outside_ite 0x90 0x8f hk
    (fun h => Nat.add_le_add_right (hlong h) 128)
    (fun h => Nat.add_le_add_right (Nat.le_of_lt_succ (hlast h)) 128)
  rw [front, if_neg (mt (ofNat_lt_iff (by omega)).mp (by omega)), lead_four m hm]
  simp only [if_neg hsecond, isTail_ofNat l hl, isTail_ofNat j hj,
    payload_ofNat k hk, payload_ofNat l hl, payload_ofNat j hj,
    toNat_ofNat (show m + 240 < 256 by omega), hbits]
  rfl

end

theorem front_utf8EncodeChar (c : Char) (rest : List UInt8) :
    ∃ b bs, String.utf8EncodeChar c = b :: bs ∧ front b (bs ++ rest) = .char c (bs.length + 1) := by
  have hc : Char.ofNat c.val.toNat = c := Char.ofNat_toNat c
  have hvalid : c.val.toNat < 0xd800 ∨ 0xdfff < c.val.toNat ∧ c.val.toNat < 0x110000 := c.valid
  rw [String.utf8EncodeChar]
  generalize c.val.toNat = n at hc hvalid ⊢
  split_ifs with h1 h2 h3
  · have hfront := front_one rest (m := n) (by omega)
    exact ⟨_, _, rfl, hc ▸ hfront⟩
  · have hfront := front_two rest (m := n / 64 % 32) (k := n % 64) (by omega) (by omega)
    rw [show n / 64 % 32 * 64 + n % 64 = n by omega, hc] at hfront
    exact ⟨_, _, rfl, hfront⟩
  · have hfront := front_three rest (m := n / 4096 % 16) (k := n / 64 % 64) (l := n % 64) (by omega)
      (by omega) (by omega) (by omega) (by omega)
    rw [show (n / 4096 % 16 * 64 + n / 64 % 64) * 64 + n % 64 = n by omega, hc] at hfront
    exact ⟨_, _, rfl, hfront⟩
  · have hfront := front_four rest (m := n / 262144 % 8) (k := n / 4096 % 64) (l := n / 64 % 64)
      (j := n % 64) (by omega) (by omega) (by omega) (by omega) (by omega) (by omega)
    rw [show ((n / 262144 % 8 * 64 + n / 4096 % 64) * 64 + n / 64 % 64) * 64 + n % 64 = n by omega,
      hc] at hfront
    exact ⟨_, _, rfl, hfront⟩

theorem lenientChars_length (bs rest : List UInt8) :
    lenientChars bs.length (bs ++ rest) = lenientChars 0 rest := by
  induction bs with
  | nil => rfl
  | cons b bs ih => exact ih

theorem lenientChars_encode (cs : List Char) :
    lenientChars 0 (cs.flatMap String.utf8EncodeChar) = cs := by
  induction cs with
  | nil => rfl
  | cons c cs ih =>
    obtain ⟨b, bs, hbytes, hfront⟩ := front_utf8EncodeChar c (cs.flatMap String.utf8EncodeChar)
    rw [List.flatMap_cons, hbytes, List.cons_append, lenientChars, hfront]
    simp only [Nat.add_sub_cancel, lenientChars_length, ih]

/-- Lenient decoding gives a text back from its bytes. -/
theorem lenient_encode (s : String) : lenient (encode s) = s := by
  rw [lenient, encode_eq, lenientChars_encode, String.ofList_toList]

end BoundSql.Text.Utf8
