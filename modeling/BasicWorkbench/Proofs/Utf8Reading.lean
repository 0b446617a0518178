import Mathlib.Tactic.SplitIfs
import BasicWorkbench.Utf8Decoding

namespace BasicWorkbench

namespace Utf8State

theorem run_between (b : UInt8) (rest : List UInt8) :
    between.run (b :: rest) = (startChar b.toNat).1 ++ (startChar b.toNat).2.run rest := rfl

theorem run_inside {more low high bits taken : Nat} {b : UInt8} (low_le : low ≤ b.toNat)
    (le_high : b.toNat ≤ high) (rest : List UInt8) :
    (inside (more + 2) low high bits taken).run (b :: rest) =
      (inside (more + 1) 0x80 0xbf (bits * 64 + (b.toNat - 0x80)) (taken + 1)).run rest := by
  have fits : low ≤ b.toNat ∧ b.toNat ≤ high := ⟨low_le, le_high⟩
  have further : ¬more + 2 ≤ 1 := by omega
  simp only [run, step, fits, further, and_self, if_true, if_false]
  rfl

theorem run_inside_last {low high bits taken : Nat} {b : UInt8} (low_le : low ≤ b.toNat)
    (le_high : b.toNat ≤ high) (rest : List UInt8) :
    (inside 1 low high bits taken).run (b :: rest) =
      .char (Char.ofNat (bits * 64 + (b.toNat - 0x80))) :: between.run rest := by
  have fits : low ≤ b.toNat ∧ b.toNat ≤ high := ⟨low_le, le_high⟩
  simp only [run, step, fits, and_self, if_true, Nat.le_refl]
  rfl

end Utf8State

theorem toNat_tailByte (n : Nat) : (UInt8.ofNat (n % 64 + 128)).toNat = n % 64 + 128 := by
  rw [UInt8.toNat_ofNat']
  omega

section Lengths

open Utf8State

variable {v : Nat} (rest : List UInt8)

theorem run_oneByte (h : v ≤ 0x7f) :
    between.run (UInt8.ofNat v :: rest) = .char (Char.ofNat v) :: between.run rest := by
  have byte : (UInt8.ofNat v).toNat = v := by
    rw [UInt8.toNat_ofNat']
    omega
  have start : startChar v = ([.char (Char.ofNat v)], .between) := if_pos (by omega)
  rw [run_between, byte, start]
  rfl

theorem run_twoBytes (low : 0x7f < v) (high : v ≤ 0x7ff) :
    between.run (UInt8.ofNat (v / 64 % 32 + 192) :: UInt8.ofNat (v % 64 + 128) :: rest) =
      .char (Char.ofNat v) :: between.run rest := by
  have byte : (UInt8.ofNat (v / 64 % 32 + 192)).toNat = v / 64 + 192 := by
    rw [UInt8.toNat_ofNat']
    omega
  have start : startChar (v / 64 + 192) = ([], .inside 1 0x80 0xbf (v / 64) 1) := by
    unfold startChar
    rw [if_neg (by omega), if_neg (by omega), if_pos (by omega), Nat.add_sub_cancel]
  have value : v / 64 * 64 + (v % 64 + 128 - 0x80) = v := by omega
  have tail := toNat_tailByte v
  rw [run_between, byte, start]
  simp only [List.nil_append]
  rw [run_inside_last (by omega) (by omega), tail, value]

theorem startChar_threeBytes (low : 0x7ff < v) (high : v ≤ 0xffff) (plain : v < 0xd800 ∨ 0xdfff < v) :
    ∃ least most, startChar (v / 4096 + 224) = ([], .inside 2 least most (v / 4096) 1) ∧
      least ≤ v / 64 % 64 + 128 ∧ v / 64 % 64 + 128 ≤ most := by
  unfold startChar
  rw [if_neg (by omega), if_neg (by omega), if_neg (by omega)]
  by_cases first : v / 4096 + 224 = 0xe0
  · refine ⟨0xa0, 0xbf, ?_, by omega, by omega⟩
    rw [if_pos first, show v / 4096 = 0 by omega]
  rw [if_neg first]
  by_cases surrogates : v / 4096 + 224 = 0xed
  · refine ⟨0x80, 0x9f, ?_, by omega, by omega⟩
    rw [if_pos surrogates, show v / 4096 = 0xd by omega]
  · refine ⟨0x80, 0xbf, ?_, by omega, by omega⟩
    rw [if_neg surrogates, if_pos (by omega), Nat.add_sub_cancel]

theorem run_threeBytes (low : 0x7ff < v) (high : v ≤ 0xffff) (plain : v < 0xd800 ∨ 0xdfff < v) :
    between.run (UInt8.ofNat (v / 4096 % 16 + 224) :: UInt8.ofNat (v / 64 % 64 + 128) ::
        UInt8.ofNat (v % 64 + 128) :: rest) = .char (Char.ofNat v) :: between.run rest := by
  have byte : (UInt8.ofNat (v / 4096 % 16 + 224)).toNat = v / 4096 + 224 := by
    rw [UInt8.toNat_ofNat']
    omega
  obtain ⟨least, most, start, least_le, le_most⟩ := startChar_threeBytes low high plain
  have second := toNat_tailByte (v / 64)
  have third := toNat_tailByte v
  have value : (v / 4096 * 64 + (v / 64 % 64 + 128 - 0x80)) * 64 + (v % 64 + 128 - 0x80) = v := by omega
  rw [run_between, byte, start]
  simp only [List.nil_append]
  rw [run_inside (by omega) (by omega), run_inside_last (by omega) (by omega), second, third, value]

theorem startChar_fourBytes (low : 0xffff < v) (high : v < 0x110000) :
    ∃ least most, startChar (v / 262144 + 240) = ([], .inside 3 least most (v / 262144) 1) ∧
      least ≤ v / 4096 % 64 + 128 ∧ v / 4096 % 64 + 128 ≤ most := by
  unfold startChar
  rw [if_neg (by omega), if_neg (by omega), if_neg (by omega), if_neg (by omega), if_neg (by omega),
    if_neg (by omega)]
  by_cases first : v / 262144 + 240 = 0xf0
  · refine ⟨0x90, 0xbf, ?_, by omega, by omega⟩
    rw [if_pos first, show v / 262144 = 0 by omega]
  rw [if_neg first]
  by_cases inner : v / 262144 + 240 < 0xf4
  · refine ⟨0x80, 0xbf, ?_, by omega, by omega⟩
    rw [if_pos inner, Nat.add_sub_cancel]
  · refine ⟨0x80, 0x8f, ?_, by omega, by omega⟩
    rw [if_neg inner, if_pos (by omega), show v / 262144 = 4 by omega]

theorem run_fourBytes (low : 0xffff < v) (high : v < 0x110000) :
    between.run (UInt8.ofNat (v / 262144 % 8 + 240) :: UInt8.ofNat (v / 4096 % 64 + 128) ::
        UInt8.ofNat (v / 64 % 64 + 128) :: UInt8.ofNat (v % 64 + 128) :: rest) =
      .char (Char.ofNat v) :: between.run rest := by
  have byte : (UInt8.ofNat (v / 262144 % 8 + 240)).toNat = v / 262144 + 240 := by
    rw [UInt8.toNat_ofNat']
    omega
  obtain ⟨least, most, start, least_le, le_most⟩ := startChar_fourBytes low high
  have second := toNat_tailByte (v / 4096)
  have third := toNat_tailByte (v / 64)
  have fourth := toNat_tailByte v
  have value : ((v / 262144 * 64 + (v / 4096 % 64 + 128 - 0x80)) * 64 + (v / 64 % 64 + 128 - 0x80)) * 64 +
      (v % 64 + 128 - 0x80) = v := by omega
  rw [run_between, byte, start]
  simp only [List.nil_append]
  rw [run_inside (by omega) (by omega), run_inside (by omega) (by omega),
    run_inside_last (by omega) (by omega), second, third, fourth, value]

end Lengths

theorem run_utf8EncodeChar (c : Char) (rest : List UInt8) :
    Utf8State.between.run (String.utf8EncodeChar c ++ rest) = .char c :: Utf8State.between.run rest := by
  have itself : Char.ofNat c.val.toNat = c := Char.ofNat_toNat c
  have valid : c.val.toNat < 0xd800 ∨ 0xdfff < c.val.toNat ∧ c.val.toNat < 0x110000 := c.valid
  simp only [String.utf8EncodeChar]
  split_ifs with one two three
  · exact (run_oneByte rest one).trans (by rw [itself])
  · exact (run_twoBytes rest (by omega) two).trans (by rw [itself])
  · exact (run_threeBytes rest (by omega) three (by omega)).trans (by rw [itself])
  · exact (run_fourBytes rest (by omega) (by omega)).trans (by rw [itself])

theorem utf8Items_encodeUtf8 (s : Text) : utf8Items (encodeUtf8 s) = s.map .char := by
  unfold utf8Items encodeUtf8
  induction s with
  | nil => rfl
  | cons c s ih => rw [List.flatMap_cons, run_utf8EncodeChar, ih, List.map_cons]

/-- Text that is written as UTF-8 is read back. -/
theorem decodeLossy_encodeUtf8 (s : Text) : decodeLossy (encodeUtf8 s) = s := by
  rw [decodeLossy, utf8Items_encodeUtf8, List.map_map]
  exact List.map_id s

end BasicWorkbench
