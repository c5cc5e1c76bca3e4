import Mathlib.Data.List.Basic
import Mathlib.Data.List.TakeWhile
import Mathlib.Tactic.NormNum

/-! # Base64

Three bytes in four symbols of six bits. A last group of one or two bytes has its symbols
filled up with pads, which stand for zeros: decoding the groups of an encoded text gives its
bytes and a zero for each pad (`decodeGroups_encode`), and its pads are all at its end
(`pads_encode`). Texts whose pads are there and nowhere else are well padded (`WellPadded`).
-/

namespace Foundation.Base64

/-- The symbols, in the order of what they stand for: capital letters, small letters, digits,
plus and slash. -/
def alphabet : List UInt8 :=
  [65, 66, 67, 68, 69, 70, 71, 72, 73, 74, 75, 76, 77, 78, 79, 80, 81, 82, 83, 84, 85, 86, 87,
    88, 89, 90, 97, 98, 99, 100, 101, 102, 103, 104, 105, 106, 107, 108, 109, 110, 111, 112, 113,
    114, 115, 116, 117, 118, 119, 120, 121, 122, 48, 49, 50, 51, 52, 53, 54, 55, 56, 57, 43, 47]

/-- What fills up the last group. -/
def pad : UInt8 := 61

/-- The symbol for six bits. -/
def symbol (bits : Nat) : UInt8 := alphabet.getD bits pad

/-- What a symbol stands for, and zero for a pad. -/
def sextet (byte : UInt8) : Nat := if byte = pad then 0 else alphabet.idxOf byte

/-- The text of some bytes. -/
def encode : List UInt8 → List UInt8
  | [] => []
  | [a] => [symbol (a.toNat / 4), symbol (a.toNat % 4 * 16), pad, pad]
  | [a, b] =>
      [symbol (a.toNat / 4), symbol (a.toNat % 4 * 16 + b.toNat / 16), symbol (b.toNat % 16 * 4),
        pad]
  | a :: b :: c :: rest =>
      [symbol (a.toNat / 4), symbol (a.toNat % 4 * 16 + b.toNat / 16),
        symbol (b.toNat % 16 * 4 + c.toNat / 64), symbol (c.toNat % 64)] ++ encode rest

/-- The three bytes of a group. -/
def decodeGroup (first second third fourth : Nat) : List UInt8 :=
  [UInt8.ofNat (first * 4 + second / 16), UInt8.ofNat (second % 16 * 16 + third / 4),
    UInt8.ofNat (third % 4 * 64 + fourth)]

/-- The bytes of a text's groups, whatever fills the last one counted as zeros. -/
def decodeGroups : List UInt8 → List UInt8
  | first :: second :: third :: fourth :: rest =>
      decodeGroup (sextet first) (sextet second) (sextet third) (sextet fourth) ++
        decodeGroups rest
  | _ => []

/-- Pads are only at the very end of a text, and at most two. -/
def WellPadded (text : List UInt8) : Prop :=
  ∃ symbols pads, text = symbols ++ List.replicate pads pad ∧ pads ≤ 2 ∧ pad ∉ symbols

/-- How many pads a text ends in. -/
def trailingPads (text : List UInt8) : Nat := (text.reverse.takeWhile (· = pad)).length

/-- How many pads there are for so many bytes. -/
def padding (count : Nat) : Nat := (3 - count % 3) % 3

/-- A symbol is read back. -/
theorem sextet_symbol {bits : Nat} (small : bits < 64) : sextet (symbol bits) = bits := by
  revert bits
  decide

/-- No symbol is the pad. -/
theorem symbol_ne_pad {bits : Nat} (small : bits < 64) : symbol bits ≠ pad := by
  revert bits
  decide

/-- Symbols are of the alphabet. -/
theorem symbol_mem {bits : Nat} (small : bits < 64) : symbol bits ∈ alphabet := by
  revert bits
  decide

/-- The padding depends on the length modulo three. -/
theorem padding_add_three (count : Nat) : padding (count + 3) = padding count := by
  unfold padding
  rw [Nat.add_mod_right]

section Group

variable (a b c : UInt8)

/-- The first six bits of three bytes. -/
theorem first_lt : a.toNat / 4 < 64 := by
  have byte := a.toNat_lt
  omega

/-- The second six bits. -/
theorem second_lt : a.toNat % 4 * 16 + b.toNat / 16 < 64 := by
  have byte := b.toNat_lt
  omega

/-- The third six bits. -/
theorem third_lt : b.toNat % 16 * 4 + c.toNat / 64 < 64 := by
  have byte := c.toNat_lt
  omega

/-- The bits of a byte at the end of a text, filled up with zeros. -/
theorem second_lt_of_last : a.toNat % 4 * 16 < 64 := by
  omega

/-- The third six bits of two bytes. -/
theorem third_lt_of_last : b.toNat % 16 * 4 < 64 := by
  omega

/-- The last six bits. -/
theorem fourth_lt : c.toNat % 64 < 64 := Nat.mod_lt _ (by decide)

/-- Four symbols are read back as their three bytes. -/
theorem decodeGroup_bytes :
    decodeGroup (a.toNat / 4) (a.toNat % 4 * 16 + b.toNat / 16)
      (b.toNat % 16 * 4 + c.toNat / 64) (c.toNat % 64) = [a, b, c] := by
  have byte := b.toNat_lt
  have byte' := c.toNat_lt
  have first : a.toNat / 4 * 4 + (a.toNat % 4 * 16 + b.toNat / 16) / 16 = a.toNat := by omega
  have second : (a.toNat % 4 * 16 + b.toNat / 16) % 16 * 16 +
      (b.toNat % 16 * 4 + c.toNat / 64) / 4 = b.toNat := by
    omega
  have third : (b.toNat % 16 * 4 + c.toNat / 64) % 4 * 64 + c.toNat % 64 = c.toNat := by omega
  unfold decodeGroup
  rw [first, second, third, UInt8.ofNat_toNat, UInt8.ofNat_toNat, UInt8.ofNat_toNat]

end Group

/-- **Decoding undoes encoding**, with a zero for each pad. -/
theorem decodeGroups_encode (data : List UInt8) :
    decodeGroups (encode data) = data ++ List.replicate (padding data.length) 0 := by
  induction data using encode.induct with
  | case1 => rfl
  | case2 a =>
      have first := decodeGroup_bytes a 0 0
      change decodeGroup (sextet (symbol (a.toNat / 4))) (sextet (symbol (a.toNat % 4 * 16)))
        0 0 ++ [] = [a, 0, 0]
      rw [sextet_symbol (first_lt a), sextet_symbol (second_lt_of_last a), List.append_nil]
      exact first
  | case3 a b =>
      have first := decodeGroup_bytes a b 0
      change decodeGroup (sextet (symbol (a.toNat / 4)))
        (sextet (symbol (a.toNat % 4 * 16 + b.toNat / 16)))
        (sextet (symbol (b.toNat % 16 * 4))) 0 ++ [] = [a, b, 0]
      rw [sextet_symbol (first_lt a), sextet_symbol (second_lt a b),
        sextet_symbol (third_lt_of_last b), List.append_nil]
      exact first
  | case4 a b c rest ih =>
      rw [encode, List.cons_append, List.cons_append, List.cons_append, List.singleton_append,
        decodeGroups, ih, sextet_symbol (first_lt a), sextet_symbol (second_lt a b),
        sextet_symbol (third_lt b c), sextet_symbol (fourth_lt c), decodeGroup_bytes,
        List.length_cons, List.length_cons, List.length_cons, padding_add_three]
      rfl

/-- Every three bytes take four symbols, the last ones padded. -/
theorem length_encode (data : List UInt8) : (encode data).length = 4 * ((data.length + 2) / 3) := by
  induction data using encode.induct with
  | case1 => rfl
  | case2 a => exact (by decide : 4 = 4 * ((1 + 2) / 3))
  | case3 a b => exact (by decide : 4 = 4 * ((2 + 2) / 3))
  | case4 a b c rest ih =>
      rw [encode, List.length_append, ih]
      simp only [List.length_cons, List.length_nil]
      omega

/-- Nothing but symbols and pads is in a text. -/
theorem mem_encode {data : List UInt8} {byte : UInt8} (member : byte ∈ encode data) :
    byte ∈ alphabet ∨ byte = pad := by
  induction data using encode.induct with
  | case1 => cases member
  | case2 a =>
      simp only [encode, List.mem_cons, List.not_mem_nil, or_false] at member
      rcases member with rfl | rfl | same | same
      · exact .inl (symbol_mem (first_lt a))
      · exact .inl (symbol_mem (second_lt_of_last a))
      · exact .inr same
      · exact .inr same
  | case3 a b =>
      simp only [encode, List.mem_cons, List.not_mem_nil, or_false] at member
      rcases member with rfl | rfl | rfl | same
      · exact .inl (symbol_mem (first_lt a))
      · exact .inl (symbol_mem (second_lt a b))
      · exact .inl (symbol_mem (third_lt_of_last b))
      · exact .inr same
  | case4 a b c rest ih =>
      simp only [encode, List.mem_append, List.mem_cons, List.not_mem_nil, or_false] at member
      rcases member with (rfl | rfl | rfl | rfl) | later
      · exact .inl (symbol_mem (first_lt a))
      · exact .inl (symbol_mem (second_lt a b))
      · exact .inl (symbol_mem (third_lt b c))
      · exact .inl (symbol_mem (fourth_lt c))
      · exact ih later

/-- A pad at the front is counted. -/
theorem takeWhile_pad_cons (text : List UInt8) :
    (pad :: text).takeWhile (· = pad) = pad :: text.takeWhile (· = pad) :=
  List.takeWhile_cons_of_pos (decide_eq_true rfl)

/-- A symbol at the front ends the pads. -/
theorem takeWhile_symbol_cons {bits : Nat} (small : bits < 64) (text : List UInt8) :
    (symbol bits :: text).takeWhile (· = pad) = [] :=
  List.takeWhile_cons_of_neg (by rw [decide_eq_true_eq]; exact symbol_ne_pad small)

/-- A text ends in its pads. -/
theorem pads_encode (data : List UInt8) :
    (encode data).reverse.takeWhile (· = pad) = List.replicate (padding data.length) pad := by
  induction data using encode.induct with
  | case1 => rfl
  | case2 a =>
      change [pad, pad, symbol (a.toNat % 4 * 16), symbol (a.toNat / 4)].takeWhile (· = pad) =
        [pad, pad]
      rw [takeWhile_pad_cons, takeWhile_pad_cons, takeWhile_symbol_cons (second_lt_of_last a)]
  | case3 a b =>
      change [pad, symbol (b.toNat % 16 * 4), symbol (a.toNat % 4 * 16 + b.toNat / 16),
        symbol (a.toNat / 4)].takeWhile (· = pad) = [pad]
      rw [takeWhile_pad_cons, takeWhile_symbol_cons (third_lt_of_last b)]
  | case4 a b c rest ih =>
      have stops : [symbol (c.toNat % 64), symbol (b.toNat % 16 * 4 + c.toNat / 64),
          symbol (a.toNat % 4 * 16 + b.toNat / 16), symbol (a.toNat / 4)].takeWhile (· = pad) =
            [] :=
        takeWhile_symbol_cons (fourth_lt c) _
      rw [List.length_cons, List.length_cons, List.length_cons, padding_add_three, ← ih, encode,
        List.reverse_append, List.takeWhile_append]
      split
      · rename_i whole
        refine (congrArg (_ ++ ·) stops).trans ?_
        rw [List.append_nil]
        exact ((List.takeWhile_prefix _).eq_of_length whole).symm
      · rfl

/-- Every group gives three bytes. -/
theorem length_decodeGroups (text : List UInt8) :
    (decodeGroups text).length = 3 * (text.length / 4) := by
  induction text using decodeGroups.induct with
  | case1 first second third fourth rest ih =>
      rw [decodeGroups, List.length_append, ih]
      simp only [decodeGroup, List.length_cons, List.length_nil]
      omega
  | case2 text short =>
      rw [decodeGroups]
      · rcases text with _ | ⟨first, _ | ⟨second, _ | ⟨third, _ | ⟨fourth, rest⟩⟩⟩⟩
        · exact (by decide : 0 = 3 * (0 / 4))
        · exact (by decide : 0 = 3 * (1 / 4))
        · exact (by decide : 0 = 3 * (2 / 4))
        · exact (by decide : 0 = 3 * (3 / 4))
        · exact (short first second third fourth rest rfl).elim
      · exact short

/-- A text has no more pads at its end than bytes. -/
theorem trailingPads_le_length (text : List UInt8) : trailingPads text ≤ text.length :=
  (List.takeWhile_prefix _).length_le.trans_eq List.length_reverse

/-- A well padded text ends in at most two pads. -/
theorem WellPadded.trailingPads_le {text : List UInt8} (padded : WellPadded text) :
    trailingPads text ≤ 2 := by
  obtain ⟨symbols, pads, rfl, few, clean⟩ := padded
  have stops : symbols.reverse.takeWhile (· = pad) = [] := by
    rw [List.takeWhile_eq_nil_iff]
    intro nonempty same
    rw [decide_eq_true_eq] at same
    exact clean (List.mem_reverse.mp (same ▸ List.get_mem _ _))
  rw [trailingPads, List.reverse_append, List.reverse_replicate, List.takeWhile_append_of_pos,
    stops, List.append_nil, List.length_replicate]
  · exact few
  · intro byte member
    rw [decide_eq_true_eq]
    exact List.eq_of_mem_replicate member

end Foundation.Base64
