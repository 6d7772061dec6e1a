import Mathlib

/-!
UTF-8 as Rust's standard library decodes it: `decodeLossy` is `String::from_utf8_lossy`, as
`core::str::lossy::Utf8Chunks` scans, with the well-formed sequences of the Unicode standard,
§3.9; `isWhitespace` is `char::is_whitespace` and `trimEnd` is `str::trim_end`.
-/

namespace Utf8

def replacement : Char := '�'

def charWidth (lead : UInt8) : Nat :=
  if lead < 0x80 then 1
  else if lead < 0xC2 then 0
  else if lead < 0xE0 then 2
  else if lead < 0xF0 then 3
  else if lead < 0xF5 then 4
  else 0

def isCont (byte : UInt8) : Bool := byte &&& 0xC0 == 0x80

def secondOk3 (lead second : UInt8) : Bool :=
  (lead == 0xE0 && 0xA0 ≤ second && second ≤ 0xBF) ||
  (0xE1 ≤ lead && lead ≤ 0xEC && 0x80 ≤ second && second ≤ 0xBF) ||
  (lead == 0xED && 0x80 ≤ second && second ≤ 0x9F) ||
  (0xEE ≤ lead && lead ≤ 0xEF && 0x80 ≤ second && second ≤ 0xBF)

def secondOk4 (lead second : UInt8) : Bool :=
  (lead == 0xF0 && 0x90 ≤ second && second ≤ 0xBF) ||
  (0xF1 ≤ lead && lead ≤ 0xF3 && 0x80 ≤ second && second ≤ 0xBF) ||
  (lead == 0xF4 && 0x80 ≤ second && second ≤ 0x8F)

def low6 (byte : UInt8) : Nat := byte.toNat % 64

def decode2 (lead b1 : UInt8) : Char := Char.ofNat ((lead.toNat % 32) * 64 + low6 b1)

def decode3 (lead b1 b2 : UInt8) : Char :=
  Char.ofNat ((lead.toNat % 16) * 4096 + low6 b1 * 64 + low6 b2)

def decode4 (lead b1 b2 b3 : UInt8) : Char :=
  Char.ofNat ((lead.toNat % 8) * 262144 + low6 b1 * 4096 + low6 b2 * 64 + low6 b3)

def scanChar (lead : UInt8) (rest : List UInt8) : Char × List UInt8 :=
  match charWidth lead, rest with
  | 1, _ => (Char.ofNat lead.toNat, rest)
  | 2, b1 :: rest1 => if isCont b1 then (decode2 lead b1, rest1) else (replacement, rest)
  | 3, b1 :: rest1 =>
    if secondOk3 lead b1 then
      match rest1 with
      | b2 :: rest2 => if isCont b2 then (decode3 lead b1 b2, rest2) else (replacement, rest1)
      | [] => (replacement, [])
    else (replacement, rest)
  | 4, b1 :: rest1 =>
    if secondOk4 lead b1 then
      match rest1 with
      | b2 :: rest2 =>
        if isCont b2 then
          match rest2 with
          | b3 :: rest3 =>
            if isCont b3 then (decode4 lead b1 b2 b3, rest3) else (replacement, rest2)
          | [] => (replacement, [])
        else (replacement, rest1)
      | [] => (replacement, [])
    else (replacement, rest)
  | _, _ => (replacement, rest)

theorem length_scanChar_le (lead : UInt8) (rest : List UInt8) :
    (scanChar lead rest).2.length ≤ rest.length := by
  unfold scanChar
  split
  all_goals
    repeat' split
    all_goals (simp only [List.length_cons, List.length_nil]; omega)

def decodeLossy : List UInt8 → List Char
  | [] => []
  | lead :: rest => (scanChar lead rest).1 :: decodeLossy (scanChar lead rest).2
termination_by bytes => bytes.length
decreasing_by
  have := length_scanChar_le lead rest
  simp only [List.length_cons]
  omega

theorem decodeLossy_cons_of_scanChar {lead : UInt8} {rest more : List UInt8} {c : Char}
    (scanned : scanChar lead rest = (c, more)) : decodeLossy (lead :: rest) = c :: decodeLossy more := by
  rw [decodeLossy, scanned]

def isWhitespace (c : Char) : Bool :=
  let n := c.toNat
  (0x09 ≤ n && n ≤ 0x0D) || n == 0x20 || n == 0x85 || n == 0xA0 || n == 0x1680 ||
  (0x2000 ≤ n && n ≤ 0x200A) || n == 0x2028 || n == 0x2029 || n == 0x202F || n == 0x205F ||
  n == 0x3000

def trimEnd (chars : List Char) : List Char :=
  (chars.reverse.dropWhile isWhitespace).reverse

theorem land_tag_eq : ∀ n, n < 256 → (n &&& 192 == 128) = decide (128 ≤ n ∧ n < 192) := by
  decide +kernel

theorem isCont_iff (b : UInt8) : isCont b = true ↔ 128 ≤ b.toNat ∧ b.toNat < 192 := by
  have bits : (b &&& 0xC0 == 0x80) = (b.toNat &&& 192 == 128) := by
    rw [Bool.eq_iff_iff, beq_iff_eq, beq_iff_eq, ← UInt8.toNat_inj, UInt8.toNat_and]
    rfl
  rw [isCont, bits, land_tag_eq b.toNat b.toNat_lt, decide_eq_true_iff]

theorem charWidth_eq (lead : UInt8) : charWidth lead =
    if lead.toNat < 0x80 then 1 else if lead.toNat < 0xC2 then 0 else if lead.toNat < 0xE0 then 2
    else if lead.toNat < 0xF0 then 3 else if lead.toNat < 0xF5 then 4 else 0 := by
  simp only [charWidth, UInt8.lt_iff_toNat_lt, UInt8.reduceToNat]

theorem secondOk3_eq_true_iff (lead second : UInt8) : secondOk3 lead second = true ↔
    (lead.toNat = 0xE0 ∧ 0xA0 ≤ second.toNat ∧ second.toNat ≤ 0xBF) ∨
    (0xE1 ≤ lead.toNat ∧ lead.toNat ≤ 0xEC ∧ 0x80 ≤ second.toNat ∧ second.toNat ≤ 0xBF) ∨
    (lead.toNat = 0xED ∧ 0x80 ≤ second.toNat ∧ second.toNat ≤ 0x9F) ∨
    (0xEE ≤ lead.toNat ∧ lead.toNat ≤ 0xEF ∧ 0x80 ≤ second.toNat ∧ second.toNat ≤ 0xBF) := by
  simp only [secondOk3, Bool.or_eq_true, Bool.and_eq_true, beq_iff_eq, decide_eq_true_eq,
    UInt8.le_iff_toNat_le, ← UInt8.toNat_inj, UInt8.reduceToNat, and_assoc, or_assoc]

theorem secondOk4_eq_true_iff (lead second : UInt8) : secondOk4 lead second = true ↔
    (lead.toNat = 0xF0 ∧ 0x90 ≤ second.toNat ∧ second.toNat ≤ 0xBF) ∨
    (0xF1 ≤ lead.toNat ∧ lead.toNat ≤ 0xF3 ∧ 0x80 ≤ second.toNat ∧ second.toNat ≤ 0xBF) ∨
    (lead.toNat = 0xF4 ∧ 0x80 ≤ second.toNat ∧ second.toNat ≤ 0x8F) := by
  simp only [secondOk4, Bool.or_eq_true, Bool.and_eq_true, beq_iff_eq, decide_eq_true_eq,
    UInt8.le_iff_toNat_le, ← UInt8.toNat_inj, UInt8.reduceToNat, and_assoc, or_assoc]

section Scan

variable {v : Nat} {rest : List UInt8}

theorem scanChar_one {lead : UInt8} (leadVal : lead.toNat = v) (high : v ≤ 0x7f) :
    scanChar lead rest = (Char.ofNat v, rest) := by
  have width : charWidth lead = 1 := by rw [charWidth_eq, leadVal, if_pos (by omega)]
  unfold scanChar
  simp only [width, leadVal]

theorem scanChar_two {lead b1 : UInt8} (leadVal : lead.toNat = v / 64 + 0xC0)
    (b1Val : b1.toNat = v % 64 + 0x80) (low : 0x7f < v) (high : v ≤ 0x7ff) :
    scanChar lead (b1 :: rest) = (Char.ofNat v, rest) := by
  have width : charWidth lead = 2 := by
    rw [charWidth_eq, leadVal, if_neg (by omega), if_neg (by omega), if_pos (by omega)]
  have cont : isCont b1 = true := by rw [isCont_iff, b1Val]; omega
  have decoded : decode2 lead b1 = Char.ofNat v := by
    rw [decode2, low6, leadVal, b1Val]; congr 1; omega
  unfold scanChar
  simp only [width, cont, if_true, decoded]

theorem scanChar_three {lead b1 b2 : UInt8} (leadVal : lead.toNat = v / 4096 + 0xE0)
    (b1Val : b1.toNat = v / 64 % 64 + 0x80) (b2Val : b2.toNat = v % 64 + 0x80)
    (low : 0x7ff < v) (high : v ≤ 0xffff) (notSurrogate : v < 0xd800 ∨ 0xdfff < v) :
    scanChar lead (b1 :: b2 :: rest) = (Char.ofNat v, rest) := by
  have width : charWidth lead = 3 := by
    rw [charWidth_eq, leadVal, if_neg (by omega), if_neg (by omega), if_neg (by omega),
      if_pos (by omega)]
  have second : secondOk3 lead b1 = true := by rw [secondOk3_eq_true_iff, leadVal, b1Val]; omega
  have cont : isCont b2 = true := by rw [isCont_iff, b2Val]; omega
  have decoded : decode3 lead b1 b2 = Char.ofNat v := by
    rw [decode3, low6, low6, leadVal, b1Val, b2Val]; congr 1; omega
  unfold scanChar
  simp only [width, second, cont, if_true, decoded]

theorem scanChar_four {lead b1 b2 b3 : UInt8} (leadVal : lead.toNat = v / 262144 + 0xF0)
    (b1Val : b1.toNat = v / 4096 % 64 + 0x80) (b2Val : b2.toNat = v / 64 % 64 + 0x80)
    (b3Val : b3.toNat = v % 64 + 0x80) (low : 0xffff < v) (high : v < 0x110000) :
    scanChar lead (b1 :: b2 :: b3 :: rest) = (Char.ofNat v, rest) := by
  have width : charWidth lead = 4 := by
    rw [charWidth_eq, leadVal, if_neg (by omega), if_neg (by omega), if_neg (by omega),
      if_neg (by omega), if_pos (by omega)]
  have second : secondOk4 lead b1 = true := by rw [secondOk4_eq_true_iff, leadVal, b1Val]; omega
  have cont2 : isCont b2 = true := by rw [isCont_iff, b2Val]; omega
  have cont3 : isCont b3 = true := by rw [isCont_iff, b3Val]; omega
  have decoded : decode4 lead b1 b2 b3 = Char.ofNat v := by
    rw [decode4, low6, low6, low6, leadVal, b1Val, b2Val, b3Val]; congr 1; omega
  unfold scanChar
  simp only [width, second, cont2, cont3, if_true, decoded]

end Scan

theorem decodeLossy_ascii : ∀ {bytes : List UInt8}, (∀ b ∈ bytes, b < 0x80) →
    decodeLossy bytes = bytes.map fun b => Char.ofNat b.toNat
  | [], _ => by rw [decodeLossy, List.map_nil]
  | lead :: rest, ascii => by
    have small : lead.toNat ≤ 0x7f := by
      have := UInt8.lt_iff_toNat_lt.mp (ascii lead List.mem_cons_self)
      simp only [UInt8.reduceToNat] at this
      omega
    rw [decodeLossy_cons_of_scanChar (scanChar_one rfl small), List.map_cons,
      decodeLossy_ascii fun b member => ascii b (List.mem_cons_of_mem _ member)]

theorem decodeLossy_utf8EncodeChar_append (c : Char) (rest : List UInt8) :
    decodeLossy (String.utf8EncodeChar c ++ rest) = c :: decodeLossy rest := by
  have valid : c.val.toNat < 0xd800 ∨ (0xdfff < c.val.toNat ∧ c.val.toNat < 0x110000) := by
    have valid := c.valid
    simp only [UInt32.isValidChar, Nat.isValidChar] at valid
    exact valid
  have byteVal : ∀ {n m : Nat}, n % 256 = m → (UInt8.ofNat n).toNat = m := by
    intro n m same
    simpa using same
  conv => rhs; rw [← Char.ofNat_toNat c]
  simp only [String.utf8EncodeChar]
  split_ifs with one two three
  · exact decodeLossy_cons_of_scanChar (scanChar_one (v := c.val.toNat) (byteVal (by omega)) one)
  · exact decodeLossy_cons_of_scanChar
      (scanChar_two (v := c.val.toNat) (byteVal (by omega)) (byteVal (by omega)) (by omega) two)
  · exact decodeLossy_cons_of_scanChar
      (scanChar_three (v := c.val.toNat) (byteVal (by omega)) (byteVal (by omega))
        (byteVal (by omega)) (by omega) three (by omega))
  · exact decodeLossy_cons_of_scanChar
      (scanChar_four (v := c.val.toNat) (byteVal (by omega)) (byteVal (by omega))
        (byteVal (by omega)) (byteVal (by omega)) (by omega) (by omega))

theorem decodeLossy_flatMap_utf8EncodeChar (chars : List Char) :
    decodeLossy (chars.flatMap String.utf8EncodeChar) = chars := by
  induction chars with
  | nil => rw [List.flatMap_nil, decodeLossy]
  | cons c chars ih => rw [List.flatMap_cons, decodeLossy_utf8EncodeChar_append, ih]

theorem decodeLossy_flatMap_utf8EncodeChar_append (chars : List Char) (rest : List UInt8) :
    decodeLossy (chars.flatMap String.utf8EncodeChar ++ rest) = chars ++ decodeLossy rest := by
  induction chars with
  | nil => rfl
  | cons c chars ih =>
    rw [List.flatMap_cons, List.append_assoc, decodeLossy_utf8EncodeChar_append, ih,
      List.cons_append]

theorem trimEnd_append_of_whitespace {chars blank : List Char}
    (white : ∀ c ∈ blank, isWhitespace c = true) : trimEnd (chars ++ blank) = trimEnd chars := by
  have whiteReversed : ∀ c ∈ blank.reverse, isWhitespace c = true := fun c member =>
    white c (List.mem_reverse.1 member)
  rw [trimEnd, trimEnd, List.reverse_append, List.dropWhile_append_of_pos whiteReversed]

end Utf8
