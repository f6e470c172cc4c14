import Mathlib.Algebra.GroupWithZero.Nat
import Mathlib.Data.List.Basic
import Mathlib.Tactic.Common

/-! URL-safe base64 without padding: a text decodes exactly when it is the encoding of the result. -/
namespace Base64

/-- The characters, by the six bits that they stand for. -/
def digit (v : Fin 64) : Char :=
  if v.val < 26 then Char.ofNat (v.val + 65)
  else if v.val < 52 then Char.ofNat (v.val + 71)
  else if v.val < 62 then Char.ofNat (v.val - 4)
  else if v.val = 62 then '-'
  else '_'

def value? (c : Char) : Option (Fin 64) := (List.finRange 64).find? (digit · = c)

theorem digit_inj : ∀ v w : Fin 64, digit v = digit w → v = w := by decide +kernel

theorem value?_eq_some {c : Char} {v : Fin 64} : value? c = some v ↔ c = digit v := by
  constructor
  · intro found
    have same := List.find?_some found
    exact (decide_eq_true_eq.mp same).symm
  · rintro rfl
    cases found : value? (digit v) with
    | none =>
        have none := List.find?_eq_none.mp found v (List.mem_finRange v)
        exact absurd (decide_eq_true rfl) none
    | some w =>
        have same := List.find?_some found
        rw [digit_inj w v (decide_eq_true_eq.mp same)]

/-- The `k`th of the digits of a number, from the lowest. -/
def sextet (n k : Nat) : Fin 64 := ⟨n / 64 ^ k % 64, Nat.mod_lt _ (by decide)⟩

def octet (n k : Nat) : UInt8 := UInt8.ofNat (n / 256 ^ k)

/-- Three bytes as one number. -/
def ofOctets (a b c : UInt8) : Nat := a.toNat * 65536 + b.toNat * 256 + c.toNat

def ofSextets (w x y z : Fin 64) : Nat := w.val * 262144 + x.val * 4096 + y.val * 64 + z.val

/-- Six bits at a time; what is left of the last three bytes is filled up with zeros. -/
def pack : List UInt8 → List (Fin 64)
  | [] => []
  | [a] => [sextet (ofOctets a 0 0) 3, sextet (ofOctets a 0 0) 2]
  | [a, b] => [sextet (ofOctets a b 0) 3, sextet (ofOctets a b 0) 2, sextet (ofOctets a b 0) 1]
  | a :: b :: c :: rest =>
      sextet (ofOctets a b c) 3 :: sextet (ofOctets a b c) 2 :: sextet (ofOctets a b c) 1 ::
        sextet (ofOctets a b c) 0 :: pack rest

/-- The bytes, unless a single digit or bits other than zero are left over. -/
def unpack : List (Fin 64) → Option (List UInt8)
  | [] => some []
  | [_] => none
  | [w, x] => if x.val % 16 = 0 then some [octet (ofSextets w x 0 0) 2] else none
  | [w, x, y] =>
      if y.val % 4 = 0 then some [octet (ofSextets w x y 0) 2, octet (ofSextets w x y 0) 1] else none
  | w :: x :: y :: z :: rest => (unpack rest).map fun bytes =>
      octet (ofSextets w x y z) 2 :: octet (ofSextets w x y z) 1 :: octet (ofSextets w x y z) 0 ::
        bytes

def encode (bytes : List UInt8) : String := String.ofList ((pack bytes).map digit)

def decode (text : String) : Option (List UInt8) := (text.toList.mapM value?).bind unpack

section
variable {a b c : UInt8} {w x y z : Fin 64} {n : Nat}

theorem ofOctets_lt : ofOctets a b c < 16777216 := by
  have := a.toNat_lt
  have := b.toNat_lt
  have := c.toNat_lt
  simp only [ofOctets]
  omega

theorem ofSextets_lt : ofSextets w x y z < 16777216 := by
  have := w.isLt
  have := x.isLt
  have := y.isLt
  have := z.isLt
  simp only [ofSextets]
  omega

/-- Four digits of a number make it again. -/
theorem ofSextets_sextet (small : n < 16777216) :
    ofSextets (sextet n 3) (sextet n 2) (sextet n 1) (sextet n 0) = n := by
  simp only [ofSextets, sextet]
  omega

theorem ofOctets_octet (small : n < 16777216) :
    ofOctets (octet n 2) (octet n 1) (octet n 0) = n := by
  simp only [ofOctets, octet, UInt8.toNat_ofNat']
  omega

theorem sextet_ofSextets : sextet (ofSextets w x y z) 3 = w ∧ sextet (ofSextets w x y z) 2 = x ∧
    sextet (ofSextets w x y z) 1 = y ∧ sextet (ofSextets w x y z) 0 = z := by
  have := w.isLt
  have := x.isLt
  have := y.isLt
  have := z.isLt
  refine ⟨Fin.ext ?_, Fin.ext ?_, Fin.ext ?_, Fin.ext ?_⟩ <;> simp only [ofSextets, sextet] <;> omega

theorem octet_ofOctets : octet (ofOctets a b c) 2 = a ∧ octet (ofOctets a b c) 1 = b ∧
    octet (ofOctets a b c) 0 = c := by
  have := a.toNat_lt
  have := b.toNat_lt
  have := c.toNat_lt
  refine ⟨UInt8.toNat_inj.mp ?_, UInt8.toNat_inj.mp ?_, UInt8.toNat_inj.mp ?_⟩ <;>
    simp only [ofOctets, octet, UInt8.toNat_ofNat'] <;> omega

/-- The digits that a shorter last group leaves out are zero. -/
theorem sextet_ofOctets_one : sextet (ofOctets a 0 0) 1 = 0 ∧ sextet (ofOctets a 0 0) 0 = 0 ∧
    (sextet (ofOctets a 0 0) 2).val % 16 = 0 := by
  refine ⟨Fin.ext ?_, Fin.ext ?_, ?_⟩ <;> simp [ofOctets, sextet] <;> omega

theorem sextet_ofOctets_two : sextet (ofOctets a b 0) 0 = 0 ∧
    (sextet (ofOctets a b 0) 1).val % 4 = 0 := by
  have := b.toNat_lt
  refine ⟨Fin.ext ?_, ?_⟩
  · simp [ofOctets, sextet]
    omega
  · simp [ofOctets, sextet]
    omega

theorem octet_ofSextets_one (rest : x.val % 16 = 0) :
    octet (ofSextets w x 0 0) 1 = 0 ∧ octet (ofSextets w x 0 0) 0 = 0 := by
  refine ⟨UInt8.toNat_inj.mp ?_, UInt8.toNat_inj.mp ?_⟩
  · simp [ofSextets, octet]
    omega
  · simp [ofSextets, octet]

theorem octet_ofSextets_two (rest : y.val % 4 = 0) : octet (ofSextets w x y 0) 0 = 0 := by
  refine UInt8.toNat_inj.mp ?_
  simp [ofSextets, octet]
  omega

end

theorem unpack_pack (bytes : List UInt8) : unpack (pack bytes) = some bytes := by
  induction bytes using pack.induct with
  | case1 => rfl
  | case2 a =>
      obtain ⟨first, second, rest⟩ := @sextet_ofOctets_one a
      have whole := ofSextets_sextet (ofOctets_lt (a := a) (b := 0) (c := 0))
      rw [first, second] at whole
      simp only [pack, unpack, if_pos rest, whole, octet_ofOctets]
  | case3 a b =>
      obtain ⟨last, rest⟩ := @sextet_ofOctets_two a b
      have whole := ofSextets_sextet (ofOctets_lt (a := a) (b := b) (c := 0))
      rw [last] at whole
      simp only [pack, unpack, if_pos rest, whole, octet_ofOctets]
  | case4 a b c rest ih =>
      simp only [pack, unpack, ih, Option.map_some, ofSextets_sextet ofOctets_lt, octet_ofOctets]

/-- Nothing but its packing unpacks to these bytes. -/
theorem eq_pack_of_unpack {digits : List (Fin 64)} {bytes : List UInt8}
    (unpacked : unpack digits = some bytes) : digits = pack bytes := by
  induction digits using unpack.induct generalizing bytes with
  | case1 =>
      cases unpacked
      rfl
  | case2 v => cases unpacked
  | case3 w x rest =>
      rw [unpack, if_pos rest] at unpacked
      cases unpacked
      obtain ⟨first, second⟩ := @octet_ofSextets_one w x rest
      have whole := ofOctets_octet (ofSextets_lt (w := w) (x := x) (y := 0) (z := 0))
      rw [first, second] at whole
      simp only [pack, whole, sextet_ofSextets]
  | case4 w x rest =>
      rw [unpack, if_neg rest] at unpacked
      cases unpacked
  | case5 w x y rest =>
      rw [unpack, if_pos rest] at unpacked
      cases unpacked
      have whole := ofOctets_octet (ofSextets_lt (w := w) (x := x) (y := y) (z := 0))
      rw [octet_ofSextets_two rest] at whole
      simp only [pack, whole, sextet_ofSextets]
  | case6 w x y rest =>
      rw [unpack, if_neg rest] at unpacked
      cases unpacked
  | case7 w x y z rest ih =>
      rw [unpack] at unpacked
      obtain ⟨bytes', found, rfl⟩ := Option.map_eq_some_iff.mp unpacked
      simp only [pack, ofOctets_octet ofSextets_lt, sextet_ofSextets, ih found]

theorem mapM_value?_eq_some {text : List Char} {digits : List (Fin 64)} :
    text.mapM value? = some digits ↔ text = digits.map digit := by
  induction text generalizing digits with
  | nil => cases digits <;> simp
  | cons c text ih =>
      cases digits with
      | nil => simp [List.mapM_cons, Option.bind_eq_some_iff]
      | cons v digits =>
          simp [List.mapM_cons, Option.bind_eq_some_iff, value?_eq_some, ih]

/-- A text decodes to these bytes exactly when it is their encoding. -/
theorem decode_eq_some {text : String} {bytes : List UInt8} :
    decode text = some bytes ↔ text = encode bytes := by
  rw [decode, encode, Option.bind_eq_some_iff]
  constructor
  · rintro ⟨digits, valued, unpacked⟩
    cases eq_pack_of_unpack unpacked
    rw [← mapM_value?_eq_some.mp valued, String.ofList_toList]
  · rintro rfl
    refine ⟨pack bytes, mapM_value?_eq_some.mpr ?_, unpack_pack bytes⟩
    rw [String.toList_ofList]

example : encode [102, 111, 111, 98] = "Zm9vYg" := by decide +kernel

end Base64
