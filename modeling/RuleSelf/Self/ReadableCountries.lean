import RuleSelf.Library.Circuit
import RuleSelf.Library.Digits
import RuleSelf.Self.Formatter

/-!
# Readable Countries

The reader of a packed list of countries in the `Formatter` library of the contracts, which
takes three bytes at a time out of elements of 31, also where they lie in two elements.
-/

namespace RuleSelf

open Evm Abi Revert

namespace Formatter

attribute [local instance] Circuit.neZero_four

/-- `string(abi.encodePacked(uint24(data)))` -/
def encodePackedUint24 (data : Word) : Bytes := beBytes 3 (data.toNat % 2 ^ 24)

/-- The three bytes of an element from a bit on, in reverse. -/
def reversedPackedData (element : Word) (shift : ℕ) : Word :=
  let packedData := (element >>> shift) &&& (0xFFFFFF : Word)
  ((packedData &&& (0xff : Word)) <<< 16) ||| (packedData &&& (0xff00 : Word)) |||
    ((packedData &&& (0xff0000 : Word)) >>> 16)

/-- The forbidden country at an index of the list. -/
def forbiddenCountry (publicSignals : Fin 4 → Word) (j : Fin 40) : Bytes :=
  let byteIndex := j.val * 3 % 93
  let index := j.val / 31
  if byteIndex + 2 < 31 then
    encodePackedUint24
      (reversedPackedData (publicSignals ⟨index * 3, by omega⟩) (byteIndex * 8))
  else if byteIndex < 31 then
    let part0 := publicSignals 0 >>> (byteIndex * 8)
    let part1 := publicSignals 1 &&& (0x00ffff : Word)
    let reversedPart1 := ((part1 &&& (0xff : Word)) <<< 8) ||| ((part1 &&& (0xff00 : Word)) >>> 8)
    encodePackedUint24 (reversedPart1 ||| (part0 <<< 16))
  else if byteIndex + 2 < 62 then
    encodePackedUint24 (reversedPackedData (publicSignals 1) ((byteIndex - 31) * 8))
  else if byteIndex < 62 then
    let part0 := (publicSignals 1 >>> ((byteIndex - 31) * 8)) &&& (0x00ffff : Word)
    let reversedPart0 := ((part0 &&& (0xff : Word)) <<< 8) ||| ((part0 &&& (0xff00 : Word)) >>> 8)
    let part1 := publicSignals 2 &&& (0x0000ff : Word)
    encodePackedUint24 (part1 ||| (reversedPart0 <<< 8))
  else if byteIndex < 93 then
    encodePackedUint24 (reversedPackedData (publicSignals 2) ((byteIndex - 62) * 8))
  else []

/-- Extracts forbidden country codes from their packed elements. -/
def extractForbiddenCountriesFromPacked (publicSignals : Fin 4 → Word) :
    Except Error (Fin 40 → Bytes) := do
  revertIf (∃ i, snarkScalarField ≤ (publicSignals i).toNat) .invalidFieldElement
  return forbiddenCountry publicSignals

theorem encodePackedUint24_eq (x : Word) :
    encodePackedUint24 x = [byteAt x 2, byteAt x 1, byteAt x 0] := by
  have h2 : x.toNat % 2 ^ 24 / 256 / 256 % 256 = x.toNat / 256 ^ 2 % 256 := by omega
  have h1 : x.toNat % 2 ^ 24 / 256 % 256 = x.toNat / 256 ^ 1 % 256 := by omega
  have h0 : x.toNat % 2 ^ 24 % 256 = x.toNat / 256 ^ 0 % 256 := by omega
  simp only [encodePackedUint24, beBytes, h2, h1, h0, byteAt, List.nil_append, List.cons_append]

/-- The three bytes of a word that is put together bit by bit. -/
theorem encodePackedUint24_of_bits {x a b c : Word} {k l m : ℕ}
    (ha : ∀ i < 8, x.getLsbD (16 + i) = a.getLsbD (k * 8 + i))
    (hb : ∀ i < 8, x.getLsbD (8 + i) = b.getLsbD (l * 8 + i))
    (hc : ∀ i < 8, x.getLsbD i = c.getLsbD (m * 8 + i)) :
    encodePackedUint24 x = [byteAt a k, byteAt b l, byteAt c m] := by
  have hhigh : byteAt x 2 = byteAt a k := byteAt_congr ha
  have hmiddle : byteAt x 1 = byteAt b l := byteAt_congr hb
  have hlow : byteAt x 0 = byteAt c m :=
    byteAt_congr fun i hi => by rw [zero_mul, zero_add, hc i hi]
  rw [encodePackedUint24_eq, hhigh, hmiddle, hlow]

theorem encodePackedUint24_reversedPackedData (element : Word) (k : ℕ) :
    encodePackedUint24 (reversedPackedData element (k * 8)) =
      [byteAt element k, byteAt element (k + 1), byteAt element (k + 2)] := by
  unfold reversedPackedData
  refine encodePackedUint24_of_bits (fun i hi => ?_) (fun i hi => ?_) fun i hi => ?_
  all_goals
    simp only [BitVec.getLsbD_or, BitVec.getLsbD_shiftLeft, BitVec.getLsbD_and,
      BitVec.getLsbD_ushiftRight, getLsbD_0xffffff, getLsbD_0xff, getLsbD_0xff00, getLsbD_0xff0000]
    simp (disch := omega) [decide_eq_true, decide_eq_false, add_mul, add_assoc]

/-- One byte of an element and two of the next. -/
theorem encodePackedUint24_oneTwo (x y : Word) (k : ℕ) :
    encodePackedUint24 ((((y &&& (0xffff : Word)) &&& (0xff : Word)) <<< 8) |||
      (((y &&& (0xffff : Word)) &&& (0xff00 : Word)) >>> 8) |||
      ((x >>> (k * 8)) <<< 16)) = [byteAt x k, byteAt y 0, byteAt y 1] := by
  refine encodePackedUint24_of_bits (fun i hi => ?_) (fun i hi => ?_) fun i hi => ?_
  all_goals
    simp only [BitVec.getLsbD_or, BitVec.getLsbD_shiftLeft, BitVec.getLsbD_and,
      BitVec.getLsbD_ushiftRight, getLsbD_0xffff, getLsbD_0xff, getLsbD_0xff00]
    simp (disch := omega) [decide_eq_true, decide_eq_false]

/-- Two bytes of an element and one of the next. -/
theorem encodePackedUint24_twoOne (x y : Word) (k : ℕ) :
    encodePackedUint24 ((y &&& (0xff : Word)) |||
      ((((((x >>> (k * 8)) &&& (0xffff : Word)) &&& (0xff : Word)) <<< 8) |||
        ((((x >>> (k * 8)) &&& (0xffff : Word)) &&& (0xff00 : Word)) >>> 8)) <<< 8)) =
      [byteAt x k, byteAt x (k + 1), byteAt y 0] := by
  refine encodePackedUint24_of_bits (fun i hi => ?_) (fun i hi => ?_) fun i hi => ?_
  all_goals
    simp only [BitVec.getLsbD_or, BitVec.getLsbD_shiftLeft, BitVec.getLsbD_and,
      BitVec.getLsbD_ushiftRight, getLsbD_0xffff, getLsbD_0xff, getLsbD_0xff00]
    have hshift : 16 + i - 8 - 8 = i := by omega
    simp (disch := omega) [decide_eq_true, decide_eq_false, hshift, add_mul, add_assoc]

/-- A byte of the signals, 31 of each. -/
def signalByte (publicSignals : Fin 4 → Word) (n : ℕ) : UInt8 :=
  byteAt (publicSignals (Fin.ofNat 4 (n / 31))) (n % 31)

theorem signalByte_eq {publicSignals : Fin 4 → Word} {q : Fin 4} {n r : ℕ} (hr : r < 31)
    (h : n = 31 * q + r) : signalByte publicSignals n = byteAt (publicSignals q) r := by
  have hdiv : n / 31 = q := by omega
  have hmod : n % 31 = r := by omega
  have hindex : Fin.ofNat 4 q = q := Fin.ext (Nat.mod_eq_of_lt q.isLt)
  rw [signalByte, hdiv, hmod, hindex]

/-- A country of the list is three consecutive bytes of the signals, also where they lie in two. -/
theorem forbiddenCountry_eq (publicSignals : Fin 4 → Word) (j : Fin 40) :
    forbiddenCountry publicSignals j = [signalByte publicSignals (3 * j),
      signalByte publicSignals (3 * j + 1), signalByte publicSignals (3 * j + 2)] := by
  have hj := j.isLt
  have hfirst : ((0 : Fin 4) : ℕ) = 0 := rfl
  have hsecond : ((1 : Fin 4) : ℕ) = 1 := rfl
  have hthird : ((2 : Fin 4) : ℕ) = 2 := rfl
  -- it is enough to say which bytes of which signals the branch reads
  have hbytes {q q' q'' : Fin 4} {r r' r'' : ℕ} (hr : r < 31 ∧ 3 * j.val = 31 * q + r)
      (hr' : r' < 31 ∧ 3 * j.val + 1 = 31 * q' + r')
      (hr'' : r'' < 31 ∧ 3 * j.val + 2 = 31 * q'' + r'') :
      [byteAt (publicSignals q) r, byteAt (publicSignals q') r', byteAt (publicSignals q'') r''] =
        [signalByte publicSignals (3 * j), signalByte publicSignals (3 * j + 1),
          signalByte publicSignals (3 * j + 2)] := by
    rw [signalByte_eq hr.1 hr.2, signalByte_eq hr'.1 hr'.2, signalByte_eq hr''.1 hr''.2]
  unfold forbiddenCountry
  dsimp only
  split_ifs
  · -- in the first element, or in the last one
    rw [encodePackedUint24_reversedPackedData]
    apply hbytes <;> dsimp only <;> omega
  · -- from the first element into the second
    rw [encodePackedUint24_oneTwo]
    apply hbytes <;> omega
  · rw [encodePackedUint24_reversedPackedData]
    apply hbytes <;> omega
  · -- from the second element into the third
    rw [encodePackedUint24_twoOne]
    apply hbytes <;> omega
  · rw [encodePackedUint24_reversedPackedData]
    apply hbytes <;> omega
  · omega

end Formatter

end RuleSelf
