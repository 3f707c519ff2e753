import RuleSelf.Self.Structs

/-!
# Formatter Library

The `Formatter` and `GenericFormatter` libraries: unpacking of revealed data,
formatting of names and dates, and the Unix timestamp of a proof's date. Strings
are byte strings, as they are in memory.
-/

namespace RuleSelf

open Evm Abi Revert

namespace Formatter

/-! ## Revealed data -/

/-- The order of the scalar field of the circuits. -/
def snarkScalarField : ℕ :=
  21888242871839275222246405745257275088548364400416034343698204186575808495617

/-- The unpacking loop: of each element its low `bytesCount` bytes, least significant
byte first. -/
def unpackElements {n : ℕ} (bytesCount : Fin n → ℕ) (publicSignals : Fin n → Word) : Bytes :=
  (List.finRange n).flatMap fun i => leBytes (bytesCount i) (publicSignals i).toNat

/-- A bytes array of 93 bytes that encodes the three field elements. -/
def fieldElementsToBytes (publicSignals : Fin 3 → Word) : Except Error Bytes := do
  revertIf (∃ i, snarkScalarField ≤ (publicSignals i).toNat) .invalidFieldElement
  return unpackElements ![31, 31, 31] publicSignals

/-- A bytes array of 94 bytes that encodes the four field elements of an ID card. -/
def fieldElementsToBytesIdCard (publicSignals : Fin 4 → Word) : Except Error Bytes := do
  revertIf (∃ i, snarkScalarField ≤ (publicSignals i).toNat) .invalidFieldElement
  return unpackElements ![31, 31, 31, 1] publicSignals

theorem unpackElements_length {n : ℕ} (bytesCount : Fin n → ℕ) (publicSignals : Fin n → Word) :
    (unpackElements bytesCount publicSignals).length =
      ((List.finRange n).map bytesCount).sum := by
  simp [unpackElements, List.length_flatMap]

theorem fieldElementsToBytes_eq_ok {publicSignals : Fin 3 → Word} {bs : Bytes} :
    fieldElementsToBytes publicSignals = .ok bs ↔
      (∀ i, (publicSignals i).toNat < snarkScalarField) ∧
        unpackElements ![31, 31, 31] publicSignals = bs := by
  simp [fieldElementsToBytes]

theorem fieldElementsToBytesIdCard_eq_ok {publicSignals : Fin 4 → Word} {bs : Bytes} :
    fieldElementsToBytesIdCard publicSignals = .ok bs ↔
      (∀ i, (publicSignals i).toNat < snarkScalarField) ∧
        unpackElements ![31, 31, 31, 1] publicSignals = bs := by
  simp [fieldElementsToBytesIdCard]

/-! ## Names -/

/-- The filler character `<` of a machine-readable zone. -/
def filler : UInt8 := 0x3c

/-- The first names: a single filler is a space, a double one ends the name. -/
def firstNames : Bytes → Bytes
  | [] => []
  | [b] => [if b = filler then 0x20 else b]
  | b :: c :: rest =>
    if b = filler then
      if c = filler then [] else 0x20 :: firstNames (c :: rest)
    else b :: firstNames (c :: rest)

/-- `"LAST<<FIRST<NAMES"` as `["FIRST NAMES", "LAST"]`. -/
def formatName (input : Bytes) : List Bytes :=
  let lastName := input.takeWhile (· ≠ filler)
  -- the separator "<<" is skipped without being looked at
  [firstNames (input.drop (lastName.length + 2)), lastName]

theorem firstNames_length_le (bs : Bytes) : (firstNames bs).length ≤ bs.length := by
  fun_induction firstNames bs with
  | case1 => simp
  | case2 b => simp
  | case3 => simp
  | case4 c rest hc ih =>
    simp only [List.length_cons] at ih ⊢
    omega
  | case5 b c rest hb ih =>
    simp only [List.length_cons] at ih ⊢
    omega

/-! ## Dates -/

/-- The bytes from `startIndex` (inclusive) to `endIndex` (exclusive). -/
def substring (str : Bytes) (startIndex endIndex : ℕ) : Except Error Bytes :=
  if endIndex < startIndex then .error (.panic 0x11)
  else if startIndex < endIndex ∧ str.length < endIndex then .error (.panic 0x32)
  else .ok ((str.drop startIndex).take (endIndex - startIndex))

/-- What `formatDate` and `dateToUnixTimestamp` check of a `YYMMDD` string. -/
def checkDate (date : Bytes) : Except Error Unit :=
  match date with
  | [_, _, m₁, m₂, d₁, d₂] => do
    -- the characters are only bounded from above
    revertIf (m₁ > 0x31 ∨ (m₁ = 0x31 ∧ m₂ > 0x32)) .invalidMonthRange
    revertIf (d₁ > 0x33 ∨ (d₁ = 0x33 ∧ d₂ > 0x31)) .invalidDayRange
  | _ => .error .invalidDateLength

/-- `YYMMDD` as `DD-MM-YY`. -/
def formatDate (date : Bytes) : Except Error Bytes := do
  checkDate date
  let year ← substring date 0 2
  let month ← substring date 2 4
  let day ← substring date 4 6
  return day ++ [0x2d] ++ month ++ [0x2d] ++ year

/-- The digit an ASCII code stands for: a checked subtraction. -/
def numAsciiToUint (numAscii : ℕ) : Except Error ℕ :=
  if numAscii < 48 then .error (.panic 0x11) else .ok (numAscii - 48)

/-- The number a string of digits denotes. -/
def parseDatePart (value : Bytes) : Except Error ℕ :=
  value.foldlM (fun result b => do
    let digit ← numAsciiToUint b.toNat
    return result * 10 + digit) 0

/-- Whether a given year is a leap year. -/
def isLeapYear (year : ℕ) : Except Error Bool := do
  revertIf (year < 1970 ∨ 2100 < year) .invalidYearRange
  return if year % 4 ≠ 0 then false
    else if year % 100 ≠ 0 then true
    else year % 400 = 0

/-- The lengths of the twelve months. -/
def monthDayCounts (leap : Bool) : List ℕ :=
  [31, if leap then 29 else 28, 31, 30, 31, 30, 31, 31, 30, 31, 30, 31]

/-- `1 days`, in seconds. -/
def day : ℕ := 86400

/-- A specific date as a Unix timestamp. -/
def toTimestamp (year month dayOfMonth : ℕ) : Except Error ℕ := do
  revertIf (year < 1970 ∨ 2100 < year) .invalidYearRange
  revertIf (month < 1 ∨ 12 < month) .invalidMonthRange
  -- the days of the years before, of the months before, and of the month
  let years ← (List.range' 1970 (year - 1970)).foldlM (fun timestamp i => do
    let leap ← isLeapYear i
    return timestamp + (if leap then 366 else 365) * day) 0
  let leap ← isLeapYear year
  revertIf (dayOfMonth < 1 ∨ (monthDayCounts leap).getD (month - 1) 0 < dayOfMonth)
    .invalidDayRange
  let months := ((monthDayCounts leap).take (month - 1)).sum * day
  return years + months + (dayOfMonth - 1) * day

/-- A `YYMMDD` string as a Unix timestamp. -/
def dateToUnixTimestamp (date : Bytes) : Except Error ℕ := do
  checkDate date
  let year ← parseDatePart (← substring date 0 2)
  let month ← parseDatePart (← substring date 2 4)
  let dayOfMonth ← parseDatePart (← substring date 4 6)
  toTimestamp (year + 2000) month dayOfMonth

/-- Six digits `YYMMDD` as a Unix timestamp. -/
def proofDateToUnixTimestamp (dateNum : Fin 6 → Word) : Except Error ℕ := do
  revertIf (∃ i, 9 < (dateNum i).toNat) .invalidDateDigit
  -- the digits are written out as characters, and parsed again
  dateToUnixTimestamp (List.ofFn fun i => UInt8.ofNat (48 + (dateNum i).toNat % 10))

/-- 1 January 2000. -/
example : proofDateToUnixTimestamp ![0, 0, 0, 1, 0, 1] = .ok 946684800 := by decide

theorem formatDate_length {date out : Bytes} (h : formatDate date = .ok out) :
    out.length = 8 := by
  unfold formatDate at h
  simp only [↓check_bind_eq_ok, bind_eq_ok, pure_eq_ok] at h
  obtain ⟨hcheck, year, hyear, month, hmonth, d, hday, rfl⟩ := h
  -- a string the check lets through has six characters
  have hlen : date.length = 6 := by
    unfold checkDate at hcheck
    split at hcheck
    · rfl
    · cases hcheck
  unfold substring at hyear hmonth hday
  simp [hlen] at hyear hmonth hday
  subst hyear hmonth hday
  simp [hlen]

end Formatter

/-! ## GenericFormatter -/

namespace GenericFormatter

open SelfStructs

/-- Converts a bytes array to the verification config struct. -/
def verificationConfigFromBytes (verificationConfig : Bytes) :
    Except Error VerificationConfigV2 :=
  orRevert (VerificationConfigV2.codec.read verificationConfig) .abiDecode

/-- Formats a verification config struct to a bytes array. -/
def formatV2Config (verificationConfigV2 : VerificationConfigV2) : Bytes :=
  VerificationConfigV2.codec.encode verificationConfigV2

/-- Formats a disclose output struct to a bytes array. -/
def toV2Struct (genericDiscloseOutput : SelfStructs.GenericDiscloseOutputV2) : Bytes :=
  SelfStructs.GenericDiscloseOutputV2.codec.encode genericDiscloseOutput

@[simp] theorem verificationConfigFromBytes_formatV2Config (c : VerificationConfigV2) :
    verificationConfigFromBytes (formatV2Config c) = .ok c := by
  rw [verificationConfigFromBytes, formatV2Config, VerificationConfigV2.read_encode]
  rfl

end GenericFormatter

end RuleSelf
