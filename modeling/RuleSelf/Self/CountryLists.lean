import Mathlib.Data.List.DropRight
import RuleSelf.Library.Digits
import RuleSelf.Library.Revert

/-!
# Country Lists

The list of forbidden countries on its way to and from the circuits, as the scripts handle
it: the two packers the configs are made with, the format the circuits take it in, and the
reader of a packed list. Strings are lists of code units.
-/

namespace RuleSelf

open Evm Revert

/-! ## Strings -/

/-- A string: its UTF-16 code units. -/
abbrev JsString := List UInt16

/-- A text of plain characters. -/
def text (s : String) : JsString := s.toList.map fun c => UInt16.ofNat c.toNat

/-- `charCodeAt(0)` of every code point: a low surrogate is no code point of its own. -/
def charCodes : JsString → List ℕ
  | [] => []
  | [unit] => [unit.toNat]
  | unit :: next :: rest =>
    if (0xd800 ≤ unit ∧ unit ≤ 0xdbff) ∧ (0xdc00 ≤ next ∧ next ≤ 0xdfff) then
      unit.toNat :: charCodes rest
    else unit.toNat :: charCodes (next :: rest)

/-- Characters of one byte are code points of their own. -/
theorem charCodes_eq_map {s : JsString} (h : ∀ unit ∈ s, unit.toNat < 256) :
    charCodes s = s.map (·.toNat) := by
  fun_induction charCodes s with
  | case1 => rfl
  | case2 unit => rfl
  | case3 unit next rest hsurrogate =>
    have hunit := h unit List.mem_cons_self
    -- a character below 256 is no half of a surrogate pair
    have hle : (0xd800 : UInt16).toNat ≤ unit.toNat := UInt16.le_iff_toNat_le.mp hsurrogate.1.1
    have hlit : (0xd800 : UInt16).toNat = 0xd800 := rfl
    omega
  | case4 unit next rest _ ih =>
    rw [ih fun u hu => h u (List.mem_cons_of_mem _ hu)]
    rfl

namespace CountryLists

/-- `MAX_FORBIDDEN_COUNTRIES_LIST_LENGTH` -/
def maxForbiddenCountriesListLength : ℕ := 40

/-! ## Writers -/

/-- The validation of the codes, which stops at the first that is not three characters long. -/
def validateCountryCodes : List JsString → Except JsString Unit
  | [] => return ()
  | country :: rest => do
    revertIf (country.length ≠ 3) (text "Invalid country code: \"" ++ country ++
      text "\". Country codes must be exactly 3 characters long.")
    validateCountryCodes rest

/-- Formats the list of country codes for use in verification circuits. -/
def formatCountriesList (countries : List JsString) : Except JsString (List ℕ) := do
  revertIf (maxForbiddenCountriesListLength < countries.length)
    (text "Countries list must be inferior or equals to 40")
  validateCountryCodes countries
  let paddedCountries :=
    countries ++ List.replicate (maxForbiddenCountriesListLength - countries.length) []
  return paddedCountries.flatMap fun country => (padEnd country 3 0).map (·.toNat)

/-- `MAX_BYTES_IN_FIELD` -/
def maxBytesInField : ℕ := 31

/-- `REQUIRED_CHUNKS` -/
def requiredChunks : ℕ := 4

/-- A chunk of `packSize` bytes, the first of them lowest. -/
def packChunk (bytes : List ℕ) (packSize i : ℕ) : ℕ :=
  (List.range packSize).foldl (fun sum j =>
    match bytes[packSize * i + j]? with
    | some value => sum + value <<< (8 * j)
    | none => sum) 0

/-- Packs the list into the elements of a config. -/
def packForbiddenCountriesList (forbiddenCountries : List JsString) :
    Except JsString (List Hex) := do
  validateCountryCodes forbiddenCountries
  let bytes := forbiddenCountries.flatMap fun country =>
    charCodes ((padEnd country 3 0x20).take 3)
  let packSize := maxBytesInField
  let maxBytes := bytes.length
  let remain := maxBytes % packSize
  let numChunks := if remain > 0 then maxBytes / packSize + 1 else maxBytes / packSize
  -- the output is filled up with zeros where there is no chunk
  return (List.range numChunks).map (fun i => padStart (toHex (packChunk bytes packSize i)) 64 0) ++
    List.replicate (requiredChunks - numChunks) (List.replicate 64 0)

/-- 31 bytes in hexadecimal digits. -/
def chunkSizeHex : ℕ := 31 * 2

/-- Splits a hexadecimal string into chunks, from the back. -/
def splitFromBack (remaining : Hex) : List Hex :=
  if remaining.length > 0 then
    padStart (remaining.rtake chunkSizeHex) 64 0 :: splitFromBack (remaining.rdrop chunkSizeHex)
  else []
termination_by remaining.length
decreasing_by
  rw [List.rdrop, List.length_take, chunkSizeHex]
  omega

theorem splitFromBack_nil : splitFromBack [] = [] := by
  rw [splitFromBack]
  rfl

/-- The first chunk is made of the first 31 bytes. -/
theorem splitFromBack_hexOfBytes {bs : Bytes} (h : bs ≠ []) :
    splitFromBack (hexOfBytes bs) =
      hexWord (leNat (bs.take 31)) :: splitFromBack (hexOfBytes (bs.drop 31)) := by
  have hpos := List.length_pos_iff.mpr h
  have hlen := hexOfBytes_length bs
  have hfirst := hexOfBytes_length (bs.take 31)
  have hrest := hexOfBytes_length (bs.drop 31)
  rw [List.length_take] at hfirst
  rw [List.length_drop] at hrest
  -- the first 31 bytes stand at the end of the digits
  have hsplit : hexOfBytes bs = hexOfBytes (bs.drop 31) ++ hexOfBytes (bs.take 31) := by
    rw [← hexOfBytes_append, List.take_append_drop]
  have hback : (hexOfBytes bs).length - chunkSizeHex = (hexOfBytes (bs.drop 31)).length := by
    rw [chunkSizeHex]
    omega
  rw [splitFromBack, if_pos (by omega), List.rtake, List.rdrop, hback]
  rw [hsplit, List.drop_left, List.take_left,
    padStart_eq_hexWord (by omega) fun _ => hexOfBytes_lt, hexValue_hexOfBytes]

/-- Packs the list as one number, written back to front. -/
def getPackedForbiddenCountries (forbiddenCountriesList : List JsString) :
    Except JsString (List Hex) := do
  revertIf (maxForbiddenCountriesListLength < forbiddenCountriesList.length)
    (text "Countries list must be less than or equal to 40")
  let paddedCountries := forbiddenCountriesList ++
    List.replicate (maxForbiddenCountriesListLength - forbiddenCountriesList.length) []
  let countryBytes := paddedCountries.flatMap fun country => charCodes (padEnd country 3 0)
  let hex := countryBytes.flatMap fun byte => padStart (toHex byte) 2 0
  let reversedHex := (pairs hex).reverse.flatten
  return splitFromBack reversedHex

/-! ## Readers -/

/-- The characters of packed elements, 31 of each. -/
def unpackReveal (packed : List Hex) : JsString :=
  packed.flatMap fun element =>
    (List.range 31).map fun byteIndex =>
      UInt16.ofNat ((hexValue element >>> (byteIndex * 8)) &&& 255)

/-- Drops the null characters. -/
def trimu0000 (unpackedReveal : JsString) : JsString := unpackedReveal.filter (· ≠ 0)

/-- Every three characters; an incomplete code at the end is dropped. -/
def countryCodes : JsString → List JsString
  | a :: b :: c :: rest => [a, b, c] :: countryCodes rest
  | _ => []

/-- Unpacks a list of packed forbidden country codes. -/
def unpackForbiddenCountriesList (forbiddenCountriesListPacked : List Hex) : List JsString :=
  countryCodes (trimu0000 (unpackReveal forbiddenCountriesListPacked))


/-! ## Codes -/

/-- A code of three characters of one byte, none of them null. -/
def IsCode (country : JsString) : Prop :=
  country.length = 3 ∧ ∀ unit ∈ country, unit ≠ 0 ∧ unit.toNat < 256

/-- The character of one byte. -/
def letter (unit : UInt16) : UInt8 := UInt8.ofNat unit.toNat

/-- The letters of a list of codes, end to end. -/
def letters (countries : List JsString) : Bytes := countries.flatten.map letter

theorem letter_toNat {unit : UInt16} (h : unit.toNat < 256) : (letter unit).toNat = unit.toNat := by
  rw [letter, UInt8.toNat_ofNat', Nat.mod_eq_of_lt h]

theorem letters_cons (country : JsString) (countries : List JsString) :
    letters (country :: countries) = country.map letter ++ letters countries := by
  simp [letters]

theorem letters_length {countries : List JsString} (h : ∀ country ∈ countries, IsCode country) :
    (letters countries).length = 3 * countries.length := by
  induction countries with
  | nil => rfl
  | cons country countries ih =>
    rw [letters_cons, List.length_append, List.length_map, (h _ List.mem_cons_self).1,
      ih fun c hc => h c (List.mem_cons_of_mem _ hc), List.length_cons]
    omega

theorem validateCountryCodes_eq_ok {countries : List JsString} {u : Unit} :
    validateCountryCodes countries = .ok u ↔ ∀ country ∈ countries, country.length = 3 := by
  induction countries with
  | nil => simp [validateCountryCodes]
  | cons country countries ih => simp [validateCountryCodes, ih]

theorem padEnd_of_length_eq {α : Type} {s : List α} {length : ℕ} (h : s.length = length)
    (filler : α) : padEnd s length filler = s := by
  rw [padEnd, h, Nat.sub_self, List.replicate_zero, List.append_nil]

/-- What either packer makes of codes: their letters. -/
theorem flatMap_codes {countries : List JsString} (h : ∀ country ∈ countries, IsCode country)
    {f : JsString → List ℕ} (hf : ∀ country, IsCode country → f country = country.map (·.toNat)) :
    countries.flatMap f = (letters countries).map (·.toNat) := by
  induction countries with
  | nil => rfl
  | cons country countries ih =>
    have hcode := h _ List.mem_cons_self
    rw [List.flatMap_cons, ih fun c hc => h c (List.mem_cons_of_mem _ hc), hf _ hcode, letters_cons,
      List.map_append, List.map_map]
    congr 1
    exact List.map_congr_left fun unit hunit => (letter_toNat (hcode.2 unit hunit).2).symm

/-- With empty codes behind them, zeros follow. -/
theorem flatMap_padded {countries : List JsString} (h : ∀ country ∈ countries, IsCode country)
    {f : JsString → List ℕ} (hf : ∀ country, IsCode country → f country = country.map (·.toNat))
    (hnil : f [] = [0, 0, 0]) (n : ℕ) :
    (countries ++ List.replicate n []).flatMap f =
      (letters countries ++ List.replicate (3 * n) 0).map UInt8.toNat := by
  -- a missing country is three null characters
  have hzeros : (List.replicate n []).flatMap f = List.replicate (3 * n) 0 := by
    induction n with
    | zero => rfl
    | succ n ih =>
      rw [List.replicate_succ, List.flatMap_cons, ih, hnil, mul_add, Nat.add_comm,
        List.replicate_add]
      rfl
  rw [List.flatMap_append, flatMap_codes h hf, hzeros, List.map_append, List.map_replicate]
  rfl

/-- The letters of a list with zeros up to the length of the longest. -/
def paddedLetters (countries : List JsString) : Bytes :=
  letters countries ++
    List.replicate (3 * (maxForbiddenCountriesListLength - countries.length)) 0

/-! ## What is written -/

theorem formatCountriesList_eq_ok {countries : List JsString} {values : List ℕ}
    (h : ∀ country ∈ countries, IsCode country) :
    formatCountriesList countries = .ok values ↔
      countries.length ≤ maxForbiddenCountriesListLength ∧
        (paddedLetters countries).map UInt8.toNat = values := by
  have hf (country : JsString) (hcode : IsCode country) :
      (padEnd country 3 0).map (·.toNat) = country.map (·.toNat) := by
    rw [padEnd_of_length_eq hcode.1]
  have hvalid : ∀ country ∈ countries, country.length = 3 := fun country hc => (h country hc).1
  unfold formatCountriesList
  simp only [check_bind_eq_ok, revertIf_eq_ok, not_lt, validateCountryCodes_eq_ok, pure_eq_ok]
  rw [flatMap_padded h hf rfl, paddedLetters, and_iff_right hvalid]

/-- A chunk is the number its bytes denote. -/
theorem packChunk_eq (bs : Bytes) (packSize i : ℕ) :
    packChunk (bs.map (·.toNat)) packSize i =
      leNat (slice bs (packSize * i) (packSize * i + packSize)) := by
  have hsum (n : ℕ) : (List.range n).foldl (fun sum j =>
      match (bs.map (·.toNat))[packSize * i + j]? with
      | some value => sum + value <<< (8 * j)
      | none => sum) 0 = leNat (slice bs (packSize * i) (packSize * i + n)) := by
    induction n with
    | zero => simp [slice, leNat]
    | succ n ih =>
      rw [List.range_succ, List.foldl_append, ih, List.foldl_cons, List.foldl_nil,
        List.getElem?_map]
      have hslice (k : ℕ) : slice bs (packSize * i) (packSize * i + k) =
          (bs.drop (packSize * i)).take k := by
        rw [slice, Nat.add_sub_cancel_left]
      rw [hslice, hslice, List.take_add_one, List.getElem?_drop]
      -- the loop stops adding where the bytes end
      cases hbyte : bs[packSize * i + n]? with
      | none => simp
      | some b =>
        obtain ⟨hlt, -⟩ := List.getElem?_eq_some_iff.mp hbyte
        have htake : ((bs.drop (packSize * i)).take n).length = n := by
          rw [List.length_take, List.length_drop]
          omega
        rw [leNat_append, htake]
        have hpow : 2 ^ (8 * n) = 256 ^ n := pow_mul 2 8 n
        simp [leNat, Nat.shiftLeft_eq, hpow, mul_comm b.toNat]
  exact hsum packSize

/-- The words 31 bytes each are packed into. -/
def packedWords (bs : Bytes) (n : ℕ) : List Hex :=
  (List.range n).map fun i => hexWord (leNat (slice bs (31 * i) (31 * i + 31)))

/-- Behind the bytes the words are 0. -/
theorem packedWords_append_zeros {bs : Bytes} {n m : ℕ} (h : bs.length ≤ 31 * n) :
    packedWords bs n ++ List.replicate m (List.replicate 64 0) = packedWords bs (n + m) := by
  have hzero (i : ℕ) : slice bs (31 * (n + i)) (31 * (n + i) + 31) = [] := by
    rw [slice, List.drop_eq_nil_of_le (by omega), List.take_nil]
  unfold packedWords
  rw [List.range_add, List.map_append, List.map_map, ← hexWord_zero]
  congr 1
  refine (List.eq_replicate_iff.mpr ⟨by simp, fun word hword => ?_⟩).symm
  obtain ⟨i, -, rfl⟩ := List.mem_map.mp hword
  rw [Function.comp_apply, hzero, leNat]

/-- The packer packs the letters into four words, or more when there are more. -/
theorem packForbiddenCountriesList_eq {countries : List JsString}
    (h : ∀ country ∈ countries, IsCode country) :
    ∃ n, requiredChunks ≤ n ∧ (letters countries).length ≤ 31 * n ∧
      (countries.length ≤ maxForbiddenCountriesListLength + 1 → n = requiredChunks) ∧
      packForbiddenCountriesList countries = .ok (packedWords (letters countries) n) := by
  have hf (country : JsString) (hcode : IsCode country) :
      charCodes ((padEnd country 3 0x20).take 3) = country.map (·.toNat) := by
    rw [padEnd_of_length_eq hcode.1, List.take_of_length_le hcode.1.le,
      charCodes_eq_map fun unit hunit => (hcode.2 unit hunit).2]
  have hlen := letters_length h
  obtain ⟨m, hm⟩ : ∃ m, (if (letters countries).length % 31 > 0
      then (letters countries).length / 31 + 1 else (letters countries).length / 31) = m :=
    ⟨_, rfl⟩
  -- as many chunks as the letters need, and at least four
  have hchunks : (letters countries).length ≤ 31 * m ∧
      31 * m < (letters countries).length + 31 := by
    split at hm <;> omega
  refine ⟨m + (requiredChunks - m), by omega, by omega, ?_, ?_⟩
  · intro hle
    unfold maxForbiddenCountriesListLength at hle
    unfold requiredChunks
    omega
  · unfold packForbiddenCountriesList
    simp only [check_bind_eq_ok, validateCountryCodes_eq_ok, pure_eq_ok]
    refine ⟨fun country hmem => (h country hmem).1, ?_⟩
    rw [flatMap_codes h hf, List.length_map, maxBytesInField, hm,
      ← packedWords_append_zeros hchunks.1]
    congr 1
    refine List.map_congr_left fun i _ => ?_
    rw [packChunk_eq, hexWord]

/-- Both packers make the same words of a list that is not too long. -/
theorem getPackedForbiddenCountries_eq {countries : List JsString}
    (h : ∀ country ∈ countries, IsCode country)
    (hlen : countries.length ≤ maxForbiddenCountriesListLength) :
    getPackedForbiddenCountries countries = .ok (packedWords (paddedLetters countries) 4) := by
  have hf (country : JsString) (hcode : IsCode country) :
      charCodes (padEnd country 3 0) = country.map (·.toNat) := by
    rw [padEnd_of_length_eq hcode.1, charCodes_eq_map fun unit hunit => (hcode.2 unit hunit).2]
  have hnil : charCodes (padEnd [] 3 0) = [0, 0, 0] := rfl
  have hletters : (paddedLetters countries).length = 120 := by
    rw [paddedLetters, List.length_append, letters_length h, List.length_replicate]
    unfold maxForbiddenCountriesListLength at hlen ⊢
    omega
  unfold getPackedForbiddenCountries
  simp only [check_bind_eq_ok, revertIf_eq_ok, not_lt, pure_eq_ok]
  refine ⟨hlen, ?_⟩
  rw [flatMap_padded h hf hnil, ← paddedLetters, List.flatMap_map]
  simp only [padStart_toHex_byte]
  rw [pairs_flatMap_bytePair, ← hexOfBytes]
  generalize paddedLetters countries = bs at hletters
  have hne (k : ℕ) (hk : k < 120) : bs.drop k ≠ [] := by
    rw [← List.length_pos_iff, List.length_drop]
    omega
  -- 120 bytes are split off from the back in three whole chunks and a rest
  have hstep (k : ℕ) (hk : k < 120) : splitFromBack (hexOfBytes (bs.drop k)) =
      hexWord (leNat (slice bs k (k + 31))) :: splitFromBack (hexOfBytes (bs.drop (k + 31))) := by
    rw [splitFromBack_hexOfBytes (hne k hk), List.drop_drop, slice, Nat.add_sub_cancel_left]
  have hend : splitFromBack (hexOfBytes (bs.drop 124)) = [] := by
    rw [List.drop_eq_nil_of_le (by omega)]
    exact splitFromBack_nil
  have hfirst := hstep 0 (by decide)
  rw [List.drop_zero] at hfirst
  rw [hfirst, hstep 31 (by decide), hstep 62 (by decide), hstep 93 (by decide), hend]
  rfl

/-- The padding makes no difference to the words. -/
theorem packedWords_paddedLetters (countries : List JsString) (n : ℕ) :
    packedWords (paddedLetters countries) n = packedWords (letters countries) n := by
  unfold packedWords paddedLetters
  refine List.map_congr_left fun i _ => congrArg hexWord ?_
  rw [slice, slice, List.drop_append, List.take_append, List.drop_replicate, List.take_replicate,
    leNat_append, leNat_replicate_zero, mul_zero, add_zero]

/-! ## What is read back -/

theorem range_map_shift (n k : ℕ) :
    (List.range k).map (fun byteIndex => UInt16.ofNat ((n >>> (byteIndex * 8)) &&& 255)) =
      (leBytes k n).map (·.toUInt16) := by
  induction k generalizing n with
  | zero => rfl
  | succ k ih =>
    -- the byte with index 0 is the remainder, the others are those of the quotient
    have hlow : UInt16.ofNat ((n >>> (0 * 8)) &&& 255) = (UInt8.ofNat (n % 256)).toUInt16 := by
      have hmask : n &&& 255 = n % 256 := Nat.and_two_pow_sub_one_eq_mod n 8
      apply UInt16.toNat_inj.mp
      rw [zero_mul, Nat.shiftRight_zero, hmask, UInt16.toNat_ofNat', UInt8.toNat_toUInt16,
        UInt8.toNat_ofNat']
      omega
    have hhigh (i : ℕ) : n >>> ((i + 1) * 8) = (n / 256) >>> (i * 8) := by
      rw [add_mul, one_mul, Nat.add_comm, Nat.shiftRight_add, Nat.shiftRight_eq_div_pow n 8]
    rw [List.range_succ_eq_map, List.map_cons, List.map_map, hlow, leBytes, List.map_cons, ← ih]
    simp only [Function.comp_def, Nat.succ_eq_add_one, hhigh]

theorem unpackReveal_packedWords {bs : Bytes} {n : ℕ} (h : bs.length ≤ 31 * n) :
    unpackReveal (packedWords bs n) =
      (bs ++ List.replicate (31 * n - bs.length) 0).map UInt8.toUInt16 := by
  unfold unpackReveal packedWords
  rw [List.flatMap_map]
  simp only [hexValue_hexWord, range_map_shift]
  rw [← List.map_flatMap, flatMap_leBytes_slice bs 31 n h]

theorem countryCodes_flatten {countries : List JsString}
    (h : ∀ country ∈ countries, country.length = 3) :
    countryCodes countries.flatten = countries := by
  induction countries with
  | nil => rfl
  | cons country countries ih =>
    obtain ⟨a, b, c, rfl⟩ := List.length_eq_three.mp (h _ List.mem_cons_self)
    rw [List.flatten_cons, List.cons_append, List.cons_append, List.cons_append, List.nil_append,
      countryCodes, ih fun country hcountry => h country (List.mem_cons_of_mem _ hcountry)]

theorem toUInt16_letters {countries : List JsString} (h : ∀ country ∈ countries, IsCode country) :
    (letters countries).map (·.toUInt16) = countries.flatten := by
  rw [letters, List.map_map]
  refine (List.map_congr_left fun unit hunit => ?_).trans (List.map_id _)
  obtain ⟨country, hcountry, hmem⟩ := List.mem_flatten.mp hunit
  apply UInt16.toNat_inj.mp
  rw [Function.comp_apply, UInt8.toNat_toUInt16, letter_toNat ((h country hcountry).2 unit hmem).2]
  rfl

/-- What the packer has packed is read back. -/
theorem unpackForbiddenCountriesList_packedWords {countries : List JsString}
    (h : ∀ country ∈ countries, IsCode country) {n : ℕ}
    (hn : (letters countries).length ≤ 31 * n) :
    unpackForbiddenCountriesList (packedWords (letters countries) n) = countries := by
  -- the null characters are trimmed, and no letter is one
  have hletters : countries.flatten.filter (· ≠ 0) = countries.flatten := by
    refine List.filter_eq_self.mpr fun unit hunit => ?_
    obtain ⟨country, hcountry, hmem⟩ := List.mem_flatten.mp hunit
    exact decide_eq_true ((h country hcountry).2 unit hmem).1
  have hzeros (m : ℕ) : (List.replicate m (0 : UInt16)).filter (· ≠ 0) = [] := by
    simp
  rw [unpackForbiddenCountriesList, unpackReveal_packedWords hn, trimu0000, List.map_append,
    toUInt16_letters h, List.map_replicate, List.filter_append, hletters]
  have hzero : (0 : UInt8).toUInt16 = 0 := rfl
  rw [hzero, hzeros, List.append_nil, countryCodes_flatten fun country hc => (h country hc).1]

end CountryLists

end RuleSelf
