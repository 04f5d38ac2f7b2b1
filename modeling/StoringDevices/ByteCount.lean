import Mathlib.Algebra.Order.Field.Rat
import Mathlib.Tactic.FieldSimp
import Mathlib.Tactic.Linarith
import Mathlib.Tactic.NormNum
import StoringDevices.Html
import StoringDevices.Ids
import StoringDevices.Lib.Numbers
import StoringDevices.Lib.Scale

/-! # Sizes for a reader

The text of a size holds the integer quotient by a power of the unit, whatever
the remainder is; below the unit it is no text of the number at all. -/
set_option autoImplicit false

namespace StoringDevices

/-! ## What a size text says -/

def byteUnit (si : Bool) : Nat := if si then 1000 else 1024

def unitLetters (si : Bool) : CppString := (if si then "kMGTPE" else "KMGTPE").toList

/-- The value of a decimal numeral, with or without a point. -/
inductive NumeralOf : CppString → ℚ → Prop where
  | whole {digits : CppString} (number : IsNumber digits) : NumeralOf digits (decimalValue digits)
  | point {digits fraction : CppString} (number : IsNumber digits) (number' : IsNumber fraction) :
      NumeralOf (digits ++ '.' :: fraction)
        (decimalValue digits + decimalValue fraction / 10 ^ fraction.length)

/-- The texts that denote a number of bytes: the number itself below the unit, and
otherwise a numeral that is within a tenth of a power of the unit. -/
inductive SizeText (si : Bool) (n : Nat) : CppString → Prop where
  | bytes (small : n < byteUnit si) : SizeText si n ((toString n).toList ++ " B".toList)
  | scaled {numeral : CppString} {x : ℚ} {e : Nat} {letter : Char} (large : byteUnit si ≤ n)
      (value : NumeralOf numeral x) (named : (unitLetters si)[e]? = some letter)
      (close : |x * byteUnit si ^ (e + 1) - n| < byteUnit si ^ (e + 1) / 10) :
      SizeText si n (numeral ++ ' ' :: letter :: (if si then "B" else "iB").toList)

/-! ## The decimal text of a number -/

theorem natText_value (n : Nat) : decimalValue (toString n).toList = n := by
  have value := Nat.ofDigitChars_ten_toDigits (n := n)
  rw [Nat.ofDigitChars_eq_foldl] at value
  rw [Nat.toString_eq_repr, Nat.toList_repr]
  unfold decimalValue
  simp only [Nat.mul_comm _ 10]
  exact value

theorem natText_isNumber (n : Nat) : IsNumber (toString n).toList := by
  rw [Nat.toString_eq_repr, Nat.toList_repr]
  refine ⟨Nat.toDigits_ne_nil, ?_⟩
  intro c member
  have digit := Nat.isDigit_of_mem_toDigits (by decide) (by decide) member
  rw [Char.isDigit_iff_toNat] at digit
  exact isDigit_iff.mpr digit

/-! ## The text of the code -/

/-- The exponent that the code takes. -/
def unitExponent (si : Bool) (n : Nat) : Nat := Nat.log (byteUnit si) n

theorem byteUnit_large (si : Bool) : 1 < byteUnit si := by
  cases si <;> decide

theorem pow_unitExponent_le (si : Bool) {n : Nat} (some : n ≠ 0) :
    byteUnit si ^ unitExponent si n ≤ n := Nat.pow_log_le_self _ some

theorem unitExponent_pos {si : Bool} {n : Nat} (large : byteUnit si ≤ n) :
    0 < unitExponent si n := Nat.log_pos (byteUnit_large si) large

/-- There are six letters, and they are enough for 64 bits. -/
theorem unitExponent_le (si : Bool) {n : Nat} (fits : n < 2 ^ 64) : unitExponent si n ≤ 6 := by
  have bound : n < byteUnit si ^ 7 := by
    cases si with
    | true => exact fits.trans (by decide)
    | false => exact fits.trans (by decide)
  exact Nat.le_of_lt_succ (Nat.log_lt_of_lt_pow' (by decide) bound)

/-- `log` and `pow` are those of the real numbers, converted to integers; a power
counts only where 64 bits hold it. -/
structure Libm.Exact (libm : Libm) : Prop where
  logQuotient : ∀ bytes unit : UInt64, 0 < bytes.toNat → 1 < unit.toNat →
    libm.logQuotient bytes unit = Scale.truncate (Real.log bytes.toNat / Real.log unit.toNat)
  pow : ∀ (unit : UInt64) (exp : Nat), (unit.toNat : ℝ) ^ exp < 2 ^ 64 →
    ((libm.pow unit exp).toNat : ℤ) = Scale.truncate ((unit.toNat : ℝ) ^ exp)

theorem Libm.exact_exact : Libm.exact.Exact where
  logQuotient := by
    intro bytes unit some large
    rw [Scale.truncate_log_div_log large some]
    rfl
  pow := by
    intro unit exp fits
    have fits' : unit.toNat ^ exp < 2 ^ 64 := by exact_mod_cast fits
    rw [← Nat.cast_pow, Scale.truncate_natCast, ← Numbers.toNat_pow_of_lt fits']
    rfl

theorem unit_toNat (si : Bool) : (if si then 1000 else 1024 : UInt64).toNat = byteUnit si := by
  cases si <;> rfl

/-- `exp` in the source. -/
def sizeExponent (libm : Libm) (si : Bool) (bytes : UInt64) : Int :=
  libm.logQuotient bytes (if si then 1000 else 1024)

/-- `(unsigned long long) pow(unit, exp)` -/
def sizePower (libm : Libm) (si : Bool) (bytes : UInt64) : UInt64 :=
  libm.pow (if si then 1000 else 1024) (sizeExponent libm si bytes)

/-- The number that is printed. -/
def sizeQuotient (libm : Libm) (si : Bool) (bytes : UInt64) : UInt64 :=
  bytes / sizePower libm si bytes

theorem cStr_of_letter {si : Bool} :
    ∀ letter ∈ unitLetters si, cStr (letter :: (if si then "" else "i").toList) ++ "B".toList =
      letter :: (if si then "B" else "iB").toList := by
  cases si <;> simp [unitLetters, cStr]

section Exact
variable {libm : Libm} (exact : libm.Exact) {bytes : UInt64} {si : Bool}
  (large : byteUnit si ≤ bytes.toNat)
include exact large

theorem sizeExponent_eq : sizeExponent libm si bytes = unitExponent si bytes.toNat := by
  have unitPos := byteUnit_large si
  have quotient := exact.logQuotient bytes (if si then 1000 else 1024) (by omega)
    (by rw [unit_toNat]; exact unitPos)
  rw [unit_toNat, Scale.truncate_log_div_log unitPos (by omega)] at quotient
  exact quotient

theorem sizePower_toNat :
    (sizePower libm si bytes).toNat = byteUnit si ^ unitExponent si bytes.toNat := by
  have unitPos := byteUnit_large si
  have fits := (pow_unitExponent_le si (by omega : bytes.toNat ≠ 0)).trans_lt bytes.toNat_lt
  have power := exact.pow (if si then 1000 else 1024) (unitExponent si bytes.toNat)
    (by rw [unit_toNat]; exact_mod_cast fits)
  rw [unit_toNat, ← Nat.cast_pow, Scale.truncate_natCast] at power
  unfold sizePower
  rw [sizeExponent_eq exact large]
  exact_mod_cast power

theorem sizePower_ne_zero : sizePower libm si bytes ≠ 0 := by
  intro zero
  have power := sizePower_toNat exact large
  have unitPos := byteUnit_large si
  have positive := Nat.pow_pos (n := unitExponent si bytes.toNat) (by omega : 0 < byteUnit si)
  rw [zero] at power
  rw [← power] at positive
  exact absurd positive (by decide)

theorem sizeQuotient_toNat : (sizeQuotient libm si bytes).toNat =
    bytes.toNat / byteUnit si ^ unitExponent si bytes.toNat := by
  unfold sizeQuotient
  rw [UInt64.toNat_div, sizePower_toNat exact large]

theorem humanReadableByteCount_eq :
    ∃ letter, (unitLetters si)[unitExponent si bytes.toNat - 1]? = some letter ∧
      humanReadableByteCount libm bytes si =
        some ((toString (bytes.toNat / byteUnit si ^ unitExponent si bytes.toNat)).toList ++
          ' ' :: letter :: (if si then "B" else "iB").toList) := by
  have notSmall : ¬ bytes < (if si then 1000 else 1024) := by
    rw [UInt64.lt_iff_toNat_lt, unit_toNat]
    omega
  have pos := unitExponent_pos large
  have le := unitExponent_le si bytes.toNat_lt
  have inside : unitExponent si bytes.toNat - 1 < (unitLetters si).length := by
    have six : (unitLetters si).length = 6 := by cases si <;> rfl
    omega
  have member := List.getElem_mem inside
  refine ⟨(unitLetters si)[unitExponent si bytes.toNat - 1], List.getElem?_eq_getElem inside, ?_⟩
  have read : ((unitLetters si) ++ ['\x00'])[(sizeExponent libm si bytes - 1).toNat]? =
      some (unitLetters si)[unitExponent si bytes.toNat - 1] := by
    have index : (sizeExponent libm si bytes - 1).toNat = unitExponent si bytes.toNat - 1 := by
      rw [sizeExponent_eq exact large]
      omega
    rw [index, List.getElem?_append_left inside, List.getElem?_eq_getElem inside]
  have defined : ¬ (sizeExponent libm si bytes < 1 ∨ sizePower libm si bytes = 0) := by
    rw [not_or, sizeExponent_eq exact large]
    exact ⟨by omega, sizePower_ne_zero exact large⟩
  unfold humanReadableByteCount
  simp only [if_neg notSmall]
  change (if sizeExponent libm si bytes < 1 ∨ sizePower libm si bytes = 0 then none
    else Option.bind ((unitLetters si) ++ ['\x00'])[(sizeExponent libm si bytes - 1).toNat]? _) = _
  rw [if_neg defined, read, Option.bind_some, cStr_of_letter _ member, ← sizeQuotient_toNat exact large]
  simp [sizeQuotient, sizePower, sizeExponent]

end Exact

/-! ## When the text denotes the number -/

theorem NumeralOf.characters {numeral : CppString} {x : ℚ} (value : NumeralOf numeral x) :
    ∀ c ∈ numeral, isDigit c = true ∨ c = '.' := by
  cases value with
  | whole number => exact fun c member => .inl (number.2 c member)
  | point number number' =>
      intro c member
      rcases List.mem_append.mp member with inWhole | rest
      · exact .inl (number.2 c inWhole)
      · rcases List.mem_cons.mp rest with dot | inFraction
        · exact .inr dot
        · exact .inl (number'.2 c inFraction)

theorem NumeralOf.not_mem_space {numeral : CppString} {x : ℚ} (value : NumeralOf numeral x) :
    ' ' ∉ numeral := by
  intro member
  rcases value.characters ' ' member with digit | dot
  · exact absurd digit (by decide)
  · exact absurd dot (by decide)

/-- A numeral of digits only has their value. -/
theorem NumeralOf.of_digits {numeral : CppString} {x : ℚ} (value : NumeralOf numeral x)
    (digits : ∀ c ∈ numeral, isDigit c = true) : x = decimalValue numeral := by
  cases value with
  | whole _ => rfl
  | point _ _ => exact absurd (digits '.' (by simp)) (by decide)

/-- Texts split alike at the first mark. -/
theorem eq_of_marked {front front' rest rest' : CppString} {mark : Char} (absent : mark ∉ front)
    (absent' : mark ∉ front') (same : front ++ mark :: rest = front' ++ mark :: rest') :
    front = front' ∧ rest = rest' := by
  have read : ∀ front rest : CppString, mark ∉ front →
      (front ++ mark :: rest).takeWhile (fun c => c ≠ mark) = front := by
    intro front rest absent
    have inside : ∀ c ∈ front, decide (c ≠ mark) = true := by
      intro c member
      apply decide_eq_true
      rintro rfl
      exact absent member
    rw [List.takeWhile_append_of_pos inside, List.takeWhile_cons_of_neg (by simp), List.append_nil]
  have fronts : front = front' := by
    rw [← read front rest absent, same, read front' rest' absent']
  subst fronts
  exact ⟨rfl, List.tail_eq_of_cons_eq (List.append_cancel_left same)⟩

/-- The quotient is short of the number by the remainder. -/
theorem sizeText_of_code_iff {si : Bool} {n : Nat} (large : byteUnit si ≤ n) {letter : Char}
    (named : (unitLetters si)[unitExponent si n - 1]? = some letter) :
    SizeText si n ((toString (n / byteUnit si ^ unitExponent si n)).toList ++
        ' ' :: letter :: (if si then "B" else "iB").toList) ↔
      10 * (n % byteUnit si ^ unitExponent si n) < byteUnit si ^ unitExponent si n := by
  have pos := unitExponent_pos large
  have succ : unitExponent si n - 1 + 1 = unitExponent si n := by omega
  have digits := natText_isNumber (n / byteUnit si ^ unitExponent si n)
  rw [← Numbers.quotient_close_iff]
  push_cast
  constructor
  · intro denotes
    generalize shape : (toString (n / byteUnit si ^ unitExponent si n)).toList ++
      ' ' :: letter :: (if si then "B" else "iB").toList = text at denotes
    cases denotes with
    | bytes small => exact absurd large (Nat.not_le_of_lt small)
    | @scaled numeral x e letter' _ value named' close =>
        have spaceless : ' ' ∉ (toString (n / byteUnit si ^ unitExponent si n)).toList := by
          intro member
          exact absurd (digits.2 ' ' member) (by decide)
        obtain ⟨same, rest⟩ := eq_of_marked spaceless value.not_mem_space shape
        rw [List.cons.injEq] at rest
        obtain ⟨rfl, _⟩ := rest
        have index : e = unitExponent si n - 1 := by
          have distinct : (unitLetters si).Nodup := by cases si <;> decide
          have inside := (List.getElem?_eq_some_iff.mp named').1
          exact (List.getElem?_inj inside distinct).mp (named'.trans named.symm)
        have read : x = (n / byteUnit si ^ unitExponent si n : Nat) := by
          rw [value.of_digits (same ▸ digits.2), ← same, natText_value]
        rw [index, read, succ] at close
        exact_mod_cast close
  · intro close
    have value : NumeralOf (toString (n / byteUnit si ^ unitExponent si n)).toList
        (n / byteUnit si ^ unitExponent si n : Nat) := by
      have whole := NumeralOf.whole digits
      rwa [natText_value] at whole
    refine .scaled large value named ?_
    rw [succ]
    exact_mod_cast close

/-- Below the unit the text has no digit, if there is one. -/
theorem small_text_wrong {bytes : UInt64} {si : Bool} (small : bytes.toNat < byteUnit si)
    {text : CppString} (result : humanReadableByteCount Libm.exact bytes si = some text) :
    ¬ SizeText si bytes.toNat text := by
  have below : bytes < (if si then 1000 else 1024) := by
    rw [UInt64.lt_iff_toNat_lt, unit_toNat]
    exact small
  have short : text.length ≤ 2 := by
    unfold humanReadableByteCount at result
    simp only [if_pos below] at result
    split at result
    · rw [← Option.some.inj result]
      simp
    · cases result
  intro denotes
  cases denotes with
  | bytes _ =>
      have digits := List.length_pos_iff.mpr (natText_isNumber bytes.toNat).1
      rw [List.length_append] at short
      have two : " B".toList.length = 2 := rfl
      omega
  | scaled large _ _ _ => exact absurd small (Nat.not_lt_of_le large)

/-- The text denotes the number exactly when the number is not below the unit and
its remainder is less than a tenth of the power. -/
theorem byte_count_accurate_iff (bytes : UInt64) (si : Bool) :
    (∃ text, humanReadableByteCount Libm.exact bytes si = some text ∧
      SizeText si bytes.toNat text) ↔
    byteUnit si ≤ bytes.toNat ∧
      10 * (bytes.toNat % byteUnit si ^ unitExponent si bytes.toNat) <
        byteUnit si ^ unitExponent si bytes.toNat := by
  by_cases large : byteUnit si ≤ bytes.toNat
  · obtain ⟨letter, named, result⟩ := humanReadableByteCount_eq Libm.exact_exact large
    rw [← sizeText_of_code_iff large named]
    constructor
    · intro found
      obtain ⟨text, same, denotes⟩ := found
      rw [result, Option.some.injEq] at same
      exact ⟨large, same ▸ denotes⟩
    · intro denotes
      exact ⟨_, result, denotes.2⟩
  · constructor
    · intro found
      obtain ⟨text, result, denotes⟩ := found
      exact absurd denotes (small_text_wrong (Nat.lt_of_not_le large) result)
    · intro h
      exact absurd h.1 large

/-- 1999 bytes are shown as one kilobyte, and 512 bytes have no text at all. -/
theorem sizes_shown_wrongly :
    (¬ ∃ text, humanReadableByteCount Libm.exact 1999 true = some text ∧
      SizeText true 1999 text) ∧
    ¬ ∃ text, humanReadableByteCount Libm.exact 512 true = some text ∧ SizeText true 512 text := by
  refine ⟨?_, ?_⟩
  · rintro ⟨text, result, denotes⟩
    have one : unitExponent true 1999 = 1 := Nat.log_eq_of_pow_le_of_lt_pow (by decide) (by decide)
    obtain ⟨letter, named, shown⟩ :=
      humanReadableByteCount_eq Libm.exact_exact (by decide : byteUnit true ≤ (1999 : UInt64).toNat)
    rw [result, Option.some.injEq] at shown
    subst shown
    have close := (sizeText_of_code_iff (by decide) named).mp denotes
    have same : (1999 : UInt64).toNat = 1999 := rfl
    rw [same, one] at close
    exact absurd close (by decide)
  · rintro ⟨text, result, denotes⟩
    exact small_text_wrong (by decide : (512 : UInt64).toNat < byteUnit true) result denotes

/-! ## The scale of a size -/

/-- The exponent names one of the six letters, its power is a nonzero 64-bit number,
and the text holds the leading digit of the size in the base of the unit. -/
structure InScale (libm : Libm) (si : Bool) (bytes : UInt64) : Prop where
  exponent : 1 ≤ sizeExponent libm si bytes ∧ sizeExponent libm si bytes ≤ 6
  power : byteUnit si ^ (sizeExponent libm si bytes).toNat < 2 ^ 64 ∧
    (sizePower libm si bytes).toNat = byteUnit si ^ (sizeExponent libm si bytes).toNat ∧
    sizePower libm si bytes ≠ 0
  leading : Scale.IsLeading (byteUnit si) bytes.toNat (sizeExponent libm si bytes).toNat
    (sizeQuotient libm si bytes).toNat
  text : ∃ letter, (unitLetters si)[(sizeExponent libm si bytes - 1).toNat]? = some letter ∧
    humanReadableByteCount libm bytes si =
      some ((toString (sizeQuotient libm si bytes).toNat).toList ++
        ' ' :: letter :: (if si then "B" else "iB").toList)

section InScale
variable {libm : Libm} (exact : libm.Exact) {bytes : UInt64} {si : Bool}
  (large : byteUnit si ≤ bytes.toNat)
include exact large

theorem isLeading_unitExponent : Scale.IsLeading (byteUnit si) bytes.toNat
    (unitExponent si bytes.toNat) (sizeQuotient libm si bytes).toNat := by
  have unitPos := byteUnit_large si
  rw [sizeQuotient_toNat exact large]
  exact Scale.isLeading_log unitPos (by omega)

theorem inScale_of_large : InScale libm si bytes := by
  have pos := unitExponent_pos large
  have le := unitExponent_le si bytes.toNat_lt
  have value := sizeExponent_eq exact large
  have natural : (sizeExponent libm si bytes).toNat = unitExponent si bytes.toNat := by
    rw [value, Int.toNat_natCast]
  have leading := isLeading_unitExponent exact large
  refine ⟨by omega, ⟨?_, ?_, sizePower_ne_zero exact large⟩, ?_, ?_⟩
  · rw [natural]
    exact leading.between.1.trans_lt bytes.toNat_lt
  · rw [natural]
    exact sizePower_toNat exact large
  · rw [natural]
    exact leading
  · obtain ⟨letter, named, result⟩ := humanReadableByteCount_eq exact large
    have index : (sizeExponent libm si bytes - 1).toNat = unitExponent si bytes.toNat - 1 := by
      omega
    exact ⟨letter, by rw [index]; exact named, by rw [sizeQuotient_toNat exact large]; exact result⟩

end InScale

/-- Every size from the unit on is in scale, and a larger size has a larger
exponent, or the same exponent and no smaller quotient. -/
theorem sizes_in_scale {libm : Libm} (exact : libm.Exact) (si : Bool) :
    (∀ n : UInt64, byteUnit si ≤ n.toNat → InScale libm si n) ∧
    ∀ n m : UInt64, byteUnit si ≤ n.toNat → n ≤ m →
      toLex (sizeExponent libm si n, (sizeQuotient libm si n).toNat) ≤
        toLex (sizeExponent libm si m, (sizeQuotient libm si m).toNat) := by
  refine ⟨fun n large => inScale_of_large exact large, ?_⟩
  intro n m large le
  have le' : n.toNat ≤ m.toNat := UInt64.le_iff_toNat_le.mp le
  have large' := large.trans le'
  have order := (isLeading_unitExponent exact large).le (isLeading_unitExponent exact large') le'
  rw [Prod.Lex.toLex_le_toLex'] at order ⊢
  rw [sizeExponent_eq exact large, sizeExponent_eq exact large']
  constructor
  · exact Int.ofNat_le.mpr order.1
  · intro same
    exact order.2 (Int.ofNat.inj same)

/-- The last size shown in kilobytes and the first one shown in megabytes. -/
theorem scale_around_million :
    InScale Libm.exact true 999999 ∧ sizeExponent Libm.exact true 999999 = 1 ∧
      InScale Libm.exact true 1000000 ∧ sizeExponent Libm.exact true 1000000 = 2 ∧
      toLex (sizeExponent Libm.exact true 999999, (sizeQuotient Libm.exact true 999999).toNat) ≤
        toLex (sizeExponent Libm.exact true 1000000, (sizeQuotient Libm.exact true 1000000).toNat) :=
  have scales := sizes_in_scale Libm.exact_exact true
  ⟨scales.1 999999 (by decide), by decide, scales.1 1000000 (by decide), by decide,
    scales.2 999999 1000000 (by decide) (by decide)⟩

end StoringDevices
