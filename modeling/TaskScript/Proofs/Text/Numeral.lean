import Mathlib.Data.Nat.Digits.Lemmas
import Mathlib.Tactic.Ring
import TaskScript.Heap

/-!
# Numerals read back

A numeral that is written is read as the number it was written for, in any base up to sixteen, so
two numbers are never written alike. Its characters are digits of the base and nothing else. The
digits of a numeral are read by their places (`Numeral.read?_eq_some_iff`), and a handle that is
written is read as itself (`Handle.ofText?_text`). A hexadecimal number is written with the fewest
digits (`Numeral.DenotesHex.length_toDigits_le`), and in lower case no others are so few
(`Numeral.DenotesHex.eq_of_length`).
-/

namespace TaskScript

namespace Numeral

variable {base : Nat}

/-! ## Digits -/

theorem digitValue_digitChar : ∀ d < 16, digitValue (Nat.digitChar d) = some d := by
  decide

theorem digit?_digitChar {d : Nat} (small : base ≤ 16) (below : d < base) :
    digit? base (Nat.digitChar d) = some d := by
  rw [digit?, digitValue_digitChar d (Nat.lt_of_lt_of_le below small), Option.filter_some,
    if_pos (decide_eq_true below)]

theorem readAfter?_append (known : Nat) (first second : List Char) :
    readAfter? base known (first ++ second) =
      (readAfter? base known first).bind (readAfter? base · second) := by
  induction first generalizing known with
  | nil => rfl
  | cons c first ih =>
    rw [List.cons_append, readAfter?, readAfter?]
    cases digit? base c with
    | none => rfl
    | some digit => exact ih _

theorem isSome_digit?_of_readAfter? {known n : Nat} {digits : List Char}
    (found : readAfter? base known digits = some n) :
    ∀ c ∈ digits, (digit? base c).isSome = true := by
  induction digits generalizing known with
  | nil => simp
  | cons c digits ih =>
    rw [readAfter?] at found
    cases first : digit? base c with
    | none =>
      rw [first] at found
      cases found
    | some digit =>
      rw [first] at found
      intro other member
      rcases List.mem_cons.mp member with rfl | later
      · rw [first]
        rfl
      · exact ih found other later

/-! ## Numerals -/

theorem readAfter?_toDigits (several : 1 < base) (small : base ≤ 16) (n : Nat) :
    readAfter? base 0 (Nat.toDigits base n) = some n := by
  induction n using Nat.strongRecOn with
  | ind n ih =>
    rw [Nat.toDigits_eq_if several]
    split
    case isTrue below =>
      rw [readAfter?, digit?_digitChar small below, Nat.zero_mul]
      simp [readAfter?]
    case isFalse notBelow =>
      have shorter : n / base < n := Nat.div_lt_self (by omega) several
      have digit : digit? base (Nat.digitChar (n % base)) = some (n % base) :=
        digit?_digitChar small (Nat.mod_lt n (by omega))
      rw [readAfter?_append, ih _ shorter, Option.bind_some, readAfter?, digit]
      show some (n / base * base + n % base) = some n
      rw [Nat.div_add_mod']

theorem toDigits_injective (several : 1 < base) (small : base ≤ 16) :
    Function.Injective (Nat.toDigits base) := by
  intro n m same
  have read := readAfter?_toDigits several small n
  rw [same, readAfter?_toDigits several small m] at read
  exact (Option.some.inj read).symm

theorem notMem_toDigits (several : 1 < base) (small : base ≤ 16) {c : Char}
    (noDigit : digit? base c = none) (n : Nat) : c ∉ Nat.toDigits base n := by
  intro member
  have isDigit := isSome_digit?_of_readAfter? (readAfter?_toDigits several small n) c member
  rw [noDigit] at isDigit
  cases isDigit

theorem decimal_injective : Function.Injective decimal := by
  intro n m same
  exact toDigits_injective (by decide) (by decide) (String.ofList_injective same)

/-- A greater number is written with as many digits or more. -/
theorem length_decimal_mono {n m : Nat} (notGreater : n ≤ m) :
    (decimal n).length ≤ (decimal m).length := by
  have bound : ∀ k, (Nat.toDigits 10 k).length ≤ (Nat.toDigits 10 m).length ↔
      k < 10 ^ (Nat.toDigits 10 m).length :=
    fun k => Nat.length_toDigits_le_iff (by decide) Nat.length_toDigits_pos
  have below := (bound m).mp (Nat.le_refl _)
  rw [decimal, decimal, String.length_ofList, String.length_ofList]
  exact (bound n).mpr (Nat.lt_of_le_of_lt notGreater below)

theorem read?_of_ne_nil {base : Nat} {digits : List Char} (some_ : digits ≠ []) :
    read? base digits = readAfter? base 0 digits := by
  cases digits with
  | nil => exact absurd rfl some_
  | cons c digits => rfl

/-- A number that is written is read back. -/
theorem read?_toDigits (several : 1 < base) (small : base ≤ 16) (n : Nat) :
    read? base (Nat.toDigits base n) = some n := by
  rw [read?_of_ne_nil Nat.toDigits_ne_nil]
  exact readAfter?_toDigits several small n

theorem afterPlus_of_notMem {digits : List Char} (noPlus : '+' ∉ digits) :
    afterPlus digits = digits := by
  unfold afterPlus
  split
  · exact absurd List.mem_cons_self noPlus
  · rfl

theorem afterPlus_eq_iff {chars digits : List Char} (noPlus : '+' ∉ digits) :
    afterPlus chars = digits ↔ chars = digits ∨ chars = '+' :: digits := by
  constructor
  · intro after
    by_cases plus : ∃ rest, chars = '+' :: rest
    · obtain ⟨rest, rfl⟩ := plus
      exact .inr (congrArg ('+' :: ·) after)
    · refine .inl (Eq.trans ?_ after)
      unfold afterPlus
      split
      case h_1 rest => exact absurd ⟨rest, rfl⟩ plus
      case h_2 => rfl
  · rintro (rfl | rfl)
    · exact afterPlus_of_notMem noPlus
    · rfl

section Places

/-! ## Digits by their places

Which characters are digits of a base, and what they stand for, decides which numerals are read and
as which numbers. -/

variable {isDigit : Char → Bool} {value : Char → Nat}

theorem readAfter?_eq_some_iff
    (valued : ∀ c, digit? base c = if isDigit c then some (value c) else none) {known n : Nat}
    {digits : List Char} :
    readAfter? base known digits = some n ↔
      digits.all isDigit = true ∧
        known * base ^ digits.length + Nat.ofDigits base (digits.reverse.map value) = n := by
  induction digits generalizing known with
  | nil => simp [readAfter?]
  | cons c digits ih =>
    rw [readAfter?, valued, List.all_cons, Bool.and_eq_true, List.reverse_cons, List.map_append,
      Nat.ofDigits_append, List.length_map, List.length_reverse, List.map_singleton,
      Nat.ofDigits_singleton, List.length_cons]
    by_cases digit : isDigit c = true
    · have sum : (known * base + value c) * base ^ digits.length =
          known * base ^ (digits.length + 1) + base ^ digits.length * value c := by
        ring
      rw [if_pos digit, Option.bind_eq_bind, Option.bind_some, ih, sum]
      simp only [digit, true_and, Nat.add_assoc, Nat.add_comm (base ^ digits.length * _)]
    · simp [digit]

/-- A numeral is one digit or more, and stands for the sum of its digits by their places. -/
theorem read?_eq_some_iff
    (valued : ∀ c, digit? base c = if isDigit c then some (value c) else none) {n : Nat}
    {digits : List Char} :
    read? base digits = some n ↔
      digits ≠ [] ∧ digits.all isDigit = true ∧
        Nat.ofDigits base (digits.reverse.map value) = n := by
  cases digits with
  | nil => simp [read?]
  | cons c digits =>
    rw [read?_of_ne_nil (List.cons_ne_nil c digits), readAfter?_eq_some_iff valued, Nat.zero_mul,
      Nat.zero_add]
    exact (and_iff_right (List.cons_ne_nil c digits)).symm

end Places

/-! ## Decimal numerals -/

/-- The characters are one decimal digit or more, and this is the number that they stand for. -/
def Denotes (digits : List Char) (n : Nat) : Prop :=
  digits ≠ [] ∧ digits.all (·.isDigit) = true ∧
    Nat.ofDigits 10 (digits.reverse.map fun c => c.toNat - '0'.toNat) = n

instance (digits : List Char) (n : Nat) : Decidable (Denotes digits n) :=
  inferInstanceAs (Decidable (_ ∧ _))

theorem digit?_ten (c : Char) :
    digit? 10 c = if c.isDigit then some (c.toNat - '0'.toNat) else none := by
  have isDigit : c.isDigit = true ↔ '0' ≤ c ∧ c ≤ '9' := by
    rw [Char.isDigit, Bool.and_eq_true, decide_eq_true_iff, decide_eq_true_iff]
    rfl
  simp only [digit?, digitValue, isDigit]
  split
  case isTrue digit =>
    have top : c.toNat ≤ 57 := digit.2
    have zero : '0'.toNat = 48 := rfl
    have below : c.toNat - '0'.toNat < 10 := by omega
    rw [Option.filter_some, if_pos (decide_eq_true below)]
  case isFalse =>
    -- The letters stand for ten and more.
    split
    · simp
    · split <;> simp

theorem read?_ten {digits : List Char} {n : Nat} : read? 10 digits = some n ↔ Denotes digits n :=
  read?_eq_some_iff digit?_ten

theorem Denotes.unique {digits : List Char} {n m : Nat} (first : Denotes digits n)
    (second : Denotes digits m) : n = m := first.2.2.symm.trans second.2.2

/-! ## Hexadecimal numerals -/

/-- The digits of base sixteen in lower case, by value. -/
def hexDigits : List Char :=
  ['0', '1', '2', '3', '4', '5', '6', '7', '8', '9', 'a', 'b', 'c', 'd', 'e', 'f']

/-- The value of a digit of base sixteen, in either case. -/
def hexValue (c : Char) : Nat := hexDigits.idxOf c.toLower

theorem isHexDigit_iff {c : Char} :
    c.isHexDigit = true ↔ '0' ≤ c ∧ c ≤ '9' ∨ 'a' ≤ c ∧ c ≤ 'f' ∨ 'A' ≤ c ∧ c ≤ 'F' := by
  show (decide ('0' ≤ c) && decide (c ≤ '9') || decide ('a' ≤ c) && decide (c ≤ 'f') ||
    decide ('A' ≤ c) && decide (c ≤ 'F')) = true ↔ _
  simp only [Bool.or_eq_true, Bool.and_eq_true, decide_eq_true_iff, or_assoc]

theorem toNat_lt_of_isHexDigit {c : Char} (isDigit : c.isHexDigit = true) : c.toNat < 128 := by
  have below (top : Char) (ascii : top.toNat < 128) (le : c ≤ top) : c.toNat < 128 :=
    Nat.lt_of_le_of_lt le ascii
  rcases isHexDigit_iff.mp isDigit with ⟨-, le⟩ | ⟨-, le⟩ | ⟨-, le⟩
  · exact below '9' (by decide) le
  · exact below 'f' (by decide) le
  · exact below 'F' (by decide) le

theorem digit?_sixteen (c : Char) :
    digit? 16 c = if c.isHexDigit then some (hexValue c) else none := by
  have ascii : ∀ n < 128, digit? 16 (Char.ofNat n) =
      if (Char.ofNat n).isHexDigit then some (hexValue (Char.ofNat n)) else none := by decide
  by_cases small : c.toNat < 128
  · simpa using ascii c.toNat small
  · -- What is not in the table of small characters is no digit on either side.
    have above (top : Char) (small' : top.toNat < 128) : ¬c ≤ top :=
      fun le => small (Nat.lt_of_le_of_lt le small')
    have noDigit : ¬c.isHexDigit = true := fun isDigit => small (toNat_lt_of_isHexDigit isDigit)
    rw [if_neg noDigit]
    simp [digit?, digitValue, above '9' (by decide), above 'z' (by decide), above 'Z' (by decide)]

/-- The digit that is written for a value is the one that has it, in lower case. -/
theorem digitChar_hexValue {c : Char} (isDigit : c.isHexDigit = true) :
    Nat.digitChar (hexValue c) = c.toLower := by
  have ascii : ∀ n < 128, (Char.ofNat n).isHexDigit = true →
      Nat.digitChar (hexValue (Char.ofNat n)) = (Char.ofNat n).toLower := by decide
  simpa using ascii c.toNat (toNat_lt_of_isHexDigit isDigit) (by simpa using isDigit)

theorem hexValue_lt {c : Char} (isDigit : c.isHexDigit = true) : hexValue c < 16 := by
  have found : digit? 16 c = some (hexValue c) := by rw [digit?_sixteen, if_pos isDigit]
  simpa using (Option.filter_eq_some_iff.mp found).2

theorem exists_digitChar_of_mem_toDigits {n : Nat} {c : Char} (member : c ∈ Nat.toDigits 16 n) :
    ∃ d < 16, c = Nat.digitChar d := by
  induction n using Nat.strongRecOn with
  | ind n ih =>
    rw [Nat.toDigits_eq_if (by decide)] at member
    split at member
    case isTrue below => exact ⟨n, below, List.mem_singleton.mp member⟩
    case isFalse notBelow =>
      rcases List.mem_append.mp member with before | isLast
      · exact ih (n / 16) (by omega) before
      · exact ⟨n % 16, by omega, List.mem_singleton.mp isLast⟩

theorem toLower_of_mem_toDigits {n : Nat} {c : Char} (member : c ∈ Nat.toDigits 16 n) :
    c.toLower = c := by
  have lower : ∀ d < 16, (Nat.digitChar d).toLower = Nat.digitChar d := by decide
  obtain ⟨d, below, rfl⟩ := exists_digitChar_of_mem_toDigits member
  exact lower d below

/-- The characters are one hexadecimal digit or more, and this is the number that they stand for. -/
def DenotesHex (digits : List Char) (n : Nat) : Prop :=
  digits ≠ [] ∧ digits.all (·.isHexDigit) = true ∧
    Nat.ofDigits 16 (digits.reverse.map hexValue) = n

theorem read?_sixteen {digits : List Char} {n : Nat} :
    read? 16 digits = some n ↔ DenotesHex digits n :=
  read?_eq_some_iff digit?_sixteen

namespace DenotesHex

variable {digits : List Char} {n : Nat}

theorem plus_notMem (denotes : DenotesHex digits n) : '+' ∉ digits := by
  intro member
  have isDigit := List.all_eq_true.mp denotes.2.1 '+' member
  cases isDigit

theorem toDigits (n : Nat) : DenotesHex (Nat.toDigits 16 n) n := by
  rw [← read?_sixteen]
  exact read?_toDigits (by decide) (by decide) n

theorem value_lt (denotes : DenotesHex digits n) :
    ∀ value ∈ digits.reverse.map hexValue, value < 16 := by
  intro value member
  obtain ⟨c, isChar, rfl⟩ := List.mem_map.mp member
  exact hexValue_lt (List.all_eq_true.mp denotes.2.1 c (List.mem_reverse.mp isChar))

/-- A number is written with no more digits than it needs. -/
theorem length_toDigits_le (denotes : DenotesHex digits n) :
    (Nat.toDigits 16 n).length ≤ digits.length := by
  have some_ : 0 < digits.length := List.length_pos_of_ne_nil denotes.1
  rw [Nat.length_toDigits_le_iff (by decide) some_, ← denotes.2.2]
  have below := Nat.ofDigits_lt_base_pow_length (by decide : 1 < 16) denotes.value_lt
  simpa using below

/-- Digits in lower case that stand for the same number are the same if they are as many. -/
theorem eq_of_length {others : List Char} (first : DenotesHex digits n)
    (second : DenotesHex others n) (lower : ∀ c ∈ digits, c.toLower = c)
    (lower' : ∀ c ∈ others, c.toLower = c) (length : digits.length = others.length) :
    digits = others := by
  have values : digits.reverse.map hexValue = others.reverse.map hexValue :=
    Nat.ofDigits_inj_of_len_eq (by decide : 1 < 16) (by simp [length]) first.value_lt
      second.value_lt (first.2.2.trans second.2.2.symm)
  rw [List.map_reverse, List.map_reverse, List.reverse_inj] at values
  -- Each digit is the one that is written for its value.
  have rewritten {chars : List Char} (denotes : DenotesHex chars n)
      (lower : ∀ c ∈ chars, c.toLower = c) : (chars.map hexValue).map Nat.digitChar = chars := by
    rw [List.map_map]
    refine (List.map_congr_left fun c member => ?_).trans (List.map_id chars)
    exact (digitChar_hexValue (List.all_eq_true.mp denotes.2.1 c member)).trans (lower c member)
  rw [← rewritten first lower, values, rewritten second lower']

end DenotesHex

end Numeral

namespace Handle

theorem text_injective : Function.Injective text := by
  intro a b same
  have digits : Numeral.hex a.address = Numeral.hex b.address :=
    (String.append_right_inj "0x").mp same
  exact eq_of_address
    (Numeral.toDigits_injective (by decide) (by decide) (String.ofList_injective digits))

theorem toList_text (h : Handle) : h.text.toList = '0' :: 'x' :: Nat.toDigits 16 h.address := by
  simp [text, Numeral.hex]

/-- A handle that is written is read as itself. -/
theorem ofText?_text (h : Handle) : ofText? h.text = some h := by
  have noPlus : '+' ∉ Nat.toDigits 16 h.address :=
    Numeral.notMem_toDigits (by decide) (by decide) (by decide) h.address
  have digits : digits? h.text.toList = some (Nat.toDigits 16 h.address) := by
    rw [toList_text, digits?, if_pos (.inl rfl), Numeral.afterPlus_of_notMem noPlus]
  have address : Numeral.read? 16 (Nat.toDigits 16 h.address) = some h.address :=
    Numeral.read?_toDigits (by decide) (by decide) h.address
  have handle : ofAddress? h.address = some h := dif_pos h.inRange
  simp only [ofText?, digits, address, handle, Option.bind_eq_bind, Option.bind_some]

end Handle

end TaskScript
