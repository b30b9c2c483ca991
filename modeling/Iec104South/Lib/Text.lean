import Mathlib.Data.String.Basic
import Mathlib.Data.List.TakeWhile
import Iec104South.Lib.Json

/-!
# Searching strings and reading numbers

* `rfind`: the last occurrence of a pattern; `rfind_eq_sizeSub_iff` says when it is at the end.
* `splitAtFirst_eq_some`: the parts around the first separator.
* `digits?`, `decimal?`, `decimalFloat?`: the strict readers of decimal numbers. `stoi` and `atoi`
  read what the first two read (`stoi_of_digits?`, `leadingInt_of_decimal?`), and more.
-/

namespace Text

/-! ## The last occurrence of a pattern -/

/-- `std::string::npos`, the `size_t` of -1. A `size_t` that has wrapped is a negative integer here:
for the sizes of strings two such integers are equal if their `size_t` are. -/
def npos : Int := -1

/-- The byte at which the last occurrence of `pattern` begins. -/
def lastOccurrence? (pattern : List Char) : List Char → Option Nat
  | [] => if pattern = [] then some 0 else none
  | c :: text =>
    match lastOccurrence? pattern text with
    | some i => some (c.utf8Size + i)
    | none => if pattern <+: c :: text then some 0 else none

/-- `std::string::rfind` -/
def rfind (pattern s : String) : Int :=
  match lastOccurrence? pattern.toList s.toList with
  | some i => i
  | none => npos

/-- `a - b` for `size_t`. -/
def sizeSub (a b : Nat) : Int := a - b

theorem lastOccurrence?_eq_some {pattern text : List Char} {i : Nat}
    (h : lastOccurrence? pattern text = some i) :
    ∃ before after, text = before ++ pattern ++ after ∧ String.utf8Len before = i := by
  induction text generalizing i with
  | nil =>
    unfold lastOccurrence? at h
    split_ifs at h with hpattern
    exact ⟨[], [], by simp [hpattern], Option.some.inj h⟩
  | cons c text ih =>
    unfold lastOccurrence? at h
    split at h
    · next j hj =>
      obtain ⟨before, after, rfl, rfl⟩ := ih hj
      refine ⟨c :: before, after, rfl, ?_⟩
      rw [← Option.some.inj h, String.utf8Len, Nat.add_comm]
    · split_ifs at h with hprefix
      obtain ⟨after, hafter⟩ := hprefix
      exact ⟨[], after, hafter.symm, Option.some.inj h⟩

/-- A pattern at the end is the last occurrence. -/
theorem lastOccurrence?_append (before pattern : List Char) :
    lastOccurrence? pattern (before ++ pattern) = some (String.utf8Len before) := by
  induction before with
  | nil =>
    cases pattern with
    | nil => rfl
    | cons c pattern =>
      have hnone : lastOccurrence? (c :: pattern) pattern = none := by
        refine Option.eq_none_iff_forall_ne_some.mpr fun i hi => ?_
        obtain ⟨before, after, heq, -⟩ := lastOccurrence?_eq_some hi
        have hlength := congrArg List.length heq
        simp at hlength
        omega
      simp [lastOccurrence?, hnone, String.utf8Len]
  | cons c before ih => simp [lastOccurrence?, ih, String.utf8Len, Nat.add_comm]

/-- `s.rfind(pattern) == s.size() - pattern.size()` holds of the strings that end with the
pattern, and of those that are one byte shorter: there the difference is `npos`. -/
theorem rfind_eq_sizeSub_iff {pattern s : String} :
    rfind pattern s = sizeSub s.utf8ByteSize pattern.utf8ByteSize ↔
      pattern.toList <:+ s.toList ∨ s.utf8ByteSize + 1 = pattern.utf8ByteSize := by
  have hsuffix : pattern.toList <:+ s.toList → pattern.utf8ByteSize ≤ s.utf8ByteSize := by
    rw [← String.utf8Len_toList, ← String.utf8Len_toList]
    exact String.utf8Len_le_of_suffix
  unfold rfind sizeSub npos
  cases hlast : lastOccurrence? pattern.toList s.toList with
  | none =>
    have hnot : ¬ pattern.toList <:+ s.toList := by
      rintro ⟨before, hbefore⟩
      rw [← hbefore, lastOccurrence?_append] at hlast
      cases hlast
    rw [or_iff_right hnot]
    dsimp only
    omega
  | some i =>
    obtain ⟨before, after, htext, hi⟩ := lastOccurrence?_eq_some hlast
    have hlen : s.utf8ByteSize = i + pattern.utf8ByteSize + String.utf8Len after := by
      rw [← String.utf8Len_toList, htext, String.utf8Len_append, String.utf8Len_append, hi,
        String.utf8Len_toList]
    have hend : pattern.toList <:+ s.toList ↔ String.utf8Len after = 0 := by
      constructor
      · rintro ⟨before', hbefore'⟩
        rw [← hbefore', lastOccurrence?_append] at hlast
        have hbytes : String.utf8Len before' + pattern.utf8ByteSize = s.utf8ByteSize := by
          rw [← String.utf8Len_toList, ← String.utf8Len_toList, ← hbefore',
            String.utf8Len_append]
        have := Option.some.inj hlast
        omega
      · intro hafter
        rw [htext, String.utf8Len_eq_zero.mp hafter, List.append_nil]
        exact List.suffix_append before _
    rw [hend]
    dsimp only
    omega

/-! ## The first occurrence of a separator -/

theorem splitAtFirst_eq_some {separator : Char} {s : String} {parts : String × String} :
    splitAtFirst separator s = some parts ↔
      s.toList = parts.1.toList ++ separator :: parts.2.toList ∧ separator ∉ parts.1.toList := by
  obtain ⟨before, after⟩ := parts
  unfold splitAtFirst
  constructor
  · intro h
    dsimp only at h
    split_ifs at h with hmem
    obtain ⟨hbefore, hafter⟩ := Prod.mk.inj (Option.some.inj h)
    rw [← hbefore, ← hafter, String.toList_ofList, String.toList_ofList]
    refine ⟨?_, fun hin => by simpa using List.mem_takeWhile_imp hin⟩
    have hdrop : s.toList.dropWhile (· ≠ separator) ≠ [] := by
      rw [ne_eq, List.dropWhile_eq_nil_iff]
      exact fun hall => by simpa using hall separator hmem
    have hhead : (s.toList.dropWhile (· ≠ separator)).head hdrop = separator := by
      simpa using List.head_dropWhile_not (· ≠ separator) hdrop
    calc s.toList
        = s.toList.takeWhile (· ≠ separator) ++ s.toList.dropWhile (· ≠ separator) :=
          List.takeWhile_append_dropWhile.symm
      _ = _ := by
          rw [← List.cons_head_tail hdrop, hhead, List.drop_one, List.tail_cons]
  · rintro ⟨hs, hnot⟩
    have hall : ∀ c ∈ before.toList, decide (c ≠ separator) := by
      intro c hc
      exact decide_eq_true fun heq => hnot (heq ▸ hc)
    dsimp only at hs
    have htake : s.toList.takeWhile (· ≠ separator) = before.toList := by
      rw [hs, List.takeWhile_append_of_pos hall]
      simp
    have hdrop : s.toList.dropWhile (· ≠ separator) = separator :: after.toList := by
      rw [hs, List.dropWhile_append_of_pos hall]
      simp
    dsimp only
    rw [if_pos (by simp [hs]), htake, hdrop, List.drop_one, List.tail_cons, String.ofList_toList,
      String.ofList_toList]

/-! ## Decimal numbers -/

/-- The number written with these digits, if they are digits and there is one. -/
def digits? (digits : List Char) : Option Nat :=
  if digits ≠ [] ∧ digits.all Char.isDigit then some (ofDigits digits) else none

/-- Whether there is a minus sign in front, and what follows the sign. -/
def signed : List Char → Bool × List Char
  | '-' :: s => (true, s)
  | '+' :: s => (false, s)
  | s => (false, s)

/-- The number of which the string is the decimal text: digits, with or without a sign. -/
def decimal? (s : String) : Option Int :=
  (digits? (signed s.toList).2).map fun n : Nat => if (signed s.toList).1 then -(n : Int) else n

/-- The decimal texts of numbers that `strtod` knows: digits, with or without a sign, a point and an
exponent. Of `12.5e3` it is the digits `125` and the exponent 2. -/
def decimalFloat? (s : String) : Option (Int × Int) :=
  let text := (signed s.toList).2
  let mantissa := text.takeWhile (· ∉ ['e', 'E'])
  let whole := mantissa.takeWhile (· ≠ '.')
  let fraction := (mantissa.dropWhile (· ≠ '.')).tail
  let exponent :=
    match text.dropWhile (· ∉ ['e', 'E']) with
    | [] => some 0
    | _ :: exponent => decimal? (String.ofList exponent)
  match digits? (whole ++ fraction), exponent with
  | some n, some e =>
    some (if (signed s.toList).1 then -(n : Int) else n, e - fraction.length)
  | _, _ => none

example : decimalFloat? "-12.5e3" = some (-125, 2) ∧ decimalFloat? "abc" = none := by decide

theorem digits?_eq_some {digits : List Char} {n : Nat} :
    digits? digits = some n ↔
      digits ≠ [] ∧ (∀ c ∈ digits, c.isDigit) ∧ ofDigits digits = n := by
  unfold digits?
  split_ifs with h
  · rw [Option.some.injEq, ← and_assoc]
    exact (and_iff_right ⟨h.1, by simpa using h.2⟩).symm
  · refine iff_of_false nofun fun hn => h ⟨hn.1, by simpa using hn.2.1⟩

theorem digits?_toDigits (n : Nat) : digits? (Nat.toDigits 10 n) = some n := by
  refine digits?_eq_some.mpr ⟨Nat.toDigits_ne_nil, fun c hc => ?_, Nat.ofDigitChars_ten_toDigits⟩
  exact Nat.isDigit_of_mem_toDigits (by decide) (by decide) hc

/-- A digit is neither white space nor a sign. -/
theorem isSpace_of_isDigit {c : Char} (h : c.isDigit) :
    isSpace c = false ∧ c ≠ '-' ∧ c ≠ '+' := by
  refine ⟨Bool.eq_false_iff.mpr fun hspace => ?_, ?_, ?_⟩
  · simp only [isSpace, List.mem_cons, List.not_mem_nil, or_false, decide_eq_true_eq] at hspace
    rcases hspace with rfl | rfl | rfl | rfl | rfl | rfl <;> exact absurd h (by decide)
  · rintro rfl
    exact absurd h (by decide)
  · rintro rfl
    exact absurd h (by decide)

theorem leadingInt_eq (s : String) :
    leadingInt s =
      match (signed (s.toList.dropWhile isSpace)).2.takeWhile Char.isDigit with
      | [] => none
      | digits =>
        if (signed (s.toList.dropWhile isSpace)).1 then some (-(ofDigits digits : Int))
        else some (ofDigits digits) := rfl

/-- `stoi` reads what `strtol` reads, if it fits an `int`. -/
theorem stoi_eq_filter (s : String) :
    stoi s = (leadingInt s).filter fun value => -2 ^ 31 ≤ value ∧ value < 2 ^ 31 := by
  have hstoi : stoi s =
      match (signed (s.toList.dropWhile isSpace)).2.takeWhile Char.isDigit with
      | [] => none
      | digits =>
        let value : Int := if (signed (s.toList.dropWhile isSpace)).1 then -(ofDigits digits : Int)
          else ofDigits digits
        if -2 ^ 31 ≤ value ∧ value < 2 ^ 31 then some value else none := rfl
  rw [hstoi, leadingInt_eq]
  split
  · rfl
  · split_ifs <;> simp only [Option.filter_some, decide_eq_true_eq]

theorem stoi_bounds {s : String} {z : Int} (h : stoi s = some z) : -2 ^ 31 ≤ z ∧ z < 2 ^ 31 := by
  rw [stoi_eq_filter] at h
  exact of_decide_eq_true (Option.filter_eq_some_iff.mp h).2

/-- A text without a minus sign is no negative number. -/
theorem stoi_nonneg {s : String} {z : Int} (h : stoi s = some z) (hminus : '-' ∉ s.toList) :
    0 ≤ z := by
  rw [stoi_eq_filter, leadingInt_eq] at h
  have hpositive : (signed (s.toList.dropWhile isSpace)).1 = false := by
    unfold signed
    split
    · next rest hrest =>
      have hmem : '-' ∈ s.toList.dropWhile isSpace := hrest ▸ List.mem_cons_self
      exact absurd ((List.dropWhile_suffix isSpace).mem hmem) hminus
    · rfl
    · rfl
  rw [hpositive] at h
  obtain ⟨h, -⟩ := Option.filter_eq_some_iff.mp h
  split at h
  · cases h
  · obtain rfl := Option.some.inj h
    exact Int.natCast_nonneg _

/-- A text that begins with digits, after a sign or not, does not begin with white space. -/
theorem dropWhile_isSpace {text : List Char} (hne : (signed text).2 ≠ [])
    (hdigits : ∀ c ∈ (signed text).2, c.isDigit) : text.dropWhile isSpace = text := by
  unfold signed at hne hdigits
  split at hne
  · rfl
  · rfl
  · obtain ⟨c, cs, rfl⟩ := List.exists_cons_of_ne_nil hne
    have hc : c.isDigit := by
      split at hdigits
      · simp_all
      · simp_all
      · exact hdigits c List.mem_cons_self
    exact List.dropWhile_cons_of_neg (by simp [(isSpace_of_isDigit hc).1])

/-- What `strtol` reads of a decimal text is its number. -/
theorem leadingInt_of_decimal? {s : String} {z : Int} (h : decimal? s = some z) :
    leadingInt s = some z := by
  obtain ⟨n, hn, rfl⟩ := Option.map_eq_some_iff.mp h
  obtain ⟨hne, hdigits, rfl⟩ := digits?_eq_some.mp hn
  rw [leadingInt_eq, dropWhile_isSpace hne hdigits, List.takeWhile_eq_self_iff.mpr hdigits]
  split
  · next hnil => exact absurd hnil hne
  · split_ifs <;> rfl

/-- Digits are read as what they are. -/
theorem decimal?_of_digits? {s : String} {n : Nat} (h : digits? s.toList = some n) :
    decimal? s = some (n : Int) := by
  obtain ⟨hne, hdigits, -⟩ := digits?_eq_some.mp h
  have hsigned : signed s.toList = (false, s.toList) := by
    obtain ⟨c, cs, hcs⟩ := List.exists_cons_of_ne_nil hne
    obtain ⟨-, hminus, hplus⟩ := isSpace_of_isDigit (hdigits c (hcs ▸ List.mem_cons_self))
    rw [hcs]
    unfold signed
    split <;> simp_all
  rw [decimal?, hsigned, h]
  rfl

/-- `stoi` of digits: their number, if it fits an `int`. -/
theorem stoi_of_digits? {s : String} {n : Nat} (h : digits? s.toList = some n) :
    stoi s = if n < 2 ^ 31 then some (n : Int) else none := by
  rw [stoi_eq_filter, leadingInt_of_decimal? (decimal?_of_digits? h), Option.filter_some]
  refine if_congr ?_ rfl rfl
  rw [decide_eq_true_eq]
  omega

/-- The characters of the text of a number. -/
theorem isDigit_or_minus_of_mem_toString {z : Int} {c : Char} (h : c ∈ (toString z).toList) :
    c.isDigit ∨ c = '-' := by
  rw [Int.toString_eq_repr, Int.repr_eq_if] at h
  split_ifs at h
  · rw [Nat.toList_repr] at h
    exact .inl (Nat.isDigit_of_mem_toDigits (by decide) (by decide) h)
  · rw [String.toList_append, Nat.toList_repr, List.mem_append] at h
    rcases h with hminus | hdigit
    · exact .inr (List.mem_singleton.mp hminus)
    · exact .inl (Nat.isDigit_of_mem_toDigits (by decide) (by decide) hdigit)

/-- The text of a number is its decimal text. -/
theorem decimal?_toString (z : Int) : decimal? (toString z) = some z := by
  rw [Int.toString_eq_repr, Int.repr_eq_if]
  split_ifs with hpos
  · have hdigits : digits? z.toNat.repr.toList = some z.toNat := by
      rw [Nat.toList_repr, digits?_toDigits]
    rw [decimal?_of_digits? hdigits, Int.toNat_of_nonneg hpos]
  · have hsigned : signed ("-" ++ (-z).toNat.repr).toList =
        (true, Nat.toDigits 10 (-z).toNat) := by
      rw [String.toList_append, Nat.toList_repr]
      rfl
    rw [decimal?, hsigned, digits?_toDigits, Option.map_some, if_pos rfl,
      Int.toNat_of_nonneg (by omega), neg_neg]

end Text
