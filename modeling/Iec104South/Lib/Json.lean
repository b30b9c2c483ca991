import Mathlib.Algebra.Group.Int.Defs
import Mathlib.Algebra.Group.Nat.Defs
import Mathlib.Data.List.Basic
import Mathlib.Data.List.TakeWhile
import Mathlib.Tactic.SplitIfs

/-!
# Parsed JSON and the strings in it

A JSON document as a parser hands it over, and what a C++ program reads out of it: a
member is found by its name, the first one if there are several; a number is an `int`
when it is an integer literal in range; a string read as a C string ends at its first NUL.

The conversions of strings are those of the standard library, for plain decimal input.
-/

/-- A parsed document. A number that is not an integer literal is a `double`. -/
inductive Json where
  | null
  | bool (value : Bool)
  | int (value : Int)
  | double (bits : BitVec 64)
  | string (value : String)
  | array (elements : List Json)
  | object (members : List (String × Json))

namespace Json

/-- The string up to its first NUL, which is what `GetString` shows to a `std::string`. -/
def cString (s : String) : String := String.ofList (s.toList.takeWhile (· ≠ '\x00'))

/-- The string has no NUL: all of it is shown. -/
def IsCString (s : String) : Prop := '\x00' ∉ s.toList

instance (s : String) : Decidable (IsCString s) := inferInstanceAs (Decidable (_ ∉ s.toList))

theorem cString_of_isCString {s : String} (h : IsCString s) : cString s = s := by
  have hall : s.toList.takeWhile (· ≠ '\x00') = s.toList :=
    List.takeWhile_eq_self_iff.mpr fun c hc => decide_eq_true fun heq => h (heq ▸ hc)
  rw [cString, hall, String.ofList_toList]

theorem isCString_cString (s : String) : IsCString (cString s) := by
  rw [IsCString, cString, String.toList_ofList]
  exact fun h => by simpa using List.mem_takeWhile_imp h

def object? : Json → Option (List (String × Json))
  | object members => some members
  | _ => none

def array? : Json → Option (List Json)
  | array elements => some elements
  | _ => none

def string? : Json → Option String
  | string value => some (cString value)
  | _ => none

def bool? : Json → Option Bool
  | bool value => some value
  | _ => none

/-- `IsInt` and `GetInt`: integer literals outside 32 bits are no `int`. -/
def int? : Json → Option Int
  | int value => if -2 ^ 31 ≤ value ∧ value < 2 ^ 31 then some value else none
  | _ => none

theorem string?_of_isCString {s : String} (h : IsCString s) : (string s).string? = some s :=
  congrArg some (cString_of_isCString h)

theorem isCString_of_string? {j : Json} {s : String} (h : j.string? = some s) : IsCString s := by
  cases j with
  | string value =>
    obtain rfl : cString value = s := Option.some.inj h
    exact isCString_cString value
  | _ => cases h

theorem int?_bounds {j : Json} {n : Int} (h : j.int? = some n) : -2 ^ 31 ≤ n ∧ n < 2 ^ 31 := by
  unfold int? at h
  split at h
  · split_ifs at h with hrange
    cases h
    exact hrange
  · cases h

theorem object?_eq_some {j : Json} {members : List (String × Json)} :
    j.object? = some members ↔ j = .object members := by
  cases j <;> simp [object?]

/-- The member of the name, if there is one and it has the type `read` asks for. -/
def member? {α : Type} (members : List (String × Json)) (name : String)
    (read : Json → Option α) : Option α :=
  (members.lookup name).bind read

theorem member?_eq_some {α : Type} {members : List (String × Json)} {name : String}
    {read : Json → Option α} {a : α} :
    member? members name read = some a ↔ ∃ v, members.lookup name = some v ∧ read v = some a :=
  Option.bind_eq_some_iff

end Json

/-! ## Strings -/

namespace Text

/-- `isspace` in the C locale. -/
def isSpace (c : Char) : Bool := c ∈ [' ', '\t', '\n', '\x0b', '\x0c', '\r']

/-- The value of a string of digits. -/
def ofDigits (digits : List Char) : Nat :=
  digits.foldl (fun n d => 10 * n + (d.toNat - '0'.toNat)) 0

/-- `std::stoi`: white space, a sign, and as many digits as follow. `none` is either of its
exceptions, no digit at all or a value outside 32 bits. -/
def stoi (s : String) : Option Int :=
  let s := s.toList.dropWhile isSpace
  let (negative, s) : Bool × List Char :=
    match s with
    | '-' :: s => (true, s)
    | '+' :: s => (false, s)
    | s => (false, s)
  match s.takeWhile Char.isDigit with
  | [] => none
  | digits =>
    let value : Int := if negative then -(ofDigits digits : Int) else ofDigits digits
    if -2 ^ 31 ≤ value ∧ value < 2 ^ 31 then some value else none

/-- The number at the start of a string: white space, a sign, and as many digits as follow.
`none` if there is no digit. -/
def leadingInt (s : String) : Option Int :=
  let s := s.toList.dropWhile isSpace
  let (negative, s) : Bool × List Char :=
    match s with
    | '-' :: s => (true, s)
    | '+' :: s => (false, s)
    | s => (false, s)
  match s.takeWhile Char.isDigit with
  | [] => none
  | digits => if negative then some (-(ofDigits digits : Int)) else some (ofDigits digits)

/-- `std::stol` for a `long` of 64 bits; `none` is either of its exceptions, no digit at all or
a value outside 64 bits. -/
def stol (s : String) : Option Int :=
  (leadingInt s).filter fun value => -2 ^ 63 ≤ value ∧ value < 2 ^ 63

/-- `atoi`, which is `strtol` converted to an `int`: 0 if there is no digit, a value outside 64
bits replaced by the nearest one inside, and of the result the low 32 bits. -/
def atoi (s : String) : Int :=
  (max (-2 ^ 63) (min ((leadingInt s).getD 0) (2 ^ 63 - 1))).bmod (2 ^ 32)

/-- The parts of a string between the delimiters. -/
def tokenize (delimiter : Char) (s : String) : List String :=
  (s.toList.splitOn delimiter).map String.ofList

/-- The parts of a string before and after its first separator. -/
def splitAtFirst (separator : Char) (s : String) : Option (String × String) :=
  let s := s.toList
  if separator ∈ s then
    some (String.ofList (s.takeWhile (· ≠ separator)),
      String.ofList ((s.dropWhile (· ≠ separator)).drop 1))
  else none

/-- One of the four numbers of a dotted address: up to three digits, no leading zero. -/
def isOctet (digits : String) : Bool :=
  let digits := digits.toList
  digits.all Char.isDigit && (digits == ['0'] ||
    (digits.head? != none && digits.head? != some '0' && digits.length ≤ 3 &&
      ofDigits digits ≤ 255))

/-- `inet_pton` accepts the string as an IPv4 address. -/
def isDottedQuad (s : String) : Bool :=
  let octets := tokenize '.' s
  octets.length == 4 && octets.all isOctet

/-- Signs and white space in front are read, what follows the digits is ignored. -/
example : stoi " -12x" = some (-12) ∧ stoi "x1" = none ∧ stoi "2147483648" = none := by decide

example : atoi "7x" = 7 ∧ atoi "x" = 0 ∧ atoi "4294967301" = 5 ∧
    stol "9223372036854775808" = none := by decide

example : isDottedQuad "127.0.0.1" ∧ ¬isDottedQuad "127.0.0.256" ∧ ¬isDottedQuad "1.2.3" := by
  decide

end Text
