namespace RecordQuery

inductive Width where
  | i8 | i16 | i32 | i64
  | u8 | u16 | u32 | u64
  deriving DecidableEq, Repr

namespace Width

def least : Width → Int
  | i8 => -128
  | i16 => -32768
  | i32 => -2147483648
  | i64 => -9223372036854775808
  | u8 | u16 | u32 | u64 => 0

def greatest : Width → Int
  | i8 => 127
  | i16 => 32767
  | i32 => 2147483647
  | i64 => 9223372036854775807
  | u8 => 255
  | u16 => 65535
  | u32 => 4294967295
  | u64 => 18446744073709551615

def name : Width → String
  | i8 => "i8"
  | i16 => "i16"
  | i32 => "i32"
  | i64 => "i64"
  | u8 => "u8"
  | u16 => "u16"
  | u32 => "u32"
  | u64 => "u64"

def Fits (width : Width) (n : Int) : Prop :=
  width.least ≤ n ∧ n ≤ width.greatest

instance (width : Width) (n : Int) : Decidable (width.Fits n) :=
  inferInstanceAs (Decidable (_ ∧ _))

end Width

structure Integer where
  width : Width
  value : Int
  fits : width.Fits value
  deriving DecidableEq, Repr

def Integer.ofInt? (width : Width) (n : Int) : Option Integer :=
  if h : width.Fits n then some ⟨width, n, h⟩ else none

namespace Numeral

def digit? (c : Char) : Option Nat :=
  if '0' ≤ c ∧ c ≤ '9' then some (c.toNat - '0'.toNat)
  else if 'a' ≤ c ∧ c ≤ 'f' then some (c.toNat - 'a'.toNat + 10)
  else if 'A' ≤ c ∧ c ≤ 'F' then some (c.toNat - 'A'.toNat + 10)
  else none

def push (radix : Nat) (n : Nat) (c : Char) : Option Nat :=
  (digit? c).bind fun d => if d < radix then some (n * radix + d) else none

def digits (radix : Nat) : List Char → Option Nat
  | [] => none
  | c :: cs => (c :: cs).foldlM (push radix) 0

/-- `0x`, `0X` and `#` announce hexadecimal digits, and a zero before further digits octal ones. -/
def magnitude : List Char → Option Nat
  | '0' :: 'x' :: cs => digits 16 cs
  | '0' :: 'X' :: cs => digits 16 cs
  | '#' :: cs => digits 16 cs
  | '0' :: c :: cs => digits 8 (c :: cs)
  | cs => digits 10 cs

def signed (negative : Bool) (n : Nat) : Int :=
  if negative then -n else n

def integer? (literal : String) : Option Int :=
  match literal.toList with
  | '-' :: cs => (magnitude cs).map (signed true)
  | '+' :: cs => (magnitude cs).map (signed false)
  | cs => (magnitude cs).map (signed false)

end Numeral

end RecordQuery
