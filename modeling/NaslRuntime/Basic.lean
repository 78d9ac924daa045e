import Mathlib

/-!
The values a NASL builtin is called with, and the few pieces of Rust the models of the later
modules are written in.

The value model, the `Register`, the storage error and the Rust library conversions are not
part of the sources. They are modelled from the specification (§3, §6) and from the standard
library's documented behaviour, with exactly what the modelled functions inspect. A panic is an
ordinary result here (`Outcome`), so that "this never panics" is a statement about a function.
-/

namespace NaslRuntime

/-! ### Panics -/

/-- What a call of a Rust function returning `Result<α, ε>` comes to: the value it returns,
the error it returns, or the message it panics with. -/
inductive Outcome (ε α : Type) where
  | ok (value : α)
  | err (error : ε)
  | panic (message : String)
  deriving DecidableEq, Repr

/-- `Option::expect`: the value, or a panic with the caller's message. -/
def expect {ε α : Type} (msg : String) : Option α → Outcome ε α
  | some a => .ok a
  | none => .panic msg

/-- `Option::unwrap`, which is `expect` with the library's own message. -/
def unwrap {ε α : Type} : Option α → Outcome ε α :=
  expect "called `Option::unwrap()` on a `None` value"

@[simp] theorem expect_some {ε α : Type} (msg : String) (a : α) :
    (expect msg (some a) : Outcome ε α) = .ok a := rfl

@[simp] theorem expect_none {ε α : Type} (msg : String) :
    (expect msg none : Outcome ε α) = .panic msg := rfl

@[simp] theorem unwrap_some {ε α : Type} (a : α) :
    (unwrap (some a) : Outcome ε α) = .ok a := rfl

/-! ### Machine integers

An `i64` is its 64 bits, read as a signed number by `BitVec.toInt`. A `usize` has the width
`w` of the target, which no function here fixes: every result below is for all `w`. -/

/-- `usize::MIN`. -/
def usizeMin : Nat := 0

/-- `usize::MAX` on a target whose `usize` has `w` bits. -/
def usizeMax (w : Nat) : Nat := 2 ^ w - 1

/-- `core::num::TryFromIntError`, which carries nothing. -/
structure TryFromIntError
  deriving DecidableEq, Repr

/-- `<usize as TryFrom<i64>>::try_from`: the same number when it lies in
`usize::MIN ..= usize::MAX`, and `TryFromIntError` otherwise. -/
def usizeTryFrom (w : Nat) (x : BitVec 64) : Except TryFromIntError (BitVec w) :=
  if (usizeMin : Int) ≤ x.toInt ∧ x.toInt ≤ (usizeMax w : Int) then
    .ok (BitVec.ofNat w x.toInt.toNat)
  else .error {}

/-- `usize::MAX` as an integer. -/
theorem usizeMax_cast (w : Nat) : ((usizeMax w : Nat) : Int) = 2 ^ w - 1 := by
  have := Nat.one_le_two_pow (n := w)
  simp only [usizeMax]; push_cast [this]; ring

/-- The range check of the conversion, read as `0 ≤ x < 2 ^ w`. -/
theorem usizeTryFrom_eq (w : Nat) (x : BitVec 64) :
    usizeTryFrom w x =
      if 0 ≤ x.toInt ∧ x.toInt < 2 ^ w then .ok (BitVec.ofNat w x.toInt.toNat)
      else .error {} := by
  unfold usizeTryFrom
  rw [usizeMin, Nat.cast_zero, usizeMax_cast]
  by_cases h : 0 ≤ x.toInt ∧ x.toInt < 2 ^ w
  · rw [if_pos h, if_pos (by omega)]
  · rw [if_neg h, if_neg (by omega)]

/-- The conversion succeeds exactly on `0 ≤ x < 2 ^ w`, and then keeps the number: it
neither wraps nor truncates. -/
theorem usizeTryFrom_eq_ok {w : Nat} {x : BitVec 64} {y : BitVec w} :
    usizeTryFrom w x = .ok y ↔
      0 ≤ x.toInt ∧ x.toInt < 2 ^ w ∧ (y.toNat : Int) = x.toInt := by
  rw [usizeTryFrom_eq]
  split
  case isTrue h =>
    have hpow : ((2 ^ w : Nat) : Int) = 2 ^ w := by push_cast; rfl
    have hlt : x.toInt.toNat < 2 ^ w := by omega
    rw [Except.ok.injEq, BitVec.toNat_eq, BitVec.toNat_ofNat, Nat.mod_eq_of_lt hlt]
    omega
  case isFalse h =>
    simp only [reduceCtorEq, false_iff]
    omega

theorem usizeTryFrom_eq_error {w : Nat} {x : BitVec 64} (h : x.toInt < 0 ∨ 2 ^ w ≤ x.toInt) :
    usizeTryFrom w x = .error {} := by
  rw [usizeTryFrom_eq, if_neg (by omega)]

/-- An `i64` that is not negative is below `2 ^ 63`, and is then its unsigned value. -/
theorem toInt_nonneg_lt {x : BitVec 64} (h : 0 ≤ x.toInt) :
    x.toInt < 2 ^ 63 ∧ x.toInt = x.toNat := by
  have := x.isLt
  rw [BitVec.toInt_eq_toNat_cond] at h ⊢
  split <;> omega

theorem usizeTryFrom_of_lt {w : Nat} {x : BitVec 64} (h0 : 0 ≤ x.toInt) (hlt : x.toInt < 2 ^ w) :
    usizeTryFrom w x = .ok (BitVec.ofNat w x.toNat) := by
  rw [usizeTryFrom_eq, if_pos ⟨h0, hlt⟩, (toInt_nonneg_lt h0).2, Int.toNat_ofNat]

/-! ### Values

The specification's value model (§3): a tagged union of which the binder reads only the
integer, text and byte variants. `debug` is the `{:?}` rendering that error messages quote,
the variant's name around its payload as `#[derive(Debug)]` writes it, with text quoted and
escaped as the `Debug` of a `str` does. -/

/-- `char::escape_debug` as the `Debug` of a `str` applies it: a backslash before `\0`, `\t`,
`\r`, `\n`, the backslash and the double quote, and `\u` with the code in lower-case hex for
the other ASCII control characters. Characters beyond ASCII are kept: the Unicode tables by
which Rust escapes some of them are left out. -/
def escapeDebug (c : Char) : List Char :=
  if c = '\x00' then ['\\', '0']
  else if c = '\t' then ['\\', 't']
  else if c = '\r' then ['\\', 'r']
  else if c = '\n' then ['\\', 'n']
  else if c = '\\' then ['\\', '\\']
  else if c = '"' then ['\\', '"']
  else if c.toNat < 0x20 ∨ c.toNat = 0x7f then
    ['\\', 'u', '\x7b'] ++ Nat.toDigits 16 c.toNat ++ ['\x7d']
  else [c]

/-- The `{:?}` of a `str`: the text between double quotes, each character escaped. -/
def debugStr (s : String) : String :=
  "\"" ++ String.mk (s.toList.flatMap escapeDebug) ++ "\""

example : debugStr "say \"hi\"\n" = "\"say \\\"hi\\\"\\n\"" := by decide

/-- Modelled from the spec: `NaslValue`, the value of a script expression. -/
inductive NaslValue where
  | string (s : String)
  | data (bytes : List UInt8)
  | number (n : BitVec 64)
  | array (items : List NaslValue)
  | boolean (b : Bool)
  | null

mutual

/-- Modelled from the spec: the `{:?}` rendering of a value. -/
def NaslValue.debug : NaslValue → String
  | .string s => "String(" ++ debugStr s ++ ")"
  | .data bytes => "Data(" ++ toString bytes ++ ")"
  | .number n => "Number(" ++ toString n.toInt ++ ")"
  | .array items => "Array([" ++ NaslValue.debugItems items ++ "])"
  | .boolean b => "Boolean(" ++ toString b ++ ")"
  | .null => "Null"

/-- The items of an array, rendered and separated by commas. -/
def NaslValue.debugItems : List NaslValue → String
  | [] => ""
  | [v] => v.debug
  | v :: vs => v.debug ++ ", " ++ NaslValue.debugItems vs

end

example : (NaslValue.array [.number (-1), .boolean true]).debug =
    "Array([Number(-1), Boolean(true)])" := by decide

/-- `str::as_bytes`: the UTF-8 encoding of a text. -/
def asBytes (s : String) : List UInt8 := s.toUTF8.data.toList

example : asBytes "é!" = [0xc3, 0xa9, 0x21] := by decide

/-- Modelled from the spec: an entry of the register, a value or a function reference. -/
inductive ContextType where
  | value (v : NaslValue)
  | function (name : String)

/-- Modelled from the spec: the `{:?}` rendering of an entry. -/
def ContextType.debug : ContextType → String
  | .value v => "Value(" ++ v.debug ++ ")"
  | .function name => "Function(" ++ name ++ ")"

/-- Modelled from the spec: the named arguments of one call. The positional sequence is left
out, since none of the modelled functions reads it. -/
structure Register where
  defined : List (String × ContextType)

/-- `Register::named`: the entry bound to a name. -/
def Register.named (register : Register) (key : String) : Option ContextType :=
  register.defined.lookup key

/-! ### Storage -/

/-- Modelled from the spec: the storage collaborator's error (§6). Its only distinguished
tag is the transient `Retry`; every other cause is kept as its description. -/
inductive StorageError where
  | retry (reason : String)
  | other (reason : String)
  deriving DecidableEq, Repr

end NaslRuntime
