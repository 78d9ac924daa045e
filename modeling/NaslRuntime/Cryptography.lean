import NaslRuntime.Basic

/-!
The argument binder of the cryptography builtins, `built_in_functions/cryptography/mod.rs`:
the lookup that finds a function among the five cipher modules, and the getters that read
a typed named argument out of the register, with the errors they raise.

The getters are written against an older error type of the interpreter crate,
`FunctionError { function, kind: FunctionErrorKind }`, which is not in the sources. The three
kinds used here and the two `From` conversions the getters call are modelled from §4.2 of the
specification, with the message text of `ArgumentError::wrong_argument`.
-/

namespace NaslRuntime.Cryptography

/-! ### Errors -/

/-- Modelled from the spec: the kinds of `FunctionErrorKind` the binder raises, an absent
required argument, an argument of the wrong kind, and a number out of range. -/
inductive FunctionErrorKind where
  | missingNamed (names : List String)
  | wrongArgument (message : String)
  | generalError (message : String)
  deriving DecidableEq, Repr

/-- Modelled from the spec: `From<(&str, &str, &str)>`, a present argument of the wrong kind
given as its key, the expected kind and the rendering of what was found. -/
def FunctionErrorKind.ofWrongKind (key expected got : String) : FunctionErrorKind :=
  .wrongArgument ("Expected " ++ key ++ " to be " ++ expected ++ " but it is " ++ got)

/-- Modelled from the spec: `From<&str>`, an absent required argument given as its key. -/
def FunctionErrorKind.ofMissing (key : String) : FunctionErrorKind :=
  .missingNamed [key]

/-- Modelled from the spec: `FunctionError`, the failing function and what went wrong. -/
structure FunctionError where
  function : String
  kind : FunctionErrorKind
  deriving DecidableEq, Repr

/-- `FunctionError::new`. -/
def FunctionError.new (function : String) (kind : FunctionErrorKind) : FunctionError :=
  { function, kind }

/-! ### Finding a function

The modules' own tables are not in the sources, so each module is its `lookup` function. -/

/-- `lookup`: the five cipher modules asked in a fixed order, by `Option::or_else`. -/
def lookup {F : Type} (aesCcm hmac aesCbc aesCtr aesGcm : String → Option F)
    (functionName : String) : Option F :=
  ((((aesCcm functionName).orElse fun _ => hmac functionName).orElse
    fun _ => aesCbc functionName).orElse fun _ => aesCtr functionName).orElse
      fun _ => aesGcm functionName

/-! ### Reading a named argument

`get_named_data` and `get_named_number` have one shape, `getNamed`: the payload of an entry of
the kind they accept, an error naming the key and the expected kind for any other entry, and
for an absent key an error exactly when it is required. The source's comments say that a getter
called with `required` false returns no error; an entry of another kind is an error whatever
`required` is (`getNamed_error`). -/

/-- The shape of `get_named_data` and `get_named_number`, for the kinds `accept` takes. -/
def getNamed {α : Type} (accept : ContextType → Option α) (expected : String)
    (register : Register) (key : String) (required : Bool) (function : String) :
    Except FunctionError (Option α) :=
  match register.named key with
  | some x =>
    match accept x with
    | some a => .ok (some a)
    | none => .error (.new function (.ofWrongKind key expected x.debug))
  | none => if required then .error (.new function (.ofMissing key)) else .ok none

/-- The entries `get_named_data` accepts: bytes, and text as its UTF-8 bytes. -/
def ContextType.data? : ContextType → Option (List UInt8)
  | .value (.data x) => some x
  | .value (.string x) => some (asBytes x)
  | _ => none

/-- The entries `get_named_number` accepts. -/
def ContextType.number? : ContextType → Option (BitVec 64)
  | .value (.number x) => some x
  | _ => none

/-- `get_named_data`. -/
def getNamedData (register : Register) (key : String) (required : Bool) (function : String) :
    Except FunctionError (Option (List UInt8)) :=
  getNamed ContextType.data? "a String or Data Value" register key required function

/-- `get_named_number`. -/
def getNamedNumber (register : Register) (key : String) (required : Bool) (function : String) :
    Except FunctionError (Option (BitVec 64)) :=
  getNamed ContextType.number? "a Number Value" register key required function

section GetNamed

variable {α : Type} {accept : ContextType → Option α} {expected : String}
  {register : Register} {key : String} {required : Bool} {function : String}

/-- A required argument is never reported absent without an error. -/
theorem getNamed_required_ne_none :
    getNamed accept expected register key true function ≠ .ok none := by
  unfold getNamed
  split
  · split <;> simp
  · simp

/-- Every error of a getter names the calling function, and is either the missing key or the
wrong kind of the entry found, with the key, the expected kind and that entry's rendering. -/
theorem getNamed_error {e : FunctionError}
    (h : getNamed accept expected register key required function = .error e) :
    e.function = function ∧
      (e.kind = .missingNamed [key] ∧ register.named key = none ∧ required = true ∨
        ∃ x, register.named key = some x ∧ accept x = none ∧
          e.kind = .wrongArgument
            ("Expected " ++ key ++ " to be " ++ expected ++ " but it is " ++ x.debug)) := by
  unfold getNamed at h
  split at h
  case h_1 x hx =>
    split at h
    · cases h
    · cases h
      exact ⟨rfl, .inr ⟨x, hx, ‹_›, rfl⟩⟩
  case h_2 hx =>
    cases required
    · cases h
    · cases h
      exact ⟨rfl, .inl ⟨rfl, hx, rfl⟩⟩

end GetNamed

/-! ### The required byte arguments

`get_key`, `get_data` and `get_iv` differ only in their key: each is `getRequiredData` at it. -/

/-- `Ok(get_named_data(register, key, true, function)?.unwrap())`. -/
def getRequiredData (key : String) (register : Register) (function : String) :
    Outcome FunctionError (List UInt8) :=
  match getNamedData register key true function with
  | .error e => .err e
  | .ok x => unwrap x

/-- `get_key`. -/
def getKey (register : Register) (function : String) : Outcome FunctionError (List UInt8) :=
  getRequiredData "key" register function

/-- `get_data`. -/
def getData (register : Register) (function : String) : Outcome FunctionError (List UInt8) :=
  getRequiredData "data" register function

/-- `get_iv`. -/
def getIv (register : Register) (function : String) : Outcome FunctionError (List UInt8) :=
  getRequiredData "iv" register function

section Required

variable {key : String} {register : Register} {function : String}

/-- The `unwrap` is never reached on `None`: the result is read off the entry of the key, as
its bytes or as an error. -/
theorem getRequiredData_eq :
    getRequiredData key register function =
      match register.named key with
      | some x => (ContextType.data? x).elim
          (.err (.new function (.ofWrongKind key "a String or Data Value" x.debug))) .ok
      | none => .err (.new function (.ofMissing key)) := by
  unfold getRequiredData getNamedData getNamed
  cases register.named key with
  | none => rfl
  | some x => cases h : ContextType.data? x <;> simp [h, unwrap]

theorem getRequiredData_eq_ok {b : List UInt8} :
    getRequiredData key register function = .ok b ↔
      register.named key = some (.value (.data b)) ∨
        ∃ s, register.named key = some (.value (.string s)) ∧ b = asBytes s := by
  rw [getRequiredData_eq]
  cases register.named key with
  | none => simp
  | some x => rcases x with ⟨_ | _ | _ | _ | _ | _⟩ | _ <;> simp [ContextType.data?, eq_comm]

theorem getRequiredData_ok_or_err :
    (∃ b, getRequiredData key register function = .ok b) ∨
      ∃ e, getRequiredData key register function = .err e := by
  rw [getRequiredData_eq]
  cases register.named key with
  | none => simp
  | some x => cases h : ContextType.data? x <;> simp [h]

end Required

/-- The required getters never panic: `get_named_data` never answers a required argument with
`Ok(None)`, so the `unwrap` in `get_key`, `get_data` and `get_iv` is unreachable. Each returns
the bytes of the entry of its key, a `Data` value or a `String` taken as UTF-8, and an error
for anything else; no other entry of the register matters. -/
theorem required_getters_never_panic :
    (∀ register key function, getNamedData register key true function ≠ .ok none) ∧
    ∀ get ∈ [(getKey, "key"), (getData, "data"), (getIv, "iv")],
      ∀ (register : Register) (function : String),
        ((∃ b, get.1 register function = .ok b) ∨ ∃ e, get.1 register function = .err e) ∧
        (∀ b, get.1 register function = .ok b ↔
          register.named get.2 = some (.value (.data b)) ∨
            ∃ s, register.named get.2 = some (.value (.string s)) ∧ b = asBytes s) ∧
        ∀ register' : Register, register'.named get.2 = register.named get.2 →
          get.1 register' function = get.1 register function := by
  refine ⟨fun _ _ _ => getNamed_required_ne_none, ?_⟩
  simp only [List.mem_cons, List.mem_singleton, List.not_mem_nil, or_false]
  rintro get (rfl | rfl | rfl) register function
  all_goals
    refine ⟨getRequiredData_ok_or_err, fun _ => getRequiredData_eq_ok, fun register' h => ?_⟩
    simp only [getKey, getData, getIv, getRequiredData_eq, h]

theorem required_getters_never_panic_text_key :
    getKey ⟨[("key", .value (.string "é"))]⟩ "aes_cbc_encrypt" = .ok [0xc3, 0xa9] :=
  ((required_getters_never_panic.2 (getKey, "key") (by simp)
    ⟨[("key", .value (.string "é"))]⟩ "aes_cbc_encrypt").2.1 _).mpr
      (.inr ⟨"é", rfl, by decide⟩)

/-! ### The optional length -/

/-- `get_len`: the optional `len` argument as a `usize` of `w` bits. A number outside
`usize::MIN ..= usize::MAX` is reported, with both bounds and the number, not narrowed. -/
def getLen (w : Nat) (register : Register) (function : String) :
    Except FunctionError (Option (BitVec w)) := do
  let buf ← getNamedNumber register "len" false function
  match buf with
  | none => .ok none
  | some x =>
    match usizeTryFrom w x with
    | .ok y => .ok (some y)
    | .error _ => .error (.new function (.generalError
        ("System only supports numbers between " ++ toString usizeMin ++ " and " ++
          toString (usizeMax w) ++ " but was " ++ toString x.toInt)))

section Len

variable {w : Nat} {register : Register} {function : String}

theorem getLen_eq_ok_none :
    getLen w register function = .ok none ↔ register.named "len" = none := by
  unfold getLen getNamedNumber getNamed
  cases register.named "len" with
  | none => simp [bind, Except.bind]
  | some c =>
    cases h : ContextType.number? c with
    | none => simp [h, bind, Except.bind]
    | some x => cases hx : usizeTryFrom w x <;> simp [h, hx, bind, Except.bind]

theorem getLen_eq_ok_some {y : BitVec w} :
    getLen w register function = .ok (some y) ↔
      ∃ x, register.named "len" = some (.value (.number x)) ∧ usizeTryFrom w x = .ok y := by
  unfold getLen getNamedNumber getNamed
  cases register.named "len" with
  | none => simp [bind, Except.bind]
  | some c =>
    rcases c with ⟨_ | _ | x | _ | _ | _⟩ | _
    case value.number =>
      cases hx : usizeTryFrom w x <;> simp [hx, ContextType.number?, bind, Except.bind]
    all_goals simp [ContextType.number?, bind, Except.bind]

/-- A number out of range is reported, as a general error of the calling function, with
`usize::MIN`, `usize::MAX` and the number itself. -/
theorem getLen_out_of_range {x : BitVec 64} (hx : register.named "len" = some (.value (.number x)))
    (hout : x.toInt < 0 ∨ 2 ^ w ≤ x.toInt) :
    getLen w register function = .error (.new function (.generalError
      ("System only supports numbers between " ++ toString usizeMin ++ " and " ++
        toString (usizeMax w) ++ " but was " ++ toString x.toInt))) := by
  simp [getLen, getNamedNumber, getNamed, hx, ContextType.number?, usizeTryFrom_eq_error hout,
    bind, Except.bind]

/-- A number in range is taken as the same length. -/
theorem getLen_of_lt {x : BitVec 64} (hx : register.named "len" = some (.value (.number x)))
    (h0 : 0 ≤ x.toInt) (hlt : x.toInt < 2 ^ w) :
    getLen w register function = .ok (some (BitVec.ofNat w x.toNat)) :=
  getLen_eq_ok_some.mpr ⟨x, hx, usizeTryFrom_of_lt h0 hlt⟩

example :
    getLen 64 ⟨[("len", .value (.number (-1)))]⟩ "aes_ctr_encrypt" =
      .error (.new "aes_ctr_encrypt" (.generalError
        "System only supports numbers between 0 and 18446744073709551615 but was -1")) :=
  rfl

theorem ContextType.number?_eq_none {c : ContextType} :
    ContextType.number? c = none ↔ ∀ x, c ≠ .value (.number x) := by
  rcases c with ⟨_ | _ | _ | _ | _ | _⟩ | _ <;> simp [ContextType.number?]

/-- An entry of another kind under `len` is reported as such, with its rendering. -/
theorem getLen_wrong_kind {c : ContextType} (hc : register.named "len" = some c)
    (hnum : ContextType.number? c = none) :
    getLen w register function =
      .error (.new function (.ofWrongKind "len" "a Number Value" c.debug)) := by
  simp [getLen, getNamedNumber, getNamed, hc, hnum, bind, Except.bind]

end Len

/-- The optional length never wraps or truncates: it is absent exactly when `len` is, a
number becomes a length exactly when it lies in `0 ≤ x < 2 ^ w`, and then as the same number,
and every number outside that range and every entry of another kind is an error. -/
theorem getLen_never_wraps (w : Nat) (register : Register) (function : String) :
    (getLen w register function = .ok none ↔ register.named "len" = none) ∧
    (∀ x, register.named "len" = some (.value (.number x)) →
      (∀ y, getLen w register function = .ok (some y) →
        0 ≤ x.toInt ∧ x.toInt < 2 ^ w ∧ (y.toNat : Int) = x.toInt) ∧
      (x.toInt < 0 ∨ 2 ^ w ≤ x.toInt → ∃ e, getLen w register function = .error e) ∧
      (0 ≤ x.toInt → x.toInt < 2 ^ w →
        getLen w register function = .ok (some (BitVec.ofNat w x.toNat)))) ∧
    (∀ c, register.named "len" = some c → (∀ x, c ≠ .value (.number x)) →
      ∃ e, getLen w register function = .error e) := by
  refine ⟨getLen_eq_ok_none,
    fun x hx => ⟨fun y hy => ?_, fun hout => ⟨_, getLen_out_of_range hx hout⟩,
      getLen_of_lt hx⟩,
    fun c hc hnum => ⟨_, getLen_wrong_kind hc (ContextType.number?_eq_none.mpr hnum)⟩⟩
  obtain ⟨x', hx', hy⟩ := getLen_eq_ok_some.mp hy
  rw [hx, Option.some.injEq, ContextType.value.injEq, NaslValue.number.injEq] at hx'
  exact hx' ▸ usizeTryFrom_eq_ok.mp hy

theorem getLen_never_wraps_minus_one :
    ∃ e, getLen 64 ⟨[("len", .value (.number (-1)))]⟩ "aes_ctr_encrypt" = .error e :=
  ((getLen_never_wraps 64 ⟨[("len", .value (.number (-1)))]⟩ "aes_ctr_encrypt").2.1 (-1)
    rfl).2.1 (.inl (by decide))

/-! ### The length on targets of different widths -/

section Width

variable {w : Nat} {register : Register} {function : String}

/-- On a target whose `usize` has at least 63 bits every `i64` that is not negative fits:
`get_len` takes such a number as the same length, and rejects exactly the negative ones. -/
theorem getLen_wide_target (hw : 63 ≤ w) {x : BitVec 64}
    (hx : register.named "len" = some (.value (.number x))) :
    ((∃ e, getLen w register function = .error e) ↔ x.toInt < 0) ∧
      (0 ≤ x.toInt → getLen w register function = .ok (some (BitVec.ofNat w x.toNat))) := by
  have hpow : (2 : Int) ^ 63 ≤ 2 ^ w := pow_le_pow_right₀ (by norm_num) hw
  have hok : 0 ≤ x.toInt → getLen w register function = .ok (some (BitVec.ofNat w x.toNat)) :=
    fun h0 => getLen_of_lt hx h0 (by have := (toInt_nonneg_lt h0).1; omega)
  refine ⟨⟨fun ⟨e, he⟩ => ?_, fun h => ⟨_, getLen_out_of_range hx (.inl h)⟩⟩, hok⟩
  by_contra h
  rw [hok (by omega)] at he
  cases he

theorem getLen_wide_target_minus_one :
    (∃ e, getLen 64 ⟨[("len", .value (.number (-1)))]⟩ "aes_ctr_encrypt" = .error e) :=
  (@getLen_wide_target 64 ⟨[("len", .value (.number (-1)))]⟩ "aes_ctr_encrypt" (by decide) (-1)
    rfl).1.mpr (by decide)

/-- A length accepted on one target is accepted, as the same number, on every wider one. -/
theorem getLen_widen {w' : Nat} (hw : w ≤ w') {y : BitVec w}
    (hy : getLen w register function = .ok (some y)) :
    getLen w' register function = .ok (some (BitVec.ofNat w' y.toNat)) := by
  obtain ⟨x, hx, hxy⟩ := getLen_eq_ok_some.mp hy
  obtain ⟨h0, hlt, heq⟩ := usizeTryFrom_eq_ok.mp hxy
  have hpow : (2 : Int) ^ w ≤ 2 ^ w' := pow_le_pow_right₀ (by norm_num) hw
  have hy : y.toNat = x.toNat := by have := (toInt_nonneg_lt h0).2; omega
  exact getLen_eq_ok_some.mpr ⟨x, hx, hy ▸ usizeTryFrom_of_lt h0 (by omega)⟩

theorem getLen_widen_four_gib :
    getLen 64 ⟨[("len", .value (.number 4294967295))]⟩ "aes_ctr_encrypt" =
      .ok (some (BitVec.ofNat 64 (4294967295 : BitVec 32).toNat)) :=
  @getLen_widen 32 ⟨[("len", .value (.number 4294967295))]⟩ "aes_ctr_encrypt" 64 (by decide)
    4294967295 rfl

end Width

end NaslRuntime.Cryptography
