import NaslRuntime.Basic

/-!
The error a builtin returns, `nasl::utils::error` of the sources. An `FnError` pairs one of
three kinds of failure with a retry flag and an optional fallback value. It is built by the
`From` conversions and the two helpers at the end of that file, augmented by
`with(ReturnValue(_))`, and taken apart again by the three `TryFrom` conversions.

The flag is meant to say "the storage asked for a retry" (`InternalError::retryable`). No way
of building an error sets it on any other kind (`Built.consistent`). But only
`From<InternalError>` computes it: `From<FnErrorKind>`, and `From<StorageError>` through it,
always clear it, so a storage `Retry` raised by `?` is not retryable
(`fromStorageError_retry_not_retryable`).
-/

namespace NaslRuntime

/-! ### Kinds of failure -/

/-- `ArgumentError`: the script called the builtin wrongly. -/
inductive ArgumentError where
  | missingPositionals (expected got : Nat)
  | trailingPositionals (expected got : Nat)
  | missingNamed (names : List String)
  | unexpectedArgument (name : String)
  | wrongArgument (message : String)
  deriving DecidableEq, Repr

/-- The `Display` text of each variant, as its `#[error(..)]` attribute writes it. -/
def ArgumentError.message : ArgumentError → String
  | .missingPositionals expected got =>
      "Missing positional arguments. Expected " ++ toString expected ++ " but got " ++
        toString got ++ "."
  | .trailingPositionals expected got =>
      "Trailing positional arguments. Expected " ++ toString expected ++ " but got " ++
        toString got ++ "."
  | .missingNamed names => "Missing named arguments: " ++ ", ".intercalate names
  | .unexpectedArgument name => "Unknown named argument given: " ++ name
  | .wrongArgument message => "Wrong arguments given: " ++ message

/-- `ArgumentError::wrong_argument`. -/
def ArgumentError.wrongArgumentOf (key expected got : String) : ArgumentError :=
  .wrongArgument ("Expected " ++ key ++ " to be " ++ expected ++ " but it is " ++ got)

/-- `InternalError`: the infrastructure failed. -/
inductive InternalError where
  | storage (err : StorageError)
  deriving DecidableEq, Repr

/-- `InternalError::retryable`: only a storage `Retry` may be repeated. -/
def InternalError.retryable : InternalError → Bool
  | .storage (.retry _) => true
  | .storage _ => false

/-- `FnErrorKind`. The builtin modules' own error type is not in the sources and nothing here
inspects it, so it is the parameter `BuiltinError`. -/
inductive FnErrorKind (BuiltinError : Type) where
  | argument (err : ArgumentError)
  | builtin (err : BuiltinError)
  | internal (err : InternalError)
  deriving DecidableEq, Repr

/-- `FnError`: the kind, the value the caller may use in place of a result, and whether the
call may be repeated. -/
structure FnError (BuiltinError : Type) where
  kind : FnErrorKind BuiltinError
  returnValue : Option NaslValue
  retryable : Bool

/-! ### Building an error -/

namespace FnError

variable {B : Type}

/-- `FnError::from_kind`: no fallback value, not retryable. -/
@[simps]
def fromKind (kind : FnErrorKind B) : FnError B :=
  { kind, returnValue := none, retryable := false }

/-- `From<FnErrorKind>`. -/
@[simp]
def fromFnErrorKind (kind : FnErrorKind B) : FnError B :=
  fromKind kind

/-- `From<ArgumentError>`. -/
@[simp]
def fromArgumentError (kind : ArgumentError) : FnError B :=
  fromKind (.argument kind)

/-- `From<BuiltinError>`. -/
@[simp]
def fromBuiltinError (kind : B) : FnError B :=
  fromKind (.builtin kind)

/-- `From<InternalError>`: the one constructor that asks the cause whether it is retryable. -/
@[simps]
def fromInternalError (kind : InternalError) : FnError B :=
  { kind := .internal kind, retryable := kind.retryable, returnValue := none }

/-- `From<StorageError>`, which goes through `From<FnErrorKind>`. -/
@[simp]
def fromStorageError (value : StorageError) : FnError B :=
  fromFnErrorKind (.internal (.storage value))

/-- `WithErrorInfo<ReturnValue<T>>::with`, once `T` has been turned `into()` a value. -/
@[simps]
def withReturnValue (e : FnError B) (val : NaslValue) : FnError B :=
  { e with returnValue := some val }

/-- `FnError::wrong_unnamed_argument`. -/
@[simp]
def wrongUnnamedArgument (expected got : String) : FnError B :=
  fromFnErrorKind (.argument (.wrongArgument ("Expected " ++ expected ++ " but " ++ got)))

/-- `FnError::missing_argument`. -/
@[simp]
def missingArgument (val : String) : FnError B :=
  fromFnErrorKind (.argument (.missingNamed [val]))

end FnError

/-! ### Taking an error apart

The three `TryFrom<FnError>` conversions differ only in the variant they accept: each is
`tryFromKind` at the projection onto its variant. -/

namespace FnErrorKind

variable {B : Type}

/-- The argument error a kind holds, if it is one. -/
def argument? : FnErrorKind B → Option ArgumentError
  | .argument e => some e
  | _ => none

/-- The builtin error a kind holds, if it is one. -/
def builtin? : FnErrorKind B → Option B
  | .builtin e => some e
  | _ => none

/-- The internal error a kind holds, if it is one. -/
def internal? : FnErrorKind B → Option InternalError
  | .internal e => some e
  | _ => none

end FnErrorKind

/-- `match value.kind { Variant(e) => Ok(e), _ => Err(()) }`, for the variant `select` picks. -/
def FnError.tryFromKind {BuiltinError α : Type}
    (select : FnErrorKind BuiltinError → Option α) (value : FnError BuiltinError) :
    Except Unit α :=
  match select value.kind with
  | some e => .ok e
  | none => .error ()

/-- `TryFrom<FnError> for ArgumentError`. -/
def ArgumentError.tryFrom {BuiltinError : Type} (value : FnError BuiltinError) :
    Except Unit ArgumentError :=
  value.tryFromKind FnErrorKind.argument?

/-- `TryFrom<FnError> for InternalError`. -/
def InternalError.tryFrom {BuiltinError : Type} (value : FnError BuiltinError) :
    Except Unit InternalError :=
  value.tryFromKind FnErrorKind.internal?

/-- `TryFrom<FnError> for BuiltinError`. -/
def BuiltinError.tryFrom {BuiltinError : Type} (value : FnError BuiltinError) :
    Except Unit BuiltinError :=
  value.tryFromKind FnErrorKind.builtin?

section TryFrom

variable {B : Type}

/-- Wrapping an error and converting it back returns it; and every error is exactly one of
argument, builtin or internal, whatever its fallback value and flag. -/
theorem tryFrom_from_roundtrip :
    (∀ a : ArgumentError,
      ArgumentError.tryFrom (FnError.fromArgumentError (B := B) a) = .ok a) ∧
    (∀ b : B, BuiltinError.tryFrom (FnError.fromBuiltinError b) = .ok b) ∧
    (∀ i : InternalError,
      InternalError.tryFrom (FnError.fromInternalError (B := B) i) = .ok i) ∧
    (∀ s : StorageError,
      InternalError.tryFrom (FnError.fromStorageError (B := B) s) =
        .ok (.storage s)) ∧
    (∀ e : FnError B,
      [(ArgumentError.tryFrom e).isOk, (BuiltinError.tryFrom e).isOk,
        (InternalError.tryFrom e).isOk].count true = 1) := by
  refine ⟨fun _ => rfl, fun _ => rfl, fun _ => rfl, fun _ => rfl, fun ⟨kind, _, _⟩ => ?_⟩
  cases kind <;> rfl

end TryFrom

/-! ### The retry flag -/

section Retry

variable {B : Type}

/-- The kind the flag is meant for: an internal error whose cause says it may be repeated. -/
def FnErrorKind.isRetry : FnErrorKind B → Bool
  | .internal e => e.retryable
  | _ => false

theorem FnErrorKind.isRetry_iff {kind : FnErrorKind B} :
    kind.isRetry = true ↔ ∃ reason, kind = .internal (.storage (.retry reason)) := by
  rcases kind with _ | _ | ⟨_ | _⟩ <;> simp [FnErrorKind.isRetry, InternalError.retryable]

/-- The invariant of the flag: it is set only on that kind. -/
def FnError.Consistent (e : FnError B) : Prop :=
  e.retryable = true → e.kind.isRetry = true

/-- The errors a builtin can build: a public constructor of `FnError`, then any number of
`with(ReturnValue(_))`. The field `kind` is public, so code assigning to it leaves this set;
no function of the sources does. -/
inductive FnError.Built : FnError B → Prop
  | fromFnErrorKind (kind : FnErrorKind B) : Built (.fromFnErrorKind kind)
  | fromArgumentError (kind : ArgumentError) : Built (.fromArgumentError kind)
  | fromBuiltinError (kind : B) : Built (.fromBuiltinError kind)
  | fromInternalError (kind : InternalError) : Built (.fromInternalError kind)
  | fromStorageError (value : StorageError) : Built (.fromStorageError value)
  | wrongUnnamedArgument (expected got : String) : Built (.wrongUnnamedArgument expected got)
  | missingArgument (val : String) : Built (.missingArgument val)
  | withReturnValue {e : FnError B} (val : NaslValue) :
      Built e → Built (e.withReturnValue val)

theorem FnError.consistent_fromKind (kind : FnErrorKind B) :
    (FnError.fromKind kind).Consistent := by
  simp [FnError.Consistent]

theorem FnError.consistent_fromInternalError (kind : InternalError) :
    (FnError.fromInternalError (B := B) kind).Consistent := fun h => h

theorem FnError.Consistent.withReturnValue {e : FnError B} (h : e.Consistent)
    (val : NaslValue) : (e.withReturnValue val).Consistent := h

/-- Every way of building an error keeps the flag on the kind it is meant for. -/
theorem FnError.Built.consistent {e : FnError B} (h : e.Built) : e.Consistent := by
  induction h with
  | fromInternalError kind => exact FnError.consistent_fromInternalError kind
  | withReturnValue val _ ih => exact ih.withReturnValue val
  | _ => exact FnError.consistent_fromKind _

/-- No argument or builtin error a builtin built is retryable. -/
theorem FnError.Built.retryable_eq_false {e : FnError B} (h : e.Built)
    (hk : (∃ a, e.kind = .argument a) ∨ ∃ b, e.kind = .builtin b) : e.retryable = false := by
  by_contra hr
  have := h.consistent (Bool.not_eq_false _ ▸ hr)
  rcases hk with ⟨a, ha⟩ | ⟨b, hb⟩ <;> simp_all [FnErrorKind.isRetry]

/-- A retryable error a builtin built went through `From<InternalError>` on a storage `Retry`:
it is that error, up to the fallback value given to it afterwards. -/
theorem FnError.Built.eq_fromInternalError {e : FnError B} (h : e.Built)
    (hr : e.retryable = true) :
    ∃ reason, e = { FnError.fromInternalError (.storage (.retry reason)) with
      returnValue := e.returnValue } := by
  induction h with
  | fromInternalError kind =>
    rcases kind with ⟨reason | _⟩
    · exact ⟨reason, rfl⟩
    · cases hr
  | withReturnValue val _ ih =>
    obtain ⟨reason, he⟩ := ih hr
    exact ⟨reason, by rw [he]; rfl⟩
  | _ => cases hr

/-- An error a builtin built is retryable only if it is a storage `Retry`; in particular no
argument or builtin error is; and `with` changes neither the kind nor the flag. -/
theorem built_retryable_storage_retry :
    (∀ e : FnError B, e.Built → e.retryable = true →
      ∃ reason, e.kind = .internal (.storage (.retry reason))) ∧
    (∀ e : FnError B, e.Built →
      (∃ a, e.kind = .argument a) ∨ (∃ b, e.kind = .builtin b) → e.retryable = false) ∧
    (∀ (e : FnError B) (v : NaslValue),
      (e.withReturnValue v).kind = e.kind ∧ (e.withReturnValue v).retryable = e.retryable) := by
  exact ⟨fun e he hr => FnErrorKind.isRetry_iff.mp (he.consistent hr),
    fun _ he hk => he.retryable_eq_false hk, fun _ _ => ⟨rfl, rfl⟩⟩

/-- The theorem at a retryable error that was given a fallback value afterwards. -/
theorem built_retryable_storage_retry_busy :
    ∃ reason, ((FnError.fromInternalError (B := Empty) (.storage (.retry "busy"))).withReturnValue
      .null).kind = .internal (.storage (.retry reason)) :=
  built_retryable_storage_retry.1 _ (.withReturnValue _ (.fromInternalError _)) rfl

/-- On a storage `Retry` they part: through `From<InternalError>` the error is retryable,
through `From<StorageError>` (what `?` uses) or `From<FnErrorKind>` it is not. -/
theorem fromStorageError_retry_not_retryable (reason : String) :
    (FnError.fromInternalError (B := B) (.storage (.retry reason))).retryable = true ∧
    (FnError.fromStorageError (B := B) (.retry reason)).retryable = false ∧
    (FnError.fromFnErrorKind (B := B) (.internal (.storage (.retry reason)))).retryable =
      false :=
  ⟨rfl, rfl, rfl⟩

end Retry

end NaslRuntime
