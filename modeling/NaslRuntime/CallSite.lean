import NaslRuntime.FnError

/-!
The call site of a builtin, as §4.4 and §5 of the specification describe it. The interpreter
code that runs it is not in the sources, so the definitions here are modelled from the spec;
they read an `FnError` only through its two getters, `retryable()` and `return_value()`.

One invocation's result is classified once (`classify`): a value continues the script, a
retryable error is invoked again while retries remain and the script is not cancelled, an
error with a fallback value continues with that value and a diagnostic, and any other error is
fatal. A run goes on past an invocation only on a retryable error (`invoke_cases`), so what the
taxonomy guarantees of the errors the code builds holds of every run: an argument or builtin
error ends it at the first invocation (`invoke_argument_or_builtin`), and every invocation it
retries returned a storage `Retry` raised through `From<InternalError>`
(`invoke_retries_storage_retry`); one raised with `?`, through `From<StorageError>`, is never
retried.
-/

namespace NaslRuntime.CallSite

/-- Modelled from the spec: the call site's decision on the result of one invocation. -/
inductive Action (B : Type) where
  | continueWith (value : NaslValue)
  | retry (err : FnError B)
  | substitute (value : NaslValue) (diagnostic : FnError B)
  | propagate (err : FnError B)

/-- Modelled from the spec: the table of §4.4, one row per case. -/
def classify {B : Type} : Except (FnError B) NaslValue → Action B
  | .ok v => .continueWith v
  | .error e =>
    if e.retryable then .retry e
    else
      match e.returnValue with
      | some v => .substitute v e
      | none => .propagate e

/-- Modelled from the spec: how a call site ends. -/
inductive Ending (B : Type) where
  | value (value : NaslValue)
  | substituted (value : NaslValue) (diagnostic : FnError B)
  | fatal (err : FnError B)
  | cancelled (err : FnError B)

/-- Modelled from the spec: invoke the builtin and act on its result, retrying while `budget`
retries remain. `builtin n` is what the `n`-th invocation returns and `cancelled n` whether the
script was aborted before it. The result is the ending and the number of invocations made. -/
def invoke {B : Type} (builtin : Nat → Except (FnError B) NaslValue) (cancelled : Nat → Bool) :
    Nat → Nat → Ending B × Nat
  | n, budget =>
    match classify (builtin n) with
    | .continueWith v => (.value v, n + 1)
    | .substitute v e => (.substituted v e, n + 1)
    | .propagate e => (.fatal e, n + 1)
    | .retry e =>
      match budget with
      | 0 => (.fatal e, n + 1)
      | budget + 1 =>
        if cancelled (n + 1) then (.cancelled e, n + 1)
        else invoke builtin cancelled (n + 1) budget

section Invoke

variable {B : Type} {builtin : Nat → Except (FnError B) NaslValue} {cancelled : Nat → Bool}

/-- The call site retries exactly the errors whose flag is set. -/
theorem classify_eq_retry {r : Except (FnError B) NaslValue} {e : FnError B} :
    classify r = .retry e ↔ r = .error e ∧ e.retryable = true := by
  rcases r with e' | v
  · simp only [classify, Except.error.injEq]
    split
    case isTrue hr => exact ⟨fun h => by cases h; exact ⟨rfl, hr⟩, fun ⟨h, _⟩ => h ▸ rfl⟩
    case isFalse hr =>
      refine ⟨fun h => (by split at h <;> cases h), ?_⟩
      rintro ⟨rfl, h⟩
      exact absurd h hr
  · simp [classify]

/-- What one invocation leads to: the call site ends there, or the invocation returned a
retryable error and the call site goes on to the next one with one retry fewer, the script not
being cancelled. -/
theorem invoke_cases (builtin : Nat → Except (FnError B) NaslValue) (cancelled : Nat → Bool)
    (n budget : Nat) :
    (invoke builtin cancelled n budget).2 = n + 1 ∨
      ∃ e rest, builtin n = .error e ∧ e.retryable = true ∧ budget = rest + 1 ∧
        cancelled (n + 1) = false ∧
        invoke builtin cancelled n budget = invoke builtin cancelled (n + 1) rest := by
  rw [invoke]
  split
  case h_4 e he =>
    obtain ⟨hn, hr⟩ := classify_eq_retry.mp he
    split
    · exact .inl rfl
    · split
      · exact .inl rfl
      · exact .inr ⟨e, _, hn, hr, rfl, Bool.eq_false_iff.mpr ‹_›, rfl⟩
  all_goals exact .inl rfl

/-- Every invocation of a run but the last returned a retryable error. -/
theorem invoke_retried {n budget k : Nat} (hk : n ≤ k)
    (hlast : k + 1 < (invoke builtin cancelled n budget).2) :
    ∃ e, builtin k = .error e ∧ e.retryable = true := by
  induction budget generalizing n with
  | zero => rcases invoke_cases builtin cancelled n 0 with h | ⟨_, _, _, _, h, -⟩ <;> omega
  | succ budget ih =>
    rcases invoke_cases builtin cancelled n (budget + 1) with h | ⟨e, rest, hn, hr, h, -, hrun⟩
    · omega
    · obtain rfl : rest = budget := by omega
      rcases Nat.eq_or_lt_of_le hk with rfl | hk
      · exact ⟨e, hn, hr⟩
      · exact ih hk (hrun ▸ hlast)

/-- Over a builtin whose every error is one the code builds, each invocation the call site
retries returned a storage `Retry` raised through `From<InternalError>`, with whatever fallback
value was given to it; an error raised through `From<StorageError>`, as `?` does, or an
argument or builtin error, is never retried. -/
theorem invoke_retries_storage_retry (hbuilt : ∀ k e, builtin k = .error e → e.Built)
    {n budget k : Nat} (hk : n ≤ k) (hlast : k + 1 < (invoke builtin cancelled n budget).2) :
    ∃ e reason, builtin k = .error e ∧
      e = { FnError.fromInternalError (.storage (.retry reason)) with
        returnValue := e.returnValue } := by
  obtain ⟨e, he, hr⟩ := invoke_retried hk hlast
  obtain ⟨reason, heq⟩ := (hbuilt k e he).eq_fromInternalError hr
  exact ⟨e, reason, he, heq⟩

/-- A builtin that stays busy: the call site retries it twice, and what it retried at the
second invocation is the `From<InternalError>` error. -/
theorem invoke_retries_storage_retry_busy :
    ∃ e reason, (.error (.fromInternalError (.storage (.retry "busy"))) :
        Except (FnError Empty) NaslValue) = .error e ∧
      e = { FnError.fromInternalError (.storage (.retry reason)) with
        returnValue := e.returnValue } :=
  @invoke_retries_storage_retry Empty
    (fun _ => .error (.fromInternalError (.storage (.retry "busy")))) (fun _ => false)
    (fun _ _ h => by cases h; exact .fromInternalError _) 0 2 1 (by decide) (by decide)

/-- An error that is not retryable is never retried: with a fallback value the call site
continues with exactly that value, otherwise the error is fatal. -/
theorem invoke_not_retryable {n budget : Nat} {e : FnError B} (he : builtin n = .error e)
    (hr : e.retryable = false) :
    invoke builtin cancelled n budget =
      ((match e.returnValue with
        | some v => .substituted v e
        | none => .fatal e), n + 1) := by
  unfold invoke
  simp only [he, classify, hr, Bool.false_eq_true, if_false]
  cases e.returnValue <;> rfl

/-- An argument or builtin error, however it was built, ends the call site at the first
invocation. -/
theorem invoke_argument_or_builtin {n budget : Nat} {e : FnError B} (hb : e.Built)
    (he : builtin n = .error e)
    (hk : (∃ a, e.kind = .argument a) ∨ ∃ b, e.kind = .builtin b) :
    (invoke builtin cancelled n budget).2 = n + 1 := by
  rw [invoke_not_retryable he (hb.retryable_eq_false hk)]

theorem invoke_argument_or_builtin_missing_key :
    (invoke (B := Empty) (fun _ => .error (.missingArgument "key")) (fun _ => false) 0 3).2 = 1 :=
  invoke_argument_or_builtin (.missingArgument "key") rfl (.inl ⟨_, rfl⟩)

end Invoke

end NaslRuntime.CallSite
