import NaslRuntime.Basic

/-!
`SshSession::call` of `builtin/ssh/russh/session.rs`: open a session channel, run a command on
it, copy what the command prints to stdout, and return its exit status.

The channel is what it yields, the finite sequence of messages `wait()` returns before `None`.
The loop keeps the last exit status it saw and goes on reading, since data may still follow,
so the result is the last `ExitStatus` of the whole sequence and stdout gets every `Data`
payload in arrival order (`call_exit_status`). A sequence with no `ExitStatus`, a command
ended by a signal or a channel closed early, reaches `code.expect(..)` on `None`: there `call`
panics rather than returning an error (`call_outcome`).

A write to stdout may fail, and `?` then leaves `call` at once. Over any terminal the loop reads
the channel up to its first failing write (`call_cases`), which settles each outcome of `call`:
a status, an error, a panic (`call_eq_ok_iff`, `call_eq_err_iff`, `call_eq_panic_iff`), and what
reached stdout is always a prefix of the channel's payloads (`call_stdout_prefix`).
-/

namespace NaslRuntime.SshSession

/-- `russh::ChannelMsg`. The loop reads `Data` and `ExitStatus` and ignores every other variant
alike, so those are one constructor carrying the variant's name. -/
inductive ChannelMsg where
  | data (data : List UInt8)
  | exitStatus (exitStatus : UInt32)
  | other (name : String)
  deriving DecidableEq, Repr

/-- The error of `call`'s `Result`, raised by russh or by the terminal, kept by its message. -/
structure Error where
  message : String
  deriving DecidableEq, Repr

/-- The far side of one `call`: whether opening the session channel and starting the command
succeed, and the messages the channel then yields, in order, before `wait()` returns `None`. -/
structure Remote where
  channelOpenSession : Except Error Unit
  exec : String → Except Error Unit
  messages : String → List ChannelMsg

/-- The terminal behind `tokio::io::stdout()`: `write written data` says whether `write_all`
of `data` and the `flush` after it succeed, once `written` has been taken. -/
structure Terminal where
  write : List UInt8 → List UInt8 → Except Error Unit

/-! ### Opening a session -/

/-- `Client::check_server_key`: the client accepts whatever key the server presents. -/
def checkServerKey (_serverPublicKey : List UInt8) : Except Error Bool := .ok true

/-- The world `SshSession::new` acts on: loading the secret key, connecting with a handler that
is asked about the server's key, and offering the key for a user. Connecting yields the far
side of the session. -/
structure Endpoint where
  loadSecretKey : Except Error Unit
  connect : (List UInt8 → Except Error Bool) → Except Error Remote
  authenticatePublickey : String → Except Error Bool

/-- `SshSession::new`: the connected session, or the first step's error, and
`Authentication failed` when the server refuses the key. -/
def new (endpoint : Endpoint) (user : String) : Except Error Remote := do
  endpoint.loadSecretKey
  let session ← endpoint.connect checkServerKey
  let authRes ← endpoint.authenticatePublickey user
  if !authRes then throw ⟨"Authentication failed"⟩
  pure session

/-! ### The loop -/

/-- What the loop carries: the last exit status seen (`code`), and the bytes written. -/
structure LoopState where
  code : Option UInt32
  stdout : List UInt8
  deriving DecidableEq, Repr

/-- One turn of the loop, on the message `wait()` returned. -/
def LoopState.step (terminal : Terminal) (s : LoopState) : ChannelMsg → Except Error LoopState
  | .data data => do
    terminal.write s.stdout data
    pure { s with stdout := s.stdout ++ data }
  | .exitStatus exitStatus => pure { s with code := some exitStatus }
  | .other _ => pure s

/-- The loop: a turn per message until `wait()` returns `None`, or until a write fails and `?`
leaves `call` with the error. -/
def LoopState.run (terminal : Terminal) :
    LoopState → List ChannelMsg → LoopState × Option Error
  | s, [] => (s, none)
  | s, msg :: msgs =>
    match s.step terminal msg with
    | .ok s' => s'.run terminal msgs
    | .error e => (s, some e)

/-- `SshSession::call`: what it returns, and what it wrote to stdout. -/
def call (remote : Remote) (terminal : Terminal) (command : String) :
    Outcome Error UInt32 × List UInt8 :=
  match remote.channelOpenSession with
  | .error e => (.err e, [])
  | .ok () =>
    match remote.exec command with
    | .error e => (.err e, [])
    | .ok () =>
      match LoopState.run terminal ⟨none, []⟩ (remote.messages command) with
      | (s, some e) => (.err e, s.stdout)
      | (s, none) => (expect "program did not exit cleanly" s.code, s.stdout)

/-! ### What a whole run computes

Read against the sequence alone: the status of its last `ExitStatus` and the concatenation of
its `Data` payloads. -/

/-- The exit status a message reports, if it is an `ExitStatus`. -/
def ChannelMsg.exitStatus? : ChannelMsg → Option UInt32
  | .exitStatus s => some s
  | _ => none

/-- The bytes a message carries for stdout. -/
def ChannelMsg.payload : ChannelMsg → List UInt8
  | .data bytes => bytes
  | _ => []

/-- The status of the last `ExitStatus` of a sequence: a later one wins. -/
def lastExitStatus : List ChannelMsg → Option UInt32
  | [] => none
  | msg :: msgs => (lastExitStatus msgs).or msg.exitStatus?

theorem lastExitStatus_eq_none {msgs : List ChannelMsg} :
    lastExitStatus msgs = none ↔ ∀ t, .exitStatus t ∉ msgs := by
  induction msgs with
  | nil => simp [lastExitStatus]
  | cons msg msgs ih =>
    cases msg <;> simp [lastExitStatus, ChannelMsg.exitStatus?, ih, forall_and]

theorem lastExitStatus_eq_some {msgs : List ChannelMsg} {s : UInt32} :
    lastExitStatus msgs = some s ↔
      ∃ pre post, msgs = pre ++ .exitStatus s :: post ∧ ∀ t, .exitStatus t ∉ post := by
  induction msgs with
  | nil => simp [lastExitStatus]
  | cons msg msgs ih =>
    simp only [lastExitStatus, Option.or_eq_some, ih, lastExitStatus_eq_none]
    constructor
    · rintro (⟨pre, post, rfl, hpost⟩ | ⟨hnone, hmsg⟩)
      · exact ⟨msg :: pre, post, rfl, hpost⟩
      · cases msg <;> simp only [ChannelMsg.exitStatus?, Option.some.injEq, reduceCtorEq] at hmsg
        exact ⟨[], msgs, by rw [hmsg]; rfl, hnone⟩
    · rintro ⟨_ | ⟨m, pre⟩, post, h, hpost⟩
      · obtain ⟨rfl, rfl⟩ := List.cons.inj h
        exact .inr ⟨hpost, rfl⟩
      · obtain ⟨rfl, rfl⟩ := List.cons.inj h
        exact .inl ⟨pre, post, rfl, hpost⟩

/-! ### Any terminal

A write may fail. `WritesOk` says that none of the writes of a stretch does, each write coming
after the payloads before it; every stretch has all its writes succeed or a first write that
fails (`writesOk_or_first_failure`), and the loop reads the channel up to that write. -/

/-- Every `Data` message of `msgs` is written without error, after `stdout` and the payloads of
the messages before it. -/
def WritesOk (terminal : Terminal) (stdout : List UInt8) (msgs : List ChannelMsg) : Prop :=
  ∀ pre data post, msgs = pre ++ .data data :: post →
    terminal.write (stdout ++ pre.flatMap ChannelMsg.payload) data = .ok ()

section Writes

variable {terminal : Terminal} {stdout : List UInt8}

theorem writesOk_nil (stdout : List UInt8) : WritesOk terminal stdout [] :=
  fun _ _ _ h => by simp at h

theorem writesOk_cons {msg : ChannelMsg} {msgs : List ChannelMsg} :
    WritesOk terminal stdout (msg :: msgs) ↔
      (∀ data, msg = .data data → terminal.write stdout data = .ok ()) ∧
        WritesOk terminal (stdout ++ msg.payload) msgs := by
  constructor
  · intro h
    refine ⟨fun data hd => by simpa using h [] data msgs (by rw [hd]; rfl),
      fun pre data post hp => ?_⟩
    simpa using h (msg :: pre) data post (by rw [hp]; rfl)
  · rintro ⟨hmsg, hmsgs⟩ pre data post h
    rcases List.cons_eq_append_iff.mp h with ⟨rfl, h⟩ | ⟨pre, rfl, rfl⟩
    · simpa using hmsg data (List.cons.inj h).1
    · simpa using hmsgs pre data post rfl

theorem not_writesOk_of_failure (stdout : List UInt8) {msgs pre post : List ChannelMsg}
    {data : List UInt8} {e : Error} (hmsgs : msgs = pre ++ .data data :: post)
    (hfail : terminal.write (stdout ++ pre.flatMap ChannelMsg.payload) data = .error e) :
    ¬WritesOk terminal stdout msgs :=
  fun hw => by simp [hw pre data post hmsgs] at hfail

/-- A stretch of messages has every write succeed, or a first write that fails. -/
theorem writesOk_or_first_failure (stdout : List UInt8) (msgs : List ChannelMsg) :
    WritesOk terminal stdout msgs ∨
      ∃ pre data post e, msgs = pre ++ .data data :: post ∧ WritesOk terminal stdout pre ∧
        terminal.write (stdout ++ pre.flatMap ChannelMsg.payload) data = .error e := by
  induction msgs generalizing stdout with
  | nil => exact .inl (writesOk_nil stdout)
  | cons msg msgs ih =>
    have hmsg : (∃ data e, msg = .data data ∧ terminal.write stdout data = .error e) ∨
        ∀ data, msg = .data data → terminal.write stdout data = .ok () := by
      cases msg with
      | data data =>
        cases h : terminal.write stdout data with
        | error e => exact .inl ⟨data, e, rfl, h⟩
        | ok u => exact .inr fun _ hd => by cases hd; exact h
      | _ => exact .inr fun _ hd => nomatch hd
    rcases hmsg with ⟨data, e, rfl, hfail⟩ | hmsg
    · exact .inr ⟨[], data, msgs, e, rfl, writesOk_nil stdout, by simpa using hfail⟩
    rcases ih (stdout ++ msg.payload) with hw | ⟨pre, data, post, e, rfl, hpre, hfail⟩
    · exact .inl (writesOk_cons.mpr ⟨hmsg, hw⟩)
    · exact .inr ⟨msg :: pre, data, post, e, rfl, writesOk_cons.mpr ⟨hmsg, hpre⟩,
        by simpa using hfail⟩

end Writes

section Run

variable {terminal : Terminal}

/-- A turn whose write, if it makes one, succeeds records the status or appends the payload. -/
theorem LoopState.step_of_write_ok {s : LoopState} {msg : ChannelMsg}
    (hw : ∀ data, msg = .data data → terminal.write s.stdout data = .ok ()) :
    s.step terminal msg = .ok ⟨msg.exitStatus?.or s.code, s.stdout ++ msg.payload⟩ := by
  cases msg with
  | data data =>
    simp [LoopState.step, ChannelMsg.exitStatus?, ChannelMsg.payload, hw data rfl, bind,
      Except.bind, pure, Except.pure]
  | _ => simp [LoopState.step, ChannelMsg.exitStatus?, ChannelMsg.payload, pure, Except.pure]

/-- Over a stretch whose writes succeed, the loop takes the stretch's last exit status and
appends its payloads in order, then goes on with the rest. -/
theorem LoopState.run_append_of_writesOk (s : LoopState) {pre : List ChannelMsg}
    (rest : List ChannelMsg) (hw : WritesOk terminal s.stdout pre) :
    s.run terminal (pre ++ rest) =
      LoopState.run terminal
        ⟨(lastExitStatus pre).or s.code, s.stdout ++ pre.flatMap ChannelMsg.payload⟩ rest := by
  induction pre generalizing s with
  | nil => simp [lastExitStatus]
  | cons msg pre ih =>
    obtain ⟨hmsg, hpre⟩ := writesOk_cons.mp hw
    rw [List.cons_append, LoopState.run, LoopState.step_of_write_ok hmsg]
    dsimp only
    rw [ih _ hpre]
    simp [lastExitStatus, Option.or_assoc]

/-- The loop stops at the first failing write, with the state the messages before it left. -/
theorem LoopState.run_of_first_failure (s : LoopState) {pre : List ChannelMsg}
    (post : List ChannelMsg) {data : List UInt8} {e : Error}
    (hpre : WritesOk terminal s.stdout pre)
    (hfail : terminal.write (s.stdout ++ pre.flatMap ChannelMsg.payload) data = .error e) :
    s.run terminal (pre ++ .data data :: post) =
      (⟨(lastExitStatus pre).or s.code, s.stdout ++ pre.flatMap ChannelMsg.payload⟩, some e) := by
  rw [s.run_append_of_writesOk _ hpre]
  simp [LoopState.run, LoopState.step, hfail, bind, Except.bind]

end Run

section Call

variable {remote : Remote} {terminal : Terminal} {command : String}

/-- Once the channel is open and the command started, with every write of the run succeeding,
`call` returns the `expect` of the last exit status, and has written every payload. -/
theorem call_of_writesOk (hopen : remote.channelOpenSession = .ok ())
    (hexec : remote.exec command = .ok ()) (hw : WritesOk terminal [] (remote.messages command)) :
    call remote terminal command =
      (expect "program did not exit cleanly" (lastExitStatus (remote.messages command)),
        (remote.messages command).flatMap ChannelMsg.payload) := by
  have hrun := (LoopState.mk none []).run_append_of_writesOk [] hw
  rw [List.append_nil] at hrun
  simp [call, hopen, hexec, hrun, LoopState.run]

/-- On a sequence with an `ExitStatus`, `call` returns the status of the last one, and stdout
has received every `Data` payload in arrival order, those after that message included. -/
theorem call_exit_status (hopen : remote.channelOpenSession = .ok ())
    (hexec : remote.exec command = .ok ())
    (hw : WritesOk terminal [] (remote.messages command))
    (hexit : ∃ t, .exitStatus t ∈ remote.messages command) :
    ∃ s pre post, remote.messages command = pre ++ .exitStatus s :: post ∧
      (∀ t, .exitStatus t ∉ post) ∧
      call remote terminal command =
        (.ok s, (remote.messages command).flatMap ChannelMsg.payload) := by
  obtain ⟨s, hs⟩ := Option.ne_none_iff_exists'.mp
    (mt lastExitStatus_eq_none.mp (by simpa using hexit))
  obtain ⟨pre, post, hmsgs, hpost⟩ := lastExitStatus_eq_some.mp hs
  exact ⟨s, pre, post, hmsgs, hpost, by rw [call_of_writesOk hopen hexec hw, hs]; rfl⟩

theorem call_exit_status_late_data :
    (∃ t, .exitStatus t ∈ [ChannelMsg.data [104, 105], .exitStatus 0, .data [10]]) ∧
    ∃ s pre post, [ChannelMsg.data [104, 105], .exitStatus 0, .data [10]] =
        pre ++ .exitStatus s :: post ∧ (∀ t, .exitStatus t ∉ post) ∧
      call ⟨.ok (), fun _ => .ok (), fun _ => [.data [104, 105], .exitStatus 0, .data [10]]⟩
          ⟨fun _ _ => .ok ()⟩ "echo hi" = (.ok s, [104, 105, 10]) :=
  ⟨⟨0, by decide⟩, @call_exit_status
    ⟨.ok (), fun _ => .ok (), fun _ => [.data [104, 105], .exitStatus 0, .data [10]]⟩
    ⟨fun _ _ => .ok ()⟩ "echo hi" rfl rfl (fun _ _ _ _ => rfl) ⟨0, by decide⟩⟩

/-- A command ended by a signal: it printed, and the channel closed with no exit status. There
`call` neither returns a status nor an error, but panics. -/
theorem call_signal_panics :
    (call ⟨.ok (), fun _ => .ok (), fun _ => [.data [104, 105], .other "ExitSignal", .other "Eof",
        .other "Close"]⟩ ⟨fun _ _ => .ok ()⟩ "sleep 60").1 =
      .panic "program did not exit cleanly" := by
  decide

/-- With every write of the run succeeding, `call` never returns an error: it returns a status
exactly when the sequence has an `ExitStatus`, and panics exactly when it has none. -/
theorem call_outcome (hopen : remote.channelOpenSession = .ok ())
    (hexec : remote.exec command = .ok ())
    (hw : WritesOk terminal [] (remote.messages command)) :
    ((∃ s, (call remote terminal command).1 = .ok s) ↔
      ∃ t, .exitStatus t ∈ remote.messages command) ∧
    ((call remote terminal command).1 = .panic "program did not exit cleanly" ↔
      ∀ t, .exitStatus t ∉ remote.messages command) ∧
    ∀ e, (call remote terminal command).1 ≠ .err e := by
  rw [call_of_writesOk hopen hexec hw]
  cases h : lastExitStatus (remote.messages command) with
  | none => simp [lastExitStatus_eq_none.mp h]
  | some s =>
    have hexit : ¬∀ t, .exitStatus t ∉ remote.messages command := fun hc => by
      simp [lastExitStatus_eq_none.mpr hc] at h
    simp only [not_forall, not_not] at hexit
    simp [hexit]

theorem call_outcome_signal :
    (call ⟨.ok (), fun _ => .ok (), fun _ => [.data [104, 105], .other "ExitSignal"]⟩
        ⟨fun _ _ => .ok ()⟩ "sleep 60").1 = .panic "program did not exit cleanly" :=
  (@call_outcome ⟨.ok (), fun _ => .ok (), fun _ => [.data [104, 105], .other "ExitSignal"]⟩
    ⟨fun _ _ => .ok ()⟩ "sleep 60" rfl rfl (fun _ _ _ _ => rfl)).2.1.mpr (by simp)

/-- What `call` comes to on any remote and terminal: the error of opening the channel or of
starting the command; once both succeed, the outcome of the whole channel when every write
succeeds, or else the error of the first failing write, with stdout holding the payloads
before it. -/
theorem call_cases (remote : Remote) (terminal : Terminal) (command : String) :
    (∃ e, remote.channelOpenSession = .error e ∧ call remote terminal command = (.err e, [])) ∨
    remote.channelOpenSession = .ok () ∧
      ((∃ e, remote.exec command = .error e ∧ call remote terminal command = (.err e, [])) ∨
      remote.exec command = .ok () ∧
        ((WritesOk terminal [] (remote.messages command) ∧
          call remote terminal command =
            (expect "program did not exit cleanly" (lastExitStatus (remote.messages command)),
              (remote.messages command).flatMap ChannelMsg.payload)) ∨
        ∃ pre data post e, remote.messages command = pre ++ .data data :: post ∧
          WritesOk terminal [] pre ∧
          terminal.write (pre.flatMap ChannelMsg.payload) data = .error e ∧
          call remote terminal command = (.err e, pre.flatMap ChannelMsg.payload))) := by
  rcases hopen : remote.channelOpenSession with e | ⟨⟩
  · exact .inl ⟨e, rfl, by simp [call, hopen]⟩
  refine .inr ⟨rfl, ?_⟩
  rcases hexec : remote.exec command with e | ⟨⟩
  · exact .inl ⟨e, rfl, by simp [call, hopen, hexec]⟩
  refine .inr ⟨rfl, ?_⟩
  rcases writesOk_or_first_failure [] (remote.messages command) with
    hw | ⟨pre, data, post, e, hmsgs, hpre, hfail⟩
  · exact .inl ⟨hw, call_of_writesOk hopen hexec hw⟩
  · have hrun := (LoopState.mk none []).run_of_first_failure post hpre hfail
    exact .inr ⟨pre, data, post, e, hmsgs, hpre, hfail, by simp [call, hopen, hexec, hmsgs, hrun]⟩

/-- `call` returns a status exactly when the channel opens, the command starts, every write
succeeds and the channel sent an `ExitStatus`; the status is that of the last one. -/
theorem call_eq_ok_iff {s : UInt32} :
    (call remote terminal command).1 = .ok s ↔
      remote.channelOpenSession = .ok () ∧ remote.exec command = .ok () ∧
        WritesOk terminal [] (remote.messages command) ∧
        lastExitStatus (remote.messages command) = some s := by
  rcases call_cases remote terminal command with
    ⟨e, hopen, hcall⟩ | ⟨hopen, ⟨e, hexec, hcall⟩ | ⟨hexec, ⟨hw, hcall⟩ |
      ⟨pre, data, post, e, hmsgs, -, hfail, hcall⟩⟩⟩
  · simp [hcall, hopen]
  · simp [hcall, hexec]
  · rw [hcall]
    cases lastExitStatus (remote.messages command) <;> simp [hopen, hexec, hw]
  · simp [hcall, not_writesOk_of_failure [] hmsgs hfail]

/-- `call` returns an error exactly when opening the channel fails, starting the command fails,
or a write fails; it is then that step's error, for a write the first one to fail. -/
theorem call_eq_err_iff {e : Error} :
    (call remote terminal command).1 = .err e ↔
      remote.channelOpenSession = .error e ∨
      remote.channelOpenSession = .ok () ∧ remote.exec command = .error e ∨
      remote.channelOpenSession = .ok () ∧ remote.exec command = .ok () ∧
        ∃ pre data post, remote.messages command = pre ++ .data data :: post ∧
          WritesOk terminal [] pre ∧
          terminal.write (pre.flatMap ChannelMsg.payload) data = .error e := by
  constructor
  · intro h
    rcases call_cases remote terminal command with
      ⟨e', hopen, hcall⟩ | ⟨hopen, ⟨e', hexec, hcall⟩ | ⟨hexec, ⟨-, hcall⟩ |
        ⟨pre, data, post, e', hmsgs, hpre, hfail, hcall⟩⟩⟩ <;> rw [hcall] at h
    · cases h
      exact .inl hopen
    · cases h
      exact .inr (.inl ⟨hopen, hexec⟩)
    · cases hl : lastExitStatus (remote.messages command) <;> simp [hl] at h
    · cases h
      exact .inr (.inr ⟨hopen, hexec, pre, data, post, hmsgs, hpre, hfail⟩)
  · rintro (hopen | ⟨hopen, hexec⟩ | ⟨hopen, hexec, pre, data, post, hmsgs, hpre, hfail⟩)
    · simp [call, hopen]
    · simp [call, hopen, hexec]
    · have hrun := (LoopState.mk none []).run_of_first_failure post hpre hfail
      simp [call, hopen, hexec, hmsgs, hrun]

/-- `call` panics exactly when the channel opens, the command starts and every write succeeds,
but no `ExitStatus` arrives; the panic is `code.expect`'s. -/
theorem call_eq_panic_iff {msg : String} :
    (call remote terminal command).1 = .panic msg ↔
      msg = "program did not exit cleanly" ∧
        remote.channelOpenSession = .ok () ∧ remote.exec command = .ok () ∧
        WritesOk terminal [] (remote.messages command) ∧
        ∀ t, .exitStatus t ∉ remote.messages command := by
  rcases call_cases remote terminal command with
    ⟨e, hopen, hcall⟩ | ⟨hopen, ⟨e, hexec, hcall⟩ | ⟨hexec, ⟨hw, hcall⟩ |
      ⟨pre, data, post, e, hmsgs, -, hfail, hcall⟩⟩⟩
  · simp [hcall, hopen]
  · simp [hcall, hexec]
  · rw [hcall, ← lastExitStatus_eq_none]
    cases lastExitStatus (remote.messages command) <;> simp [hopen, hexec, hw, eq_comm]
  · simp [hcall, not_writesOk_of_failure [] hmsgs hfail]

/-- Whatever the remote and the terminal do, what `call` wrote to stdout is a prefix of the
payloads the channel sent, in their order. -/
theorem call_stdout_prefix :
    (call remote terminal command).2 <+: (remote.messages command).flatMap ChannelMsg.payload := by
  rcases call_cases remote terminal command with
    ⟨e, -, hcall⟩ | ⟨-, ⟨e, -, hcall⟩ | ⟨-, ⟨-, hcall⟩ |
      ⟨pre, data, post, e, hmsgs, -, -, hcall⟩⟩⟩ <;> rw [hcall]
  · exact List.nil_prefix
  · exact List.nil_prefix
  · rw [hmsgs, List.flatMap_append]
    exact List.prefix_append _ _

end Call

end NaslRuntime.SshSession
