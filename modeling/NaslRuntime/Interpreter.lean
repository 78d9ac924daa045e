import NaslRuntime.Basic

/-!
The interpreter's error, `nasl/interpreter/error.rs`: an `InterpretError` is a kind and the
statement it arose at, if one is known. The errors of the layers below enter through `From`
conversions, none of which knows a statement, and leave as one `Display` text.

`From<FunctionError>` unwraps two kinds of a builtin's error: an I/O error becomes a top-level
`IOError` and a `GeneralError` a top-level `StorageError`, both without the function's name.
Every other error stays a `FunctionCallError` holding the whole `FunctionError`
(`fromFunctionError_origin_kind`).
-/

namespace NaslRuntime.Interpreter

/-! ### Collaborators

The types below belong to the lexer, the parser, the loader and the standard library, none of
which is in the sources. Each keeps what the interpreter's error reads of it. -/

/-- `std::io::ErrorKind`, kept by the name of its variant. -/
structure IoErrorKind where
  name : String
  deriving DecidableEq, Repr

/-- `std::io::Error`, of which the conversion reads only `kind()`. -/
structure IoError where
  kind : IoErrorKind
  deriving DecidableEq, Repr

/-- `std::fmt::Error`, which carries nothing. -/
structure FmtError
  deriving DecidableEq, Repr

/-- Modelled from the spec: the category of a token, kept by its name. -/
structure TokenCategory where
  name : String
  deriving DecidableEq, Repr

/-- Modelled from the spec: a token, with the line and column it starts at and its position. -/
structure Token where
  category : TokenCategory
  lineColumn : Nat × Nat
  position : Nat × Nat
  deriving DecidableEq, Repr

/-- Modelled from the spec: a statement, of which the error reads only its first token. -/
structure Statement where
  token : Token
  deriving DecidableEq, Repr

/-- `Statement::as_token`. -/
def Statement.asToken (stmt : Statement) : Token := stmt.token

/-- Modelled from the spec: a syntax error, with the token it was found at when there is one. -/
structure SyntaxError where
  message : String
  token : Option Token
  deriving DecidableEq, Repr

/-- `SyntaxError::as_token`. -/
def SyntaxError.asToken (err : SyntaxError) : Option Token := err.token

/-- Modelled from the spec: a failure to load a script. -/
structure LoadError where
  message : String
  deriving DecidableEq, Repr

/-- A builtin's error, `nasl::utils::error::NaslError`. That enum is not in the sources. The
conversions here tell apart only its `IOError` and `GeneralError` variants, so every other
variant is one constructor over a payload type `ε`. -/
inductive NaslError (ε : Type) where
  | ioError (kind : IoErrorKind)
  | generalError (err : StorageError)
  | other (err : ε)
  deriving DecidableEq, Repr

/-! ### The error -/

/-- `FunctionError`: the builtin that failed and its error. -/
structure FunctionError (ε : Type) where
  function : String
  kind : NaslError ε
  deriving DecidableEq, Repr

/-- `FunctionError::new`. -/
def FunctionError.new {ε : Type} (function : String) (kind : NaslError ε) : FunctionError ε :=
  { function, kind }

/-- `InterpretErrorKind`. -/
inductive InterpretErrorKind (ε : Type) where
  | functionExpectedValue
  | valueExpectedFunction
  | wrongType (expected : String)
  | wrongCategory (category : TokenCategory)
  | invalidRegex (regex : String)
  | includeSyntaxError (filename : String) (err : SyntaxError)
  | syntaxError (err : SyntaxError)
  | notFound (key : String)
  | storageError (err : StorageError)
  | loadError (err : LoadError)
  | fmtError (err : FmtError)
  | ioError (kind : IoErrorKind)
  | functionCallError (err : FunctionError ε)
  deriving DecidableEq, Repr

/-- `InterpretError`: what went wrong, and the statement it went wrong at. -/
structure InterpretError (ε : Type) where
  kind : InterpretErrorKind ε
  origin : Option Statement
  deriving DecidableEq, Repr

namespace InterpretError

variable {ε : Type}

/-- `InterpretError::new`. It keeps the statement it is given: its comment's "line and col set
to 0" holds only when that is `None`. -/
def new (kind : InterpretErrorKind ε) (origin : Option Statement) : InterpretError ε :=
  { kind, origin }

/-- `InterpretError::from_statement`. -/
def fromStatement (stmt : Statement) (kind : InterpretErrorKind ε) : InterpretError ε :=
  { kind, origin := some stmt }

/-- `InterpretError::line_column`: where the statement's first token starts, and `(0, 0)`, no
real position, when there is no statement. -/
def lineColumn (e : InterpretError ε) : Nat × Nat :=
  ((e.origin.map Statement.asToken).map Token.lineColumn).getD (0, 0)

/-- `InterpretError::line`. -/
def line (e : InterpretError ε) : Nat := e.lineColumn.1

/-- `InterpretError::column`. -/
def column (e : InterpretError ε) : Nat := e.lineColumn.2

/-- `InterpretError::unsupported`. -/
def unsupported (stmt : Statement) (expected : String) : InterpretError ε :=
  fromStatement stmt (.wrongType expected)

/-- `InterpretError::expected_value`. -/
def expectedValue : InterpretError ε := new .functionExpectedValue none

/-- `InterpretError::expected_function`. -/
def expectedFunction : InterpretError ε := new .valueExpectedFunction none

/-- `InterpretError::wrong_category`. -/
def wrongCategory (cat : TokenCategory) : InterpretError ε := new (.wrongCategory cat) none

/-- `InterpretError::not_found`. -/
def notFound (name : String) : InterpretError ε := new (.notFound name) none

/-- `InterpretError::include_syntax_error`. -/
def includeSyntaxError (file : String) (se : SyntaxError) : InterpretError ε :=
  new (.includeSyntaxError file se) none

/-- `InterpretError::unparse_regex`. -/
def unparseRegex (rx : String) : InterpretError ε := new (.invalidRegex rx) none

/-- `From<TokenCategory>`. -/
def fromTokenCategory (cat : TokenCategory) : InterpretError ε := new (.wrongCategory cat) none

/-- `From<SyntaxError>`. -/
def fromSyntaxError (err : SyntaxError) : InterpretError ε := new (.syntaxError err) none

/-- `From<StorageError>`. -/
def fromStorageError (se : StorageError) : InterpretError ε := new (.storageError se) none

/-- `From<io::ErrorKind>`. -/
def fromIoErrorKind (ie : IoErrorKind) : InterpretError ε := new (.ioError ie) none

/-- `From<io::Error>`. -/
def fromIoError (e : IoError) : InterpretError ε := fromIoErrorKind e.kind

/-- `From<std::fmt::Error>`. -/
def fromFmtError (fe : FmtError) : InterpretError ε := new (.fmtError fe) none

/-- `From<LoadError>`. -/
def fromLoadError (le : LoadError) : InterpretError ε := new (.loadError le) none

/-- `From<FunctionError>`. -/
def fromFunctionError (fe : FunctionError ε) : InterpretError ε :=
  match fe.kind with
  | .ioError ie => fromIoErrorKind ie
  | .generalError e => new (.storageError e) none
  | _ => new (.functionCallError fe) none

end InterpretError

/-! ### From a builtin's error to the interpreter's -/

section FromFunctionError

variable {ε : Type}

/-- What `From<FunctionError>` does with each kind of builtin error. -/
theorem InterpretError.fromFunctionError_eq (fe : FunctionError ε) :
    InterpretError.fromFunctionError fe =
      { kind := match fe.kind with
          | .ioError ie => .ioError ie
          | .generalError e => .storageError e
          | .other _ => .functionCallError fe,
        origin := none } := by
  unfold InterpretError.fromFunctionError
  cases fe.kind <;> rfl

/-- A builtin's error reaches the interpreter without a statement. An I/O error becomes the
top-level `IOError` of the same kind and a general error the top-level `StorageError` of the
same cause, both without the function's name; every other error is kept whole, function name
and cause, as a `FunctionCallError`. -/
theorem fromFunctionError_origin_kind (fe : FunctionError ε) :
    (InterpretError.fromFunctionError fe).origin = none ∧
    (∀ k, (InterpretError.fromFunctionError fe).kind = .ioError k ↔ fe.kind = .ioError k) ∧
    (∀ e, (InterpretError.fromFunctionError fe).kind = .storageError e ↔
      fe.kind = .generalError e) ∧
    ((∀ k, fe.kind ≠ .ioError k) → (∀ e, fe.kind ≠ .generalError e) →
      (InterpretError.fromFunctionError fe).kind = .functionCallError fe) := by
  rw [InterpretError.fromFunctionError_eq]
  rcases h : fe.kind with k | e | o <;> simp [h]

theorem fromFunctionError_origin_kind_other :
    (InterpretError.fromFunctionError (FunctionError.new "ssh_connect" (.other ()))).kind =
      .functionCallError (FunctionError.new "ssh_connect" (.other ())) :=
  (fromFunctionError_origin_kind _).2.2.2 (fun _ => NaslError.noConfusion)
    (fun _ => NaslError.noConfusion)

/-- A general error is not kept as a function-call error: it loses the function's name. -/
theorem fromFunctionError_generalError_not_functionCall :
    (∀ k, (FunctionError.new (ε := Unit) "get_kb_item" (.generalError (.other "gone"))).kind ≠
        .ioError k) ∧
    (InterpretError.fromFunctionError
        (FunctionError.new (ε := Unit) "get_kb_item" (.generalError (.other "gone")))).kind ≠
      .functionCallError (FunctionError.new "get_kb_item" (.generalError (.other "gone"))) :=
  ⟨fun _ => NaslError.noConfusion, by decide⟩

/-- What `From<FunctionError>` forgets: two builtin errors convert to the same interpreter error
exactly when they have the same kind and the same function, or the same I/O or general error,
whose conversion drops the function's name. -/
theorem fromFunctionError_eq_iff (fe₁ fe₂ : FunctionError ε) :
    InterpretError.fromFunctionError fe₁ = InterpretError.fromFunctionError fe₂ ↔
      fe₁.kind = fe₂.kind ∧
        (fe₁.function = fe₂.function ∨ (∃ k, fe₁.kind = .ioError k) ∨
          ∃ e, fe₁.kind = .generalError e) := by
  rcases fe₁ with ⟨f₁, k₁ | e₁ | o₁⟩ <;> rcases fe₂ with ⟨f₂, k₂ | e₂ | o₂⟩ <;>
    simp [InterpretError.fromFunctionError_eq, and_comm]

end FromFunctionError

/-! ### The text of an error

The `#[error(..)]` attributes of the file. The `Display` of each collaborator is not in the
sources, so the texts they contribute are a parameter; `std::fmt::Error` displays a fixed
text. -/

/-- How the collaborators display themselves. -/
structure Display (ε : Type) where
  statement : Statement → String
  category : TokenCategory → String
  syntaxError : SyntaxError → String
  storageError : StorageError → String
  loadError : LoadError → String
  ioErrorKind : IoErrorKind → String
  naslError : NaslError ε → String

section Message

variable {ε : Type}

/-- The text of a `FunctionError`. -/
def FunctionError.message (d : Display ε) (fe : FunctionError ε) : String :=
  "Error while calling function '" ++ fe.function ++ "': " ++ d.naslError fe.kind

/-- The text of each kind. An included file's syntax error names the file and, when the error
has a token, that token's position. -/
def InterpretErrorKind.message (d : Display ε) : InterpretErrorKind ε → String
  | .functionExpectedValue => "Expected a value but got a function."
  | .valueExpectedFunction => "Expected a function but got a value."
  | .wrongType expected => "Expected the type " ++ expected
  | .wrongCategory category => "Expected the category " ++ d.category category
  | .invalidRegex regex => "Invalid regular expression: " ++ regex
  | .includeSyntaxError filename err =>
    "Error while including file " ++ filename ++
      ((err.asToken.map fun t =>
        ", line: " ++ toString t.position.1 ++ ", col: " ++ toString t.position.2).getD "") ++
      ": " ++ d.syntaxError err
  | .syntaxError err => d.syntaxError err
  | .notFound key => "Key not found: " ++ key
  | .storageError err => d.storageError err
  | .loadError err => d.loadError err
  | .fmtError _ => "an error occurred when formatting an argument"
  | .ioError kind => d.ioErrorKind kind
  | .functionCallError err => err.message d

/-- The text of an `InterpretError`: the statement and a colon when there is one, then the
kind's text. -/
def InterpretError.message (d : Display ε) (e : InterpretError ε) : String :=
  ((e.origin.map fun stmt => d.statement stmt ++ ": ").getD "") ++ e.kind.message d

end Message

end NaslRuntime.Interpreter
