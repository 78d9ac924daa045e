import NaslRuntime.Basic
import NaslRuntime.FnError
import NaslRuntime.Cryptography
import NaslRuntime.Interpreter
import NaslRuntime.SshSession
import NaslRuntime.CallSite
