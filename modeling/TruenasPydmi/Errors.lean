/-
  Errors.lean --- the exception hierarchy of `errors.py`.

  `DMIError` is the base class the package documents for everything it raises;
  its constructors are the three subclasses, with the data they carry.  What a
  function of the package can really raise is a `Raised`: one of these, or a
  built-in exception that nothing caught.
-/
import TruenasPydmi.Python.Builtin

set_option autoImplicit false

namespace TruenasPydmi

open TruenasPydmi.Python

/-- `DMIError` and its subclasses. -/
inductive DMIError where
  /-- `DMIUnavailableError(*paths)` -/
  | unavailable (paths : List String)
  /-- `DMIPermissionError(path, cause)` -/
  | permission (path : String) (cause : OSError)
  /-- `DMIProtocolError(message, offset=offset)` -/
  | protocol (message : String) (offset : Int)
  deriving DecidableEq, Repr

/-- The text each constructor passes to `Exception.__init__`. -/
def DMIError.text : DMIError → String
  | .unavailable paths => "DMI tables not available at: " ++ ", ".intercalate paths
  | .permission path cause => "permission denied reading " ++ path ++ ": " ++ cause.text
  | .protocol message offset =>
      if 0 ≤ offset then message ++ " (at byte offset " ++ toString offset ++ ")" else message

/-- An exception that leaves a function of the package. -/
inductive Raised where
  | dmi (error : DMIError)
  | builtin (error : BuiltinError)
  deriving DecidableEq, Repr

/-- `isinstance(e, DMIError)`. -/
def Raised.isDMIError : Raised → Bool
  | .dmi _ => true
  | .builtin _ => false

/-- `raise DMIProtocolError(message, offset=offset)`. -/
def protocolError {α : Type} (message : String) (offset : Nat) : Except Raised α :=
  .error (.dmi (.protocol message offset))

section

variable {α β : Type} {message message' : String} {offset offset' : Nat}

@[simp] theorem protocolError_ne_ok (a : α) : protocolError message offset ≠ .ok a := nofun

@[simp] theorem ok_ne_protocolError (a : α) : .ok a ≠ protocolError message offset := nofun

@[simp] theorem protocolError_inj :
    (protocolError message offset : Except Raised α) = protocolError message' offset' ↔
      message = message' ∧ offset = offset' := by
  simp [protocolError]

@[simp] theorem protocolError_bind (f : α → Except Raised β) :
    (protocolError message offset >>= f) = protocolError message offset := rfl

end

/-- A built-in exception propagates unchanged through the functions of the
package. -/
instance : MonadLift (Except BuiltinError) (Except Raised) where
  monadLift
    | .ok a => .ok a
    | .error e => .error (.builtin e)

@[simp] theorem liftM_ok {α : Type} (a : α) :
    (liftM (.ok a : Except BuiltinError α) : Except Raised α) = .ok a := rfl

end TruenasPydmi
