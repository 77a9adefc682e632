import Mathlib.Init

/-!
# `UvcoException`

The exception type of `uvco/exception.h`. Its two constructors stay apart: a
plain message, or a libuv status together with the place it was met, from which
the C++ constructor formats the message.
-/

namespace Uvco

/-- The constructors of `struct UvcoException`. -/
inductive UvcoException where
  /-- `UvcoException(std::string message)`; the status is `nullopt`. -/
  | ofMessage (message : String)
  /-- `UvcoException(uv_status status, std::string_view where)`. -/
  | ofStatus (status : Int) (location : String)
deriving DecidableEq, Repr

/-- `UV_EAGAIN`, the negated `errno` value on Linux. -/
def UV_EAGAIN : Int := -11

/-- `-EBUSY`, on Linux. -/
def UV_EBUSY : Int := -16

/-- `-ECANCELED`, on Linux. -/
def UV_ECANCELED : Int := -125

/-- The `status` member. -/
def UvcoException.status : UvcoException → Option Int
  | ofMessage _ => none
  | ofStatus status _ => some status

end Uvco
