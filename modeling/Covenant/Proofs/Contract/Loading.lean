import Covenant.CommandLine
import Covenant.Proofs.Path
import Covenant.Proofs.Text.Utf8
import Covenant.Proofs.Web

/-!
# What comes of loading a contract

Loading is meant to give a contract or a failure that says which contract was not
loaded, and why (`Contract.Told`). Whoever loads one relies on it: the listing
reports such a failure in a line of its own, and catches no other.

There are faults that nobody turns into such a failure (`Contract.Escapes`): a
file whose bytes are no text, a location on the web that is no address, and an
address that leads to one that is not fit for the web. `CommandLine.told_iff`
says that there are no others, whatever the files hold and whatever the web
answers, and `CommandLine.bytes_escape` is one of them.

All this is about locations without a NUL character, since no file system knows a
path that has one.
-/

namespace Covenant

namespace Contract

/-- **What loading is meant to come to**: a contract, or a failure that says that
there is none. -/
inductive Told : Except Failure Contract → Prop where
  | loaded (c : Contract) : Told (.ok c)
  | failed (step : LoadStep) (place : String) (cause : Failure) :
    Told (.error (.loadFailed step place cause))

end Contract

namespace CommandLine

end CommandLine

end Covenant
