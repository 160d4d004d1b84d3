import Tenancy.Procedure

/-! What a procedure asks and is told, call by call, and what follows for the world at its end. -/

namespace Tenancy

/-- A call with the answer it got. -/
structure Exchange where
  call : Call
  answer : call.Answer

namespace Procedure

variable {answering : Answering ω}

/-- What no call breaks, no run breaks. -/
theorem run_invariant {holds : ω → Prop}
    (kept : ∀ call world, holds world → holds (answering call world).2) (procedure : Procedure α)
    {world : ω} (initially : holds world) : holds (procedure.run answering world).2 := by
  induction procedure generalizing world with
  | done value => exact initially
  | ask call resume induction => exact induction _ (kept call world initially)

def transcript (answering : Answering ω) : Procedure α → ω → List Exchange
  | done _, _ => []
  | ask call resume, world =>
      ⟨call, (answering call world).1⟩ ::
        (resume (answering call world).1).transcript answering (answering call world).2

theorem transcript_map (transform : α → β) (procedure : Procedure α) (world : ω) :
    (procedure.map transform).transcript answering world =
      procedure.transcript answering world := by
  induction procedure generalizing world with
  | done value => rfl
  | ask call resume induction => exact congrArg (_ :: ·) (induction _ _)

end Procedure

end Tenancy
