/-
Notices are written and never read.

What a step does depends on the champions and on the host, not on what was told before it. So it can
be taken on a machine on which nothing has been told yet: the notices of that machine are the ones of
the step itself, and on any other machine the same notices are added to those that are there.
-/
import RiftScript.Proofs.Running.Simulation

namespace RiftScript

variable {σ α : Type}

namespace Machine

/-- The machine with nothing told so far. -/
def fresh (m : Machine σ) : Machine σ :=
  { m with notices := #[] }

/-- The machine with earlier notices in front of its own. -/
def following (earlier : Array Notice) (m : Machine σ) : Machine σ :=
  { m with notices := earlier ++ m.notices }

theorem following_fresh (m : Machine σ) : m.fresh.following m.notices = m := by
  rw [following, fresh, Array.append_empty]

theorem emit_following (earlier : Array Notice) (m : Machine σ) (n : Notice) :
    (m.following earlier).emit n = (m.emit n).following earlier := by
  rw [emit, emit, following, following, Array.push_append]

theorem accept_following (earlier : Array Notice) (m : Machine σ) (a : Answer σ) :
    (m.following earlier).accept a = (m.accept a).following earlier := by
  have hnotices : earlier ++ m.notices ++ a.notices = earlier ++ (m.notices ++ a.notices) :=
    Array.toList_inj.mp (by simp)
  rw [accept, accept, following, following, hnotices]

theorem declare_following (earlier : Array Notice) (m : Machine σ) (c : Champion) :
    (m.following earlier).declare c = (m.declare c).following earlier := by
  rw [declare, declare, ← emit_following]
  rfl

end Machine

/-! ## Steps -/

theorem following_simulates (r : Resolver σ) (earlier : Array Notice) :
    Resolver.Simulates .stay (fun m n => n = Machine.following earlier m) r r where
  declare := by
    rintro m _ rfl d
    rw [d.relocate_stay]
    exact m.declare_following earlier d
  lookup := by
    rintro name m _ rfl
    exact ⟨(mapError_stay _).symm, m.accept_following earlier _⟩
  call := by
    rintro callee arguments m _ rfl
    exact ⟨(mapError_stay _).symm, m.accept_following earlier _⟩

theorem reports_following (earlier : Array Notice) :
    Reports .stay fun m n => n = Machine.following (σ := σ) earlier m where
  result := by
    rintro m _ rfl v
    exact m.emit_following earlier _
  failure := by
    rintro m _ rfl e
    rw [e.relocate_stay]
    exact m.emit_following earlier _

theorem Program.run_following (r : Resolver σ) (rounds : Nat) (echo : Bool) (p : Program)
    (earlier : Array Notice) (m : Machine σ) :
    p.run r rounds echo (m.following earlier)
      = Run.onMachine (Machine.following earlier) (p.run r rounds echo m) := by
  have h := p.run_simulates (following_simulates r earlier) (reports_following earlier) rounds echo
  rw [relocateBody_stay] at h
  exact (h.mono Program.eq_of_stay).eq_onMachine m

end RiftScript
