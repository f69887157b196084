/-
Events work on a snapshot.

An event is handled by the handlers that the champion has when it is fired. They run one after the
other, each announced right before its body, and nothing that a body does to the champions changes
which of them come next. The first body that fails ends the event. What the bodies have done by then
stays, the declaration of the same champion included: it is the next event that sees it.
-/
import RiftScript.Proofs.Running.Notices
import RiftScript.Proofs.Running.Sessions

namespace RiftScript

variable {σ : Type}

/-! ## Handlers in a row -/

/-- The handlers run from the machine `m` on, one after the other, and leave the machine `n`. Each
body starts right after its announcement, on the machine that the body before it has left. -/
inductive FiresAll (r : Resolver σ) (rounds : Nat) (event champion : String) :
    List Handler → Machine σ → Machine σ → Prop where
  | nil {m : Machine σ} : FiresAll r rounds event champion [] m m
  | cons {h : Handler} {hs : List Handler} {m n k : Machine σ}
      (hbody : executeAll r rounds h.body (m.emit (.running event champion)) = .ok () n)
      (more : FiresAll r rounds event champion hs n k) :
      FiresAll r rounds event champion (h :: hs) m k

/-- What came of firing an event for which there are the handlers `hs`, `started` of which were
started. -/
inductive Fires (r : Resolver σ) (rounds : Nat) (event champion : String) (hs : List Handler)
    (m : Machine σ) : (started : Nat) → EStateM.Result Failure (Machine σ) Nat → Prop where
  /-- All of them ran to their ends. -/
  | finished {n : Machine σ} (hall : FiresAll r rounds event champion hs m n) :
      Fires r rounds event champion hs m hs.length (.ok hs.length n)
  /-- Those in front of `h` ran to their ends, and so did the statements of `h` in front of `s`. The
  failure of `s` ends the event, on the machine that `s` has left. -/
  | failed {front back : List Handler} {h : Handler} {before after : List Stmt} {s : Stmt}
      {k l n : Machine σ} {failure : Failure} (hsplit : hs = front ++ h :: back)
      (hfront : FiresAll r rounds event champion front m k) (hbody : h.body = before ++ s :: after)
      (hbefore : executeAll r rounds before (k.emit (.running event champion)) = .ok () l)
      (hfails : s.execute r rounds l = .error failure n) :
      Fires r rounds event champion hs m (front.length + 1) (.error failure n)

section Handlers

variable {r : Resolver σ} {rounds : Nat} {event champion : String}

/-- Statements fail where one of them does, after those in front of it have run. -/
theorem executeAll_eq_error {ss : List Stmt} {m n : Machine σ} {failure : Failure} :
    executeAll r rounds ss m = .error failure n ↔
      ∃ before s after l, ss = before ++ s :: after ∧ executeAll r rounds before m = .ok () l ∧
        s.execute r rounds l = .error failure n := by
  constructor
  · intro h
    induction ss generalizing m with
    | nil => cases h
    | cons s ss ih =>
      rw [executeAll] at h
      cases hs : s.execute r rounds m with
      | ok u l =>
        rw [Run.bind_of_ok hs] at h
        obtain ⟨before, t, after, k, rfl, hbefore, ht⟩ := ih h
        refine ⟨s :: before, t, after, k, rfl, ?_, ht⟩
        rw [executeAll, Run.bind_of_ok hs]
        exact hbefore
      | error f l =>
        rw [Run.bind_of_error hs] at h
        cases h
        exact ⟨[], s, ss, m, rfl, rfl, hs⟩
  · rintro ⟨before, s, after, l, rfl, hbefore, hs⟩
    rw [executeAll_append, Run.bind_of_ok hbefore, executeAll, Run.bind_of_error hs]

end Handlers

/-! ## Announcements -/

/-- Announcements of handlers. -/
def Notice.isRunning : Notice → Bool
  | running _ _ => true
  | _ => false

/-- The host announces no handlers itself. -/
structure Resolver.NeverAnnounces (r : Resolver σ) : Prop where
  lookup : ∀ name host, ∀ n ∈ (r.lookup name host).notices, n.isRunning = false
  call : ∀ callee arguments host, ∀ n ∈ (r.call callee arguments host).notices, n.isRunning = false

/-- What was written between the two machines: `started` announcements, each followed by what the
body wrote, in which there are no more of them unless the host makes some. -/
def Machine.Announces (r : Resolver σ) (event champion : String) (started : Nat)
    (m n : Machine σ) : Prop :=
  ∃ written : List (List Notice), written.length = started ∧
    n.notices.toList = m.notices.toList ++ written.flatMap (.running event champion :: ·) ∧
    (r.NeverAnnounces → ∀ notices ∈ written, ∀ notice ∈ notices, notice.isRunning = false)

namespace Run

variable {τ α β : Type}

theorem Agree.alike_machine {f : Relocation} {alike : Machine σ → Machine τ → Prop}
    {good : α → β → Prop} {first : EStateM.Result Failure (Machine σ) α}
    {second : EStateM.Result Failure (Machine τ) β} (h : Agree f alike good first second) :
    alike (machine first) (machine second) := by
  cases h with
  | ok _ h => exact h
  | error _ h => exact h

end Run

section Announcements

variable {r : Resolver σ}

/-- Nothing has been announced so far. -/
def Machine.Unannounced (m : Machine σ) : Prop :=
  ∀ notice ∈ m.notices.toList, notice.isRunning = false

theorem Machine.Unannounced.declare {m : Machine σ} (hm : m.Unannounced) (c : Champion) :
    (m.declare c).Unannounced := by
  intro notice hnotice
  rw [Machine.declare, Machine.emit, Array.toList_push] at hnotice
  rcases List.mem_append.mp hnotice with hnotice | hnotice
  · exact hm notice hnotice
  · rw [List.mem_singleton.mp hnotice]
    rfl

theorem Machine.Unannounced.accept {m : Machine σ} (hm : m.Unannounced) {a : Answer σ}
    (ha : ∀ notice ∈ a.notices, notice.isRunning = false) : (m.accept a).Unannounced := by
  intro notice hnotice
  rw [Machine.accept, Array.toList_appendList] at hnotice
  rcases List.mem_append.mp hnotice with hnotice | hnotice
  · exact hm notice hnotice
  · exact ha notice hnotice

theorem neverAnnounces_simulates (hr : r.NeverAnnounces) :
    Resolver.Simulates .stay (fun m n => m = n ∧ m.Unannounced) r r where
  declare := by
    rintro m _ ⟨rfl, hm⟩ d
    rw [d.relocate_stay]
    exact ⟨rfl, hm.declare d⟩
  lookup := by
    rintro name m _ ⟨rfl, hm⟩
    exact ⟨(mapError_stay _).symm, rfl, hm.accept (hr.lookup name m.host)⟩
  call := by
    rintro callee arguments m _ ⟨rfl, hm⟩
    exact ⟨(mapError_stay _).symm, rfl, hm.accept (hr.call callee arguments m.host)⟩

/-- Statements add to what was written, and they announce nothing themselves. -/
theorem exists_written (r : Resolver σ) (rounds : Nat) (ss : List Stmt) (m : Machine σ) :
    ∃ written, (Run.machine (executeAll r rounds ss m)).notices.toList =
        m.notices.toList ++ written ∧
      (r.NeverAnnounces → ∀ notice ∈ written, notice.isRunning = false) := by
  have hadds := executeAll_simulates (following_simulates r m.notices) rounds ss
  rw [relocateBody_stay] at hadds
  refine ⟨(Run.machine (executeAll r rounds ss m.fresh)).notices.toList, ?_, fun hr => ?_⟩
  · have hsame := hadds.eq_onMachine m.fresh
    rw [m.following_fresh] at hsame
    rw [hsame, Run.machine_onMachine, Machine.following, Array.toList_append]
  · have hquiet := executeAll_simulates (neverAnnounces_simulates hr) rounds ss m.fresh m.fresh
      ⟨rfl, List.forall_mem_nil _⟩
    exact hquiet.alike_machine.2

variable {rounds : Nat} {event champion : String}

/-- One more handler is started. -/
theorem Machine.Announces.cons {started : Nat} {h : Handler} {m n k : Machine σ}
    (hn : n = Run.machine (executeAll r rounds h.body (m.emit (.running event champion))))
    (hnk : n.Announces r event champion started k) :
    m.Announces r event champion (started + 1) k := by
  obtain ⟨written, rfl, hnotices, hquiet⟩ := hnk
  obtain ⟨first, hfirst, hquiet'⟩ :=
    exists_written r rounds h.body (m.emit (.running event champion))
  refine ⟨first :: written, rfl, ?_, fun hr => List.forall_mem_cons.mpr ⟨hquiet' hr, hquiet hr⟩⟩
  rw [hnotices, hn, hfirst, Machine.emit, Array.toList_push, List.flatMap_cons]
  simp

theorem Machine.announces_zero (m : Machine σ) : m.Announces r event champion 0 m :=
  ⟨[], rfl, (List.append_nil _).symm, fun _ => List.forall_mem_nil _⟩

theorem FiresAll.announces {hs : List Handler} {m n k : Machine σ} {started : Nat}
    (h : FiresAll r rounds event champion hs m n) (hnk : n.Announces r event champion started k) :
    m.Announces r event champion (hs.length + started) k := by
  induction h with
  | nil => rwa [List.length_nil, Nat.zero_add]
  | @cons g hs m n k hbody more ih =>
    have hn : n = Run.machine (executeAll r rounds g.body (m.emit (.running event champion))) := by
      rw [hbody]
      rfl
    rw [List.length_cons, Nat.add_right_comm]
    exact .cons hn (ih hnk)

theorem Fires.announces {hs : List Handler} {m : Machine σ} {started : Nat}
    {result : EStateM.Result Failure (Machine σ) Nat}
    (h : Fires r rounds event champion hs m started result) :
    m.Announces r event champion started (Run.machine result) := by
  cases h with
  | finished hall => exact hall.announces (Machine.announces_zero _)
  | @failed front back g before after s k l n failure hsplit hfront hbody hbefore hfails =>
    have hrun : executeAll r rounds g.body (k.emit (.running event champion)) =
        .error failure n :=
      executeAll_eq_error.mpr ⟨before, s, after, l, hbody, hbefore, hfails⟩
    have hn : n = Run.machine (executeAll r rounds g.body (k.emit (.running event champion))) := by
      rw [hrun]
      rfl
    exact hfront.announces (Machine.Announces.cons hn (Machine.announces_zero n))

end Announcements

/-! ## Champions -/

end RiftScript
