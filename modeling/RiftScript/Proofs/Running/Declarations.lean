/-
The declarations that a run executes.

A run comes to some of the declarations of its script, in some order and perhaps to one of them
several times, and it may end before it comes to the others. `declared` tells which it comes to: it
follows the run, with the evaluator to say which way it goes. Handlers of a champion are not looked
into, since declaring the champion does not run them.
-/
import RiftScript.Proofs.Running.Replay
import RiftScript.Proofs.Running.Simulation

namespace RiftScript

variable {σ : Type}

/-! ## Declarations of a run -/

/-- What is declared after a step, if that does not fail. -/
def Run.after {α : Type} (x : Run σ α) (next : α → Machine σ → List Champion) (m : Machine σ) :
    List Champion :=
  match x m with
  | .ok a n => next a n
  | .error _ _ => []

/-- Whether an operator looks at its right operand. -/
def Token.looksRight (operator : Token) (l : Value) : Bool :=
  match operator.kind with
  | .andWord => l.truthy
  | .orWord => !l.truthy
  | _ => true

mutual

def Expr.declared (r : Resolver σ) : Expr → Machine σ → List Champion
  | .literal _ _, _ => []
  | .grouping inner, m => inner.declared r m
  | .unary _ operand, m => operand.declared r m
  | .binary left operator right, m =>
    left.declared r m ++ Run.after (left.evaluate r)
      (fun l n => if operator.looksRight l then right.declared r n else []) m
  | .variable _, _ => []
  | .call _ arguments, m => declaredByAll r arguments m
  | .champion c, _ => [c]

def declaredByAll (r : Resolver σ) : List Expr → Machine σ → List Champion
  | [], _ => []
  | e :: es, m => e.declared r m ++ Run.after (e.evaluate r) (fun _ n => declaredByAll r es n) m

end

/-- What the rounds of a loop declare, given what its test and its body do. -/
def declaredWhile (test : Run σ Value) (inTest : Machine σ → List Champion) (body : Run σ Unit)
    (inBody : Machine σ → List Champion) : (rounds : Nat) → Machine σ → List Champion
  | 0, _ => []
  | rounds + 1, m =>
    inTest m ++ Run.after test (fun v n =>
      if v.truthy then
        inBody n ++ Run.after body (fun _ => declaredWhile test inTest body inBody rounds) n
      else []) m

mutual

def Stmt.declared (r : Resolver σ) (rounds : Nat) : Stmt → Machine σ → List Champion
  | .expression value, m => value.declared r m
  | .block statements, m => declaredByBody r rounds statements m
  | .conditional condition thenBody elseBody, m =>
    condition.declared r m ++ Run.after (condition.evaluate r) (fun v n =>
      if v.truthy then declaredByBody r rounds thenBody n
      else declaredByElse r rounds elseBody n) m
  | .loop condition body, m =>
    declaredWhile (condition.evaluate r) (condition.declared r) (executeAll r rounds body)
      (declaredByBody r rounds body) rounds m
  | .combo actions, m => declaredByBody r rounds actions m
  | .champion c, _ => [c]

def declaredByBody (r : Resolver σ) (rounds : Nat) : List Stmt → Machine σ → List Champion
  | [], _ => []
  | s :: ss, m =>
    s.declared r rounds m
      ++ Run.after (s.execute r rounds) (fun _ n => declaredByBody r rounds ss n) m

def declaredByElse (r : Resolver σ) (rounds : Nat) :
    Option (List Stmt) → Machine σ → List Champion
  | none, _ => []
  | some body, m => declaredByBody r rounds body m

end

/-- An error of the script does not keep a program from going on. -/
def Program.declared (r : Resolver σ) (rounds : Nat) (echo : Bool) :
    Program → Machine σ → List Champion
  | [], _ => []
  | s :: ss, m =>
    s.declared r rounds m ++
      match s.runTop r rounds echo m with
      | .ok _ n => Program.declared r rounds echo ss n
      | .error (.script e) n => Program.declared r rounds echo ss (n.emit (.failure e))
      | .error _ _ => []

def declaredByHandlers (r : Resolver σ) (rounds : Nat) (event champion : String) :
    List Handler → Machine σ → List Champion
  | [], _ => []
  | h :: hs, m =>
    Run.after (Run.notice (.running event champion)) (fun _ n =>
      declaredByBody r rounds h.body n ++ Run.after (executeAll r rounds h.body)
        (fun _ k => declaredByHandlers r rounds event champion hs k) n) m

def declaredByTrigger (r : Resolver σ) (rounds : Nat) (champion event : String) (m : Machine σ) :
    List Champion :=
  match m.champions.get? champion with
  | none => []
  | some c => declaredByHandlers r rounds event champion (c.handlersFor event) m

/-! ## Declarations of a tree -/

mutual

/-- The champions that are declared in an expression. -/
def Expr.declarations : Expr → List Champion
  | .literal _ _ | .variable _ => []
  | .grouping inner => inner.declarations
  | .unary _ operand => operand.declarations
  | .binary left _ right => left.declarations ++ right.declarations
  | .call _ arguments => declarationsOfAll arguments
  | .champion c => [c]

def declarationsOfAll : List Expr → List Champion
  | [] => []
  | e :: es => e.declarations ++ declarationsOfAll es

end

mutual

/-- The champions that are declared in a statement, except in the handlers of champions. -/
def Stmt.declarations : Stmt → List Champion
  | .expression value => value.declarations
  | .block statements => declarationsOfBody statements
  | .conditional condition thenBody elseBody =>
    condition.declarations ++ (declarationsOfBody thenBody ++ declarationsOfElse elseBody)
  | .loop condition body => condition.declarations ++ declarationsOfBody body
  | .combo actions => declarationsOfBody actions
  | .champion c => [c]

def declarationsOfBody : List Stmt → List Champion
  | [] => []
  | s :: ss => s.declarations ++ declarationsOfBody ss

def declarationsOfElse : Option (List Stmt) → List Champion
  | none => []
  | some body => declarationsOfBody body

end

def declarationsOfHandlers (hs : List Handler) : List Champion :=
  hs.flatMap fun h => declarationsOfBody h.body

/-! ## Announcements -/

/-- The line that tells of a declaration. -/
def announcement (name : String) : String :=
  s!"Champion registered: {name}"

def isAnnouncement (line : String) : Bool :=
  "Champion registered: ".toList.isPrefixOf line.toList

theorem isAnnouncement_announcement (name : String) :
    isAnnouncement (announcement name) = true := by
  show isAnnouncement ("Champion registered: " ++ name) = true
  unfold isAnnouncement
  rw [String.toList_append]
  exact List.isPrefixOf_iff_prefix.mpr (List.prefix_append _ _)

/-- Lines that start otherwise tell of no declaration. -/
theorem isAnnouncement_of_head? {line : String} {c : Char} (hline : line.toList.head? = some c)
    (hc : c ≠ 'C') : isAnnouncement line = false := by
  have hopens : "Champion registered: ".toList = 'C' :: "hampion registered: ".toList := by
    decide +kernel
  obtain ⟨cs, hcs⟩ := List.head?_eq_some_iff.mp hline
  unfold isAnnouncement
  rw [hcs, hopens, List.isPrefixOf_cons_cons, beq_eq_false_iff_ne.mpr hc.symm, Bool.false_and]

/-- The notice is shown by a line that tells of no declaration, if it is shown at all. -/
def Notice.Silent (n : Notice) : Prop :=
  ∀ line ∈ n.line?, isAnnouncement line = false

theorem Notice.silent_result (v : Value) : (result v).Silent := by
  rintro _ ⟨⟩
  exact isAnnouncement_of_head? (c := 'R') (by simp [toString]) (by decide)

theorem Notice.silent_running (event champion : String) : (running event champion).Silent := by
  rintro _ ⟨⟩
  exact isAnnouncement_of_head? (c := 'R') (by simp [toString]) (by decide)

theorem Notice.silent_failure (e : RuntimeError) : (failure e).Silent := by
  rintro _ ⟨⟩
  unfold RuntimeError.report Report.running
  split
  · exact isAnnouncement_of_head? (c := '[') (by simp [toString]) (by decide)
  · exact isAnnouncement_of_head? (c := 'R') (by simp [toString]) (by decide)

theorem Notice.silent_of_isAction {n : Notice} (h : n.isAction = true) : n.Silent := by
  cases n with
  | action record shown =>
    intro line hline
    cases shown with
    | false => cases hline
    | true =>
      cases hline
      exact isAnnouncement_of_head? (c := '>') (by simp [toString]) (by decide)
  | _ => cases h

/-- The host tells of no declarations itself. -/
structure Resolver.Discreet (r : Resolver σ) : Prop where
  lookup : ∀ name host, ∀ n ∈ (r.lookup name host).notices, n.Silent
  call : ∀ callee arguments host, ∀ n ∈ (r.call callee arguments host).notices, n.Silent

/-! ## Machines -/

namespace Machine

/-- The lines so far that tell of declarations. -/
def announcements (m : Machine σ) : List String :=
  m.lines.filter isAnnouncement

theorem lines_emit (m : Machine σ) (n : Notice) : (m.emit n).lines = m.lines ++ n.line?.toList := by
  rw [lines, emit, Array.toList_push, List.filterMap_append, lines]
  cases hline : n.line? <;> simp [hline]

theorem announcements_emit (m : Machine σ) {n : Notice} (h : n.Silent) :
    (m.emit n).announcements = m.announcements := by
  rw [announcements, lines_emit, List.filter_append, announcements]
  cases hline : n.line? with
  | none => simp
  | some line => simp [h line hline]

theorem announcements_accept (m : Machine σ) {a : Answer σ} (h : ∀ n ∈ a.notices, n.Silent) :
    (m.accept a).announcements = m.announcements := by
  have hnone : (a.notices.filterMap Notice.line?).filter isAnnouncement = [] := by
    rw [List.filter_eq_nil_iff]
    intro line hline
    obtain ⟨n, hn, hshown⟩ := List.mem_filterMap.mp hline
    rw [h n hn line hshown]
    decide
  simp [announcements, lines, accept, hnone]

theorem announcements_declare (m : Machine σ) (c : Champion) :
    (m.declare c).announcements = m.announcements ++ [announcement c.key] := by
  rw [declare, announcements, lines_emit, List.filter_append]
  refine congrArg (m.announcements ++ ·) ?_
  show [announcement c.key].filter isAnnouncement = [announcement c.key]
  simp [isAnnouncement_announcement]

/-- The second machine is the first after some declarations. If the host is discreet, there is one
more line for each of them. -/
structure Grows (discreet : Prop) (m : Machine σ) (declared : List Champion) (n : Machine σ) :
    Prop where
  champions : n.champions = m.champions.replay declared
  announcements : discreet →
    n.announcements = m.announcements ++ declared.map fun c => announcement c.key

variable {discreet : Prop} {m n k : Machine σ}

theorem grows_nil (hchampions : n.champions = m.champions)
    (hannouncements : discreet → n.announcements = m.announcements) : m.Grows discreet [] n :=
  ⟨hchampions, fun h => by rw [hannouncements h, List.map_nil, List.append_nil]⟩

theorem grows_emit (m : Machine σ) {notice : Notice} (h : notice.Silent) :
    m.Grows discreet [] (m.emit notice) :=
  grows_nil rfl fun _ => m.announcements_emit h

theorem Grows.trans {ds es : List Champion} (hmn : m.Grows discreet ds n)
    (hnk : n.Grows discreet es k) : m.Grows discreet (ds ++ es) k where
  champions := by rw [hnk.champions, hmn.champions, Registry.replay_append]
  announcements h := by
    rw [hnk.announcements h, hmn.announcements h, List.map_append, List.append_assoc]

end Machine

/-! ## Steps -/

namespace Run

variable {α β : Type} {discreet : Prop} {within xs ys : List Champion}

/-- Whatever comes of the step, the machine is the one before after the given declarations, all of
which are within a list. -/
structure Declares (discreet : Prop) (within : List Champion) (x : Run σ α)
    (declared : Machine σ → List Champion) : Prop where
  grows : ∀ m : Machine σ, m.Grows discreet (declared m) (machine (x m))
  within : ∀ m, declared m ⊆ within

theorem Declares.mono {x : Run σ α} {declared : Machine σ → List Champion}
    (h : Declares discreet xs x declared) (hsub : xs ⊆ ys) : Declares discreet ys x declared :=
  ⟨h.grows, fun m => List.Subset.trans (h.within m) hsub⟩

theorem declares_nothing {x : Run σ α} (h : ∀ m : Machine σ, m.Grows discreet [] (machine (x m))) :
    Declares discreet within x fun _ => [] :=
  ⟨h, fun _ => List.nil_subset _⟩

theorem declares_pure (a : α) : Declares (σ := σ) discreet within (pure a) fun _ => [] :=
  declares_nothing fun _ => Machine.grows_nil rfl fun _ => rfl

theorem declares_lift (result : Except Failure α) :
    Declares (σ := σ) discreet within (lift result) fun _ => [] := by
  refine declares_nothing fun m => ?_
  cases result <;> exact Machine.grows_nil rfl fun _ => rfl

theorem declares_notice {n : Notice} (h : n.Silent) :
    Declares (σ := σ) discreet within (notice n) fun _ => [] :=
  declares_nothing fun m => m.grows_emit h

theorem declares_ask {token : Token} {question : σ → Answer σ}
    (h : discreet → ∀ host, ∀ n ∈ (question host).notices, n.Silent) :
    Declares discreet within (ask token question) fun _ => [] := by
  refine declares_nothing fun m => ?_
  have hmachine : machine (ask token question m) = m.accept (question m.host) := by
    rw [ask_apply]
    cases (question m.host).reply.bind (valueAt token) <;> rfl
  rw [hmachine]
  exact Machine.grows_nil rfl fun hdiscreet => m.announcements_accept (h hdiscreet m.host)

theorem declares_declare (c : Champion) :
    Declares (σ := σ) discreet [c] (declare c) fun _ => [c] where
  grows m := ⟨rfl, fun _ => m.announcements_declare c⟩
  within _ := List.Subset.refl _

theorem Declares.bind {x : Run σ α} {f : α → Run σ β} {inFirst : Machine σ → List Champion}
    {inNext : α → Machine σ → List Champion} (hx : Declares discreet xs x inFirst)
    (hf : ∀ a, Declares discreet ys (f a) (inNext a)) :
    Declares discreet (xs ++ ys) (x >>= f) fun m => inFirst m ++ after x inNext m where
  grows m := by
    have hfirst := hx.grows m
    cases hm : x m with
    | ok a n =>
      rw [hm] at hfirst
      rw [bind_of_ok hm, after, hm]
      exact hfirst.trans ((hf a).grows n)
    | error failure n =>
      rw [hm] at hfirst
      rw [bind_of_error hm, after, hm, List.append_nil]
      exact hfirst
  within m := by
    refine List.append_subset.mpr ⟨List.subset_append_of_subset_left _ (hx.within m), ?_⟩
    refine List.subset_append_of_subset_right _ ?_
    unfold after
    split
    · exact (hf _).within _
    · exact List.nil_subset _

/-- What follows declares nothing. -/
theorem Declares.bind_nothing {x : Run σ α} {f : α → Run σ β} {declared : Machine σ → List Champion}
    (hx : Declares discreet xs x declared) (hf : ∀ a, Declares discreet [] (f a) fun _ => []) :
    Declares discreet xs (x >>= f) declared := by
  have hbind := hx.bind hf
  have hnothing : ∀ m, after x (fun _ _ => []) m = [] := by
    intro m
    unfold after
    split <;> rfl
  simp only [hnothing, List.append_nil] at hbind
  exact hbind

theorem Declares.ite {c : Bool} {x y : Run σ α} {inThen inElse : Machine σ → List Champion}
    (hx : Declares discreet xs x inThen) (hy : Declares discreet xs y inElse) :
    Declares discreet xs (if c then x else y) fun m => if c then inThen m else inElse m := by
  cases c with
  | true => exact hx
  | false => exact hy

end Run

/-! ## Trees -/

section Trees

variable {r : Resolver σ} {discreet : Prop}

mutual

theorem Expr.evaluate_declares (hr : discreet → r.Discreet) :
    (e : Expr) → Run.Declares discreet e.declarations (e.evaluate r) (e.declared r)
  | .literal value _ => by
    rw [Expr.evaluate]
    exact Run.declares_pure value
  | .grouping inner => by
    rw [Expr.evaluate]
    exact inner.evaluate_declares hr
  | .unary operator operand => by
    rw [Expr.evaluate]
    exact (operand.evaluate_declares hr).bind_nothing fun _ => Run.declares_lift _
  | .binary left operator right => by
    have hleft := left.evaluate_declares hr
    have hright := right.evaluate_declares hr
    have htruth : Run.Declares discreet right.declarations
        (do return Value.boolean (← right.evaluate r).truthy) (right.declared r) :=
      hright.bind_nothing fun _ => Run.declares_pure _
    by_cases hand : operator.kind = .andWord
    · rw [Expr.evaluate_and hand]
      refine hleft.bind fun l => ?_
      rw [Token.looksRight, hand]
      exact htruth.ite (Run.declares_pure _)
    · by_cases hor : operator.kind = .orWord
      · rw [Expr.evaluate_or hor]
        refine hleft.bind fun l => ?_
        rw [Token.looksRight, hor]
        cases l.truthy with
        | true => exact Run.declares_pure _
        | false => exact htruth
      · rw [Expr.evaluate_strict hand hor]
        refine hleft.bind fun l => ?_
        have hlooks : operator.looksRight l = true := by
          unfold Token.looksRight
          split
          · contradiction
          · contradiction
          · rfl
        simp only [hlooks, if_true]
        exact hright.bind_nothing fun _ => Run.declares_lift _
  | .variable name => by
    rw [Expr.evaluate]
    exact Run.declares_ask fun h => (hr h).lookup name
  | .call callee arguments => by
    rw [Expr.evaluate]
    exact (evaluateAll_declares hr arguments).bind_nothing fun values =>
      Run.declares_ask fun h => (hr h).call callee values
  | .champion c => by
    rw [Expr.evaluate]
    exact (Run.declares_declare c).bind_nothing fun _ => Run.declares_pure _

theorem evaluateAll_declares (hr : discreet → r.Discreet) :
    (es : List Expr) →
      Run.Declares discreet (declarationsOfAll es) (evaluateAll r es) (declaredByAll r es)
  | [] => by
    rw [evaluateAll]
    exact Run.declares_pure _
  | e :: es => by
    rw [evaluateAll]
    exact (e.evaluate_declares hr).bind fun _ =>
      (evaluateAll_declares hr es).bind_nothing fun _ => Run.declares_pure _

end

theorem repeatWhile_declares {test : Run σ Value} {body : Run σ Unit}
    {inTest inBody : Machine σ → List Champion} {xs ys : List Champion}
    (ht : Run.Declares discreet xs test inTest) (hb : Run.Declares discreet ys body inBody)
    (rounds : Nat) :
    Run.Declares discreet (xs ++ ys) (repeatWhile test body rounds)
      (declaredWhile test inTest body inBody rounds) := by
  induction rounds with
  | zero => exact Run.declares_nothing fun _ => Machine.grows_nil rfl fun _ => rfl
  | succ rounds ih =>
    rw [repeatWhile]
    have hround : Run.Declares discreet (ys ++ (xs ++ ys)) (do
        body
        repeatWhile test body rounds) _ := hb.bind fun _ => ih
    have hrounds := ht.bind fun v => @Run.Declares.ite _ _ _ _ v.truthy _ _ _ _ hround
      (Run.declares_pure ())
    exact hrounds.mono (by simp)

mutual

theorem Stmt.execute_declares (hr : discreet → r.Discreet) (rounds : Nat) :
    (s : Stmt) → Run.Declares discreet s.declarations (s.execute r rounds) (s.declared r rounds)
  | .expression value => by
    rw [Stmt.execute]
    exact (value.evaluate_declares hr).bind_nothing fun _ => Run.declares_pure _
  | .block statements => by
    rw [Stmt.execute]
    exact executeAll_declares hr rounds statements
  | .conditional condition thenBody elseBody => by
    rw [Stmt.execute]
    refine (condition.evaluate_declares hr).bind fun v => ?_
    exact ((executeAll_declares hr rounds thenBody).mono (by simp)).ite
      ((executeElse_declares hr rounds elseBody).mono (by simp))
  | .loop condition body => by
    rw [Stmt.execute]
    exact repeatWhile_declares (condition.evaluate_declares hr)
      (executeAll_declares hr rounds body) rounds
  | .combo actions => by
    rw [Stmt.execute]
    exact executeAll_declares hr rounds actions
  | .champion c => by
    rw [Stmt.execute]
    exact Run.declares_declare c

theorem executeAll_declares (hr : discreet → r.Discreet) (rounds : Nat) :
    (ss : List Stmt) → Run.Declares discreet (declarationsOfBody ss) (executeAll r rounds ss)
      (declaredByBody r rounds ss)
  | [] => by
    rw [executeAll]
    exact Run.declares_pure _
  | s :: ss => by
    rw [executeAll]
    exact (s.execute_declares hr rounds).bind fun _ => executeAll_declares hr rounds ss

theorem executeElse_declares (hr : discreet → r.Discreet) (rounds : Nat) :
    (e : Option (List Stmt)) → Run.Declares discreet (declarationsOfElse e) (executeElse r rounds e)
      (declaredByElse r rounds e)
  | none => by
    rw [executeElse]
    exact Run.declares_pure _
  | some body => by
    rw [executeElse]
    exact executeAll_declares hr rounds body

end

/-! ## Runs and events -/

theorem Stmt.runTop_declares (hr : discreet → r.Discreet) (rounds : Nat) (echo : Bool) (s : Stmt) :
    Run.Declares discreet s.declarations (s.runTop r rounds echo) (s.declared r rounds) := by
  cases s with
  | expression value =>
    rw [Stmt.runTop]
    refine (value.evaluate_declares hr).bind_nothing fun v => ?_
    split
    · exact Run.declares_notice (Notice.silent_result v)
    · exact Run.declares_pure _
  | _ => exact Stmt.execute_declares hr rounds _

theorem Program.run_declares (hr : discreet → r.Discreet) (rounds : Nat) (echo : Bool)
    (p : Program) :
    Run.Declares discreet (declarationsOfBody p) (p.run r rounds echo)
      (p.declared r rounds echo) := by
  induction p with
  | nil => exact Run.declares_pure _
  | cons s ss ih =>
    have hs := s.runTop_declares hr rounds echo
    refine ⟨fun m => ?_, fun m => ?_⟩
    · have hfirst := hs.grows m
      rw [Program.declared]
      cases hm : s.runTop r rounds echo m with
      | ok u n =>
        rw [hm] at hfirst
        rw [Program.run_cons_of_ok hm]
        exact hfirst.trans (ih.grows n)
      | error failure n =>
        rw [hm] at hfirst
        cases failure with
        | script e =>
          have hrest : Run.Declares discreet (declarationsOfBody ss) (do
              return e :: (← Program.run r rounds echo ss)) (Program.declared r rounds echo ss) :=
            ih.bind_nothing fun _ => Run.declares_pure _
          rw [Program.run_cons_of_script hm]
          have hreported := (n.grows_emit (Notice.silent_failure e)).trans (hrest.grows _)
          exact hfirst.trans hreported
        | _ =>
          rw [Program.run_cons_of_other hm (fun _ h => by cases h)]
          exact hfirst.trans (Machine.grows_nil rfl fun _ => rfl)
    · rw [Program.declared, declarationsOfBody]
      refine List.append_subset.mpr ⟨List.subset_append_of_subset_left _ (hs.within m), ?_⟩
      refine List.subset_append_of_subset_right _ ?_
      split
      · exact ih.within _
      · exact ih.within _
      · exact List.nil_subset _

theorem runHandlers_declares (hr : discreet → r.Discreet) (rounds : Nat) (event champion : String)
    (hs : List Handler) :
    Run.Declares discreet (declarationsOfHandlers hs) (runHandlers r rounds event champion hs)
      (declaredByHandlers r rounds event champion hs) := by
  induction hs with
  | nil => exact Run.declares_pure _
  | cons h hs ih =>
    rw [runHandlers]
    have hnotice : Run.Declares (σ := σ) discreet [] (Run.notice (.running event champion)) _ :=
      Run.declares_notice (Notice.silent_running event champion)
    exact hnotice.bind fun _ => (executeAll_declares hr rounds h.body).bind fun _ => ih

theorem trigger_declares (hr : discreet → r.Discreet) (rounds : Nat) (champion event : String)
    (m : Machine σ) :
    m.Grows discreet (declaredByTrigger r rounds champion event m)
      (Run.machine (trigger r rounds champion event m)) := by
  rw [trigger_apply, declaredByTrigger]
  cases m.champions.get? champion with
  | none => exact m.grows_emit fun _ h => by cases h
  | some c =>
    have hhandlers := runHandlers_declares hr rounds event champion (c.handlersFor event)
    exact (hhandlers.bind_nothing fun _ => Run.declares_pure _).grows m

end Trees

end RiftScript
