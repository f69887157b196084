/-
Where errors of scripts point.

An error tells by a token where it happened. What can fail in a script are its operators, and the
names and calls that it puts to the host, so the token is one of these. They are called the suspects
of a statement here. Declaring a champion runs none of its handlers, so there are no suspects in
them. Every tree is spelled with its suspects, so an error points into the text of the statement.

The host has a say in this as well, since it answers for names and calls. All that is asked of it is
that an error of its own is at the token that it answers for. That may depend on its state, which is
why hosts are told apart by a property that every answer keeps.
-/
import RiftScript.Proofs.Running.Contracts

namespace RiftScript

variable {σ : Type}

/-! ## Suspects -/

mutual

/-- The operators, names and callees of an expression, in the order of the text. -/
def Expr.suspects : Expr → List Token
  | .literal _ _ => []
  | .grouping inner => inner.suspects
  | .unary operator operand => operator :: operand.suspects
  | .binary left operator right => left.suspects ++ operator :: right.suspects
  | .variable name => [name]
  | .call callee arguments => callee :: suspectsOfAll arguments
  | .champion _ => []

def suspectsOfAll : List Expr → List Token
  | [] => []
  | e :: es => e.suspects ++ suspectsOfAll es

end

mutual

/-- The operators, names and callees of a statement, except in what champions do about events. -/
def Stmt.suspects : Stmt → List Token
  | .expression value => value.suspects
  | .block statements => suspectsOfBody statements
  | .conditional condition thenBody elseBody =>
    condition.suspects ++ (suspectsOfBody thenBody ++ suspectsOfElse elseBody)
  | .loop condition body => condition.suspects ++ suspectsOfBody body
  | .combo actions => suspectsOfBody actions
  | .champion _ => []

def suspectsOfBody : List Stmt → List Token
  | [] => []
  | s :: ss => s.suspects ++ suspectsOfBody ss

def suspectsOfElse : Option (List Stmt) → List Token
  | none => []
  | some body => suspectsOfBody body

end

mutual

/-- An expression is spelled with its suspects. -/
theorem Expr.Yields.suspects_sublist {e : Expr} {ts : List Token} :
    e.Yields ts → e.suspects.Sublist ts
  | .yes _ | .no _ | .nil _ | .constant _ => List.nil_sublist _
  | .reference => List.Sublist.refl _
  | .grouping _ hi _ => (hi.suspects_sublist.trans (List.sublist_append_left _ _)).cons _
  | .unary _ hr => hr.suspects_sublist.cons_cons _
  | .binary hl hr => hl.suspects_sublist.append (hr.suspects_sublist.cons_cons _)
  | .call _ ha _ =>
    ((ha.suspects_sublist.trans (List.sublist_append_left _ _)).cons _).cons_cons _

theorem ArgumentsYield.suspects_sublist {es : List Expr} {ts : List Token} :
    ArgumentsYield es ts → (suspectsOfAll es).Sublist ts
  | .none => List.nil_sublist _
  | .last he => by
    rw [suspectsOfAll, suspectsOfAll, List.append_nil]
    exact he.suspects_sublist
  | .more he _ hf => he.suspects_sublist.append (hf.suspects_sublist.cons _)

end

mutual

/-- A statement is spelled with its suspects. -/
theorem Stmt.Yields.suspects_sublist {after : Expr → Option Token → Prop} {s : Stmt}
    {ts : List Token} {next : Option Token} : s.Yields after ts next → s.suspects.Sublist ts
  | .terminated hv _ => hv.suspects_sublist.trans (List.sublist_append_left _ _)
  | .bare hv _ => hv.suspects_sublist
  | .block hb => hb.suspects_sublist
  | .conditional _ _ ht _ hb => by
    rw [Stmt.suspects, suspectsOfElse, List.append_nil]
    exact ((ht.suspects_sublist.append (hb.suspects_sublist.cons _)).cons _).cons _
  | .alternative _ _ ht _ hb _ hd => by
    rw [Stmt.suspects, suspectsOfElse, ← List.append_assoc]
    exact (((ht.suspects_sublist.append (hb.suspects_sublist.cons _)).append
      (hd.suspects_sublist.cons _)).cons _).cons _
  | .loop _ _ ht _ hb =>
    ((ht.suspects_sublist.append (hb.suspects_sublist.cons _)).cons _).cons _
  | .combo _ hb => hb.suspects_sublist.cons _
  | .champion _ _ _ _ _ => List.nil_sublist _

theorem StatementsYield.suspects_sublist {after : Expr → Option Token → Prop} {ss : List Stmt}
    {ts : List Token} {next : Option Token} :
    StatementsYield after ss ts next → (suspectsOfBody ss).Sublist ts
  | .nil => List.nil_sublist _
  | .cons hs hss => hs.suspects_sublist.append hss.suspects_sublist

theorem BodyYields.suspects_sublist {after : Expr → Option Token → Prop} {ss : List Stmt}
    {ts : List Token} : BodyYields after ss ts → (suspectsOfBody ss).Sublist ts
  | .braced _ hs _ => (hs.suspects_sublist.trans (List.sublist_append_left _ _)).cons _

end

/-! ## Steps -/

/-- An error of the script is at one of the tokens. Other failures do not point anywhere. -/
def Failure.IsAt (tokens : List Token) : Failure → Prop
  | script e => ∃ t ∈ tokens, e.token = some t
  | _ => True

theorem Failure.IsAt.mono {ts us : List Token} (hsub : ts ⊆ us) {f : Failure} (h : f.IsAt ts) :
    f.IsAt us := by
  cases f with
  | script e =>
    obtain ⟨t, ht, htoken⟩ := h
    exact ⟨t, hsub ht, htoken⟩
  | _ => trivial

theorem Failure.isAt_atToken (token : Token) (cause : RuntimeCause) :
    (atToken token cause).IsAt [token] :=
  ⟨token, List.mem_singleton_self _, rfl⟩

theorem Failure.isAt_of_map {α β : Type} {ts : List Token} {result : Except Failure α}
    (h : ∀ f, result = .error f → f.IsAt ts) (g : α → β) :
    ∀ f, result.map g = .error f → f.IsAt ts := by
  intro f hf
  cases result with
  | ok a => cases hf
  | error f' =>
    cases hf
    exact h f rfl

/-- The answer leaves a fair host, and it blames nothing but the token that it is for. -/
structure Answer.Blames (fair : σ → Prop) (token : Token) (a : Answer σ) : Prop where
  host : fair a.host
  failure : ∀ f, a.reply = .error f → f.IsAt [token]

/-- Every answer of a fair host blames the token that it is for. -/
structure Resolver.Blames (r : Resolver σ) (fair : σ → Prop) : Prop where
  lookup : ∀ {host}, fair host → ∀ name, (r.lookup name host).Blames fair name
  call : ∀ {host}, fair host → ∀ callee arguments,
    (r.call callee arguments host).Blames fair callee

namespace Run

variable {α β : Type} {fair : σ → Prop} {ts us : List Token}

/-- With a fair host, the step leaves a fair host and blames none but the tokens. -/
def Blames (fair : σ → Prop) (ts : List Token) (x : Run σ α) : Prop :=
  ∀ m : Machine σ, fair m.host →
    fair (machine (x m)).host ∧ ∀ f n, x m = .error f n → f.IsAt ts

theorem Blames.mono {x : Run σ α} (h : Blames fair ts x) (hsub : ts ⊆ us) : Blames fair us x :=
  fun m hm => ⟨(h m hm).1, fun f n hf => ((h m hm).2 f n hf).mono hsub⟩

/-- A step that gives a result and leaves the host alone blames no token. -/
theorem blames_of_ok {x : Run σ α} (h : ∀ m, ∃ a n, x m = .ok a n ∧ n.host = m.host) :
    Blames fair ts x := by
  intro m hm
  obtain ⟨a, n, hx, hhost⟩ := h m
  rw [hx]
  refine ⟨hhost ▸ hm, fun f k hf => ?_⟩
  cases hf

theorem blames_pure (a : α) : Blames fair ts (pure a) :=
  blames_of_ok fun m => ⟨a, m, rfl, rfl⟩

theorem blames_notice (notice : Notice) : Blames fair ts (Run.notice notice) :=
  blames_of_ok fun m => ⟨(), m.emit notice, rfl, rfl⟩

theorem blames_declare (c : Champion) : Blames fair ts (Run.declare c) :=
  blames_of_ok fun m => ⟨(), m.declare c, rfl, rfl⟩

theorem blames_lift {result : Except Failure α} (h : ∀ f, result = .error f → f.IsAt ts) :
    Blames fair ts (lift result) := by
  intro m hm
  cases result with
  | ok a => exact blames_pure a m hm
  | error g =>
    refine ⟨hm, fun f n hf => ?_⟩
    cases hf
    exact h g rfl

theorem Blames.bind {x : Run σ α} {f : α → Run σ β} (hx : Blames fair ts x)
    (hf : ∀ a, Blames fair ts (f a)) : Blames fair ts (x >>= f) := by
  intro m hm
  obtain ⟨hhost, hfailure⟩ := hx m hm
  cases hxm : x m with
  | ok a n =>
    rw [hxm] at hhost
    rw [bind_of_ok hxm]
    exact hf a n hhost
  | error g n =>
    rw [hxm] at hhost
    rw [bind_of_error hxm]
    refine ⟨hhost, fun f k h => ?_⟩
    cases h
    exact hfailure g n hxm

theorem isAt_of_valueAt {token : Token} {d : Datum} {f : Failure}
    (h : valueAt token d = .error f) : f.IsAt [token] := by
  unfold valueAt at h
  split at h
  · cases h
  · cases h
    trivial
  · cases h
    exact Failure.isAt_atToken token _

theorem blames_ask {token : Token} {question : σ → Answer σ}
    (h : ∀ host, fair host → (question host).Blames fair token) :
    Blames fair [token] (ask token question) := by
  intro m hm
  obtain ⟨hhost, hfailure⟩ := h m.host hm
  rw [ask_apply]
  refine blames_lift (fun f hf => ?_) _ hhost
  cases hreply : (question m.host).reply with
  | ok d =>
    rw [hreply] at hf
    exact isAt_of_valueAt hf
  | error g =>
    rw [hreply] at hf
    cases hf
    exact hfailure f hreply

end Run

/-! ## Operators -/

namespace Value

variable {operator : Token} {v w : Value} {f : Failure}

theorem isAt_of_applyUnary (h : v.applyUnary operator = .error f) : f.IsAt [operator] := by
  unfold applyUnary at h
  split at h
  · cases h
  · cases h
  · split at h
    · cases h
    · cases h
      exact Failure.isAt_atToken operator _
  · cases h
    exact Failure.isAt_atToken operator _

theorem isAt_of_plus (h : v.plus operator w = .error f) : f.IsAt [operator] := by
  unfold plus at h
  split at h
  · cases h
  · cases h
  · cases h
  · cases h
  · cases h
    exact Failure.isAt_atToken operator _

theorem isAt_of_numeric {g : Float → Float → Except Failure Value}
    (hg : ∀ x y, g x y = .error f → f.IsAt [operator]) (h : v.numeric operator g w = .error f) :
    f.IsAt [operator] := by
  unfold numeric at h
  split at h
  · exact hg _ _ h
  · cases h
    exact Failure.isAt_atToken operator _

theorem isAt_of_divide {x y : Float} (h : divide operator x y = .error f) : f.IsAt [operator] := by
  unfold divide at h
  split at h
  · cases h
    exact Failure.isAt_atToken operator _
  · cases h

theorem isAt_of_applyBinary (h : v.applyBinary operator w = .error f) : f.IsAt [operator] := by
  unfold applyBinary at h
  split at h
  · exact isAt_of_plus h
  · cases h
  · cases h
  · exact isAt_of_numeric (fun _ _ hg => by cases hg) h
  · exact isAt_of_numeric (fun _ _ hg => by cases hg) h
  · exact isAt_of_numeric (fun _ _ => isAt_of_divide) h
  · exact isAt_of_numeric (fun _ _ hg => by cases hg) h
  · exact isAt_of_numeric (fun _ _ hg => by cases hg) h
  · exact isAt_of_numeric (fun _ _ hg => by cases hg) h
  · exact isAt_of_numeric (fun _ _ hg => by cases hg) h
  · cases h
    exact Failure.isAt_atToken operator _

end Value

/-! ## Trees -/

section Trees

variable {r : Resolver σ} {fair : σ → Prop}

mutual

theorem Expr.evaluate_blames (hr : r.Blames fair) :
    (e : Expr) → Run.Blames fair e.suspects (e.evaluate r)
  | .literal value _ => by
    rw [Expr.evaluate]
    exact Run.blames_pure value
  | .grouping inner => by
    rw [Expr.evaluate]
    exact inner.evaluate_blames hr
  | .unary operator operand => by
    rw [Expr.evaluate, Expr.suspects]
    refine ((operand.evaluate_blames hr).mono (List.subset_cons_self _ _)).bind fun v => ?_
    exact (Run.blames_lift fun f => Value.isAt_of_applyUnary).mono (by simp)
  | .binary left operator right => by
    rw [Expr.evaluate, Expr.suspects]
    have hright : Run.Blames fair (left.suspects ++ operator :: right.suspects)
        (right.evaluate r) := (right.evaluate_blames hr).mono fun t ht => by simp [ht]
    refine ((left.evaluate_blames hr).mono (List.subset_append_left _ _)).bind fun v => ?_
    -- The logical operators take any values, so only their operands can fail.
    split
    · split
      · exact hright.bind fun _ => Run.blames_pure _
      · exact Run.blames_pure _
    · split
      · exact Run.blames_pure _
      · exact hright.bind fun _ => Run.blames_pure _
    · refine hright.bind fun w => ?_
      exact (Run.blames_lift fun f => Value.isAt_of_applyBinary).mono (by simp)
  | .variable name => by
    rw [Expr.evaluate]
    exact Run.blames_ask fun host hhost => hr.lookup hhost name
  | .call callee arguments => by
    rw [Expr.evaluate, Expr.suspects]
    refine ((evaluateAll_blames hr arguments).mono (List.subset_cons_self _ _)).bind
      fun values => ?_
    exact (Run.blames_ask fun host hhost => hr.call hhost callee values).mono (by simp)
  | .champion declared => by
    rw [Expr.evaluate]
    exact (Run.blames_declare declared).bind fun _ => Run.blames_pure _

theorem evaluateAll_blames (hr : r.Blames fair) :
    (es : List Expr) → Run.Blames fair (suspectsOfAll es) (evaluateAll r es)
  | [] => by
    rw [evaluateAll]
    exact Run.blames_pure []
  | e :: es => by
    rw [evaluateAll, suspectsOfAll]
    refine ((e.evaluate_blames hr).mono (List.subset_append_left _ _)).bind fun v => ?_
    exact ((evaluateAll_blames hr es).mono (List.subset_append_right _ _)).bind fun values =>
      Run.blames_pure _

end

theorem repeatWhile_blames {ts : List Token} {test : Run σ Value} {body : Run σ Unit}
    (ht : Run.Blames fair ts test) (hb : Run.Blames fair ts body) (rounds : Nat) :
    Run.Blames fair ts (repeatWhile test body rounds) := by
  induction rounds with
  | zero =>
    intro m hm
    refine ⟨hm, fun f n h => ?_⟩
    cases h
    trivial
  | succ rounds ih =>
    rw [repeatWhile]
    refine ht.bind fun v => ?_
    split
    · exact hb.bind fun _ => ih
    · exact Run.blames_pure ()

mutual

theorem Stmt.execute_blames (hr : r.Blames fair) (rounds : Nat) :
    (s : Stmt) → Run.Blames fair s.suspects (s.execute r rounds)
  | .expression value => by
    rw [Stmt.execute]
    exact (value.evaluate_blames hr).bind fun _ => Run.blames_pure ()
  | .block statements => by
    rw [Stmt.execute]
    exact executeAll_blames hr rounds statements
  | .conditional condition thenBody elseBody => by
    rw [Stmt.execute, Stmt.suspects]
    refine ((condition.evaluate_blames hr).mono (List.subset_append_left _ _)).bind fun v => ?_
    split
    · exact (executeAll_blames hr rounds thenBody).mono fun t ht => by simp [ht]
    · exact (executeElse_blames hr rounds elseBody).mono fun t ht => by simp [ht]
  | .loop condition body => by
    rw [Stmt.execute, Stmt.suspects]
    exact repeatWhile_blames ((condition.evaluate_blames hr).mono (List.subset_append_left _ _))
      ((executeAll_blames hr rounds body).mono (List.subset_append_right _ _)) rounds
  | .combo actions => by
    rw [Stmt.execute]
    exact executeAll_blames hr rounds actions
  | .champion declared => by
    rw [Stmt.execute]
    exact Run.blames_declare declared

theorem executeAll_blames (hr : r.Blames fair) (rounds : Nat) :
    (ss : List Stmt) → Run.Blames fair (suspectsOfBody ss) (executeAll r rounds ss)
  | [] => by
    rw [executeAll]
    exact Run.blames_pure ()
  | s :: ss => by
    rw [executeAll, suspectsOfBody]
    exact ((s.execute_blames hr rounds).mono (List.subset_append_left _ _)).bind fun _ =>
      (executeAll_blames hr rounds ss).mono (List.subset_append_right _ _)

theorem executeElse_blames (hr : r.Blames fair) (rounds : Nat) :
    (e : Option (List Stmt)) → Run.Blames fair (suspectsOfElse e) (executeElse r rounds e)
  | none => by
    rw [executeElse]
    exact Run.blames_pure ()
  | some body => by
    rw [executeElse]
    exact executeAll_blames hr rounds body

end

theorem Stmt.runTop_blames (hr : r.Blames fair) (rounds : Nat) (echo : Bool) (s : Stmt) :
    Run.Blames fair s.suspects (s.runTop r rounds echo) := by
  cases s with
  | expression value =>
    rw [Stmt.runTop]
    refine (value.evaluate_blames hr).bind fun v => ?_
    split
    · exact Run.blames_notice _
    · exact Run.blames_pure ()
  | _ => exact Stmt.execute_blames hr rounds _

end Trees

/-! ## Tokens of statements in a row -/

/-- Statements in a row take their tokens one after the other. -/
theorem StatementsYield.exists_parts {after : Expr → Option Token → Prop} {ss : List Stmt}
    {ts : List Token} {next : Option Token} (h : StatementsYield after ss ts next) :
    ∃ parts : List (Stmt × List Token), parts.map Prod.fst = ss ∧ parts.flatMap Prod.snd = ts ∧
      ∀ part ∈ parts, ∃ next, part.1.Yields after part.2 next := by
  induction ss generalizing ts with
  | nil =>
    cases h
    exact ⟨[], rfl, rfl, List.forall_mem_nil _⟩
  | cons s ss ih =>
    cases h with
    | cons hs hss =>
      obtain ⟨parts, rfl, rfl, hparts⟩ := ih hss
      exact ⟨(s, _) :: parts, rfl, rfl, List.forall_mem_cons.mpr ⟨⟨_, hs⟩, hparts⟩⟩

end RiftScript
