/-
Scripts that stand elsewhere.

A relocation moves tokens to other places and leaves what they say alone. It carries over to all
that is made of tokens: trees, champions, and the errors and notices that name a token. Two trees
are the same up to places if they become equal once every token is moved to one and the same place,
which is what `Relocation.nowhere` does.
-/
import RiftScript.Eval.Registry
import RiftScript.Notice

namespace RiftScript

/-- A change of places. Whatever a token says stays as it is. -/
structure Relocation where
  token : Token → Token
  /-- Literals of a tree keep the line of their token only. -/
  line : Int → Int
  kind_token : ∀ t, (token t).kind = t.kind
  lexeme_token : ∀ t, (token t).lexeme = t.lexeme
  literal_token : ∀ t, (token t).literal = t.literal
  line_token : ∀ t, (token t).line = line t.line

namespace Relocation

attribute [simp] kind_token lexeme_token literal_token line_token

/-- All tokens stay where they are. -/
def stay : Relocation where
  token t := t
  line n := n
  kind_token _ := rfl
  lexeme_token _ := rfl
  literal_token _ := rfl
  line_token _ := rfl

/-- All tokens come to stand at the same place. -/
def nowhere : Relocation where
  token t := { t with line := 0, column := 0, offset := 0 }
  line _ := 0
  kind_token _ := rfl
  lexeme_token _ := rfl
  literal_token _ := rfl
  line_token _ := rfl

end Relocation

/-! ## Trees -/

mutual

def Expr.relocate (f : Relocation) : Expr → Expr
  | .binary left operator right => .binary (left.relocate f) (f.token operator) (right.relocate f)
  | .unary operator operand => .unary (f.token operator) (operand.relocate f)
  | .literal value line => .literal value (f.line line)
  | .variable name => .variable (f.token name)
  | .grouping inner => .grouping (inner.relocate f)
  | .call callee arguments => .call (f.token callee) (relocateAll f arguments)
  | .champion declared => .champion (declared.relocate f)

def relocateAll (f : Relocation) : List Expr → List Expr
  | [] => []
  | e :: es => e.relocate f :: relocateAll f es

def Stmt.relocate (f : Relocation) : Stmt → Stmt
  | .expression value => .expression (value.relocate f)
  | .block statements => .block (relocateBody f statements)
  | .conditional condition thenBody elseBody =>
    .conditional (condition.relocate f) (relocateBody f thenBody) (relocateElse f elseBody)
  | .loop condition body => .loop (condition.relocate f) (relocateBody f body)
  | .combo actions => .combo (relocateBody f actions)
  | .champion declared => .champion (declared.relocate f)

def relocateBody (f : Relocation) : List Stmt → List Stmt
  | [] => []
  | s :: ss => s.relocate f :: relocateBody f ss

def relocateElse (f : Relocation) : Option (List Stmt) → Option (List Stmt)
  | none => none
  | some body => some (relocateBody f body)

def Handler.relocate (f : Relocation) : Handler → Handler
  | ⟨event, params, body⟩ => ⟨f.token event, params.map f.token, relocateBody f body⟩

def relocateHandlers (f : Relocation) : List Handler → List Handler
  | [] => []
  | h :: hs => h.relocate f :: relocateHandlers f hs

def Champion.relocate (f : Relocation) : Champion → Champion
  | ⟨name, handlers⟩ => ⟨f.token name, relocateHandlers f handlers⟩

end

theorem Champion.key_relocate (f : Relocation) (c : Champion) : (c.relocate f).key = c.key := by
  cases c
  rw [Champion.relocate]
  exact f.lexeme_token _

mutual

theorem Expr.relocate_stay : (e : Expr) → e.relocate .stay = e
  | .binary left operator right => by
    rw [Expr.relocate, left.relocate_stay, right.relocate_stay]
    rfl
  | .unary operator operand => by
    rw [Expr.relocate, operand.relocate_stay]
    rfl
  | .literal value line => by
    rw [Expr.relocate]
    rfl
  | .variable name => by
    rw [Expr.relocate]
    rfl
  | .grouping inner => by rw [Expr.relocate, inner.relocate_stay]
  | .call callee arguments => by
    rw [Expr.relocate, relocateAll_stay arguments]
    rfl
  | .champion declared => by rw [Expr.relocate, declared.relocate_stay]

theorem relocateAll_stay : (es : List Expr) → relocateAll .stay es = es
  | [] => by rw [relocateAll]
  | e :: es => by rw [relocateAll, e.relocate_stay, relocateAll_stay es]

theorem Stmt.relocate_stay : (s : Stmt) → s.relocate .stay = s
  | .expression value => by rw [Stmt.relocate, value.relocate_stay]
  | .block statements => by rw [Stmt.relocate, relocateBody_stay statements]
  | .conditional condition thenBody elseBody => by
    rw [Stmt.relocate, condition.relocate_stay, relocateBody_stay thenBody,
      relocateElse_stay elseBody]
  | .loop condition body => by rw [Stmt.relocate, condition.relocate_stay, relocateBody_stay body]
  | .combo actions => by rw [Stmt.relocate, relocateBody_stay actions]
  | .champion declared => by rw [Stmt.relocate, declared.relocate_stay]

theorem relocateBody_stay : (ss : List Stmt) → relocateBody .stay ss = ss
  | [] => by rw [relocateBody]
  | s :: ss => by rw [relocateBody, s.relocate_stay, relocateBody_stay ss]

theorem relocateElse_stay : (e : Option (List Stmt)) → relocateElse .stay e = e
  | none => by rw [relocateElse]
  | some body => by rw [relocateElse, relocateBody_stay body]

theorem Handler.relocate_stay : (h : Handler) → h.relocate .stay = h
  | ⟨event, params, body⟩ => by
    rw [Handler.relocate, relocateBody_stay body]
    exact congrArg (Handler.mk event · body) params.map_id

theorem relocateHandlers_stay : (hs : List Handler) → relocateHandlers .stay hs = hs
  | [] => by rw [relocateHandlers]
  | h :: hs => by rw [relocateHandlers, h.relocate_stay, relocateHandlers_stay hs]

theorem Champion.relocate_stay : (c : Champion) → c.relocate .stay = c
  | ⟨name, handlers⟩ => by
    rw [Champion.relocate, relocateHandlers_stay handlers]
    rfl

end

/-! ## Errors and notices -/

def RuntimeError.relocate (f : Relocation) (e : RuntimeError) : RuntimeError :=
  { e with token := e.token.map f.token }

def Failure.relocate (f : Relocation) : Failure → Failure
  | script e => script (e.relocate f)
  | failure => failure

def ActionRecord.relocate (f : Relocation) (a : ActionRecord) : ActionRecord :=
  { a with line := f.line a.line }

/-- Notices of a run. Those of scanning and parsing are no part of it. -/
def Notice.relocate (f : Relocation) : Notice → Notice
  | action record shown => action (record.relocate f) shown
  | failure e => failure (e.relocate f)
  | n => n

theorem RuntimeError.relocate_stay (e : RuntimeError) : e.relocate .stay = e := by
  cases e with
  | mk token cause => cases token <;> rfl

theorem Failure.relocate_stay (failure : Failure) : failure.relocate .stay = failure := by
  cases failure with
  | script e => exact congrArg script e.relocate_stay
  | _ => rfl

theorem mapError_stay {α : Type} (result : Except Failure α) :
    result.mapError (Failure.relocate .stay) = result := by
  cases result with
  | ok a => rfl
  | error failure => exact congrArg Except.error failure.relocate_stay

end RiftScript
