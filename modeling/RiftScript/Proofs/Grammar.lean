/-
The grammar of scripts, apart from any way of reading them.

A tree determines the tokens that spell it, up to the punctuation that trees do not keep. So the
grammar is a relation: `Expr.Yields e ts` says that the tokens `ts` spell the expression `e`, and
`Stmt.Yields after s ts next` that the tokens `ts` spell the statement `s` where `next` follows.
The relation says nothing about precedence; `wellFormed` does, and it says which tokens may stand
as names, events and parameters. A champion is not spelled by any tokens where an expression
stands, and it is not well formed there.

An expression statement may do without its semicolon. What may then follow it is the parameter
`after` of the relation: anything at all in the grammar itself, and only what cannot be taken for
more of the expression in `Expr.Apart`.
-/
import RiftScript.Tree.Basic

namespace RiftScript

/-! ## Precedence -/

namespace TokenKind

/-- How tightly a binary operator binds. -/
def precedence? : TokenKind → Option Nat
  | orWord => some 0
  | andWord => some 1
  | equalEqual | bangEqual => some 2
  | greater | greaterEqual | less | lessEqual => some 3
  | plus | minus => some 4
  | star | slash => some 5
  | _ => none

/-- The operators that stand before their only operand. -/
def isSign (k : TokenKind) : Prop :=
  k = notWord ∨ k = bang ∨ k = minus

/-- The kinds that an expression may start with. -/
def opensExpression : TokenKind → Bool
  | trueWord | falseWord | nilWord | number | string | leftParen | notWord | bang | minus => true
  | k => k.isName

theorem opensExpression_of_isName {k : TokenKind} (h : k.isName = true) :
    k.opensExpression = true := by
  cases k <;> first | rfl | exact h

theorem not_isSign_of_isName {k : TokenKind} (h : k.isName = true) : ¬ k.isSign := by
  rintro (rfl | rfl | rfl) <;> cases h

end TokenKind

namespace Expr

/-- How tightly an expression holds together: a binary operation as its operator binds, one with a
single operand tighter than that, and all others tightest. -/
def tightness : Expr → Nat
  | binary _ operator _ => operator.kind.precedence?.getD 0
  | unary _ _ => 6
  | _ => 7

/-- Whether the last operand of an expression is a call. -/
def endsInCall : Expr → Bool
  | binary _ _ right => right.endsInCall
  | unary _ operand => operand.endsInCall
  | call _ _ => true
  | _ => false

/-- The next token, if there is one, cannot be taken for more of the expression in front of it: it
is neither a semicolon nor a binary operator, nor an opening parenthesis unless a call ends the
expression. -/
def Apart (e : Expr) (next : Option Token) : Prop :=
  ∀ t ∈ next, t.kind ≠ .semicolon ∧ t.kind.precedence? = none ∧
    (t.kind = .leftParen → e.endsInCall = true)

end Expr

mutual

/-- Operands hold together at least as tightly as their operator asks, the right one strictly
more so, and every token of the tree is of a kind that may stand at its place. -/
def Expr.wellFormed : Expr → Bool
  | .binary left operator right =>
    (match operator.kind.precedence? with
      | some n => decide (n ≤ left.tightness) && decide (n < right.tightness)
      | none => false)
    && left.wellFormed && right.wellFormed
  | .unary _ operand => decide (6 ≤ operand.tightness) && operand.wellFormed
  | .literal _ _ => true
  | .variable name => name.kind.isName
  | .grouping inner => inner.wellFormed
  | .call callee arguments => callee.kind.isName && argumentsWellFormed arguments
  | .champion _ => false

def argumentsWellFormed : List Expr → Bool
  | [] => true
  | e :: es => e.wellFormed && argumentsWellFormed es

end

mutual

def Stmt.wellFormed : Stmt → Bool
  | .expression value => value.wellFormed
  | .block statements => bodyWellFormed statements
  | .conditional condition thenBody elseBody =>
    condition.wellFormed && bodyWellFormed thenBody && elseWellFormed elseBody
  | .loop condition body => condition.wellFormed && bodyWellFormed body
  | .combo actions => bodyWellFormed actions
  | .champion declared => declared.wellFormed

def bodyWellFormed : List Stmt → Bool
  | [] => true
  | s :: ss => s.wellFormed && bodyWellFormed ss

def elseWellFormed : Option (List Stmt) → Bool
  | none => true
  | some body => bodyWellFormed body

/-- A handler is for an event, and its parameters are names, numbers or texts. -/
def Handler.wellFormed : Handler → Bool
  | ⟨event, params, body⟩ =>
    event.kind.isEvent
    && params.all (fun p => p.kind == .number || p.kind == .string || p.kind.isName)
    && bodyWellFormed body

def Champion.wellFormed : Champion → Bool
  | ⟨_, handlers⟩ => handlersWellFormed handlers

def handlersWellFormed : List Handler → Bool
  | [] => true
  | h :: hs => h.wellFormed && handlersWellFormed hs

end

/-! ## Tokens that spell trees -/

mutual

/-- The tokens that spell an expression. -/
inductive Expr.Yields : Expr → List Token → Prop where
  | yes {t : Token} (ht : t.kind = .trueWord) : Expr.Yields (.literal (.boolean true) t.line) [t]
  | no {t : Token} (ht : t.kind = .falseWord) : Expr.Yields (.literal (.boolean false) t.line) [t]
  | nil {t : Token} (ht : t.kind = .nilWord) : Expr.Yields (.literal .nil t.line) [t]
  | constant {t : Token} (ht : t.kind = .number ∨ t.kind = .string) :
      Expr.Yields (.literal t.literal t.line) [t]
  | reference {name : Token} : Expr.Yields (.variable name) [name]
  | grouping {opening closing : Token} {inner : Expr} {ts : List Token}
      (ho : opening.kind = .leftParen) (hi : Expr.Yields inner ts)
      (hc : closing.kind = .rightParen) :
      Expr.Yields (.grouping inner) (opening :: ts ++ [closing])
  | unary {operator : Token} {operand : Expr} {ts : List Token}
      (ho : operator.kind.isSign) (hr : Expr.Yields operand ts) :
      Expr.Yields (.unary operator operand) (operator :: ts)
  | binary {left right : Expr} {operator : Token} {ts us : List Token}
      (hl : Expr.Yields left ts) (hr : Expr.Yields right us) :
      Expr.Yields (.binary left operator right) (ts ++ operator :: us)
  | call {callee opening closing : Token} {arguments : List Expr} {ts : List Token}
      (ho : opening.kind = .leftParen) (ha : ArgumentsYield arguments ts)
      (hc : closing.kind = .rightParen) :
      Expr.Yields (.call callee arguments) (callee :: opening :: ts ++ [closing])

/-- The tokens that spell the arguments of a call, with commas between them. -/
inductive ArgumentsYield : List Expr → List Token → Prop where
  | none : ArgumentsYield [] []
  | last {e : Expr} {ts : List Token} (he : Expr.Yields e ts) : ArgumentsYield [e] ts
  | more {e f : Expr} {es : List Expr} {comma : Token} {ts us : List Token}
      (he : Expr.Yields e ts) (hc : comma.kind = .comma) (hf : ArgumentsYield (f :: es) us) :
      ArgumentsYield (e :: f :: es) (ts ++ comma :: us)

end

theorem Expr.Yields.opens {e : Expr} {ts : List Token} (h : e.Yields ts)
    (hwf : e.wellFormed = true) : ∃ t us, ts = t :: us ∧ t.kind.opensExpression = true := by
  cases h with
  | yes ht => exact ⟨_, [], rfl, by rw [ht]; rfl⟩
  | no ht => exact ⟨_, [], rfl, by rw [ht]; rfl⟩
  | nil ht => exact ⟨_, [], rfl, by rw [ht]; rfl⟩
  | constant ht =>
    refine ⟨_, [], rfl, ?_⟩
    rcases ht with ht | ht <;> rw [ht] <;> rfl
  | reference =>
    exact ⟨_, [], rfl, TokenKind.opensExpression_of_isName (by simpa [Expr.wellFormed] using hwf)⟩
  | grouping ho => exact ⟨_, _, rfl, by rw [ho]; rfl⟩
  | unary ho =>
    refine ⟨_, _, rfl, ?_⟩
    rcases ho with ho | ho | ho <;> rw [ho] <;> rfl
  | binary hl hr =>
    simp only [Expr.wellFormed, Bool.and_eq_true] at hwf
    obtain ⟨t, us, rfl, ht⟩ := Expr.Yields.opens hl hwf.1.2
    exact ⟨t, _, rfl, ht⟩
  | call =>
    simp only [Expr.wellFormed, Bool.and_eq_true] at hwf
    exact ⟨_, _, rfl, TokenKind.opensExpression_of_isName hwf.1⟩

theorem ArgumentsYield.opens {e : Expr} {es : List Expr} {ts : List Token}
    (h : ArgumentsYield (e :: es) ts) (hwf : argumentsWellFormed (e :: es) = true) :
    ∃ t us, ts = t :: us ∧ t.kind.opensExpression = true := by
  simp only [argumentsWellFormed, Bool.and_eq_true] at hwf
  cases h with
  | last he => exact he.opens hwf.1
  | more he =>
    obtain ⟨t, us, rfl, ht⟩ := he.opens hwf.1
    exact ⟨t, _, rfl, ht⟩

/-- The tokens that spell one parameter or more, with commas between them. -/
inductive ParametersYield : List Token → List Token → Prop where
  | last {p : Token} : ParametersYield [p] [p]
  | more {p q comma : Token} {ps ts : List Token} (hc : comma.kind = .comma)
      (hq : ParametersYield (q :: ps) ts) : ParametersYield (p :: q :: ps) (p :: comma :: ts)

/-- The tokens that spell the parameters of a handler. A handler without parameters may leave out
the parentheses. -/
inductive SignatureYields : List Token → List Token → Prop where
  | absent : SignatureYields [] []
  | empty {opening closing : Token} (ho : opening.kind = .leftParen)
      (hc : closing.kind = .rightParen) : SignatureYields [] [opening, closing]
  | listed {opening closing : Token} {ps ts : List Token} (ho : opening.kind = .leftParen)
      (hp : ParametersYield ps ts) (hc : closing.kind = .rightParen) :
      SignatureYields ps (opening :: ts ++ [closing])

mutual

/-- The tokens that spell a statement in front of the token `next`, or at the end. An expression
statement has its semicolon, or else `after` has to hold of the expression and `next`. -/
inductive Stmt.Yields (after : Expr → Option Token → Prop) :
    Stmt → List Token → Option Token → Prop where
  | terminated {value : Expr} {semicolon : Token} {ts : List Token} {next : Option Token}
      (hv : value.Yields ts) (hs : semicolon.kind = .semicolon) :
      Stmt.Yields after (.expression value) (ts ++ [semicolon]) next
  | bare {value : Expr} {ts : List Token} {next : Option Token} (hv : value.Yields ts)
      (ha : after value next) : Stmt.Yields after (.expression value) ts next
  | block {statements : List Stmt} {ts : List Token} {next : Option Token}
      (hb : BodyYields after statements ts) : Stmt.Yields after (.block statements) ts next
  | conditional {word opening closing : Token} {condition : Expr} {thenBody : List Stmt}
      {ts us : List Token} {next : Option Token} (hw : word.kind = .ifWord)
      (ho : opening.kind = .leftParen) (ht : condition.Yields ts)
      (hc : closing.kind = .rightParen) (hb : BodyYields after thenBody us) :
      Stmt.Yields after (.conditional condition thenBody none)
        (word :: opening :: ts ++ closing :: us) next
  | alternative {word opening closing other : Token} {condition : Expr}
      {thenBody elseBody : List Stmt} {ts us vs : List Token} {next : Option Token}
      (hw : word.kind = .ifWord) (ho : opening.kind = .leftParen) (ht : condition.Yields ts)
      (hc : closing.kind = .rightParen) (hb : BodyYields after thenBody us)
      (he : other.kind = .elseWord) (hd : BodyYields after elseBody vs) :
      Stmt.Yields after (.conditional condition thenBody (some elseBody))
        (word :: opening :: ts ++ closing :: us ++ other :: vs) next
  | loop {word opening closing : Token} {condition : Expr} {body : List Stmt}
      {ts us : List Token} {next : Option Token} (hw : word.kind = .whileWord)
      (ho : opening.kind = .leftParen) (ht : condition.Yields ts)
      (hc : closing.kind = .rightParen) (hb : BodyYields after body us) :
      Stmt.Yields after (.loop condition body) (word :: opening :: ts ++ closing :: us) next
  | combo {word : Token} {actions : List Stmt} {ts : List Token} {next : Option Token}
      (hw : word.kind = .combo) (hb : BodyYields after actions ts) :
      Stmt.Yields after (.combo actions) (word :: ts) next
  | champion {word name opening closing : Token} {handlers : List Handler} {ts : List Token}
      {next : Option Token} (hw : word.kind = .champion) (hn : name.kind = .identifier)
      (ho : opening.kind = .leftBrace) (hh : HandlersYield after handlers ts)
      (hc : closing.kind = .rightBrace) :
      Stmt.Yields after (.champion ⟨name, handlers⟩)
        (word :: name :: opening :: ts ++ [closing]) next

/-- The tokens that spell statements in a row in front of the token `next`, or at the end. -/
inductive StatementsYield (after : Expr → Option Token → Prop) :
    List Stmt → List Token → Option Token → Prop where
  | nil {next : Option Token} : StatementsYield after [] [] next
  | cons {s : Stmt} {ss : List Stmt} {ts us : List Token} {next : Option Token}
      (hs : Stmt.Yields after s ts (us.head?.or next)) (hss : StatementsYield after ss us next) :
      StatementsYield after (s :: ss) (ts ++ us) next

/-- The tokens that spell a body, its braces included. -/
inductive BodyYields (after : Expr → Option Token → Prop) :
    List Stmt → List Token → Prop where
  | braced {opening closing : Token} {statements : List Stmt} {ts : List Token}
      (ho : opening.kind = .leftBrace) (hs : StatementsYield after statements ts (some closing))
      (hc : closing.kind = .rightBrace) : BodyYields after statements (opening :: ts ++ [closing])

/-- The tokens that spell handlers in a row. -/
inductive HandlersYield (after : Expr → Option Token → Prop) :
    List Handler → List Token → Prop where
  | nil : HandlersYield after [] []
  | cons {event : Token} {params : List Token} {body : List Stmt} {hs : List Handler}
      {ts us vs : List Token} (hp : SignatureYields params ts) (hb : BodyYields after body us)
      (hh : HandlersYield after hs vs) :
      HandlersYield after (⟨event, params, body⟩ :: hs) (event :: ts ++ us ++ vs)

end

/-- No statement starts with a closing brace or with the word before an other branch. -/
theorem Stmt.Yields.opens {after : Expr → Option Token → Prop} {s : Stmt} {ts : List Token}
    {next : Option Token} (h : s.Yields after ts next) (hwf : s.wellFormed = true) :
    ∃ t us, ts = t :: us ∧ t.kind ≠ .rightBrace ∧ t.kind ≠ .elseWord := by
  have hexpr : ∀ {k : TokenKind}, k.opensExpression = true → k ≠ .rightBrace ∧ k ≠ .elseWord := by
    intro k hk
    constructor <;> rintro rfl <;> cases hk
  cases h with
  | terminated hv =>
    obtain ⟨t, us, rfl, ht⟩ := hv.opens hwf
    exact ⟨t, _, rfl, hexpr ht⟩
  | bare hv =>
    obtain ⟨t, us, rfl, ht⟩ := hv.opens hwf
    exact ⟨t, us, rfl, hexpr ht⟩
  | block hb =>
    cases hb with
    | braced ho => exact ⟨_, _, rfl, by rw [ho]; decide⟩
  | conditional hw => exact ⟨_, _, rfl, by rw [hw]; decide⟩
  | alternative hw => exact ⟨_, _, rfl, by rw [hw]; decide⟩
  | loop hw => exact ⟨_, _, rfl, by rw [hw]; decide⟩
  | combo hw => exact ⟨_, _, rfl, by rw [hw]; decide⟩
  | champion hw => exact ⟨_, _, rfl, by rw [hw]; decide⟩

theorem StatementsYield.opens {after : Expr → Option Token → Prop} {ss : List Stmt}
    {ts : List Token} {next : Option Token} (h : StatementsYield after ss ts next)
    (hwf : bodyWellFormed ss = true) :
    ∀ t ∈ ts.head?, t.kind ≠ .rightBrace ∧ t.kind ≠ .elseWord := by
  cases h with
  | nil =>
    intro t ht
    cases ht
  | cons hs _ =>
    rw [bodyWellFormed, Bool.and_eq_true] at hwf
    obtain ⟨t, us, rfl, ht⟩ := hs.opens hwf.1
    intro u hu
    obtain rfl : t = u := by simpa using hu
    exact ht

namespace Program

def wellFormed (p : Program) : Bool :=
  bodyWellFormed p

/-- The tokens that spell a script. -/
def Yields (p : Program) (ts : List Token) : Prop :=
  StatementsYield (fun _ _ => True) p ts none

/-- The tokens that spell a script in which every expression statement without a semicolon stands
apart from what follows it. -/
def YieldsApart (p : Program) (ts : List Token) : Prop :=
  StatementsYield Expr.Apart p ts none

end Program
end RiftScript
