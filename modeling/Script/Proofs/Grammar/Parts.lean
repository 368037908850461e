import Script.Proofs.Grammar.Assembly
import Script.Proofs.Grammar.Soundness
import Script.Proofs.Tree.Parts

set_option autoImplicit false

/- The parts of a phrase are spelled inside its tokens. Every part of what is spelled has a stretch
of the tokens for itself, so by induction has every part of the parts. The calls and operations
between a beginning and the whole are phrases as well; they are spelled by the tokens up to them. -/
namespace Script.Grammar

open Token (Kind)

/-- Tokens spell a phrase: of an expression also one that assigns. -/
def Spelled (mode : Mode) (tokens : List Token) : Phrase → Prop
  | .expr expr => Expression mode tokens expr ∨ Assignment mode tokens expr
  | .stmt stmt => Statement mode tokens stmt

/-- Some of the tokens, without a gap between them, spell a phrase. -/
def Holds (mode : Mode) (tokens : List Token) (phrase : Phrase) : Prop :=
  ∃ span, span <:+: tokens ∧ Spelled mode span phrase

variable {mode : Mode} {tokens : List Token}

theorem Spelled.holds {phrase : Phrase} (spelled : Spelled mode tokens phrase) :
    Holds mode tokens phrase :=
  ⟨tokens, List.infix_rfl, spelled⟩

namespace Holds

variable {more : List Token} {phrase : Phrase}

theorem mono (held : Holds mode tokens phrase) (within : tokens <:+: more) :
    Holds mode more phrase := by
  obtain ⟨span, inner, spelled⟩ := held
  exact ⟨span, inner.trans within, spelled⟩

theorem cons (held : Holds mode tokens phrase) (token : Token) :
    Holds mode (token :: tokens) phrase :=
  held.mono (List.suffix_cons token tokens).isInfix

theorem append (held : Holds mode tokens phrase) (behind : List Token) :
    Holds mode (tokens ++ behind) phrase :=
  held.mono (List.prefix_append tokens behind).isInfix

theorem behind (held : Holds mode tokens phrase) (before : List Token) :
    Holds mode (before ++ tokens) phrase :=
  held.mono (List.suffix_append before tokens).isInfix

end Holds

/-- Tokens hold all parts of a phrase. -/
abbrev HoldsParts (mode : Mode) (tokens : List Token) (whole : Phrase) : Prop :=
  ∀ part ∈ whole.parts, Holds mode tokens part

theorem Expression.holds {expr : Expr} (phrase : Expression mode tokens expr) :
    Holds mode tokens (.expr expr) :=
  Spelled.holds (Or.inl phrase)

theorem Operation.holds {tighter : List (List Kind)} {expr : Expr}
    (phrase : Operation mode tighter tokens expr) (inner : tighter <:+ levels) :
    Holds mode tokens (.expr expr) :=
  Expression.holds (.operation (phrase.loosened inner))

theorem Unary.holds {expr : Expr} (phrase : Unary mode tokens expr) :
    Holds mode tokens (.expr expr) :=
  Expression.holds (.operation (phrase.operation levels))

theorem Assignment.holds {expr : Expr} (phrase : Assignment mode tokens expr) :
    Holds mode tokens (.expr expr) :=
  Spelled.holds (Or.inr phrase)

theorem Statement.holds {stmt : Stmt} (phrase : Statement mode tokens stmt) :
    Holds mode tokens (.stmt stmt) :=
  Spelled.holds phrase

theorem Primary.holdsParts {expr : Expr} (phrase : Primary mode tokens expr) :
    HoldsParts mode tokens (.expr expr) := by
  cases phrase with
  | grouping opens held closes =>
    rw [HoldsParts, Phrase.parts, List.forall_mem_singleton]
    exact (held.holds.append _).cons _
  | _ => simp [HoldsParts, Phrase.parts]

mutual

theorem Arguments.holds {tokens : List Token} {exprs : List Expr} :
    Arguments mode tokens exprs → ∀ expr ∈ exprs, Holds mode tokens (.expr expr)
  | .one only => List.forall_mem_singleton.mpr only.holds
  | .more head _ tail => List.forall_mem_cons.mpr ⟨head.holds.append _, fun expr inside =>
      ((tail.holds expr inside).cons _).behind _⟩

/-- What a suffix applies to is spelled by all the tokens before the suffix. -/
theorem Suffixes.holdsParts {rest : List Token} {expr result : Expr} :
    Suffixes mode expr rest result → ∀ {before : List Token}, Called mode before expr →
      HoldsParts mode before (.expr expr) → HoldsParts mode (before ++ rest) (.expr result)
  | .none, _, _, held => by
    rw [List.append_nil]
    exact held
  | .bare opens closes behind, before, called, _ => by
    have whole := behind.holdsParts (called.suffixed (.bare opens closes .none)) ?_
    · simpa using whole
    rw [HoldsParts, Phrase.parts, List.map_nil, List.forall_mem_singleton]
    exact called.unary.holds.append _
  | .call opens listed few closes behind, before, called, _ => by
    have whole := behind.holdsParts (called.suffixed (.call opens listed few closes .none)) ?_
    · simpa using whole
    simp only [HoldsParts, Phrase.parts, List.forall_mem_cons, List.forall_mem_map]
    refine ⟨called.unary.holds.append _, fun expr inside => ?_⟩
    exact (((listed.holds expr inside).append _).cons _).behind _
  | .member sign named behind, before, called, _ => by
    have whole := behind.holdsParts (called.suffixed (.member sign named .none)) ?_
    · simpa using whole
    rw [HoldsParts, Phrase.parts, List.forall_mem_singleton]
    exact called.unary.holds.append _

theorem Unary.holdsParts {tokens : List Token} {expr : Expr} :
    Unary mode tokens expr → HoldsParts mode tokens (.expr expr)
  | .sign _ signed => by
    rw [HoldsParts, Phrase.parts, List.forall_mem_singleton]
    exact signed.holds.cons _
  | .call head behind => by
    have called : Called mode _ _ := .intro head .none
    rw [List.append_nil] at called
    exact behind.holdsParts called head.holdsParts

theorem Operation.holdsParts {tighter : List (List Kind)} {tokens : List Token} {expr : Expr} :
    Operation mode tighter tokens expr → tighter <:+ levels →
      HoldsParts mode tokens (.expr expr)
  | .tightest only, _ => only.holdsParts
  | .level head behind, inner =>
    have deeper := (List.suffix_cons _ _).trans inner
    behind.holdsParts inner (head.looser _) (head.holdsParts deeper)

/-- The left operand of an operator is spelled by all the tokens before the operator. -/
theorem Chain.holdsParts {operators : List Kind} {tighter : List (List Kind)} {rest : List Token}
    {left result : Expr} : Chain mode operators tighter left rest result →
      operators :: tighter <:+ levels → ∀ {before : List Token},
        Operation mode (operators :: tighter) before left →
        HoldsParts mode before (.expr left) → HoldsParts mode (before ++ rest) (.expr result)
  | .none, _, _, _, held => by
    rw [List.append_nil]
    exact held
  | .more joins operand behind, inner, before, operation, _ => by
    have whole := behind.holdsParts inner (operation.joined joins operand) ?_
    · simpa using whole
    have deeper : tighter <:+ levels := (List.suffix_cons operators tighter).trans inner
    rw [HoldsParts, Phrase.parts, List.forall_mem_cons, List.forall_mem_singleton]
    exact ⟨(operation.holds inner).append _, ((operand.holds deeper).cons _).behind _⟩

theorem Statements.holds {tokens : List Token} {stmts : List Stmt} :
    Statements mode tokens stmts → ∀ stmt ∈ stmts, Holds mode tokens (.stmt stmt)
  | .none => by simp
  | .blank _ behind => fun stmt inside => (behind.holds stmt inside).cons _
  | .last only => List.forall_mem_singleton.mpr only.holds
  | .ended head _ behind => List.forall_mem_cons.mpr ⟨head.holds.append _, fun stmt inside =>
      ((behind.holds stmt inside).cons _).behind _⟩
  | .skipped _ behind => fun stmt inside => (behind.holds stmt inside).behind _
  | .unended _ head behind => List.forall_mem_cons.mpr ⟨head.holds.append _, fun stmt inside =>
      (behind.holds stmt inside).behind _⟩

end

theorem Block.holds {body : List Stmt} (phrase : Block mode tokens body) :
    ∀ stmt ∈ body, Holds mode tokens (.stmt stmt) := by
  cases phrase with
  | braces _ held _ => exact fun stmt inside => ((held.holds stmt inside).append _).cons _

theorem ElseBranch.holds {branch : List Stmt} (phrase : ElseBranch mode tokens branch) :
    ∀ stmt ∈ branch, Holds mode tokens (.stmt stmt) := by
  cases phrase with
  | none => simp
  | some _ body => exact fun stmt inside => (body.holds stmt inside).cons _

theorem FunctionBody.holds {body : Option (List Stmt)} (phrase : FunctionBody mode tokens body) :
    ∀ stmt ∈ body.getD [], Holds mode tokens (.stmt stmt) := by
  cases phrase with
  | none => simp
  | some _ braced => exact fun stmt inside => (braced.holds stmt inside).cons _

theorem Expression.holdsParts {expr : Expr} (phrase : Expression mode tokens expr) :
    HoldsParts mode tokens (.expr expr) := by
  cases phrase with
  | conditional _ _ tested _ body other =>
    simp only [HoldsParts, Phrase.parts, List.forall_mem_cons, List.forall_mem_map,
      List.forall_mem_append]
    refine ⟨((tested.holds.append _).cons _).cons _, fun stmt inside => ?_, fun stmt inside => ?_⟩
    · exact (((((body.holds stmt inside).append _).cons _).behind _).cons _).cons _
    · exact (((((other.holds stmt inside).behind _).cons _).behind _).cons _).cons _
  | operation only => exact only.holdsParts List.suffix_rfl

theorem Assignment.holdsParts {expr : Expr} (phrase : Assignment mode tokens expr) :
    HoldsParts mode tokens (.expr expr) := by
  cases phrase with
  | assign _ _ assigned =>
    rw [HoldsParts, Phrase.parts, List.forall_mem_singleton]
    exact (assigned.holds.cons _).cons _
  | value only _ => exact only.holdsParts

theorem Statement.holdsParts {stmt : Stmt} (phrase : Statement mode tokens stmt) :
    HoldsParts mode tokens (.stmt stmt) := by
  cases phrase with
  | mutable _ _ _ _ _ _ initialized =>
    rw [HoldsParts, Phrase.parts, List.forall_mem_singleton]
    exact (((((initialized.holds.cons _).behind _).cons _).behind _).cons _).cons _
  | typed _ _ _ _ _ initialized =>
    rw [HoldsParts, Phrase.parts, List.forall_mem_singleton]
    exact ((((initialized.holds.cons _).behind _).cons _).behind _).cons _
  | inferred _ _ _ initialized =>
    rw [HoldsParts, Phrase.parts, List.forall_mem_singleton]
    exact ((initialized.holds.cons _).behind _).cons _
  | function _ _ _ _ _ _ _ _ bodied =>
    simp only [HoldsParts, Phrase.parts, List.forall_mem_map]
    intro stmt inside
    have held := bodied.holds stmt inside
    exact (((((((held.behind _).cons _).behind _).cons _).behind _).cons _).behind _).cons _
  | block _ braced =>
    simp only [HoldsParts, Phrase.parts, List.forall_mem_map]
    exact fun stmt inside => (braced.holds stmt inside).cons _
  | expression only =>
    rw [HoldsParts, Phrase.parts, List.forall_mem_singleton]
    exact only.holds

theorem Spelled.holdsParts {phrase : Phrase} (spelled : Spelled mode tokens phrase) :
    HoldsParts mode tokens phrase := by
  cases phrase with
  | expr expr =>
    rcases spelled with phrase | phrase
    · exact phrase.holdsParts
    · exact phrase.holdsParts
  | stmt stmt => exact Statement.holdsParts spelled

/-- Tokens that hold a phrase hold what is inside it. -/
theorem Holds.inside {part whole : Phrase} (held : Holds mode tokens whole)
    (inside : part.Inside whole) : Holds mode tokens part := by
  induction inside using Relation.ReflTransGen.head_induction_on with
  | refl => exact held
  | head member _ ih =>
    obtain ⟨span, within, spelled⟩ := ih
    exact (spelled.holdsParts _ member).mono within

end Script.Grammar

namespace Script.Parser

/-- Whatever is inside a statement that is read, some of the tokens spell it. -/
theorem parse_holds {tokens : List Token} {stmt : Stmt} {part : Phrase}
    (read : stmt ∈ (parse tokens).statements) (inside : part.Inside (.stmt stmt)) :
    Grammar.Holds .lenient tokens part := by
  have held := ((parse_lenient tokens).holds stmt read).inside inside
  exact held.mono (List.takeWhile_prefix _).isInfix

end Script.Parser
