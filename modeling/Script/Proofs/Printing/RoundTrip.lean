import Script.Proofs.Grammar.Acceptance
import Script.Proofs.Printing.Forms
import Script.Program

set_option autoImplicit false

/- Printing a statement is undone by reading the text again. The tokens of a program that was read
from a text are known to come from pieces of it, so the form of every phrase tells how its text is
read. -/
namespace Script

theorem stmtsPlain_iff {stmts : List Stmt} :
    stmtsPlain stmts = true ↔ ∀ stmt ∈ stmts, stmt.isPlain = true := by
  induction stmts with
  | nil => simp [stmtsPlain]
  | cons stmt rest ih => rw [stmtsPlain, Bool.and_eq_true, ih, List.forall_mem_cons]

namespace Grammar

open Token (Kind)

-- The induction is on the derivation. A chain and a list of suffixes take what stands before them
-- as a hypothesis, since their derivations start with it already read.
mutual

theorem Primary.read {tokens : List Token} {expr : Expr} : Primary .preferred tokens expr →
    AllGenuine tokens → expr.isPlain = true → Read Called expr
  | .trueWord _, _, _ => read_bool true _
  | .falseWord _, _, _ => read_bool false _
  | .literal _ carries, all, plain => by
    rw [Expr.isPlain] at plain
    exact read_literal (all _ List.mem_cons_self) carries plain _
  | .name named, all, _ => read_name (all _ List.mem_cons_self) named
  | .grouping _ _ _, _, plain => by
    rw [Expr.isPlain] at plain
    cases plain

theorem Suffixes.read {tokens : List Token} {expr result : Expr} :
    Suffixes .preferred expr tokens result → AllGenuine tokens →
      (expr.isPlain = true → Read Called expr) → result.isPlain = true → Read Called result
  | .none, _, before, plain => before plain
  | .bare _ _ behind, all, before, plain => by
    simp only [List.forall_mem_cons] at all
    refine behind.read all.2.2 (fun plain => ?_) plain
    rw [Expr.isPlain, Bool.and_eq_true] at plain
    exact read_call (before plain.1) (List.forall_mem_nil _) (Nat.zero_le _)
  | .call _ listed few _ behind, all, before, plain => by
    simp only [List.forall_mem_cons, List.forall_mem_append] at all
    refine behind.read all.2.2.2 (fun plain => ?_) plain
    rw [Expr.isPlain, Bool.and_eq_true] at plain
    exact read_call (before plain.1) (listed.read all.2.1 plain.2) few
  | .member _ named behind, all, before, plain => by
    simp only [List.forall_mem_cons] at all
    refine behind.read all.2.2 (fun plain => ?_) plain
    rw [Expr.isPlain] at plain
    exact read_member (before plain) all.2.1 named

theorem Arguments.read {tokens : List Token} {exprs : List Expr} :
    Arguments .preferred tokens exprs → AllGenuine tokens → exprsPlain exprs = true →
      ∀ expr ∈ exprs, Read Standing expr
  | .one only, all, plain => by
    rw [exprsPlain, Bool.and_eq_true] at plain
    exact List.forall_mem_singleton.mpr (only.read all plain.1)
  | .more head _ tail, all, plain => by
    simp only [List.forall_mem_cons, List.forall_mem_append] at all
    rw [exprsPlain, Bool.and_eq_true] at plain
    exact List.forall_mem_cons.mpr ⟨head.read all.1 plain.1, tail.read all.2.2 plain.2⟩

theorem Unary.read {tokens : List Token} {expr : Expr} : Unary .preferred tokens expr →
    AllGenuine tokens → expr.isPlain = true → Read Unary expr
  | .sign signs signed, all, plain => by
    simp only [List.forall_mem_cons] at all
    rw [Expr.isPlain, Bool.and_eq_true, bne_iff_ne] at plain
    exact read_negated all.1 (by simpa [plain.1] using signs) (signed.read all.2 plain.2)
  | .call head behind, all, plain => by
    simp only [List.forall_mem_append] at all
    have called := behind.read all.2 (head.read all.1) plain
    exact called.mono fun _ _ => Called.unary

theorem Operation.read {operators : List (List Kind)} {tokens : List Token} {expr : Expr}
    (known : ∀ kind ∈ operators.flatten, kind ∈ levels.flatten) :
    Operation .preferred operators tokens expr → AllGenuine tokens → expr.isPlain = true →
      Read Unary expr
  | .tightest only, all, plain => only.read all plain
  | .level head behind, all, plain => by
    simp only [List.forall_mem_append] at all
    refine behind.read known all.2 (head.read (fun kind member => ?_) all.1) plain
    exact known kind (List.mem_append_right _ member)

theorem Chain.read {operators : List Kind} {tighter : List (List Kind)} {tokens : List Token}
    {expr result : Expr}
    (known : ∀ kind ∈ (operators :: tighter).flatten, kind ∈ levels.flatten) :
    Chain .preferred operators tighter expr tokens result → AllGenuine tokens →
      (expr.isPlain = true → Read Unary expr) → result.isPlain = true → Read Unary result
  | .none, _, before, plain => before plain
  | .more joins operand behind, all, before, plain => by
    simp only [List.forall_mem_cons, List.forall_mem_append] at all
    refine behind.read known all.2.2 (fun plain => ?_) plain
    rw [Expr.isPlain, Bool.and_eq_true] at plain
    have right := operand.read (fun kind member => known kind (List.mem_append_right _ member))
      all.2.1 plain.2
    have called := read_binary all.1 (known _ (List.mem_append_left _ joins)) (before plain.1) right
    exact called.mono fun _ _ => Called.unary

theorem Expression.read {tokens : List Token} {expr : Expr} : Expression .preferred tokens expr →
    AllGenuine tokens → expr.isPlain = true → Read Standing expr
  | .conditional _ _ tested _ body other, all, plain => by
    simp only [List.forall_mem_cons, List.forall_mem_append] at all
    simp only [Expr.isPlain, Bool.and_eq_true] at plain
    exact read_conditional (tested.read all.2.2.1 plain.1.1)
      (body.read all.2.2.2.2.1 plain.1.2) (other.read all.2.2.2.2.2 plain.2)
  | .operation only, all, plain => by
    have unary := only.read (fun _ member => member) all plain
    exact unary.mono fun _ _ => Unary.standing

theorem ElseBranch.read {tokens : List Token} {branch : List Stmt} :
    ElseBranch .preferred tokens branch → AllGenuine tokens → stmtsPlain branch = true →
      ∀ stmt ∈ branch, StmtRead stmt
  | .none, _, _ => List.forall_mem_nil _
  | .some _ body, all, plain => body.read (List.forall_mem_cons.mp all).2 plain

theorem Assignment.read {tokens : List Token} {expr : Expr} : Assignment .preferred tokens expr →
    AllGenuine tokens → expr.isPlain = true → Read Assignment expr
  | .assign named _ assigned, all, plain => by
    simp only [List.forall_mem_cons] at all
    rw [Expr.isPlain] at plain
    exact read_assign all.1 named (assigned.read all.2.2 plain)
  | .value only _, all, plain => read_standing (only.read all plain)

theorem Statement.read {tokens : List Token} {stmt : Stmt} : Statement .preferred tokens stmt →
    AllGenuine tokens → stmt.isPlain = true → StmtRead stmt
  | .mutable _ named specifies _ annotated _ initialized, all, plain => by
    simp only [List.forall_mem_cons, List.forall_mem_append] at all
    rw [Stmt.isPlain] at plain
    exact read_mutable all.2.1 named (specifies.read all.2.2.1) (annotated.printed all.2.2.2.2.1)
      (initialized.read all.2.2.2.2.2.2 plain)
  | .typed named specifies _ annotated _ initialized, all, plain => by
    simp only [List.forall_mem_cons, List.forall_mem_append] at all
    rw [Stmt.isPlain] at plain
    exact read_typed all.1 named (specifies.read all.2.1) (annotated.printed all.2.2.2.1)
      (initialized.read all.2.2.2.2.2 plain)
  | .inferred named specifies _ initialized, all, plain => by
    simp only [List.forall_mem_cons, List.forall_mem_append] at all
    rw [Stmt.isPlain] at plain
    exact read_inferred all.1 named (specifies.read all.2.1) (initialized.read all.2.2.2 plain)
  | .function named specifies _ takes _ affects _ annotated .none, all, _ => by
    simp only [List.forall_mem_cons, List.forall_mem_append] at all
    obtain ⟨genuine, first, -, second, -, third, -, fourth, -⟩ := all
    exact read_announced genuine named (specifies.read first) (takes.read second)
      (affects.read third) (annotated.printed fourth)
  | .function _ _ _ _ _ _ _ _ (.some _ _), _, plain => by
    rw [Stmt.isPlain] at plain
    cases plain
  | .block _ _, _, plain => by
    rw [Stmt.isPlain] at plain
    cases plain
  | .expression only, all, plain => by
    rw [Stmt.isPlain] at plain
    exact read_expression (only.read all plain)

theorem Block.read {tokens : List Token} {body : List Stmt} : Block .preferred tokens body →
    AllGenuine tokens → stmtsPlain body = true → ∀ stmt ∈ body, StmtRead stmt
  | .braces _ held _, all, plain => by
    simp only [List.forall_mem_cons, List.forall_mem_append] at all
    exact fun stmt member => held.read all.2.1 stmt member (stmtsPlain_iff.mp plain stmt member)

theorem Statements.read {tokens : List Token} {stmts : List Stmt} :
    Statements .preferred tokens stmts → AllGenuine tokens →
      ∀ stmt ∈ stmts, stmt.isPlain = true → StmtRead stmt
  | .none, _ => List.forall_mem_nil _
  | .blank _ behind, all => behind.read (List.forall_mem_cons.mp all).2
  | .last only, all => List.forall_mem_singleton.mpr (only.read all)
  | .ended head _ behind, all => by
    simp only [List.forall_mem_cons, List.forall_mem_append] at all
    exact List.forall_mem_cons.mpr ⟨head.read all.1, behind.read all.2.2⟩
  | .skipped allowed _, _ => False.elim allowed
  | .unended allowed _ _, _ => False.elim allowed

end

end Grammar

namespace Piece

/-- Whether a piece is an error does not depend on its place. -/
theorem error?_of_null {piece : Piece} (clean : piece.error? .null = none)
    (position : Position) : piece.error? position = none := by
  rw [← Option.not_isSome_iff_eq_none] at clean ⊢
  rwa [error?_isSome, ← piece.token?_unplaced position, Option.isNone_map, ← error?_isSome] at clean

/-- The tokens of pieces in their places are those in no place, save the places. -/
theorem map_unplaced_located (position : Position) (pieces : List Piece) :
    ((located position pieces).filterMap fun (position, piece) => piece.token? position).map
        Token.unplaced = pieces.filterMap (token? .null) := by
  conv => rhs; rw [← map_snd_located position pieces]
  rw [List.map_filterMap, List.filterMap_map]
  congr 1
  funext ⟨position, piece⟩
  exact piece.token?_unplaced position

end Piece

/-- All tokens of a text but the last one are read from pieces of it. -/
theorem exists_genuine (source : String) :
    ∃ body, (tokenize source).tokens = body ++ [.endOfFile (Position.start.after source.toList)] ∧
      AllGenuine body := by
  refine ⟨_, rfl, ?_⟩
  intro token member
  obtain ⟨⟨position, piece⟩, located, found⟩ := List.mem_filterMap.mp member
  obtain ⟨before, char, rest, -, -, rfl⟩ := Piece.mem_located _ _ located
  refine ⟨_, Piece.first_valid char rest, ?_⟩
  rw [Piece.token?_position found]
  exact found

/-- A text of a phrase has no errors, and all its tokens but the last one are of the phrase. -/
theorem Reads.scanned {phrase : List Token → Prop} {text : String} (reads : Reads phrase text) :
    (tokenize text).errors = [] ∧ ∃ body, phrase body ∧
      (tokenize text).tokens = body ++ [.endOfFile (Position.start.after text.toList)] := by
  obtain ⟨pieces, spelled, clean, spaced, read⟩ := reads
  have cut : Piece.segment text.toList = pieces := by
    have whole := Piece.segment_of_spaced (spaced [] rfl)
    rwa [List.append_nil, spelled, Piece.segment, List.append_nil] at whole
  refine ⟨?_, _, read _ (Piece.map_unplaced_located .start pieces), ?_⟩
  · rw [tokenize, cut, List.filterMap_eq_nil_iff]
    rintro ⟨position, piece⟩ located
    have member := List.mem_map_of_mem (f := Prod.snd) located
    rw [Piece.map_snd_located] at member
    exact Piece.error?_of_null (clean piece member) position
  · rw [tokenize, cut]

/-- A text is accepted if and only if neither its words nor its phrases have an error. -/
theorem parseSource_eq_ok {source : String} {program : List Stmt} :
    parseSource source = .ok program ↔ (tokenize source).errors = [] ∧
      (parse (tokenize source).tokens).errors = [] ∧
      (parse (tokenize source).tokens).statements = program := by
  unfold parseSource
  dsimp only
  split
  case isTrue empty =>
    rw [List.isEmpty_iff, List.append_eq_nil_iff] at empty
    simp [empty]
  case isFalse some =>
    rw [List.isEmpty_iff, List.append_eq_nil_iff] at some
    simp only [reduceCtorEq, false_iff]
    exact fun none => some ⟨none.1, none.2.1⟩

/-- A statement that was read from a text is read again from its own, save groupings and places. -/
theorem parseSource_print {source : String} {program : List Stmt} {stmt : Stmt}
    (accepted : parseSource source = .ok program) (member : stmt ∈ program)
    (plain : stmt.isPlain = true) :
    ∃ result, parseSource stmt.print = .ok [result] ∧
      result.ungrouped.unplaced = stmt.unplaced := by
  obtain ⟨-, none, rfl⟩ := parseSource_eq_ok.mp accepted
  obtain ⟨body, scanned, genuine⟩ := exists_genuine source
  rw [scanned] at none member
  have opened : ∀ token ∈ body, token.kind ≠ .endOfFile :=
    fun token within => (genuine token within).kind_ne
  have program : Grammar.Statements .preferred body _ := Parser.parse_sound opened rfl none
  have printed : Grammar.StmtRead stmt := program.read genuine stmt member plain
  obtain ⟨clean, body', ⟨result, spelled, same⟩, scanned'⟩ := printed.reads.scanned
  -- The second reading stops only at its end too, since its tokens also come from pieces.
  obtain ⟨body'', again, genuine'⟩ := exists_genuine stmt.print
  obtain rfl : body'' = body' := List.append_cancel_right (again.symm.trans scanned')
  have opened' : ∀ token ∈ body'', token.kind ≠ .endOfFile :=
    fun token within => (genuine' token within).kind_ne
  have ends : (Token.endOfFile (Position.start.after stmt.print.toList)).kind = .endOfFile := rfl
  have parsed := Parser.parse_complete opened' ends (.last spelled)
  rw [← scanned'] at parsed
  exact ⟨result, parseSource_eq_ok.mpr ⟨clean, parsed⟩, same⟩

/-- A declaration in which the first equals sign defines and the second compares. -/
def comparing : String := "a<b>:c=-1=x"

theorem parseSource_print_comparing :
    ∃ program, parseSource comparing = .ok program ∧ ∃ stmt ∈ program, stmt.isPlain = true ∧
      stmt.print = "a<b> : c = (-1 = x)" ∧
      ∃ result, parseSource "a<b> : c = (-1 = x)" = .ok [result] ∧
        result.ungrouped.unplaced = stmt.unplaced := by
  have accepted := parseSource_eq_ok.mpr
    ⟨(by decide +kernel : (tokenize comparing).errors = []), by decide +kernel, rfl⟩
  have holds : (parse (tokenize comparing).tokens).statements.any
      (fun stmt => stmt.isPlain && stmt.print == "a<b> : c = (-1 = x)") = true := by decide +kernel
  obtain ⟨stmt, member, holds⟩ := List.any_eq_true.mp holds
  rw [Bool.and_eq_true, beq_iff_eq] at holds
  refine ⟨_, accepted, stmt, member, holds.1, holds.2, ?_⟩
  rw [← holds.2]
  exact parseSource_print accepted member holds.1

end Script
