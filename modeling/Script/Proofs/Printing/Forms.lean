import Script.Proofs.Grammar.Assembly
import Script.Proofs.Grammar.Preference
import Script.Proofs.Printing.Heads

set_option autoImplicit false

/- One lemma for every form of expression and statement: if its parts are read from their texts as
they were, so is the whole. Operations stand in parentheses, so what is read has groupings that the
tree did not have. -/
namespace Script

open Grammar

open Token (Kind)

/-- An expression up to groupings and places. -/
def Expr.bare (expr : Expr) : Expr := expr.ungrouped.unplaced

def Stmt.bare (stmt : Stmt) : Stmt := stmt.ungrouped.unplaced

def stmtsBare (stmts : List Stmt) : List Stmt := stmtsUnplaced (stmtsUngrouped stmts)

theorem exprsBare_eq_map (exprs : List Expr) :
    exprsUnplaced (exprsUngrouped exprs) = exprs.map Expr.bare := by
  induction exprs with
  | nil => rfl
  | cons expr rest ih => exact congrArg (expr.bare :: ·) ih

theorem exprsUnplaced_eq_map (exprs : List Expr) :
    exprsUnplaced exprs = exprs.map Expr.unplaced := by
  induction exprs with
  | nil => rfl
  | cons expr rest ih => exact congrArg (expr.unplaced :: ·) ih

theorem printEach_eq_map (exprs : List Expr) : printEach exprs = exprs.map Expr.print := by
  induction exprs with
  | nil => rfl
  | cons expr rest ih => exact congrArg (expr.print :: ·) ih

namespace Grammar

/-- An expression that cannot be taken for an assignment. -/
structure Standing (mode : Mode) (tokens : List Token) (expr : Expr) : Prop where
  phrase : Expression mode tokens expr
  apart : ¬ BeginsAssignment tokens

section Grammar

variable {mode : Mode} {tokens rest : List Token} {expr result : Expr}

theorem Unary.standing (unary : Unary mode tokens expr) : Standing mode tokens expr := by
  refine ⟨.operation (unary.operation levels), ?_⟩
  rintro ⟨name, sign, rest, rfl, named, equals⟩
  have alone := unary.eq_name named (by rw [equals]; decide) (List.append_nil _)
  simp at alone

theorem Arguments.of_separated {tokens : List Token} {exprs : List Expr}
    (listed : Separated (Standing mode) tokens exprs) : Arguments mode tokens exprs := by
  induction listed with
  | one only => exact .one only.phrase
  | more head parts _ ih => exact .more head.phrase parts ih

end Grammar

/-- The text of an expression, which is read as a phrase of a sort. -/
abbrev Read (phrase : Mode → List Token → Expr → Prop) (expr : Expr) : Prop :=
  Printed (Said (phrase .preferred) Expr.bare expr.unplaced) expr.print

theorem Read.mono {phrase phrase' : Mode → List Token → Expr → Prop} {expr : Expr}
    (read : Read phrase expr)
    (weaker : ∀ tokens value, phrase .preferred tokens value → phrase' .preferred tokens value) :
    Read phrase' expr := by
  refine Printed.mono read ?_
  rintro tokens ⟨value, spelled, same⟩
  exact ⟨value, weaker tokens value spelled, same⟩

section Expressions

variable {expr left right : Expr} {operator name token : Token}

theorem read_name (genuine : name.Genuine) (named : name.kind = .identifier) :
    Read Called (.name name) := by
  show Printed _ name.lexeme
  refine (genuine.named named).mono ?_
  rintro _ ⟨name', rfl, same⟩
  refine ⟨.name name', ⟨.name ((kind_of_unplaced same).trans named), .none⟩, ?_⟩
  exact congrArg Expr.name same

theorem read_bool (value : Bool) (position : Position) :
    Read Called (.literal (.bool value) position) := by
  show Printed _ (printLiteral (.bool value))
  cases value with
  | true =>
    refine (Keyword.trueWord.genuine.printed (by decide)).mono ?_
    rintro _ ⟨token, rfl, same⟩
    exact ⟨_, ⟨.trueWord (kind_of_unplaced same), .none⟩, rfl⟩
  | false =>
    refine (Keyword.falseWord.genuine.printed (by decide)).mono ?_
    rintro _ ⟨token, rfl, same⟩
    exact ⟨_, ⟨.falseWord (kind_of_unplaced same), .none⟩, rfl⟩

/-- The digits of a number, without zeros in front of them, are a token with its value. -/
theorem genuine_int {number : Nat} (small : number ≤ Piece.maxInteger) :
    Token.Genuine ⟨.int, printLiteral (.number (.int (Int32.ofNat number))),
      some (.number (.int (Int32.ofNat number))), .null⟩ := by
  have value : (Int32.ofNat number).toInt = number :=
    Int32.toInt_ofNat_of_lt (Nat.lt_of_le_of_lt small (by decide))
  have text : printLiteral (.number (.int (Int32.ofNat number))) =
      String.ofList (Nat.toDigits 10 number) := by
    show toString (Int32.ofNat number).toInt = _
    rw [value]
    exact Nat.toString_eq_ofList_toDigits
  refine ⟨.whole (Nat.toDigits 10 number), ⟨Nat.toDigits_ne_nil, fun char member => ?_⟩, ?_⟩
  · exact Nat.isDigit_of_mem_toDigits (by decide) (by decide) member
  · rw [Piece.token?, Nat.ofDigitChars_ten_toDigits, if_pos small, text]
    rfl

theorem genuine_string {body : List Char} (valid : (Piece.quoted body).Valid) :
    Token.Genuine ⟨.string, printLiteral (.string (String.ofList body)),
      some (.string (String.ofList body)), .null⟩ := by
  refine ⟨.quoted body, valid, ?_⟩
  have text : printLiteral (.string (String.ofList body)) =
      String.ofList (Piece.quoted body).spelling := by
    apply String.toList_injective
    simp [printLiteral, Piece.spelling]
  rw [text]
  rfl

/-- A literal that is read from a text is printed as a token that carries it. -/
theorem exists_literal {value : Value} (genuine : token.Genuine)
    (carries : token.literal = some value) (plain : value.isPlain = true) :
    ∃ token' : Token, token'.Genuine ∧ token'.lexeme = printLiteral value ∧
      token'.literal = some value ∧
      (token'.kind = .int ∨ token'.kind = .float ∨ token'.kind = .string) := by
  obtain ⟨piece, valid, found, -⟩ := genuine.exists_piece
  change token.unplaced.literal = some value at carries
  cases piece with
  | whole digits =>
    simp only [Piece.token?, Option.ite_none_right_eq_some, Option.some.injEq] at found
    obtain ⟨small, is⟩ := found
    rw [← is] at carries
    cases carries
    exact ⟨_, genuine_int small, rfl, rfl, .inl rfl⟩
  | quoted body =>
    rw [← Option.some.inj found] at carries
    cases carries
    exact ⟨_, genuine_string valid, rfl, rfl, .inr (.inr rfl)⟩
  | decimal digits fraction =>
    rw [← Option.some.inj found] at carries
    cases carries
    cases plain
  | newline | word | symbol =>
    rw [← Option.some.inj found] at carries
    cases carries
  | _ => cases found

theorem read_literal {value : Value} (genuine : token.Genuine)
    (carries : token.literal = some value) (plain : value.isPlain = true) (position : Position) :
    Read Called (.literal value position) := by
  obtain ⟨token', genuine', text, carries', sort⟩ := exists_literal genuine carries plain
  have other : token'.kind ≠ .symbol .equals := by
    rcases sort with is | is | is <;> rw [is] <;> decide
  show Printed _ (printLiteral value)
  rw [← text]
  refine (genuine'.printed other).mono ?_
  rintro _ ⟨token'', rfl, same⟩
  have literal : token''.literal = some value := by
    have literals := congrArg Token.literal same
    exact literals.trans carries'
  rw [← kind_of_unplaced same] at sort
  exact ⟨_, ⟨.literal sort literal, .none⟩, rfl⟩

theorem read_member (target : Read Called expr) (genuine : name.Genuine)
    (named : name.kind = .identifier) : Read Called (.member expr name) := by
  have dotted : Trailing (Seq (Same Symbol.dot.token) (Same name)) ("." ++ name.lexeme) := by
    refine ⟨fun behind _ => ?_, .sign .dot (genuine.named named)⟩
    obtain ⟨head, tail, spelled, starts⟩ := genuine.starts named
    rw [String.toList_append, spelled]
    show (!head.isDigit) = true
    rw [Piece.isDigit_of_isWordStart starts]
    rfl
  show Printed _ (expr.print ++ "." ++ name.lexeme)
  rw [String.append_assoc]
  refine (target.append dotted).mono ?_
  rintro _ ⟨tokens, _, rfl, ⟨expr', called, same⟩, _, _, rfl, ⟨dot, rfl, sign⟩, name', rfl, same'⟩
  have behind : Suffixes .preferred expr' [dot, name'] (.member expr' name') :=
    .member (kind_of_unplaced sign) ((kind_of_unplaced same').trans named) .none
  refine ⟨_, called.suffixed behind, ?_⟩
  show Expr.member expr'.bare name'.unplaced = .member expr.unplaced name.unplaced
  rw [same, same']

theorem read_call {arguments : List Expr} (callee : Read Called expr)
    (each : ∀ argument ∈ arguments, Read Standing argument) (few : arguments.length ≤ 255) :
    Read Called (.call expr arguments) := by
  show Printed _ (expr.print ++ "(" ++ ", ".intercalate (printEach arguments) ++ ")")
  rw [printEach_eq_map, String.append_assoc, String.append_assoc]
  cases arguments with
  | nil =>
    have bare := (Symbol.closeParen.genuine.printed (by decide)).behind .openParen fun _ => rfl
    rw [List.map_nil, String.intercalate_nil, String.empty_append]
    refine (callee.append bare).mono ?_
    rintro _ ⟨tokens, _, rfl, ⟨expr', called, same⟩, _, _, rfl, ⟨opening, rfl, opens⟩, closing, rfl,
      closes⟩
    refine ⟨_, called.suffixed (.bare (kind_of_unplaced opens) (kind_of_unplaced closes) .none), ?_⟩
    show Expr.call expr'.bare [] = .call expr.unplaced []
    rw [same]
  | cons first rest =>
    have listed := Separated.printed (List.cons_ne_nil first rest) each
    have enclosed := (listed.enclosed .openParen .closeParen rfl (fun _ => rfl) fun _ => rfl).2
    refine (callee.append enclosed).mono ?_
    rintro _ ⟨tokens, _, rfl, ⟨expr', called, same⟩, _, _, rfl, ⟨opening, rfl, opens⟩, inner, _,
      rfl, ⟨arguments', phrase, same'⟩, closing, rfl, closes⟩
    have length : arguments'.length = (first :: rest).length := by
      simpa using congrArg List.length same'
    refine ⟨_, called.suffixed (.call (kind_of_unplaced opens) (Arguments.of_separated phrase)
      (length ▸ few) (kind_of_unplaced closes) .none), ?_⟩
    show Expr.call expr'.bare (exprsUnplaced (exprsUngrouped arguments')) =
      .call expr.unplaced (exprsUnplaced (first :: rest))
    rw [same, exprsBare_eq_map, same', exprsUnplaced_eq_map]

theorem read_negated (genuine : operator.Genuine) (signs : operator.kind = .symbol .dash)
    (operand : Read Unary expr) : Read Unary (.unary operator expr) := by
  have same := genuine.unplaced_of_sign signs
  have lexeme : operator.lexeme = "-" := congrArg Token.lexeme same
  show Printed _ (operator.lexeme ++ expr.print)
  rw [lexeme]
  refine (operand.opened .dash rfl).mono ?_
  rintro _ ⟨_, tokens, rfl, ⟨operator', rfl, sign⟩, expr', unary, same'⟩
  have kind : operator'.kind ∈ [.symbol .dash, .keyword .notWord] := by
    rw [kind_of_unplaced sign]
    exact List.mem_cons_self
  refine ⟨_, .sign kind unary, ?_⟩
  show Expr.unary operator'.unplaced expr'.bare = .unary operator.unplaced expr.unplaced
  rw [same', sign, same]
  rfl

theorem read_binary (genuine : operator.Genuine) (joins : operator.kind ∈ levels.flatten)
    (first : Read Unary left) (second : Read Unary right) :
    Read Called (.binary left operator right) := by
  have inner := first.append (genuine.infixed second)
  have whole := (inner.enclosed .openParen .closeParen rfl (fun _ => rfl) fun _ => rfl).1
  show Printed _ ("(" ++ left.print ++ " " ++ operator.lexeme ++ " " ++ right.print ++ ")")
  simp only [String.append_assoc] at whole ⊢
  refine whole.mono ?_
  rintro _ ⟨_, _, rfl, ⟨opening, rfl, opens⟩, _, _, rfl, ⟨tokens, _, rfl, ⟨left', unary, same⟩, _,
    rest, rfl, ⟨operator', rfl, sign⟩, right', unary', same'⟩, closing, rfl, closes⟩
  rw [← kind_of_unplaced sign] at joins
  have held := Expression.operation (unary.joined unary' joins)
  have grouped := Primary.grouping (kind_of_unplaced opens) held (kind_of_unplaced closes)
  refine ⟨_, by simpa using Called.intro grouped .none, ?_⟩
  show Expr.binary left'.bare operator'.unplaced right'.bare =
    .binary left.unplaced operator.unplaced right.unplaced
  rw [same, same', sign]

theorem read_assign (genuine : name.Genuine) (named : name.kind = .identifier)
    (value : Read Assignment expr) : Read Assignment (.assign name expr) := by
  have assigned := (genuine.named named).append (Symbol.equals.genuine.infixed value)
  show Printed _ (name.lexeme ++ " = " ++ expr.print)
  rw [String.append_assoc, append_spaced (by decide : " " ++ "=" ++ " " = " = ")]
  refine assigned.mono ?_
  rintro _ ⟨_, _, rfl, ⟨name', rfl, same⟩, _, tokens, rfl, ⟨sign', rfl, sign⟩, expr', phrase, same'⟩
  refine ⟨_, .assign ((kind_of_unplaced same).trans named) (kind_of_unplaced sign) phrase, ?_⟩
  show Expr.assign name'.unplaced expr'.bare = .assign name.unplaced expr.unplaced
  rw [same, same']

end Expressions

section Statements

variable {expr condition : Expr} {stmts thenBranch elseBranch : List Stmt} {name : Token}
  {specifiers effects : List TypeExpr} {type returns : TypeExpr} {parameters : List Parameter}

/-- The text of a statement, which is read as a statement. -/
abbrev StmtRead (stmt : Stmt) : Prop :=
  Printed (Said (Statement .preferred) Stmt.bare stmt.unplaced) stmt.print

/-- Lines up to the brace that closes them. -/
theorem read_lines (each : ∀ stmt ∈ stmts, StmtRead stmt) :
    Printed (Seq (Said (Statements .preferred) stmtsBare (stmtsUnplaced stmts))
      (Same Symbol.closeCurly.token)) (printLines stmts ++ "\x7d") := by
  induction stmts with
  | nil =>
    show Printed _ ("" ++ "\x7d")
    rw [String.empty_append]
    refine (Symbol.closeCurly.genuine.printed (by decide)).mono ?_
    exact fun tokens closed => ⟨[], tokens, rfl, ⟨[], .none, rfl⟩, closed⟩
  | cons stmt rest ih =>
    rw [List.forall_mem_cons] at each
    show Printed _ (stmt.print ++ "\n" ++ printLines rest ++ "\x7d")
    rw [String.append_assoc, String.append_assoc]
    refine (each.1.append (ih each.2).below.2).mono ?_
    rintro _ ⟨first, _, rfl, ⟨stmt', phrase, same⟩, _, _, rfl, ⟨ending, rfl, ends⟩, body, _, rfl,
      ⟨stmts', phrase', same'⟩, closed⟩
    have ends : ending.kind ∈ [.symbol .semicolon, .newline] := by
      rw [kind_of_unplaced ends]
      exact List.mem_cons_of_mem _ List.mem_cons_self
    refine ⟨first ++ ending :: body, _, by simp, ⟨_, .ended phrase ends phrase', ?_⟩, closed⟩
    show stmt'.bare :: stmtsBare stmts' = stmt.unplaced :: stmtsUnplaced rest
    rw [same, same']

theorem read_block (each : ∀ stmt ∈ stmts, StmtRead stmt) :
    Printed (Said (Block .preferred) stmtsBare (stmtsUnplaced stmts))
      (braced (printLines stmts)) := by
  have opened := (read_lines each).below.1.opened .openCurly rfl
  rw [braced, String.append_assoc, append_split (by decide : "\x7b" ++ "\n" = "\x7b\n")]
  refine opened.mono ?_
  rintro _ ⟨_, _, rfl, ⟨opening, rfl, opens⟩, _, _, rfl, ⟨newline, rfl, breaks⟩, body, _, rfl,
    ⟨stmts', phrase, same⟩, closing, rfl, closes⟩
  exact ⟨stmts', .braces (kind_of_unplaced opens) (.blank (kind_of_unplaced breaks) phrase)
    (kind_of_unplaced closes), same⟩

theorem read_else (each : ∀ stmt ∈ stmts, StmtRead stmt) :
    Trailing (Said (ElseBranch .preferred) stmtsBare (stmtsUnplaced stmts))
      (if stmts.isEmpty then "" else " else " ++ braced (printLines stmts)) := by
  cases stmts with
  | nil =>
    refine Trailing.empty.mono ?_
    rintro _ rfl
    exact ⟨[], .none, rfl⟩
  | cons stmt rest =>
    have other := Keyword.elseWord.genuine.infixed (read_block each)
    rw [List.isEmpty_cons, if_neg Bool.false_ne_true,
      append_spaced (by decide : " " ++ "else" ++ " " = " else ")]
    refine other.mono ?_
    rintro _ ⟨_, tokens, rfl, ⟨word, rfl, begins⟩, branch, phrase, same⟩
    exact ⟨branch, .some (kind_of_unplaced begins) phrase, same⟩

theorem read_conditional (tested : Read Standing condition)
    (first : ∀ stmt ∈ thenBranch, StmtRead stmt) (second : ∀ stmt ∈ elseBranch, StmtRead stmt) :
    Read Standing (.conditional condition thenBranch elseBranch) := by
  have word := Keyword.ifWord.genuine.printed (by decide)
  have test := (tested.enclosed .openParen .closeParen rfl (fun _ => rfl) fun _ => rfl).1
  have whole := word.append (test.blank.append ((read_block first).blank.append (read_else second)))
  show Printed _ ("if (" ++ condition.print ++ ") " ++ braced (printLines thenBranch) ++
    if elseBranch.isEmpty then "" else " else " ++ braced (printLines elseBranch))
  simp only [String.append_assoc] at whole ⊢
  rw [append_split (by decide : "if" ++ " (" = "if ("),
    append_split (by decide : " " ++ "(" = " ("), append_split (by decide : ")" ++ " " = ") ")]
  refine whole.mono ?_
  rintro _ ⟨_, _, rfl, ⟨word, rfl, begins⟩, _, _, rfl, ⟨_, _, rfl, ⟨opening, rfl, opens⟩, test, _,
    rfl, ⟨condition', ⟨phrase, -⟩, same⟩, closing, rfl, closes⟩, first, second, rfl,
    ⟨thenBranch', body, same'⟩, elseBranch', other, same''⟩
  have spelled := Expression.conditional (kind_of_unplaced begins) (kind_of_unplaced opens) phrase
    (kind_of_unplaced closes) body other
  refine ⟨_, ⟨by simpa using spelled, ?_⟩, ?_⟩
  · -- It begins with a keyword, so no name that could be assigned to stands there.
    rintro ⟨name, sign, rest, shape, named, -⟩
    obtain ⟨rfl, -⟩ := List.cons.inj shape
    rw [kind_of_unplaced begins] at named
    cases named
  · show Expr.conditional condition'.bare (stmtsBare thenBranch') (stmtsBare elseBranch') =
      .conditional condition.unplaced (stmtsUnplaced thenBranch) (stmtsUnplaced elseBranch)
    rw [same, same', same'']

theorem read_standing (standing : Read Standing expr) : Read Assignment expr := by
  refine standing.mono ?_
  intro tokens value standing
  exact .value standing.phrase fun begins => absurd begins standing.apart

theorem read_expression (assigned : Read Assignment expr) : StmtRead (.expression expr) := by
  show Printed _ expr.print
  refine Printed.mono assigned ?_
  rintro tokens ⟨expr', phrase, same⟩
  exact ⟨_, .expression phrase, congrArg Stmt.expression same⟩

section Declarations

variable (genuine : name.Genuine) (named : name.kind = .identifier)
  (specified : ∀ type ∈ specifiers, TypeRead type)
include genuine named specified

/-- A name with specifiers behind it. -/
theorem read_specified :
    Printed (Seq (Same name) (Said Specifiers (List.map TypeExpr.unplaced)
      (specifiers.map TypeExpr.unplaced))) (name.lexeme ++ printSpecifiers specifiers) :=
  (genuine.named named).append (Specifiers.trailing specified)

theorem read_inferred (initialized : Read Standing expr) :
    StmtRead (.variableDecl ⟨name, specifiers, none, false⟩ expr) := by
  have whole := (read_specified genuine named specified).append
    (Symbol.inferred.genuine.infixed initialized)
  show Printed _ ("" ++ name.lexeme ++ printSpecifiers specifiers ++ " := " ++ expr.print)
  rw [String.empty_append, String.append_assoc,
    append_spaced (by decide : " " ++ ":=" ++ " " = " := ")]
  refine whole.mono ?_
  rintro _ ⟨_, _, rfl, ⟨_, specified', rfl, ⟨name', rfl, sameName⟩, specifiers', specifies,
    sameSpecifiers⟩, _, tokens, rfl, ⟨sign', rfl, sign⟩, expr', ⟨phrase, -⟩, sameExpr⟩
  have spelled := Statement.inferred ((kind_of_unplaced sameName).trans named) specifies
    (kind_of_unplaced sign) phrase
  refine ⟨_, by simpa using spelled, ?_⟩
  show Stmt.variableDecl ⟨name'.unplaced, specifiers'.map TypeExpr.unplaced, none, false⟩
      expr'.bare =
    .variableDecl ⟨name.unplaced, specifiers.map TypeExpr.unplaced, none, false⟩ expr.unplaced
  rw [sameName, sameSpecifiers, sameExpr]

/-- A name with specifiers, a type and a value behind it. -/
theorem read_defined (typed : TypeRead type) (initialized : Read Standing expr) :
    Printed (Seq (Seq (Same name) (Said Specifiers (List.map TypeExpr.unplaced)
        (specifiers.map TypeExpr.unplaced)))
      (Seq (Same Symbol.colon.token) (Seq (Said TypePhrase TypeExpr.unplaced type.unplaced)
        (Seq (Same Symbol.equals.token) (Said (Standing .preferred) Expr.bare expr.unplaced)))))
      (name.lexeme ++ (printSpecifiers specifiers ++
        (" : " ++ (type.print ++ (" = " ++ expr.print))))) := by
  rw [← String.append_assoc, append_spaced (by decide : " " ++ "=" ++ " " = " = "),
    append_spaced (by decide : " " ++ ":" ++ " " = " : ")]
  exact (read_specified genuine named specified).append (Symbol.colon.genuine.infixed
    (typed.append (Symbol.equals.genuine.infixed initialized)))

theorem read_typed (typed : TypeRead type) (initialized : Read Standing expr) :
    StmtRead (.variableDecl ⟨name, specifiers, some type, false⟩ expr) := by
  show Printed _ ("" ++ name.lexeme ++ printSpecifiers specifiers ++
    (" : " ++ type.print ++ " = ") ++ expr.print)
  rw [String.empty_append]
  simp only [String.append_assoc]
  refine (read_defined genuine named specified typed initialized).mono ?_
  rintro _ ⟨_, _, rfl, ⟨_, specified', rfl, ⟨name', rfl, sameName⟩, specifiers', specifies,
    sameSpecifiers⟩, _, _, rfl, ⟨colon, rfl, parts⟩, typing, _, rfl, ⟨type', annotated, sameType⟩,
    _, tokens, rfl, ⟨sign, rfl, defines⟩, expr', ⟨phrase, -⟩, sameExpr⟩
  have spelled := Statement.typed ((kind_of_unplaced sameName).trans named) specifies
    (kind_of_unplaced parts) annotated (kind_of_unplaced defines) phrase
  refine ⟨_, by simpa using spelled, ?_⟩
  show Stmt.variableDecl ⟨name'.unplaced, specifiers'.map TypeExpr.unplaced,
      some type'.unplaced, false⟩ expr'.bare =
    .variableDecl ⟨name.unplaced, specifiers.map TypeExpr.unplaced, some type.unplaced, false⟩
      expr.unplaced
  rw [sameName, sameSpecifiers, sameType, sameExpr]

theorem read_mutable (typed : TypeRead type) (initialized : Read Standing expr) :
    StmtRead (.variableDecl ⟨name, specifiers, some type, true⟩ expr) := by
  have word := Keyword.varWord.genuine.printed (by decide)
  show Printed _ ("var " ++ name.lexeme ++ printSpecifiers specifiers ++
    (" : " ++ type.print ++ " = ") ++ expr.print)
  simp only [String.append_assoc]
  rw [append_split (by decide : "var" ++ " " = "var ")]
  refine (word.append (read_defined genuine named specified typed initialized).blank).mono ?_
  rintro _ ⟨_, _, rfl, ⟨word', rfl, begins⟩, _, _, rfl, ⟨_, specified', rfl, ⟨name', rfl, sameName⟩,
    specifiers', specifies, sameSpecifiers⟩, _, _, rfl, ⟨colon, rfl, parts⟩, typing, _, rfl,
    ⟨type', annotated, sameType⟩, _, tokens, rfl, ⟨sign, rfl, defines⟩, expr', ⟨phrase, -⟩,
    sameExpr⟩
  have spelled := Statement.mutable (kind_of_unplaced begins)
    ((kind_of_unplaced sameName).trans named) specifies (kind_of_unplaced parts) annotated
    (kind_of_unplaced defines) phrase
  refine ⟨_, by simpa using spelled, ?_⟩
  show Stmt.variableDecl ⟨name'.unplaced, specifiers'.map TypeExpr.unplaced,
      some type'.unplaced, true⟩ expr'.bare =
    .variableDecl ⟨name.unplaced, specifiers.map TypeExpr.unplaced, some type.unplaced, true⟩
      expr.unplaced
  rw [sameName, sameSpecifiers, sameType, sameExpr]

omit genuine named specified in
/-- Parameters in parentheses, of which there may be none. -/
theorem read_parameters (each : ∀ parameter ∈ parameters,
      Printed (Said ParameterPhrase Parameter.unplaced parameter.unplaced) parameter.print) :
    Trailing (Seq (Same Symbol.openParen.token)
        (Seq (Said Parameters (List.map Parameter.unplaced) (parameters.map Parameter.unplaced))
          (Same Symbol.closeParen.token)))
      ("(" ++ (", ".intercalate (parameters.map Parameter.print) ++ ")")) := by
  cases parameters with
  | nil =>
    have bare := (Symbol.closeParen.genuine.printed (by decide)).behind .openParen fun _ => rfl
    simp only [List.map_nil, String.intercalate_nil, String.empty_append]
    refine bare.mono ?_
    rintro _ ⟨opening, tokens, rfl, opens, closes⟩
    exact ⟨opening, _, rfl, opens, [], tokens, rfl, ⟨[], .none, rfl⟩, closes⟩
  | cons first rest =>
    have listed := Separated.printed (List.cons_ne_nil first rest) each
    refine (listed.enclosed .openParen .closeParen rfl (fun _ => rfl) fun _ => rfl).2.mono ?_
    rintro _ ⟨opening, _, rfl, opens, inner, closing, rfl, ⟨parameters', phrase, same⟩, closes⟩
    exact ⟨opening, _, rfl, opens, inner, closing, rfl, ⟨parameters', .some phrase, same⟩, closes⟩

theorem read_announced
    (each : ∀ parameter ∈ parameters,
      Printed (Said ParameterPhrase Parameter.unplaced parameter.unplaced) parameter.print)
    (affected : ∀ type ∈ effects, TypeRead type) (returned : TypeRead returns) :
    StmtRead (.functionDecl ⟨name, specifiers, parameters, effects, returns⟩ none) := by
  have whole := (read_specified genuine named specified).append ((read_parameters each).append
    ((Specifiers.trailing affected).append (Symbol.colon.genuine.infixed returned)))
  show Printed _ (name.lexeme ++ printSpecifiers specifiers ++ "(" ++
    ", ".intercalate (parameters.map Parameter.print) ++ ")" ++ printSpecifiers effects ++ " : " ++
    returns.print)
  simp only [String.append_assoc] at whole ⊢
  rw [append_spaced (by decide : " " ++ ":" ++ " " = " : ")]
  refine whole.mono ?_
  rintro _ ⟨_, _, rfl, ⟨_, specified', rfl, ⟨name', rfl, sameName⟩, specifiers', specifies,
    sameSpecifiers⟩, _, _, rfl, ⟨_, _, rfl, ⟨opening, rfl, opens⟩, listed, _, rfl,
    ⟨parameters', takes, sameParameters⟩, closing, rfl, closes⟩, effected, _, rfl,
    ⟨effects', affects, sameEffects⟩, _, typing, rfl, ⟨colon, rfl, parts⟩, returns', annotated,
    sameReturns⟩
  have spelled : Statement .preferred _ _ := .function ((kind_of_unplaced sameName).trans named)
    specifies (kind_of_unplaced opens) takes (kind_of_unplaced closes) affects
    (kind_of_unplaced parts) annotated .none
  refine ⟨_, by simpa using spelled, ?_⟩
  show Stmt.functionDecl ⟨name'.unplaced, specifiers'.map TypeExpr.unplaced,
      parameters'.map Parameter.unplaced, effects'.map TypeExpr.unplaced, returns'.unplaced⟩ none =
    .functionDecl ⟨name.unplaced, specifiers.map TypeExpr.unplaced,
      parameters.map Parameter.unplaced, effects.map TypeExpr.unplaced, returns.unplaced⟩ none
  rw [sameName, sameSpecifiers, sameParameters, sameEffects, sameReturns]

end Declarations

end Statements

end Grammar
end Script
