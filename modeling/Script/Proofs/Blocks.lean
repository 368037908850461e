import Script.Proofs.Grammar.Completeness
import Script.Proofs.Grammar.Opened
import Script.Proofs.Parsing.Enclosed
import Script.Proofs.Recovery

set_option autoImplicit false

/- Blocks are read like programs. What stands between the braces of a block, of a function or of a
branch gives the statements and the errors that it gives alone. -/
namespace Script

namespace Grammar

/-- What a function declaration says before its body: `IDENT Specs ( Parameters ) Specs : Type`. -/
inductive FunctionHead : List Token → Signature → Prop where
  | intro {name opening closing colon : Token} {specified listed effected typing : List Token}
      {specifiers effects : List TypeExpr} {parameters : List Parameter} {returns : TypeExpr}
      (named : name.kind = .identifier) (specifies : Specifiers specified specifiers)
      (opens : opening.kind = .symbol .openParen) (takes : Parameters listed parameters)
      (closes : closing.kind = .symbol .closeParen) (affects : Specifiers effected effects)
      (parts : colon.kind = .symbol .colon) (annotated : TypePhrase typing returns) :
      FunctionHead
        ((name :: specified) ++ ((opening :: (listed ++ [closing])) ++
          (effected ++ (colon :: typing))))
        ⟨name, specifiers, parameters, effects, returns⟩

theorem FunctionHead.opened {head : List Token} {signature : Signature} :
    FunctionHead head signature → Opened head
  | .intro named specifies opens takes closes affects parts annotated =>
    have listed := takes.opened.append (.cons (by simp [closes]) .nil)
    have typed := affects.opened.append (.cons (by simp [parts]) annotated.opened)
    .cons (by simp [named]) (specifies.opened.append
      (.append (.cons (by simp [opens]) listed) typed))

/-- The tokens of a statement around the statements of one of its blocks, and the statement that
they spell with them. Branches are those of an `if` that is the whole statement, not of one within
an initializer or an argument. -/
inductive Surrounds : List Token → List Token → (List Stmt → Stmt) → Prop where
  | block {word : Token} (begins : word.kind = .keyword .blockWord) : Surrounds [word] [] .block
  | function {head : List Token} {sign : Token} {signature : Signature}
      (heads : FunctionHead head signature) (defines : sign.kind = .symbol .equals) :
      Surrounds (head ++ [sign]) [] (fun body => .functionDecl signature (some body))
  | thenBranch {word opening closing : Token} {test other : List Token} {condition : Expr}
      {elseBranch : List Stmt} (begins : word.kind = .keyword .ifWord)
      (opens : opening.kind = .symbol .openParen) (tested : Expression .preferred test condition)
      (closes : closing.kind = .symbol .closeParen)
      (otherwise : ElseBranch .preferred other elseBranch) :
      Surrounds (word :: opening :: (test ++ [closing])) other
        (fun body => .expression (.conditional condition body elseBranch))
  | elseBranch {word opening closing alternative : Token} {test first : List Token}
      {condition : Expr} {thenBranch : List Stmt} (begins : word.kind = .keyword .ifWord)
      (opens : opening.kind = .symbol .openParen) (tested : Expression .preferred test condition)
      (closes : closing.kind = .symbol .closeParen) (body : Block .preferred first thenBranch)
      (otherwise : alternative.kind = .keyword .elseWord) :
      Surrounds (word :: opening :: (test ++ closing :: (first ++ [alternative]))) []
        (fun body => .expression (.conditional condition thenBranch body))

end Grammar

namespace Parser

open Grammar
open Token (Kind)

/-- From `start` the parser comes to `stop` with a result, and records the errors on the way. -/
def Gives {α : Type} (parser : Parser α) (start : Cursor) (errors : List Error) (result : α)
    (stop : Cursor) : Prop :=
  ∃ trace, parser.run start = ⟨.ok result, stop, trace⟩ ∧
    trace.filterMap Event.recorded? = errors

namespace Gives

variable {α β : Type} {start middle stop : Cursor} {errors : List Error}

theorem bind {parser : Parser α} {next : α → Parser β} {value : α} {result : β}
    {later : List Error} (first : Gives parser start errors value middle)
    (second : Gives (next value) middle later result stop) :
    Gives (parser >>= next) start (errors ++ later) result stop := by
  obtain ⟨trace, ran, rfl⟩ := first
  obtain ⟨trace', ran', rfl⟩ := second
  refine ⟨trace ++ trace', ?_, List.filterMap_append⟩
  rw [Traced.run_bind_ok ran, ran', Run.behind_mk]

theorem bind_ends {parser : Parser α} {next : α → Parser β} {value : α} {result : β}
    (first : Gives parser start errors value middle)
    (second : Ends False (next value) middle (.ok result) stop) :
    Gives (parser >>= next) start errors result stop := by
  obtain ⟨trace, ran, quiet⟩ := second
  have whole := first.bind ⟨trace, ran, quiet.resolve_left id⟩
  rwa [List.append_nil] at whole

end Gives

theorem Ends.gives {α β : Type} {start middle stop : Cursor} {errors : List Error}
    {parser : Parser α} {next : α → Parser β} {value : α} {result : β}
    (first : Ends False parser start (.ok value) middle)
    (second : Gives (next value) middle errors result stop) :
    Gives (parser >>= next) start errors result stop := by
  obtain ⟨trace, ran, quiet⟩ := first
  have none : Gives parser start [] value middle := ⟨trace, ran, quiet.resolve_left id⟩
  exact none.bind second

/-- The errors of statements in a block are those of the same statements alone. Only one at their
end tells the difference: it names the closing brace instead of the end of file. -/
def Reworded (tokens : List Token) (closing : Token) (errors : List Error) : Prop :=
  errors.map (fun error => error.cause.name) =
      (parse tokens).errors.map (fun error => error.cause.name) ∧
    (errors = (parse tokens).errors ∨ ∃ before error error',
      (parse tokens).errors = before ++ [error] ∧ errors = before ++ [error'] ∧
        Displaced (.endOfFile (Tape.lastPosition tokens)) closing error error')

/-- The place of a brace that closes a block: there the statements of the block end alone. -/
def braceSeam (tokens : List Token) {closing : Token} (rest : List Token) (finish : Token)
    (closes : closing.kind = .symbol .closeCurly) : Seam where
  eof := Tape.finishOf tokens
  extra := closing :: rest
  finish := finish
  eof_kind := Tape.finishOf_kind tokens
  stop_kind := by
    rw [List.headD_cons, closes]
    decide
  finish_eq := nofun

/-- The brace behind the statements of a block is taken. -/
theorem run_body_closing {nested : Nested} {start stop : Cursor} {stmts : List Stmt}
    {trace : List Event}
    (ran : (statementsWithin nested true start.tape.ahead.length).run start =
      ⟨.ok stmts, stop, trace⟩)
    (closing : stop.tape.current.kind = .symbol .closeCurly) :
    (body nested).run start = ⟨.ok stmts, stop.advance, trace⟩ := by
  have read : (statements nested true).run start = ⟨.ok stmts, stop, trace⟩ := ran
  have taken := run_expect (.symbol .closeCurly) "after block" stop
  rw [if_pos closing] at taken
  rw [body, Traced.run_bind_ok read, Traced.run_bind_ok taken]
  simp

section Bodies

variable {tokens : List Token} {closing : Token}
  (flat : ∀ token ∈ tokens, token.kind ≠ .symbol .openCurly ∧ token.kind ≠ .symbol .closeCurly)
  (closes : closing.kind = .symbol .closeCurly)

/-- Errors that differ at the seam only are reworded. -/
theorem reworded_of_ending {rest : List Token} {finish : Token} {trace trace' : List Event}
    (opened : ∀ token ∈ tokens, token.kind ≠ .endOfFile)
    (errors : (parse tokens).errors = trace.filterMap Event.recorded?)
    (ending : Ending (braceSeam tokens rest finish closes) trace trace') :
    Reworded tokens closing (trace'.filterMap Event.recorded?) := by
  unfold Reworded
  rcases ending with same | ⟨before, error, error', early, late, displaced⟩
  · exact ⟨by rw [errors, same], .inl (errors.trans same).symm⟩
  · have names := displaced.name_eq
    have ended : (braceSeam tokens rest finish closes).eof =
        .endOfFile (Tape.lastPosition tokens) := finishOf_line opened
    rw [ended] at displaced
    rw [errors, early, late]
    refine ⟨?_, .inr ⟨before, error, error', rfl, rfl, displaced⟩⟩
    simp only [List.map_append, List.map_cons, List.map_nil, names]

include flat closes

/-- The statements of a block and its closing brace, behind the opening one. -/
theorem body_gives {start stop : Cursor} {level : Nat} (free : start.mark = none)
    (enough : tokens.length ≤ level) (passes : start.Passes (tokens ++ [closing]) stop) :
    ∃ errors, Gives (body (nested level)) start errors (parse tokens).statements stop ∧
      Reworded tokens closing errors := by
  have opened : ∀ token ∈ tokens, token.kind ≠ .endOfFile := by
    intro token member
    exact start.tape.ahead_open token (by simp [passes.ahead, member])
  have ahead : (Tape.ofTokens tokens).ahead = tokens := takeWhile_isOpen opened
  have whole : start.tape.ahead = tokens ++ closing :: stop.tape.ahead := by simp [passes.ahead]
  have joined : Joined (braceSeam tokens stop.tape.ahead start.tape.finish closes)
      (Tape.ofTokens tokens) start.tape :=
    ⟨by rw [ahead]; exact whole, rfl, rfl, .inr fun token member => by
      rw [ahead] at member
      exact (flat token member).1⟩
  have near : Near (braceSeam tokens stop.tape.ahead start.tape.finish closes) none false
      tokens.length (.ofTokens tokens) start :=
    ⟨joined, rfl, free, nofun, Nat.le_of_eq (congrArg List.length ahead)⟩
  have unclosed : Unclosed (Tape.ofTokens tokens) := by
    intro token member
    rw [ahead] at member
    exact (flat token member).2
  have room : tokens.length ≤ start.tape.ahead.length := by
    rw [whole, List.length_append]
    omega
  have stops : (braceSeam tokens stop.tape.ahead start.tape.finish closes).stop.kind =
      .symbol .closeCurly := closes
  have enclosed := Enclosed.of_statementsWithin stops (nested_paired (Nat.le_refl _) enough) near
    unclosed (Nat.le_succ _) (Nat.le_refl _) room
  have steady := robust_steady.statementsWithin (robust_steady.ofNested level) true
    start.tape.ahead.length start
  generalize alone : (statementsWithin (nested tokens.length) false tokens.length).run
    (.ofTokens tokens) = done at enclosed
  generalize inside : (statementsWithin (nested level) true start.tape.ahead.length).run start =
    done' at enclosed steady
  cases enclosed with
  | @intro stmts _ second trace trace' reached free' ending =>
    obtain ⟨moved, forward⟩ : ∃ moved, second.tape = start.tape.move moved := steady.forward
    have read := parse_eq_of_run (congrArg List.length ahead) alone
    -- The brace is where the statements end, so taking it leads to the end of the block.
    have current : second.tape.current = closing := Tape.current_of_cons reached
    have arrived : second.advance = stop := by
      have lengths := congrArg List.length reached
      rw [forward, Tape.ahead_move, List.length_drop, whole, List.length_append] at lengths
      obtain rfl : moved = tokens.length := by
        simp only [braceSeam, List.length_cons] at lengths
        omega
      rw [passes.2, Cursor.advance, forward, free', Tape.advance, Tape.move_move, free,
        List.length_append, List.length_singleton]
    have ran := run_body_closing inside (by rw [current, closes])
    rw [arrived] at ran
    refine ⟨_, ⟨trace', ?_, rfl⟩, reworded_of_ending closes opened (by rw [read]) ending⟩
    rw [read, ran]

end Bodies

section Statements

variable {nested : Nested} {start middle stop : Cursor} {errors : List Error} {stmts : List Stmt}

/-- A token that is passed is taken. -/
theorem ends_advance_of_passes {token : Token} (passes : start.Passes [token] stop) :
    Ends False advance start (.ok token) stop :=
  ends_advance.mpr ⟨passes.current.symm, (Cursor.passes_singleton.mp passes).2.2⟩

/-- What begins with neither `var` nor a name is no declaration. -/
theorem run_declarationOrStatement_word
    (begins : start.tape.current.kind ∉ [Kind.keyword .varWord, .identifier]) :
    (declarationOrStatement nested).run start = (blockOrExpression nested).run start := by
  simp only [List.mem_cons, List.not_mem_nil, or_false, not_or] at begins
  have unmutable : (advanceIf [.keyword .varWord]).run start = ⟨.ok false, start, []⟩ := by
    rw [run_advanceIf]
    simp [begins.1]
  have unnamed : looksLikeDeclaration.run start = ⟨.ok false, start, []⟩ := by
    have looks : looksLikeDeclaration.run start =
        ⟨.ok (start.tape.current.kind == .identifier &&
          (start.tape.next?.map Token.kind).any declarationFollowers.contains), start, []⟩ := rfl
    rw [looks, beq_eq_false_iff_ne.mpr begins.2, Bool.false_and]
  rw [declarationOrStatement_eq, Traced.run_bind_ok unmutable, Run.behind_nil, if_neg (by simp),
    Traced.run_bind_ok unnamed, Run.behind_nil, if_neg (by simp)]

/-- The two tokens that tell a block from an expression. -/
theorem run_blockOrExpression (nested : Nested) (start : Cursor) :
    (blockOrExpression nested).run start =
      (if (start.tape.current.kind == .keyword .blockWord &&
          start.tape.next?.map Token.kind == some (.symbol .openCurly)) = true then
        advance >>= fun _ => advance >>= fun _ => nested.body >>= fun body =>
          pure (Stmt.block body)
      else assignmentOrExpression nested >>= fun expr => pure (Stmt.expression expr)).run start :=
  rfl

/-- The two tokens that tell an assignment from an expression. -/
theorem run_assignmentOrExpression (nested : Nested) (start : Cursor) :
    (assignmentOrExpression nested).run start =
      (if (start.tape.current.kind == .identifier &&
          start.tape.next?.map Token.kind == some (.symbol .equals)) = true then
        advance >>= fun target => advance >>= fun _ => nested.assignment >>= fun value =>
          pure (Expr.assign target value)
      else expression nested).run start :=
  rfl

/-- A block is read as its body says. -/
theorem gives_block {word opening : Token} (begins : word.kind = .keyword .blockWord)
    (opens : opening.kind = .symbol .openCurly) (passes : start.Passes [word, opening] middle)
    (read : Gives nested.body middle errors stmts stop) :
    Gives (declarationOrStatement nested) start errors (.block stmts) stop := by
  obtain ⟨behind, passes₁, passes₂⟩ := passes.cons_split
  have found : start.tape.current.kind = .keyword .blockWord := by rw [passes₁.current, begins]
  have follows : start.tape.next?.map Token.kind = some (.symbol .openCurly) := by
    rw [passes₁.next?, passes₂.current, Option.map_some, opens]
  have whole : Gives (advance >>= fun _ => advance >>= fun _ => nested.body >>= fun body =>
      pure (Stmt.block body)) start errors (.block stmts) stop :=
    (ends_advance_of_passes passes₁).gives
      ((ends_advance_of_passes passes₂).gives (read.bind_ends (.pure _ _)))
  unfold Gives at whole ⊢
  rw [run_declarationOrStatement_word (by rw [found]; decide), run_blockOrExpression, found,
    follows]
  exact whole

/-- What begins with `if` is an expression. -/
theorem gives_conditional {expr : Expr} (begins : start.tape.current.kind = .keyword .ifWord)
    (read : Gives (expression nested) start errors expr stop) :
    Gives (declarationOrStatement nested) start errors (.expression expr) stop := by
  have valued : Gives (assignmentOrExpression nested) start errors expr stop := by
    unfold Gives at read ⊢
    rw [run_assignmentOrExpression, begins]
    exact read
  have whole : Gives (assignmentOrExpression nested >>= fun expr => pure (Stmt.expression expr))
      start errors (.expression expr) stop := valued.bind_ends (.pure _ _)
  unfold Gives at whole ⊢
  rw [run_declarationOrStatement_word (by rw [begins]; decide), run_blockOrExpression, begins]
  exact whole

/-- A declaration that begins with a name is tried with the place before it kept. -/
theorem gives_named {stmt : Stmt} (free : start.mark = none)
    (named : start.tape.current.kind = .identifier)
    (follows : ∃ kind ∈ declarationFollowers, start.tape.next?.map Token.kind = some kind)
    (read : Gives (namedDeclaration nested) start.marked errors stmt stop) :
    Gives (declarationOrStatement nested) start errors stmt stop := by
  obtain ⟨trace, ran, recorded⟩ := read
  obtain ⟨kind, follower, next⟩ := follows
  have unmutable : (advanceIf [.keyword .varWord]).run start = ⟨.ok false, start, []⟩ := by
    rw [run_advanceIf]
    simp [named]
  have looks : looksLikeDeclaration.run start = ⟨.ok true, start, []⟩ := by
    have looks : looksLikeDeclaration.run start =
        ⟨.ok (start.tape.current.kind == .identifier &&
          (start.tape.next?.map Token.kind).any declarationFollowers.contains), start, []⟩ := rfl
    rw [looks, named, next]
    simp [follower]
  refine ⟨.marked start.tape.index :: trace, ?_, recorded⟩
  rw [declarationOrStatement_eq, Traced.run_bind_ok unmutable, Run.behind_nil, if_neg (by simp),
    Traced.run_bind_ok looks, Run.behind_nil, if_pos rfl, run_speculate_ok free ran]

/-- The body of a function stands behind the sign that defines it. -/
theorem gives_functionBody {sign opening : Token} (defines : sign.kind = .symbol .equals)
    (opens : opening.kind = .symbol .openCurly) (passes : start.Passes [sign, opening] middle)
    (read : Gives nested.body middle errors stmts stop) :
    Gives (functionBody nested) start errors (some stmts) stop := by
  obtain ⟨_, passes₁, passes₂⟩ := passes.cons_split
  have taken : Ends False (advanceIf [.symbol .equals]) start (.ok true) _ :=
    (ends_advanceIf_true (by decide)).mpr ⟨sign, by simp [defines], passes₁⟩
  have opened : Ends False (expect (.symbol .openCurly) "in function declaration") _ _ middle :=
    (ends_expect (by decide)).mpr ⟨opens, passes₂⟩
  exact taken.gives (opened.gives (read.bind_ends (.pure _ _)))

/-- A function declaration behind its name, whatever place is kept. -/
theorem gives_functionDecl {name opening closing colon : Token}
    {listed effected typing : List Token} {specifiers effects : List TypeExpr}
    {parameters : List Parameter} {returns : TypeExpr} {body : Option (List Stmt)}
    (mark : Option Tape) (free : start.mark = none) (opens : opening.kind = .symbol .openParen)
    (takes : Parameters listed parameters) (closes : closing.kind = .symbol .closeParen)
    (affects : Specifiers effected effects) (parts : colon.kind = .symbol .colon)
    (annotated : TypePhrase typing returns)
    (passes : start.Passes ((opening :: (listed ++ [closing])) ++ (effected ++ colon :: typing))
      middle)
    (follows : middle.tape.current.kind = .symbol .equals)
    (read : Gives (functionBody nested) middle errors body stop) :
    Gives (functionDecl nested name specifiers) ⟨start.tape, mark⟩ errors
      (.functionDecl ⟨name, specifiers, parameters, effects, returns⟩ body) stop := by
  obtain ⟨c₁, passes₁, passes⟩ := passes.split
  obtain ⟨c₂, passes₂, passes⟩ := passes.split
  obtain ⟨c₃, passes₃, passes₄⟩ := passes.cons_split
  have free₃ := (passes₁.append (passes₂.append passes₃)).mark.trans free
  have back : (⟨c₃.tape, mark⟩ : Cursor).unmarked = c₃ := by rw [Cursor.unmarked, ← free₃]
  rw [functionDecl]
  refine (parameters_complete opens takes closes (passes₁.remark mark)).gives ?_
  refine (specifiers_complete affects (passes₂.remark mark) ?_).gives ?_
  · rw [show c₂.tape.current = colon from passes₃.current, parts]
    decide
  refine ((ends_expect (by decide)).mpr ⟨parts, passes₃.remark mark⟩).gives ?_
  refine (ends_commit.mpr rfl).gives ?_
  rw [back]
  refine (typeExpr_complete annotated passes₄ (by rw [follows]; decide)).gives ?_
  exact read.bind_ends (.pure _ _)

/-- A function is read as its body says, behind its head. -/
theorem gives_function {head : List Token} {sign opening : Token} {signature : Signature}
    (free : start.mark = none) (heads : FunctionHead head signature)
    (defines : sign.kind = .symbol .equals) (opens : opening.kind = .symbol .openCurly)
    (passes : start.Passes (head ++ [sign, opening]) middle)
    (read : Gives nested.body middle errors stmts stop) :
    Gives (declarationOrStatement nested) start errors (.functionDecl signature (some stmts))
      stop := by
  obtain ⟨c₃, passes, passes₃⟩ := passes.split
  cases heads with
  | @intro name paren paren' colon _ _ _ _ _ _ _ _ named specifies opens' takes closes affects
      parts annotated =>
    obtain ⟨c₂, passes₁, passes₂⟩ := passes.split
    obtain ⟨c₁, taken, specified⟩ := passes₁.cons_split
    have current : c₂.tape.current = paren := passes₂.current
    have follower : c₁.tape.current.kind ∈ declarationFollowers :=
      specifiers_follower specifies specified (by rw [current, opens']; decide)
    apply gives_named free (by rw [taken.current, named])
      ⟨_, follower, by rw [taken.next?, Option.map_some]⟩
    let kept := some start.tape
    have undefined : Ends False (seesOneOf [.symbol .colon, .symbol .inferred]) ⟨c₂.tape, kept⟩
        (.ok false) ⟨c₂.tape, kept⟩ := by
      rw [ends_of_run (run_seesOneOf _ _) quiet_nil]
      simp [current, opens']
    have calls : Ends False (sees (.symbol .openParen)) ⟨c₂.tape, kept⟩ (.ok true)
        ⟨c₂.tape, kept⟩ := by
      rw [sees_eq, ends_of_run (run_seesOneOf _ _) quiet_nil]
      simp [current, opens']
    refine ((ends_expect (by decide)).mpr ⟨named, taken.remark kept⟩).gives ?_
    refine (specifiers_complete specifies (specified.remark kept) ?_).gives ?_
    · rw [show (⟨c₂.tape, kept⟩ : Cursor).tape.current = paren from current, opens']
      decide
    refine undefined.gives (calls.gives ?_)
    have follows : c₃.tape.current.kind = .symbol .equals := by rw [passes₃.current, defines]
    exact gives_functionDecl kept (passes₁.mark.trans free) opens' takes closes affects parts
      annotated passes₂ follows (gives_functionBody defines opens passes₃ read)

section Branches

variable {limit : Nat} (complete : NestedComplete limit nested) {word opening closing : Token}
  {test : List Token} {condition : Expr} (free : start.mark = none)
  (room : test.length ≤ limit) (begins : word.kind = .keyword .ifWord)
  (opens : opening.kind = .symbol .openParen) (tested : Expression .preferred test condition)
  (closes : closing.kind = .symbol .closeParen)
include complete free room begins opens tested closes

/-- Behind its condition a conditional is read as its branches say. -/
theorem gives_branches {expr : Expr}
    (passes : start.Passes (word :: opening :: (test ++ [closing])) middle)
    (read : Gives (do
      let _ ← expect (.symbol .openCurly) "in if expression"
      let thenBranch ← nested.body
      return .conditional condition thenBranch (← elseBranch nested)) middle errors expr stop) :
    Gives (declarationOrStatement nested) start errors (.expression expr) stop := by
  obtain ⟨c₁, passes₁, passes⟩ := passes.cons_split
  obtain ⟨c₂, passes₂, passes⟩ := passes.cons_split
  obtain ⟨c₃, passes₃, passes₄⟩ := passes.split
  have free₂ := (passes₁.cons passes₂).mark.trans free
  have taken : Ends False (advanceIf [.keyword .ifWord]) start (.ok true) c₁ :=
    (ends_advanceIf_true (by decide)).mpr ⟨word, by simp [begins], passes₁⟩
  apply gives_conditional (by rw [passes₁.current, begins])
  rw [expression]
  refine taken.gives ?_
  refine ((ends_expect (by decide)).mpr ⟨opens, passes₂⟩).gives ?_
  refine (complete.expr free₂ room tested passes₃ ?_).gives ?_
  · rw [passes₄.current, closes]
    decide
  exact ((ends_expect (by decide)).mpr ⟨closes, passes₄⟩).gives read

/-- A conditional is read as its first block says. -/
theorem gives_thenBranch {brace : Token} {other : List Token} {branch : List Stmt}
    {behind : Cursor} (fits : other.length ≤ limit) (begun : brace.kind = .symbol .openCurly)
    (otherwise : ElseBranch .preferred other branch)
    (passes : start.Passes (word :: opening :: (test ++ [closing])) middle)
    (passes' : middle.Passes [brace] behind) {behind' : Cursor}
    (read : Gives nested.body behind errors stmts behind') (free' : behind'.mark = none)
    (passes'' : behind'.Passes other stop)
    (follows : stop.tape.current.kind ≠ .keyword .elseWord) :
    Gives (declarationOrStatement nested) start errors
      (.expression (.conditional condition stmts branch)) stop := by
  apply gives_branches complete free room begins opens tested closes passes
  refine ((ends_expect (by decide)).mpr ⟨begun, passes'⟩).gives (read.bind_ends ?_)
  exact (elseBranch_complete complete free' fits otherwise passes'' follows).andThen (.pure _ _)

/-- A conditional is read as its second block says. -/
theorem gives_elseBranch {alternative brace : Token} {first : List Token} {branch : List Stmt}
    {behind : Cursor} (fits : first.length ≤ limit) (body : Block .preferred first branch)
    (otherwise : alternative.kind = .keyword .elseWord) (begun : brace.kind = .symbol .openCurly)
    (passes : start.Passes (word :: opening :: (test ++ [closing])) middle)
    (passes' : middle.Passes (first ++ [alternative, brace]) behind)
    (read : Gives nested.body behind errors stmts stop) :
    Gives (declarationOrStatement nested) start errors
      (.expression (.conditional condition branch stmts)) stop := by
  obtain ⟨c₁, passes₁, passes₂⟩ := passes'.split
  obtain ⟨c₂, passes₂, passes₃⟩ := passes₂.cons_split
  obtain ⟨_, _, opens', passes₄, held⟩ :=
    block_complete complete (passes.mark.trans free) fits body passes₁
  have taken : Ends False (advanceIf [.keyword .elseWord]) c₁ (.ok true) c₂ :=
    (ends_advanceIf_true (by decide)).mpr ⟨alternative, by simp [otherwise], passes₂⟩
  apply gives_branches complete free room begins opens tested closes passes
  refine ((ends_expect (by decide)).mpr ⟨opens', passes₄⟩).gives (held.gives ?_)
  have other : Gives (elseBranch nested) c₁ errors stmts stop :=
    taken.gives (((ends_expect (by decide)).mpr ⟨begun, passes₃⟩).gives read)
  exact other.bind_ends (.pure _ _)

end Branches

end Statements

section Programs

variable {tokens before behind : List Token} {opening closing : Token} {wrap : List Stmt → Stmt}
  (surrounds : Surrounds before behind wrap) (opens : opening.kind = .symbol .openCurly)
  (closes : closing.kind = .symbol .closeCurly)
  (flat : ∀ token ∈ tokens, token.kind ≠ .symbol .openCurly ∧ token.kind ≠ .symbol .closeCurly)
include surrounds opens closes flat

/-- A statement is read as the statements of one of its blocks are read alone. -/
theorem surrounded_gives {start stop : Cursor} {level : Nat} (free : start.mark = none)
    (passes : start.Passes (before ++ opening :: (tokens ++ closing :: behind)) stop)
    (follows : stop.tape.current.kind ≠ .keyword .elseWord)
    (enough : (before ++ opening :: (tokens ++ closing :: behind)).length ≤ level + 1) :
    ∃ errors, Gives (declarationOrStatement (nested (level + 1))) start errors
        (wrap (parse tokens).statements) stop ∧ Reworded tokens closing errors := by
  obtain ⟨c₁, passes₁, passes⟩ := passes.split
  obtain ⟨c₂, passes₂, passes⟩ := passes.cons_split
  rw [List.append_cons] at passes
  obtain ⟨c₃, passes₃, passes₄⟩ := passes.split
  simp only [List.length_append, List.length_cons] at enough
  have free₂ : c₂.mark = none := (passes₁.append passes₂).mark.trans free
  have free₃ : c₃.mark = none := passes₃.mark.trans free₂
  obtain ⟨errors, read, reworded⟩ := body_gives flat closes free₂ (by omega : _ ≤ level) passes₃
  refine ⟨errors, ?_, reworded⟩
  have complete := nested_complete (level + 1)
  cases surrounds with
  | block begins =>
    obtain rfl := passes₄.eq_of_nil
    exact gives_block begins opens (passes₁.append passes₂) read
  | function heads defines =>
    obtain rfl := passes₄.eq_of_nil
    have passes := passes₁.append passes₂
    rw [List.append_assoc] at passes
    exact gives_function free heads defines opens passes read
  | thenBranch begins opens' tested closes' otherwise =>
    simp only [List.length_append, List.length_cons] at enough
    exact gives_thenBranch complete free (by omega) begins opens' tested closes' (by omega) opens
      otherwise passes₁ passes₂ read free₃ passes₄ follows
  | @elseBranch word paren paren' alternative test first _ _ begins opens' tested closes' body
      otherwise =>
    obtain rfl := passes₄.eq_of_nil
    simp only [List.length_append, List.length_cons] at enough
    have passes : start.Passes ((word :: paren :: (test ++ [paren'])) ++
        (first ++ [alternative, opening])) c₂ := by
      simpa using passes₁.append passes₂
    obtain ⟨_, passes₅, passes₆⟩ := passes.split
    exact gives_elseBranch complete free (by omega) begins opens' tested closes' (by omega) body
      otherwise opens passes₅ passes₆ read

omit opens closes flat in
/-- No statement with blocks begins with a line break. -/
theorem surrounds_solid {rest : List Token} {start stop : Cursor}
    (passes : start.Passes (before ++ rest) stop) : start.tape.current.kind ≠ .newline := by
  obtain ⟨_, passes, _⟩ := passes.split
  cases surrounds with
  | block begins =>
    rw [passes.current, begins]
    decide
  | function heads =>
    cases heads with
    | intro named =>
      obtain ⟨_, passes, _⟩ := passes.split
      rw [passes.current, named]
      decide
  | thenBranch begins | elseBranch begins =>
    rw [passes.current, begins]
    decide

omit flat in
/-- Nothing around the statements of a block is an end of file. -/
theorem surrounded_opened (opened : Opened tokens) :
    Opened (before ++ opening :: (tokens ++ closing :: behind)) := by
  have inside (other : Opened behind) : Opened (opening :: (tokens ++ closing :: behind)) :=
    .cons (by simp [opens]) (opened.append (.cons (by simp [closes]) other))
  cases surrounds with
  | block begins => exact .cons (by simp [begins]) (inside .nil)
  | function heads defines =>
    exact (heads.opened.append (.cons (by simp [defines]) .nil)).append (inside .nil)
  | thenBranch begins opens' tested closes' otherwise =>
    refine .append (.cons (by simp [begins]) (.cons (by simp [opens']) ?_))
      (inside otherwise.opened)
    exact tested.opened.append (.cons (by simp [closes']) .nil)
  | elseBranch begins opens' tested closes' body otherwise =>
    refine .append (.cons (by simp [begins]) (.cons (by simp [opens']) ?_)) (inside .nil)
    refine tested.opened.append (.cons (by simp [closes']) ?_)
    exact body.opened.append (.cons (by simp [otherwise]) .nil)

end Programs

/-- A program of one statement. -/
theorem parse_eq_of_gives {tokens : List Token} {errors : List Error} {stmt : Stmt} {stop : Cursor}
    {bound : Nat} (counted : (Tape.ofTokens tokens).ahead.length = bound + 1)
    (solid : (Cursor.ofTokens tokens).tape.current.kind ≠ .newline)
    (read : Gives (declarationOrStatement (nested (bound + 1))) (.ofTokens tokens) errors stmt stop)
    (free : stop.mark = none) (ended : stop.tape.ahead = []) :
    parse tokens = ⟨[stmt], errors⟩ := by
  obtain ⟨trace, ran, rfl⟩ := read
  have opened : (Cursor.ofTokens tokens).tape.ahead ≠ [] := by
    apply List.ne_nil_of_length_pos
    rw [show (Cursor.ofTokens tokens).tape.ahead.length = bound + 1 from counted]
    exact Nat.succ_pos bound
  have finish : stop.tape.current.kind = .endOfFile := Tape.current_kind_eq_endOfFile.mpr ended
  have last : statementEnd.run stop = ⟨.ok (), stop, []⟩ := by
    rw [run_statementEnd_ended free (by rw [finish]; decide), finish, ← free]
    rfl
  have whole : (statementsWithin (nested (bound + 1)) false (bound + 1)).run (.ofTokens tokens) =
      ⟨.ok [stmt], stop, trace ++ [.parsedStatement]⟩ := by
    rw [run_statementsWithin_statement opened solid (by simp), run_recovering_ok ran,
      Traced.run_bind_ok (Traced.run_emit ..), run_recovering_ok last,
      Traced.run_bind_ok (run_statementsWithin_end ended)]
    rfl
  rw [parse_eq_of_run counted whole]
  simp [Event.recorded?]

/-- What stands between the braces of a block, of a function or of a branch gives the statements
that it gives as a program, whatever errors it has, and the errors that it gives then. -/
theorem blocks_read_like_programs {tokens before behind : List Token} {opening closing : Token}
    {wrap : List Stmt → Stmt} (surrounds : Surrounds before behind wrap)
    (opens : opening.kind = .symbol .openCurly) (closes : closing.kind = .symbol .closeCurly)
    (flat : ∀ token ∈ tokens, token.kind ≠ .symbol .openCurly ∧ token.kind ≠ .symbol .closeCurly)
    (opened : ∀ token ∈ tokens, token.kind ≠ .endOfFile) :
    ∃ errors, parse (before ++ opening :: (tokens ++ closing :: behind)) =
        ⟨[wrap (parse tokens).statements], errors⟩ ∧ Reworded tokens closing errors := by
  have surrounded := surrounded_opened surrounds opens closes opened
  generalize whole : before ++ opening :: (tokens ++ closing :: behind) = text at surrounded ⊢
  have ahead : (Cursor.ofTokens text).tape.ahead = text := takeWhile_isOpen surrounded
  have passes := (Cursor.ofTokens text).passes_move text.length
  rw [ahead, List.take_length] at passes
  have ended : ((Cursor.ofTokens text).tape.move text.length).ahead = [] := by
    rw [Tape.ahead_move, ahead, List.drop_length]
  obtain ⟨bound, counted⟩ : ∃ bound, text.length = bound + 1 := by
    rw [← whole, List.length_append, List.length_cons]
    exact ⟨_, rfl⟩
  have follows : ((Cursor.ofTokens text).tape.move text.length).current.kind ≠
      .keyword .elseWord := by
    rw [Tape.current_kind_eq_endOfFile.mpr ended]
    decide
  have passes' := passes
  nth_rewrite 2 [← whole] at passes'
  obtain ⟨errors, read, reworded⟩ := surrounded_gives surrounds opens closes flat
    rfl passes' follows (by rw [whole, counted])
  have solid := surrounds_solid surrounds passes'
  exact ⟨errors, parse_eq_of_gives (by rw [← counted]; exact congrArg List.length ahead) solid
    read rfl ended, reworded⟩

/-- The tokens of `x :=` in a block. -/
theorem blocks_read_like_programs_broken :
    ∃ errors, parse ([⟨.keyword .blockWord, "block", none, ⟨1, 1⟩⟩] ++
        ⟨.symbol .openCurly, "\x7b", none, ⟨1, 7⟩⟩ ::
          (brokenLine ++ ⟨.symbol .closeCurly, "\x7d", none, ⟨1, 9⟩⟩ :: [])) =
      ⟨[.block (parse brokenLine).statements], errors⟩ ∧
        Reworded brokenLine ⟨.symbol .closeCurly, "\x7d", none, ⟨1, 9⟩⟩ errors :=
  blocks_read_like_programs (.block rfl) rfl rfl (by decide) (by decide)

end Parser
end Script
