import Script.Proofs.Evaluation

set_option autoImplicit false

/- Declarations of functions are hoisted. A run asks its program for nothing but whether a name is
that of a function, and of what sort; to execute a declaration does nothing. So it does not matter
where in a program functions are declared, nor what a later declaration of a name says. -/
namespace Script

def Stmt.isFunction : Stmt → Bool
  | .functionDecl _ _ => true
  | _ => false

/-- The statements that do something when they are executed. -/
def ordinary (stmts : List Stmt) : List Stmt := stmts.filter (!·.isFunction)

def functions (stmts : List Stmt) : List Stmt := stmts.filter Stmt.isFunction

/-- The function of a name can be called, or cannot, or there is none. -/
def callable? (stmts : List Stmt) (name : String) : Option Bool :=
  (findFunction stmts name).map fun signature => signature.hasSpecifier "native"

section Lookup

/-- A function is found under its own name. -/
theorem lexeme_of_findFunction {stmts : List Stmt} {name : String} {signature : Signature}
    (found : findFunction stmts name = some signature) : signature.name.lexeme = name := by
  obtain ⟨stmt, -, declares⟩ := List.exists_of_findSome?_eq_some found
  cases stmt with
  | functionDecl signature' body =>
    simp only [Stmt.declares?, Option.ite_none_right_eq_some, Option.some.injEq] at declares
    obtain ⟨named, rfl⟩ := declares
    exact eq_of_beq named
  | _ => cases declares

/-- Functions are found among the declarations of functions. -/
theorem findFunction_functions (stmts : List Stmt) (name : String) :
    findFunction (functions stmts) name = findFunction stmts name := by
  unfold findFunction functions
  induction stmts with
  | nil => rfl
  | cons stmt rest ih =>
    cases stmt with
    | functionDecl signature body =>
      rw [List.filter_cons_of_pos rfl, List.findSome?_cons, List.findSome?_cons, ih]
    | _ =>
      rw [List.filter_cons_of_neg Bool.false_ne_true, List.findSome?_cons, ih]
      rfl

/-- A name that is declared before means what it meant before. -/
theorem findFunction_redeclared {front behind : List Stmt} {signature : Signature}
    {body : Option (List Stmt)} (declared : (findFunction front signature.name.lexeme).isSome)
    (name : String) :
    findFunction (front ++ .functionDecl signature body :: behind) name =
      findFunction (front ++ behind) name := by
  unfold findFunction at *
  rw [List.findSome?_append, List.findSome?_append, List.findSome?_cons]
  by_cases same : signature.name.lexeme = name
  · subst same
    obtain ⟨first, found⟩ := Option.isSome_iff_exists.mp declared
    rw [found, Option.some_or, Option.some_or]
  · rw [Stmt.declares?, if_neg (by simpa using same)]

end Lookup

section Rules

variable {first second : List Stmt} (same : callable? first = callable? second)
include same

theorem isSome_findFunction_eq (name : String) :
    (findFunction first name).isSome = (findFunction second name).isSome := by
  have both := congrArg Option.isSome (congrFun same name)
  simpa only [callable?, Option.isSome_map] using both

namespace Eval

theorem nameValue_eq (token : Token) : nameValue first token = nameValue second token := by
  simp only [nameValue, isSome_findFunction_eq same]

/-- The look-up of a callee gives functions of one name, or is refused for one reason. -/
theorem nativeNamed_eq (position : Position) (function : String) :
    (fun signature => signature.name.lexeme) <$> nativeNamed first position function =
      (fun signature => signature.name.lexeme) <$> nativeNamed second position function := by
  have both : callable? first function = callable? second function := congrFun same function
  unfold nativeNamed
  cases found : findFunction first function with
  | none =>
    cases found' : findFunction second function with
    | none => rfl
    | some signature' => simp [callable?, found, found'] at both
  | some signature =>
    cases found' : findFunction second function with
    | none => simp [callable?, found, found'] at both
    | some signature' =>
      simp only [callable?, found, found', Option.map_some, Option.some.injEq] at both
      dsimp only
      rw [both]
      split
      · rw [map_pure, map_pure, lexeme_of_findFunction found, lexeme_of_findFunction found']
      · rfl

theorem resolveCallee_eq (callee : Expr) :
    (fun signature => signature.name.lexeme) <$> resolveCallee first callee =
      (fun signature => signature.name.lexeme) <$> resolveCallee second callee := by
  cases callee with
  | name token =>
    rw [resolveCallee_name, resolveCallee_name, map_bind, map_bind]
    exact bind_congr (nativeNamed_eq same token.position)
  | _ => rfl

end Eval

omit same

mutual

/-- The rule of an expression asks for nothing else of the program. -/
theorem Expr.rule_hoisted (same : callable? first = callable? second) (natives : Registry) :
    ∀ expr : Expr, expr.rule ⟨first, natives⟩ = expr.rule ⟨second, natives⟩
  | .conditional condition thenBranch elseBranch => by
    rw [Expr.rule, Expr.rule, condition.rule_hoisted same,
      executeAll_hoisted same _ none thenBranch, executeAll_hoisted same _ none elseBranch]
  | .assign target value => by rw [Expr.rule, Expr.rule, value.rule_hoisted same]
  | .binary left operator right => by
    rw [Expr.rule, Expr.rule, left.rule_hoisted same, right.rule_hoisted same]
  | .unary operator operand => by rw [Expr.rule, Expr.rule, operand.rule_hoisted same]
  | .grouping inner => by rw [Expr.rule, Expr.rule, inner.rule_hoisted same]
  | .literal value _ => by rw [Expr.rule, Expr.rule]
  | .name token => by rw [Expr.rule, Expr.rule, Eval.nameValue_eq same]
  | .call callee arguments => by
    have named (program : List Stmt) : Expr.rule ⟨program, natives⟩ (.call callee arguments) = (do
        let name ← (fun signature => signature.name.lexeme) <$> Eval.resolveCallee program callee
        let values ← evaluateAll ⟨program, natives⟩ arguments
        Eval.callNative natives name values callee.position) := by
      rw [Expr.rule, bind_map_left]
    rw [named, named, Eval.resolveCallee_eq same, evaluateAll_hoisted same _ arguments]
  | .member target member => by rw [Expr.rule, Expr.rule, target.rule_hoisted same]

theorem Stmt.rule_hoisted (same : callable? first = callable? second) (natives : Registry) :
    ∀ stmt : Stmt, stmt.rule ⟨first, natives⟩ = stmt.rule ⟨second, natives⟩
  | .functionDecl _ _ => by rw [Stmt.rule, Stmt.rule]
  | .variableDecl head initializer => by rw [Stmt.rule, Stmt.rule, initializer.rule_hoisted same]
  | .block body => by rw [Stmt.rule, Stmt.rule, executeAll_hoisted same _ none body]
  | .expression expr => by rw [Stmt.rule, Stmt.rule, expr.rule_hoisted same]

theorem executeAll_hoisted (same : callable? first = callable? second) (natives : Registry) :
    ∀ (last : Option Value) (stmts : List Stmt),
      executeAll ⟨first, natives⟩ last stmts = executeAll ⟨second, natives⟩ last stmts
  | last, [] => by rw [executeAll, executeAll]
  | last, stmt :: rest => by
    rw [executeAll, executeAll, stmt.rule_hoisted same]
    exact bind_congr fun value => executeAll_hoisted same _ value rest

theorem evaluateAll_hoisted (same : callable? first = callable? second) (natives : Registry) :
    ∀ exprs : List Expr, evaluateAll ⟨first, natives⟩ exprs = evaluateAll ⟨second, natives⟩ exprs
  | [] => by rw [evaluateAll, evaluateAll]
  | expr :: rest => by
    rw [evaluateAll, evaluateAll, expr.rule_hoisted same, evaluateAll_hoisted same _ rest]

end

end Rules

theorem outputOf_append (first second : List Eval.Event) :
    outputOf (first ++ second) = outputOf first ++ outputOf second := by
  simp only [outputOf, List.filterMap_append, List.map_append, String.join_append]

/-- Runs that end alike, leave the same variables behind and print the same. -/
structure Run.SameSeen {α : Type} (done done' : Run Environment Eval.Event Error α) : Prop where
  outcome : done.outcome = done'.outcome
  state : done.state = done'.state
  output : outputOf done.trace = outputOf done'.trace

namespace Run.SameSeen

variable {α β : Type} {done done' : Run Environment Eval.Event Error α}

theorem refl (done : Run Environment Eval.Event Error α) : done.SameSeen done := ⟨rfl, rfl, rfl⟩

theorem symm (same : done.SameSeen done') : done'.SameSeen done :=
  ⟨same.outcome.symm, same.state.symm, same.output.symm⟩

theorem trans {last : Run Environment Eval.Event Error α} (first : done.SameSeen done')
    (second : done'.SameSeen last) : done.SameSeen last :=
  ⟨first.outcome.trans second.outcome, first.state.trans second.state,
    first.output.trans second.output⟩

/-- Of the events before a run only what they print is seen. -/
theorem behind (same : done.SameSeen done') {events events' : List Eval.Event}
    (printed : outputOf events = outputOf events') :
    (done.behind events).SameSeen (done'.behind events') where
  outcome := same.outcome
  state := same.state
  output := by
    simp only [Run.behind, outputOf_append, printed, same.output]

theorem bind {action action' : Eval α} {next next' : α → Eval β} {before : Environment}
    (first : (action.run before).SameSeen (action'.run before))
    (second : ∀ value after, ((next value).run after).SameSeen ((next' value).run after)) :
    ((action >>= next).run before).SameSeen ((action' >>= next').run before) := by
  obtain ⟨outcome, state, output⟩ := first
  cases ran : action.run before with
  | mk ended after trace =>
    cases ran' : action'.run before with
    | mk ended' after' trace' =>
      rw [ran, ran'] at outcome state output
      cases outcome
      cases state
      cases ended with
      | error error =>
        rw [Traced.run_bind_error ran, Traced.run_bind_error ran']
        exact ⟨rfl, rfl, output⟩
      | ok value =>
        rw [Traced.run_bind_ok ran, Traced.run_bind_ok ran']
        exact (second value after).behind output

end Run.SameSeen

/-- To execute the declaration of a function does nothing. -/
theorem Stmt.execute_of_isFunction {context : Context} {stmt : Stmt}
    (declares : stmt.isFunction = true) : stmt.execute context = pure none := by
  cases stmt with
  | functionDecl signature body =>
    rw [Stmt.execute, Stmt.rule]
    rfl
  | _ => cases declares

/-- Statements run as they do without the declarations of functions among them. -/
theorem executeEach_ordinary (context : Context) (stmts : List Stmt) (before : Environment) :
    ((executeEach context stmts).run before).SameSeen
      ((executeEach context (ordinary stmts)).run before) := by
  induction stmts generalizing before with
  | nil => exact .refl _
  | cons stmt rest ih =>
    cases declares : stmt.isFunction with
    | true =>
      have skipped : (executeEach context (stmt :: rest)).run before =
          ((executeEach context rest).run before).behind [.executing stmt] := by
        rw [executeEach, Stmt.execute_of_isFunction declares, pure_bind]
        exact Traced.run_bind_ok (Traced.run_emit _ before)
      rw [skipped, ordinary, List.filter_cons_of_neg (by simp [declares])]
      have quiet : outputOf [.executing stmt] = outputOf [] := rfl
      exact (ih before).behind quiet
    | false =>
      rw [ordinary, List.filter_cons_of_pos (by simp [declares])]
      refine Run.SameSeen.bind (.refl _) fun _ after => ?_
      exact Run.SameSeen.bind (.refl _) fun _ after => ih after

/-- Programs with the same ordinary statements, in which the same names are those of functions that
can be called, and of others, run alike. -/
theorem interpret_hoisted {first second : List Stmt} (rest : ordinary first = ordinary second)
    (same : callable? first = callable? second) (natives : Registry) (before : Environment) :
    ((interpret ⟨first, natives⟩).run before).SameSeen
      ((interpret ⟨second, natives⟩).run before) := by
  have contexts (stmts : List Stmt) :
      executeEach ⟨first, natives⟩ stmts = executeEach ⟨second, natives⟩ stmts := by
    induction stmts with
    | nil => rfl
    | cons stmt stmts ih =>
      rw [executeEach, executeEach, Stmt.execute, Stmt.execute, stmt.rule_hoisted same, ih]
  have each (before : Environment) : ((executeEach ⟨first, natives⟩ first).run before).SameSeen
      ((executeEach ⟨second, natives⟩ second).run before) := by
    have front := executeEach_ordinary ⟨first, natives⟩ first before
    rw [rest, contexts (ordinary second)] at front
    exact front.trans (executeEach_ordinary ⟨second, natives⟩ second before).symm
  have begun : ((Traced.emit (.starting first.length) : Eval Unit).run before).SameSeen
      ((Traced.emit (.starting second.length)).run before) := ⟨rfl, rfl, rfl⟩
  refine begun.bind fun _ after => ?_
  exact (each after).bind fun _ after => .refl _

/-- Where the functions of a program are declared does not matter. Programs with the same other
statements run alike, with any host functions and from any environment, if for every name the first
declaration is absent from both or present in both and either native in both or in neither. So
declarations may be moved among the other statements, and a later declaration of a name may be left
out. -/
theorem functions_are_hoisted (natives : Registry) (before : Environment) :
    (∀ first second : List Stmt, ordinary first = ordinary second →
        (∀ name, (findFunction first name).map (fun signature => signature.hasSpecifier "native") =
          (findFunction second name).map fun signature => signature.hasSpecifier "native") →
        ((interpret ⟨first, natives⟩).run before).SameSeen
          ((interpret ⟨second, natives⟩).run before)) ∧
      (∀ first second : List Stmt, ordinary first = ordinary second →
        functions first = functions second →
        ((interpret ⟨first, natives⟩).run before).SameSeen
          ((interpret ⟨second, natives⟩).run before)) ∧
      ∀ (front behind : List Stmt) (signature : Signature) (body : Option (List Stmt)),
        (findFunction front signature.name.lexeme).isSome →
        ((interpret ⟨front ++ .functionDecl signature body :: behind, natives⟩).run before).SameSeen
          ((interpret ⟨front ++ behind, natives⟩).run before) := by
  refine ⟨fun first second rest same => ?_, fun first second rest same => ?_,
    fun front behind signature body declared => ?_⟩
  · exact interpret_hoisted rest (funext same) natives before
  · refine interpret_hoisted rest (funext fun name => ?_) natives before
    rw [callable?, ← findFunction_functions, same, findFunction_functions, callable?]
  · refine interpret_hoisted ?_ (funext fun name => ?_) natives before
    · rw [ordinary, ordinary, List.filter_append, List.filter_append,
        List.filter_cons_of_neg (by simp [Stmt.isFunction])]
    · rw [callable?, callable?, findFunction_redeclared declared]

/-- The head of `Print<native>(message : String) : void`, on the second line or on the first. -/
def printSignature (line : Nat) : Signature :=
  let word (lexeme : String) (column : Nat) : Token := ⟨.identifier, lexeme, none, ⟨line, column⟩⟩
  { name := word "Print" 1
    specifiers := [.named (word "native" 7) false]
    parameters := [⟨word "message" 15, some (.named (word "String" 25) false)⟩]
    effects := []
    returns := .named (word "void" 35) false }

def printCall : Stmt :=
  .expression (.call (.name ⟨.identifier, "Print", none, ⟨1, 1⟩⟩) [.literal (.string "hi") ⟨1, 7⟩])

/-- A call runs alike before the declaration and behind two of them, of which the second one has
another place. -/
theorem functions_are_hoisted_printing :
    let calling := [printCall, .functionDecl (printSignature 2) none]
    let declaring := [.functionDecl (printSignature 1) none, printCall,
      .functionDecl (printSignature 2) (some [printCall])]
    outputOf ((interpret ⟨calling, .standard⟩).run .empty).trace = "hi\n" ∧
      ((interpret ⟨calling, .standard⟩).run .empty).SameSeen
        ((interpret ⟨declaring, .standard⟩).run .empty) := by
  refine ⟨by decide +kernel, (functions_are_hoisted .standard .empty).1 _ _ rfl fun name => ?_⟩
  by_cases named : "Print" = name
  · subst named
    rfl
  · have other (line : Nat) : ((printSignature line).name.lexeme == name) = false :=
      beq_false_of_ne named
    simp only [findFunction, List.findSome?_cons, List.findSome?_nil, printCall, Stmt.declares?,
      other, Bool.false_eq_true, ↓reduceIte]

end Script
