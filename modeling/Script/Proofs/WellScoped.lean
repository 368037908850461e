import Script.Proofs.Causes

set_option autoImplicit false

/- Programs whose names can be told before they run. A program is walked in order with the names
of the scopes around each phrase, in both branches of every choice. The scopes of a run have the
names of the walk at every point, so a program that the walk accepts never fails on a name. -/
namespace Script

/-- The names of a scope, each with whether it can be assigned to. -/
abbrev Names := List (String × Bool)

/-- The names of a chain of scopes, the innermost first. -/
abbrev Outline := List Names

namespace Outline

/-- Whether the nearest entry of a name can be assigned to, if there is an entry. -/
def nearest? (name : String) : Outline → Option Bool
  | [] => none
  | names :: outer => (names.lookup name).or (nearest? name outer)

/-- The innermost scope has an entry of the name. -/
def declares (name : String) : Outline → Bool
  | [] => false
  | names :: _ => (names.lookup name).isSome

/-- A new entry in the innermost scope. -/
def extend (name : String) (mutable : Bool) : Outline → Outline
  | [] => [[(name, mutable)]]
  | names :: outer => ((name, mutable) :: names) :: outer

end Outline

/-- The names around what follows a statement. -/
def Stmt.extend (outline : Outline) : Stmt → Outline
  | .variableDecl head _ => outline.extend head.name.lexeme head.mutable
  | _ => outline

section Walk

variable (program : List Stmt)

mutual

/-- Every name in an expression is that of a variable around it or of a function of the program,
and what it assigns to can be assigned to. A callee is not looked at. -/
def Expr.isScoped (outline : Outline) : Expr → Bool
  | .conditional condition thenBranch elseBranch =>
      condition.isScoped outline && stmtsScoped ([] :: outline) thenBranch &&
        stmtsScoped ([] :: outline) elseBranch
  | .assign target value =>
      value.isScoped outline && outline.nearest? target.lexeme == some true
  | .binary left _ right => left.isScoped outline && right.isScoped outline
  | .unary _ operand => operand.isScoped outline
  | .grouping inner => inner.isScoped outline
  | .literal _ _ => true
  | .name token =>
      (outline.nearest? token.lexeme).isSome || (findFunction program token.lexeme).isSome
  | .call _ arguments => exprsScoped outline arguments
  | .member target _ => target.isScoped outline

/-- The same of a statement, which declares no name that its scope has already. The body of a
function is not looked at. -/
def Stmt.isScoped (outline : Outline) : Stmt → Bool
  | .functionDecl _ _ => true
  | .variableDecl head initializer =>
      initializer.isScoped outline && !outline.declares head.name.lexeme
  | .block body => stmtsScoped ([] :: outline) body
  | .expression expr => expr.isScoped outline

/-- Statements in order, each with the names that those before it declare. -/
def stmtsScoped (outline : Outline) : List Stmt → Bool
  | [] => true
  | stmt :: rest => stmt.isScoped outline && stmtsScoped (stmt.extend outline) rest

def exprsScoped (outline : Outline) : List Expr → Bool
  | [] => true
  | expr :: rest => expr.isScoped outline && exprsScoped outline rest

end

end Walk

/-- A program that the walk accepts, from one scope without names. -/
def wellScoped (program : List Stmt) : Bool := stmtsScoped program [[]] program

namespace Scope

def names (scope : Scope) : Names := scope.map fun entry => (entry.1, entry.2.mutable)

theorem lookup_names (scope : Scope) (name : String) :
    scope.names.lookup name = (scope.lookup name).map Binding.mutable := by
  induction scope with
  | nil => rfl
  | cons entry rest ih =>
    obtain ⟨key, binding⟩ := entry
    simp only [names, List.map_cons, List.lookup_cons] at ih ⊢
    cases name == key with
    | true => rfl
    | false => exact ih

/-- What is kept of a scope has its names. -/
theorem Kept.names {before after : Scope} (kept : before.Kept after) :
    after.names = before.names := by
  induction kept with
  | nil => rfl
  | cons head _ ih =>
    simp only [Scope.names, List.map_cons] at ih ⊢
    rw [ih, head.name, head.mutable]

end Scope

namespace Environment

def outline (environment : Environment) : Outline :=
  (environment.innermost :: environment.outer).map Scope.names

theorem outline_within (scope : Scope) (enclosing : Environment) :
    (within scope enclosing).outline = scope.names :: enclosing.outline := rfl

private theorem map_names {before after : List Scope}
    (kept : List.Forall₂ Scope.Kept before after) :
    after.map Scope.names = before.map Scope.names := by
  induction kept with
  | nil => rfl
  | cons head _ ih => rw [List.map_cons, List.map_cons, head.names, ih]

/-- An environment that is kept has its names, and those that it gained. -/
theorem Kept.outline {gained : Scope} {before after : Environment}
    (kept : Kept gained before after) :
    after.outline = (gained.names ++ before.innermost.names) :: before.outer.map Scope.names := by
  obtain ⟨inner, same, held⟩ := kept.inner
  have innermost : after.innermost.names = gained.names ++ before.innermost.names := by
    rw [same, Scope.names, List.map_append]
    exact congrArg (gained.names ++ ·) held.names
  have outer : after.outer.map Scope.names = before.outer.map Scope.names :=
    map_names kept.outer
  rw [Environment.outline, List.map_cons, innermost, outer]

/-- The binding that a name means is its nearest entry. -/
theorem nearest?_outline (environment : Environment) (name : String) :
    environment.outline.nearest? name = (environment.get? name).map Binding.mutable := by
  induction environment with
  | outermost scope =>
    simp only [outline, innermost, outer, List.map_cons, List.map_nil, Outline.nearest?, get?,
      Scope.lookup_names, Option.or_none]
  | within scope enclosing ih =>
    rw [outline_within, Outline.nearest?, Scope.lookup_names, ih, get?]
    cases scope.lookup name <;> rfl

/-- An assignment is refused only where the nearest entry cannot be assigned to. -/
theorem nearest?_of_assign_error {environment : Environment} {name : String} {value : Value}
    {cause : Error.Cause} (refused : environment.assign name value = .error cause) :
    environment.outline.nearest? name ≠ some true := by
  rw [nearest?_outline]
  induction environment generalizing cause with
  | outermost scope =>
    unfold assign at refused
    split at refused
    · next binding found =>
      split at refused
      · cases refused
      · next immutable => simpa [get?, found] using immutable
    · next missing => simp [get?, missing]
  | within scope enclosing ih =>
    unfold assign at refused
    split at refused
    · next binding found =>
      split at refused
      · cases refused
      · next immutable => simpa [get?, found] using immutable
    · next missing =>
      cases further : enclosing.assign name value with
      | ok after =>
        rw [further] at refused
        cases refused
      | error cause' => simpa [get?, missing] using ih further

/-- A declaration is refused only where the innermost scope has the name. -/
theorem declares_of_declare_error {environment : Environment} {name : String} {value : Value}
    {mutable : Bool} {cause : Error.Cause}
    (refused : environment.declare name value mutable = .error cause) :
    environment.outline.declares name = true := by
  unfold declare at refused
  split at refused
  · next bound =>
    rw [outline, List.map_cons, Outline.declares, Scope.lookup_names, Option.isSome_map]
    exact bound
  · cases refused

end Environment

/-- Causes that say that a name is not what it is used for. -/
inductive Error.Cause.OnName : Error.Cause → Prop where
  | undeclared (name : String) : OnName (.variableNotDeclared name)
  | redeclared (name : String) : OnName (.variableAlreadyDeclared name)
  | immutable (name : String) : OnName (.assignToImmutable name)

namespace Eval

open Error.Cause (OnName)

variable {α : Type} {outline : Outline}

theorem foreign_onName : Foreign OnName where
  misapplied := by
    rintro cause (_ | _ | _ | _) <;> nofun
  expectedValue := nofun
  notCallable := nofun
  undefinedFunction := nofun
  notImplemented := nofun
  nativeCall := nofun

/-- An environment with the names of the walk. -/
def Mirrors (outline : Outline) (environment : Environment) : Prop :=
  environment.outline = outline

theorem Keeps.leads {action : Eval α} (keeps : Keeps action) :
    Leads (Mirrors outline) action (Mirrors outline) := by
  rintro before rfl value after trace ran
  have kept := keeps before
  rw [ran] at kept
  exact kept.outline

theorem Leads.withContext {fits fits' : Environment → Prop} {action : Eval α} (context : String)
    (leads : Leads fits action fits') :
    Leads fits (action.mapError fun error => error.withContext context) fits' := by
  intro before fit value after trace ran
  rw [Traced.run_mapError] at ran
  cases first : action.run before with
  | mk outcome middle trace' =>
    rw [first] at ran
    cases outcome with
    | error error => cases ran
    | ok value' =>
      obtain ⟨-, rfl, -⟩ := Run.mk.inj ran
      exact leads before fit value' middle trace' first

/-- A statement that succeeds leaves the names that the walk goes on with. -/
theorem Leads.rule (context : Context) (stmt : Stmt) :
    Leads (Mirrors outline) (stmt.rule context) (Mirrors (stmt.extend outline)) := by
  rintro before rfl value after trace ran
  obtain ⟨gained, gains, kept⟩ := Stmt.rule_gains context stmt before
  rw [ran] at gains kept
  have names := kept.outline
  cases stmt with
  | variableDecl head initializer =>
    obtain ⟨value, rfl⟩ := gains
    exact names
  | _ =>
    obtain rfl := gains
    exact names

end Eval

section Rules

open Eval

open Error.Cause (OnName)

variable {context : Context} {outline : Outline}

mutual

theorem Expr.rule_averts : ∀ {expr : Expr} {outline : Outline},
    expr.isScoped context.program outline = true →
      Averts OnName (Mirrors outline) (expr.rule context)
  | .conditional condition thenBranch elseBranch, outline, known => by
    simp only [Expr.isScoped, Bool.and_eq_true] at known
    obtain ⟨⟨tested, first⟩, second⟩ := known
    rw [Expr.rule]
    apply ((Expr.rule_averts tested).demand foreign_onName condition).bind
      ((condition.rule_keeps context).demand condition).leads
    intro test
    split
    · exact (executeAll_averts none first).inNewScope fun before fit => congrArg ([] :: ·) fit
    · exact (executeAll_averts none second).inNewScope fun before fit => congrArg ([] :: ·) fit
  | .assign target value, outline, known => by
    simp only [Expr.isScoped, Bool.and_eq_true, beq_iff_eq] at known
    obtain ⟨valued, mutable⟩ := known
    rw [Expr.rule]
    apply ((Expr.rule_averts valued).demand foreign_onName value).bind
      ((value.rule_keeps context).demand value).leads
    intro result
    refine (Averts.update _ ?_).bind (.anywhere _) fun _ => .pure _
    rintro before rfl cause refused
    exact absurd mutable (Environment.nearest?_of_assign_error refused)
  | .binary left operator right, outline, known => by
    simp only [Expr.isScoped, Bool.and_eq_true] at known
    rw [Expr.rule]
    apply ((Expr.rule_averts known.1).demand foreign_onName left).bind
      ((left.rule_keeps context).demand left).leads
    intro first
    apply ((Expr.rule_averts known.2).demand foreign_onName right).bind (.anywhere _)
    intro second
    exact .binary foreign_onName operator first second nofun
  | .unary operator operand, outline, known => by
    rw [Expr.isScoped] at known
    rw [Expr.rule]
    apply ((Expr.rule_averts known).demand foreign_onName operand).bind (.anywhere _)
    intro value
    exact .unary foreign_onName operator value nofun
  | .grouping inner, outline, known => by
    rw [Expr.isScoped] at known
    rw [Expr.rule]
    exact (Expr.rule_averts known).withContext _
  | .literal value _, outline, _ => by
    rw [Expr.rule]
    exact .pure _
  | .name token, outline, known => by
    rw [Expr.rule]
    apply Averts.nameValue
    rintro before rfl unbound undefined
    rw [Expr.isScoped, Environment.nearest?_outline, unbound, undefined] at known
    cases known
  | .call callee arguments, outline, known => by
    rw [Expr.isScoped] at known
    rw [Expr.rule]
    apply (Averts.resolveCallee foreign_onName _ callee).bind (Keeps.resolveCallee _ callee).leads
    intro signature
    apply (evaluateAll_averts known).bind (.anywhere _)
    intro values
    exact .callNative foreign_onName _ _ _ _
  | .member target member, outline, known => by
    rw [Expr.isScoped] at known
    rw [Expr.rule]
    apply ((Expr.rule_averts known).demand foreign_onName target).bind (.anywhere _)
    intro value
    exact .member foreign_onName value member

theorem Stmt.rule_averts : ∀ {stmt : Stmt} {outline : Outline},
    stmt.isScoped context.program outline = true →
      Averts OnName (Mirrors outline) (stmt.rule context)
  | .functionDecl _ _, outline, _ => by
    rw [Stmt.rule]
    exact .pure _
  | .variableDecl head initializer, outline, known => by
    simp only [Stmt.isScoped, Bool.and_eq_true, Bool.not_eq_true'] at known
    obtain ⟨initialized, fresh⟩ := known
    rw [Stmt.rule]
    apply ((Expr.rule_averts initialized).demand foreign_onName initializer).bind
      ((initializer.rule_keeps context).demand initializer).leads
    intro value
    refine (Averts.update _ ?_).bind (.anywhere _) fun _ => .pure _
    rintro before rfl cause refused
    rw [Environment.declares_of_declare_error refused] at fresh
    cases fresh
  | .block body, outline, known => by
    rw [Stmt.isScoped] at known
    rw [Stmt.rule]
    refine Averts.bind ?_ (.anywhere _) fun _ => .pure _
    exact (executeAll_averts none known).inNewScope fun before fit => congrArg ([] :: ·) fit
  | .expression expr, outline, known => by
    rw [Stmt.isScoped] at known
    rw [Stmt.rule]
    exact (Expr.rule_averts known).withContext _

theorem executeAll_averts (last : Option Value) : ∀ {stmts : List Stmt} {outline : Outline},
    stmtsScoped context.program outline stmts = true →
      Averts OnName (Mirrors outline) (executeAll context last stmts)
  | [], outline, _ => by
    rw [executeAll]
    exact .pure last
  | stmt :: rest, outline, known => by
    simp only [stmtsScoped, Bool.and_eq_true] at known
    rw [executeAll]
    apply ((Stmt.rule_averts known.1).withContext _).bind ((Leads.rule context stmt).withContext _)
    intro value
    exact executeAll_averts value known.2

theorem evaluateAll_averts : ∀ {exprs : List Expr} {outline : Outline},
    exprsScoped context.program outline exprs = true →
      Averts OnName (Mirrors outline) (evaluateAll context exprs)
  | [], outline, _ => by
    rw [evaluateAll]
    exact .pure []
  | expr :: rest, outline, known => by
    simp only [exprsScoped, Bool.and_eq_true] at known
    rw [evaluateAll]
    apply ((Expr.rule_averts known.1).demand foreign_onName expr).bind
      ((expr.rule_keeps context).demand expr).leads
    intro value
    exact (evaluateAll_averts known.2).bind (.anywhere _) fun values => .pure _

end

/-- Statements of the program run one after the other. -/
theorem executeEach_averts {stmts : List Stmt} {outline : Outline}
    (known : stmtsScoped context.program outline stmts = true) :
    Averts OnName (Mirrors outline) (executeEach context stmts) := by
  induction stmts generalizing outline with
  | nil => exact .pure ()
  | cons stmt rest ih =>
    simp only [stmtsScoped, Bool.and_eq_true] at known
    rw [executeEach]
    apply (Averts.of_ok fun _ => ⟨(), rfl⟩).bind (Leads.of_state fun _ => rfl)
    intro _
    apply ((Stmt.rule_averts known.1).withContext _).bind ((Leads.rule context stmt).withContext _)
    intro _
    exact ih known.2

/-- A program that the walk accepts never fails because a name is not declared, is declared again
or cannot be assigned to, whatever the host functions do. -/
theorem wellScoped_averts_onName {program : List Stmt} (known : wellScoped program = true)
    (natives : Registry) {error : Error}
    (failed : ((interpret { program, natives }).run .empty).outcome = .error error) :
    ¬ OnName error.cause := by
  have each : Averts OnName (Mirrors [[]]) (executeEach { program, natives } program) :=
    executeEach_averts known
  have all : Averts OnName (Mirrors [[]]) (interpret { program, natives }) := by
    apply (Averts.of_ok fun _ => ⟨(), rfl⟩).bind (Leads.of_state fun _ => rfl)
    intro _
    apply each.bind (.anywhere _)
    intro _
    exact .of_ok fun _ => ⟨(), rfl⟩
  exact all .empty rfl error failed

/-- A block that declares a name of its own from the outer one, and an assignment to the outer one
behind it, by which the program then divides. -/
def shadowingProgram : List Stmt :=
  let x : Token := ⟨.identifier, "x", none, ⟨1, 5⟩⟩
  let type : TypeExpr := .named ⟨.identifier, "Int", none, ⟨1, 9⟩⟩ false
  let number (value : Int32) : Expr := .literal (.number (.int value)) ⟨1, 15⟩
  let slash : Token := ⟨.symbol .slash, "/", none, ⟨4, 3⟩⟩
  [.variableDecl ⟨x, [], some type, true⟩ (number 1),
    .block [.variableDecl ⟨x, [], none, false⟩ (.name x), .expression (.name x)],
    .expression (.conditional (.name x) [] [.expression (.assign x (number 0))]),
    .expression (.binary (number 1) slash (.name x))]

theorem wellScoped_averts_onName_shadowing :
    wellScoped shadowingProgram = true ∧ ∃ error,
      ((interpret { program := shadowingProgram }).run .empty).outcome = .error error ∧
        ¬ OnName error.cause := by
  have known : wellScoped shadowingProgram = true := by decide +kernel
  have failed : ((interpret { program := shadowingProgram }).run .empty).outcome =
      .error ⟨.divisionByZero, ⟨4, 3⟩, some "(1 / x)"⟩ := by decide +kernel
  exact ⟨known, _, failed, wellScoped_averts_onName known .standard failed⟩

end Rules
end Script
