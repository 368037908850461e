import Script.Program
import Script.Proofs.Causes
import Script.Proofs.Grammar.Leaves
import Script.Proofs.Native.Signatures
import Script.Proofs.Origins
import Script.Proofs.Printing.RoundTrip

set_option autoImplicit false

/- References to functions. A reference arises only where a name is that of a function of the
program, and from there it is passed on; neither a literal nor a host function makes one. So
whatever is run, no variable refers to a function that the program does not have, and a call can
miss its function only where its callee is the name of no variable. -/
namespace Script

open Error (Cause)

section Sound

variable (program : List Stmt)

/-- If a value refers to a function, the program has it. -/
def Value.Defined (value : Value) : Prop :=
  ∀ name, value = .function name → (findFunction program name).isSome

/-- What a phrase yields, if it yields a value, is defined. -/
def Yields (found : Option Value) : Prop := ∀ value ∈ found, value.Defined program

/-- All variables in a scope hold defined values. -/
def Scope.Sound (scope : Scope) : Prop := ∀ entry ∈ scope, entry.2.value.Defined program

def Environment.Sound (environment : Environment) : Prop :=
  ∀ scope ∈ environment.innermost :: environment.outer, scope.Sound program

end Sound

variable {program : List Stmt}

theorem Scope.Sound.lookup {scope : Scope} (sound : scope.Sound program) {name : String}
    {binding : Binding} (found : scope.lookup name = some binding) :
    binding.value.Defined program := by
  induction scope with
  | nil => cases found
  | cons entry rest ih =>
    obtain ⟨key, held⟩ := entry
    obtain ⟨first, others⟩ := List.forall_mem_cons.mp sound
    rw [List.lookup_cons] at found
    cases same : name == key with
    | true =>
      rw [same] at found
      cases found
      exact first
    | false =>
      rw [same] at found
      exact ih others found

theorem Scope.Sound.setValue {scope : Scope} (sound : scope.Sound program) (name : String)
    {value : Value} (defined : value.Defined program) :
    (scope.setValue name value).Sound program := by
  induction scope with
  | nil => exact sound
  | cons entry rest ih =>
    obtain ⟨key, held⟩ := entry
    obtain ⟨first, others⟩ := List.forall_mem_cons.mp sound
    rw [Scope.setValue]
    split
    · exact List.forall_mem_cons.mpr ⟨defined, others⟩
    · exact List.forall_mem_cons.mpr ⟨first, ih others⟩

namespace Environment.Sound

variable {environment after : Environment}

theorem empty : Environment.empty.Sound program := by
  intro scope member entry held
  cases List.mem_singleton.mp member
  cases held

theorem outermost {scope : Scope} :
    (Environment.outermost scope).Sound program ↔ scope.Sound program :=
  List.forall_mem_singleton

theorem within {scope : Scope} :
    (Environment.within scope environment).Sound program ↔
      scope.Sound program ∧ environment.Sound program :=
  List.forall_mem_cons

theorem enter (sound : environment.Sound program) : environment.enter.Sound program :=
  within.mpr ⟨nofun, sound⟩

theorem leave (sound : environment.Sound program) : environment.leave.Sound program := by
  cases environment with
  | outermost scope => exact sound
  | within scope enclosing => exact (within.mp sound).2

theorem get? (sound : environment.Sound program) {name : String} {binding : Binding}
    (found : environment.get? name = some binding) : binding.value.Defined program := by
  induction environment with
  | outermost scope => exact (outermost.mp sound).lookup found
  | within scope enclosing ih =>
    obtain ⟨inner, outer⟩ := within.mp sound
    rw [Environment.get?] at found
    cases here : scope.lookup name with
    | none =>
      rw [here, Option.none_or] at found
      exact ih outer found
    | some held =>
      rw [here, Option.some_or] at found
      cases found
      exact inner.lookup here

theorem declare (sound : environment.Sound program) {name : String} {value : Value}
    {mutable : Bool} (defined : value.Defined program)
    (declared : environment.declare name value mutable = .ok after) : after.Sound program := by
  unfold Environment.declare at declared
  split at declared
  · cases declared
  · cases declared
    cases environment with
    | outermost scope =>
      exact outermost.mpr (List.forall_mem_cons.mpr ⟨defined, outermost.mp sound⟩)
    | within scope enclosing =>
      obtain ⟨inner, outer⟩ := within.mp sound
      exact within.mpr ⟨List.forall_mem_cons.mpr ⟨defined, inner⟩, outer⟩

theorem assign (sound : environment.Sound program) {name : String} {value : Value}
    (defined : value.Defined program) (assigned : environment.assign name value = .ok after) :
    after.Sound program := by
  induction environment generalizing after with
  | outermost scope =>
    unfold Environment.assign at assigned
    split at assigned
    · split at assigned
      · cases assigned
        exact outermost.mpr ((outermost.mp sound).setValue name defined)
      · cases assigned
    · cases assigned
  | within scope enclosing ih =>
    obtain ⟨inner, outer⟩ := within.mp sound
    unfold Environment.assign at assigned
    split at assigned
    · split at assigned
      · cases assigned
        exact within.mpr ⟨inner.setValue name defined, outer⟩
      · cases assigned
    · cases further : enclosing.assign name value with
      | error cause =>
        rw [further] at assigned
        cases assigned
      | ok enclosing' =>
        rw [further] at assigned
        cases assigned
        exact within.mpr ⟨inner, ih outer further⟩

end Environment.Sound

section Steps

open Traced

/-- A step of a rule other than the search for the function of a call: no call misses its
function in it. -/
abbrev Eval.Plain {α : Type} (program : List Stmt) (good : α → Prop) (action : Eval α) : Prop :=
  action.Ensures (Environment.Sound program) good fun error =>
    ∀ function, error.cause ≠ .undefinedFunction function

/-- No operator makes a reference. -/
theorem Operator.binary_defined {operator : Token} {left right value : Value}
    (computed : Operator.binary operator left right = .ok value) : value.Defined program := by
  have mapped {α : Type} {result : Except Cause α} {make : α → Value}
      (plain : ∀ inner name, make inner ≠ .function name)
      (made : result.map make = .ok value) : value.Defined program := by
    cases result with
    | error cause => cases made
    | ok inner =>
      cases made
      exact fun name is => absurd is (plain inner name)
  unfold Operator.binary at computed
  split at computed
  · cases computed
    nofun
  · split at computed
    · split at computed
      · unfold Operator.onNumbers at computed
        split at computed <;> exact mapped (by simp) computed
      · cases computed
    · cases computed

theorem Operator.unary_defined {operator : Token} {operand value : Value}
    (computed : Operator.unary operator operand = .ok value) : value.Defined program := by
  unfold Operator.unary at computed
  split at computed
  · split at computed
    · cases computed
      nofun
    · cases computed
  · cases computed
    nofun
  · cases computed

theorem Operator.member_defined {target value : Value} {name : String}
    (computed : Operator.member target name = .ok value) : value.Defined program := by
  unfold Operator.member at computed
  split at computed
  · cases computed
    nofun
  · cases computed

/-- No standard host function answers with a function. -/
theorem Registry.standard_answer {name : String} {arguments : List NativeValue}
    {value : NativeValue} (answered : (Registry.standard.call name arguments).result = .ok value)
    (function : String) : value ≠ .function function := by
  have promised : ∀ host ∈ standard.functions,
      ¬ (NativeValue.function function).Answers host.returns := by
    simp only [standard, List.forall_mem_cons]
    exact ⟨nofun, nofun, nofun, nofun, nofun⟩
  rcases call_cases standard_sound name arguments with
    ⟨error, -, called⟩ | ⟨host, value', found, -, answers, called⟩
  · rw [called] at answered
    cases answered
  · rw [called] at answered
    cases answered
    rintro rfl
    exact promised host (List.mem_of_find?_eq_some found) answers

/-- What a host's value means is no reference unless it is a function of the host. -/
theorem NativeValue.toValue_yields {value : NativeValue} {found : Option Value}
    (plain : ∀ function, value ≠ .function function) (converted : value.toValue = .ok found) :
    Yields program found := by
  cases value with
  | function name => exact absurd rfl (plain name)
  | array items => cases converted
  | _ =>
    cases converted
    nofun

namespace Eval.Plain

theorem raise {α : Type} {good : α → Prop} (position : Position) {cause : Cause}
    (other : ∀ function, cause ≠ .undefinedFunction function) :
    Plain program good (Eval.raise position cause) := .fail other

theorem assign (target : Token) {value : Value} (defined : value.Defined program) :
    Plain program (fun _ => True)
      (Eval.update target.position (Environment.assign target.lexeme value)) := by
  refine Eval.update_ensures (fun _ _ sound => sound.assign defined) ?_
  intro before cause _ refused function
  rcases Environment.assign_error refused with rfl | rfl <;> nofun

theorem declare (head : VariableHead) {value : Value} (defined : value.Defined program) :
    Plain program (fun _ => True) (Eval.update head.name.position fun environment =>
      environment.declare head.name.lexeme value head.mutable) := by
  refine Eval.update_ensures (fun _ _ sound => sound.declare defined) ?_
  intro before cause _ refused function
  rw [Environment.declare_error refused]
  nofun

/-- An operator's value is defined, and what an operator fails for is no missing function. -/
theorem operator {outcome : Except Cause Value} (position : Position)
    (value : ∀ value, outcome = .ok value → value.Defined program)
    (error : ∀ function, outcome ≠ .error (.undefinedFunction function)) :
    Plain program (Yields program) (some <$> Eval.lift position outcome) := by
  apply Ensures.map
  refine Eval.lift_ensures (fun found is => ?_) fun cause failed function is => ?_
  · rintro _ ⟨⟩
    exact value found is
  · exact error function (is ▸ failed)

theorem binary (operator : Token) (left right : Value) :
    Plain program (Yields program)
      (some <$> Eval.lift operator.position (Operator.binary operator left right)) := by
  refine .operator _ (fun _ => Operator.binary_defined) fun function failed => ?_
  rcases Operator.binary_error failed with misapplied | ⟨-, is⟩
  · cases misapplied
  · cases is

theorem unary (operator : Token) (operand : Value) :
    Plain program (Yields program)
      (some <$> Eval.lift operator.position (Operator.unary operator operand)) := by
  refine .operator _ (fun _ => Operator.unary_defined) fun function failed => ?_
  rcases Operator.unary_error failed with misapplied | ⟨-, is⟩
  · cases misapplied
  · cases is

theorem member (target : Value) (member : Token) :
    Plain program (Yields program)
      (some <$> Eval.lift member.position (Operator.member target member.lexeme)) := by
  refine .operator _ (fun _ => Operator.member_defined) fun function failed => ?_
  cases Operator.member_error failed

/-- A name stands for what a variable holds, or for a function that there is. -/
theorem nameValue (token : Token) :
    Plain program (Yields program) (Eval.nameValue program token) := by
  refine .of_each fun before sound => ?_
  refine (Eval.nameValue_ensures program before token).imp ?_ ?_
  · rintro found (⟨binding, bound, rfl⟩ | ⟨known, rfl⟩) value ⟨⟩
    · exact sound.get? bound
    · rintro name ⟨⟩
      exact known
  · rintro error ⟨-, -, rfl⟩
    nofun

theorem callNative (name : String) (arguments : List NativeValue) (position : Position) :
    Plain program (Yields program) (Eval.callNative .standard name arguments position) := by
  refine (Eval.callNative_ensures .standard name arguments position).imp ?_ ?_
  · rintro found ⟨value, answered, converted⟩
    exact NativeValue.toValue_yields (Registry.standard_answer answered) converted
  · intro error failed
    cases failed <;> nofun

end Eval.Plain

end Steps

section Origins

/-- What a failure owes. If it is for want of a function, it is that of a call whose callee is a
name; the function bears that name, and the name is that of no variable. -/
structure Origin.Founded (program : List Stmt) (origin : Origin) : Prop where
  sound : origin.moment.Sound program
  callee : ∀ function, origin.error.cause = .undefinedFunction function →
    ∃ token arguments, origin.phrase = .expr (.call (.name token) arguments) ∧
      token.lexeme = function ∧ token.position = origin.error.position ∧
      origin.moment.get? function = none

namespace Located

/-- From any sound environment, a run ends in a sound one, with a value of which something holds
or a failure that is founded. -/
abbrev Upholds {α : Type} (program : List Stmt) (good : α → Prop) (action : Located α) : Prop :=
  action.Ensures (Environment.Sound program) good (Origin.Founded program)

namespace Upholds

variable {α : Type} {good : α → Prop}

/-- The step of a rule takes over what it does to the environment and what it yields. -/
theorem own_of {phrase : Phrase} {action : Eval α}
    (each : ∀ before, before.Sound program → (action.run before).state.Sound program ∧
      (∀ value, (action.run before).outcome = .ok value → good value) ∧
      ∀ error, (action.run before).outcome = .error error →
        Origin.Founded program ⟨error, phrase, (action.run before).state⟩) :
    Upholds program good (own phrase action) := by
  refine ⟨fun before sound => (each before sound).1, fun before sound value is => ?_,
    fun before sound origin is => ?_⟩
  · rw [run_own] at is
    exact (each before sound).2.1 value (Except.mapError_eq_ok.mp is)
  · rw [run_own] at is
    obtain ⟨error, failed, rfl⟩ := Except.mapError_eq_error.mp is
    exact (each before sound).2.2 error failed

theorem own (phrase : Phrase) {action : Eval α} (plain : action.Plain program good) :
    Upholds program good (own phrase action) :=
  own_of fun before sound => ⟨plain.state before sound, plain.value before sound,
    fun error failed => ⟨plain.state before sound, fun function same =>
      absurd same (plain.error before sound error failed function)⟩⟩

theorem inNewScope {action : Located α} (upholds : Upholds program good action) :
    Upholds program good (inNewScope action) where
  state before sound := (upholds.state before.enter sound.enter).leave
  value before sound := upholds.value before.enter sound.enter
  error before sound := upholds.error before.enter sound.enter

theorem demand (expr : Expr) {action : Located (Option Value)}
    (upholds : Upholds program (Yields program) action) :
    Upholds program (Value.Defined program) (demand expr action) := by
  refine upholds.bind fun found defined => ?_
  cases found with
  | some value => exact .pure (defined value rfl)
  | none => exact own _ (.raise _ nofun)

/-- A call misses its function only where its callee is the name of no variable: what a variable
holds is defined. -/
theorem resolveCallee (callee : Expr) (arguments : List Expr) :
    Upholds program (fun _ => True)
      (Located.own (.expr (.call callee arguments)) (Eval.resolveCallee program callee)) := by
  apply own_of
  intro before sound
  have search := Eval.resolveCallee_ensures program before callee
  have same := search.state before rfl
  rw [same]
  refine ⟨sound, fun _ _ => trivial, fun error failed => ⟨sound, fun function is => ?_⟩⟩
  cases search.error before rfl error failed with
  | uncallable => cases is
  | foreign feature => cases is
  | undefined means missing =>
    cases is
    cases means with
    | held bound holds =>
      have known := sound.get? bound function holds
      rw [missing] at known
      cases known
    | named free => exact ⟨_, arguments, rfl, rfl, rfl, free⟩

end Upholds

end Located

end Origins

section Rules

open Located

/-- A leaf that is no reference. -/
def Leaf.Plain : Leaf → Prop
  | .token _ => True
  | .literal value _ => ∀ function, value ≠ .function function

variable (program) in
/-- The context of the program with the functions that every program can use. -/
abbrev Context.ofProgram : Context := ⟨program, .standard⟩

mutual

/-- Where the tree has no references of its own, its run makes none but to functions there are. -/
theorem Expr.locate_upholds : ∀ expr : Expr, (∀ leaf ∈ expr.leaves, leaf.Plain) →
    Upholds program (Yields program) (expr.locate (.ofProgram program))
  | .conditional condition thenBranch elseBranch, plain => by
    rw [Expr.leaves] at plain
    simp only [List.forall_mem_append] at plain
    obtain ⟨tested, first, second⟩ := plain
    rw [Expr.locate]
    refine ((condition.locate_upholds tested).demand condition).bind fun test _ => ?_
    split
    · exact (locateAll_upholds none thenBranch nofun first).inNewScope
    · exact (locateAll_upholds none elseBranch nofun second).inNewScope
  | .assign target value, plain => by
    rw [Expr.leaves] at plain
    obtain ⟨-, valued⟩ := List.forall_mem_cons.mp plain
    rw [Expr.locate]
    refine ((value.locate_upholds valued).demand value).bind fun result defined => ?_
    refine (Upholds.own _ (.assign target defined)).bind fun _ _ => .pure ?_
    rintro _ ⟨⟩
    exact defined
  | .binary left operator right, plain => by
    rw [Expr.leaves, List.forall_mem_append] at plain
    obtain ⟨first, second⟩ := plain
    rw [Expr.locate]
    refine ((left.locate_upholds first).demand left).bind fun value _ => ?_
    refine ((right.locate_upholds (List.forall_mem_cons.mp second).2).demand right).bind
      fun value' _ => ?_
    exact Upholds.own _ (.binary operator value value')
  | .unary operator operand, plain => by
    rw [Expr.leaves] at plain
    obtain ⟨-, valued⟩ := List.forall_mem_cons.mp plain
    rw [Expr.locate]
    refine ((operand.locate_upholds valued).demand operand).bind fun value _ => ?_
    exact Upholds.own _ (.unary operator value)
  | .grouping inner, plain => by
    rw [Expr.leaves] at plain
    rw [Expr.locate]
    exact inner.locate_upholds plain
  | .literal value position, plain => by
    rw [Expr.leaves] at plain
    rw [Expr.locate]
    refine .pure ?_
    rintro _ ⟨⟩ function is
    exact absurd is (plain _ List.mem_cons_self function)
  | .name token, _ => by
    rw [Expr.locate]
    exact Upholds.own _ (.nameValue token)
  | .call callee arguments, plain => by
    rw [Expr.leaves, List.forall_mem_append] at plain
    rw [Expr.locate]
    refine (Upholds.resolveCallee callee arguments).bind fun signature _ => ?_
    refine (locateEach_upholds arguments plain.2).bind fun values _ => ?_
    exact Upholds.own _ (.callNative _ values callee.position)
  | .member target member, plain => by
    rw [Expr.leaves, List.forall_mem_append] at plain
    rw [Expr.locate]
    refine ((target.locate_upholds plain.1).demand target).bind fun value _ => ?_
    exact Upholds.own _ (.member value member)

theorem Stmt.locate_upholds : ∀ stmt : Stmt, (∀ leaf ∈ stmt.leaves, leaf.Plain) →
    Upholds program (Yields program) (stmt.locate (.ofProgram program))
  | .functionDecl _ _, _ => by
    rw [Stmt.locate]
    exact .pure nofun
  | .variableDecl head initializer, plain => by
    rw [Stmt.leaves, List.forall_mem_append] at plain
    rw [Stmt.locate]
    refine ((initializer.locate_upholds plain.2).demand initializer).bind fun value defined => ?_
    exact (Upholds.own _ (.declare head defined)).bind fun _ _ => .pure nofun
  | .block body, plain => by
    rw [Stmt.leaves] at plain
    rw [Stmt.locate]
    exact (locateAll_upholds none body nofun plain).inNewScope.bind fun _ _ => .pure nofun
  | .expression expr, plain => by
    rw [Stmt.leaves] at plain
    rw [Stmt.locate]
    exact expr.locate_upholds plain

theorem locateAll_upholds : ∀ (last : Option Value) (stmts : List Stmt), Yields program last →
    (∀ leaf ∈ stmtsLeaves stmts, leaf.Plain) →
    Upholds program (Yields program) (locateAll (.ofProgram program) last stmts)
  | last, [], defined, _ => by
    rw [locateAll]
    exact .pure defined
  | last, stmt :: rest, _, plain => by
    rw [stmtsLeaves, List.forall_mem_append] at plain
    rw [locateAll]
    exact (stmt.locate_upholds plain.1).bind fun value defined =>
      locateAll_upholds value rest defined plain.2

theorem locateEach_upholds : ∀ exprs : List Expr, (∀ leaf ∈ exprsLeaves exprs, leaf.Plain) →
    Upholds program (fun _ => True) (locateEach (.ofProgram program) exprs)
  | [], _ => by
    rw [locateEach]
    exact .pure trivial
  | expr :: rest, plain => by
    rw [exprsLeaves, List.forall_mem_append] at plain
    rw [locateEach]
    refine ((expr.locate_upholds plain.1).demand expr).bind fun value _ => ?_
    exact (locateEach_upholds rest plain.2).bind fun values _ => .pure trivial

end

end Rules

section Reached

/-- No token of a text denotes a function. -/
theorem Token.Genuine.denoted_plain {token : Token} (genuine : token.Genuine) {value : Value}
    (denoted : token.denoted? = some value) (function : String) : value ≠ .function function := by
  rintro rfl
  obtain ⟨piece, -, found⟩ := genuine
  have carried : token.literal = some (.function function) := by
    unfold Token.denoted? at denoted
    split at denoted <;> first | exact denoted | cases denoted
  cases piece with
  | whole digits =>
    simp only [Piece.token?, Option.ite_none_right_eq_some, Option.some.injEq] at found
    rw [← found.2] at carried
    cases carried
  | newline | quoted | decimal | word | symbol =>
    rw [← Option.some.inj found] at carried
    cases carried
  | _ => cases found

theorem Stmt.leaves_subset {stmts : List Stmt} {stmt : Stmt} (member : stmt ∈ stmts) :
    stmt.leaves ⊆ stmtsLeaves stmts := by
  induction stmts with
  | nil => cases member
  | cons first rest ih =>
    rw [stmtsLeaves]
    rcases List.mem_cons.mp member with rfl | behind
    · exact List.subset_append_left _ _
    · exact List.Subset.trans (ih behind) (List.subset_append_right _ _)

/-- What is read from a text has no references of its own. -/
theorem parseSource_plain {source : String} {stmts : List Stmt}
    (accepted : parseSource source = .ok stmts) {stmt : Stmt} (member : stmt ∈ stmts) :
    ∀ leaf ∈ stmt.leaves, leaf.Plain := by
  obtain ⟨-, -, rfl⟩ := parseSource_eq_ok.mp accepted
  obtain ⟨body, scanned, genuine⟩ := exists_genuine source
  intro leaf inside
  obtain ⟨token, held, kept⟩ := Parser.exists_source _ (Stmt.leaves_subset member inside)
  cases leaf with
  | token => trivial
  | literal value position =>
    rw [scanned, List.mem_append, List.mem_singleton] at held
    rcases held with within | rfl
    · exact (genuine token within).denoted_plain kept.1
    · cases kept.1

/-- The environments that are reached from the empty one by statements that were read from texts,
whether they fail or not. -/
inductive Context.Reaches (context : Context) : Environment → Prop where
  | start : context.Reaches .empty
  | step {before : Environment} {source : String} {stmts : List Stmt} {stmt : Stmt}
      (reached : context.Reaches before) (accepted : parseSource source = .ok stmts)
      (member : stmt ∈ stmts) : context.Reaches ((stmt.execute context).run before).state

theorem Context.Reaches.sound {before : Environment}
    (reached : (Context.ofProgram program).Reaches before) : before.Sound program := by
  induction reached with
  | start => exact .empty
  | step _ accepted member ih =>
    rw [Stmt.run_execute]
    exact (Stmt.locate_upholds _ (parseSource_plain accepted member)).state _ ih

/-- No reference dangles. Whatever statements have been read from texts and run, also after errors,
every function that a variable of some scope refers to or that a statement yields is one of the
program. Where an error says that a function is missing, it arose from a call whose callee is the
name of that function, which no variable bore at that moment; so a call whose callee is that of a
variable has never failed so. -/
theorem references_resolve {before : Environment}
    (reached : (Context.ofProgram program).Reaches before) :
    (∀ scope ∈ before.innermost :: before.outer, ∀ entry ∈ scope, ∀ name,
        entry.2.value = .function name → (findFunction program name).isSome) ∧
      ∀ source stmts stmt, parseSource source = .ok stmts → stmt ∈ stmts →
        let done := (stmt.execute (.ofProgram program)).run before
        (∀ name, done.outcome = .ok (some (.function name)) →
            (findFunction program name).isSome) ∧
          ∀ error, done.outcome = .error error →
            ∃ origin, ((stmt.locate (.ofProgram program)).run before).outcome = .error origin ∧
              error = origin.named ∧ origin.moment.Sound program ∧
              (∀ function, error.cause = .undefinedFunction function →
                ∃ token arguments, origin.phrase = .expr (.call (.name token) arguments) ∧
                  token.lexeme = function ∧ token.position = error.position ∧
                  origin.moment.get? function = none) ∧
              ∀ token arguments, origin.phrase = .expr (.call (.name token) arguments) →
                (origin.moment.get? token.lexeme).isSome →
                ∀ function, error.cause ≠ .undefinedFunction function := by
  refine ⟨reached.sound, fun source stmts stmt accepted member => ?_⟩
  have upholds : Located.Upholds program (Yields program) (stmt.locate (.ofProgram program)) :=
    stmt.locate_upholds (parseSource_plain accepted member)
  have value := upholds.value before reached.sound
  have founded := upholds.error before reached.sound
  have same : ((stmt.execute (.ofProgram program)).run before).outcome =
      ((stmt.locate (.ofProgram program)).run before).outcome.mapError Origin.named :=
    congrArg Run.outcome (Stmt.run_execute _ stmt before)
  dsimp only
  rw [same]
  cases ended : ((stmt.locate (.ofProgram program)).run before).outcome with
  | ok found =>
    refine ⟨fun name is => ?_, nofun⟩
    cases is
    exact value _ ended _ rfl name rfl
  | error origin =>
    refine ⟨nofun, fun error is => ?_⟩
    cases is
    obtain ⟨sound, callee⟩ := founded origin ended
    refine ⟨origin, rfl, rfl, sound, callee, ?_⟩
    intro token arguments called bound function missing
    obtain ⟨token', arguments', called', named, -, free⟩ := callee function missing
    cases called.symm.trans called'
    rw [named, free] at bound
    cases bound

/-- A variable that refers to a function. -/
def rooting : String := "Sqrt<native>(value : Float) : Float\nroot := Sqrt"

/-- A call of a function that there is not. -/
def missing : String := "1 + missing()"

/-- What the variable refers to is there, and the call is found to be at fault. -/
theorem references_resolve_missing :
    ∃ program, parseSource rooting = .ok program ∧ (findFunction program "Sqrt").isSome ∧
      ∃ environment, (Context.ofProgram program).Reaches environment ∧
        ("root", ⟨false, .function "Sqrt"⟩) ∈ environment.innermost ∧
        ∃ stmts, parseSource missing = .ok stmts ∧ ∃ stmt ∈ stmts, ∃ origin token arguments,
          ((stmt.locate (.ofProgram program)).run environment).outcome = .error origin ∧
          origin.named.cause = .undefinedFunction "missing" ∧
          origin.phrase = .expr (.call (.name token) arguments) ∧ token.lexeme = "missing" := by
  have accepted := parseSource_eq_ok.mpr
    ⟨(by decide +kernel : (tokenize rooting).errors = []), by decide +kernel, rfl⟩
  have accepted' := parseSource_eq_ok.mpr
    ⟨(by decide +kernel : (tokenize missing).errors = []), by decide +kernel, rfl⟩
  generalize programmed : (parse (tokenize rooting).tokens).statements = program at accepted
  generalize stated : (parse (tokenize missing).tokens).statements = stmts at accepted'
  obtain ⟨two, one, bound, failed⟩ : ∃ (two : 1 < program.length) (one : 0 < stmts.length),
      let reached := ((program.get ⟨1, two⟩).execute (.ofProgram program)).run .empty
      ("root", ⟨false, .function "Sqrt"⟩) ∈ reached.state.innermost ∧
        (((stmts.get ⟨0, one⟩).execute (.ofProgram program)).run reached.state).outcome.map
          (fun _ => ()) = .error ⟨.undefinedFunction "missing", ⟨1, 5⟩, some "missing()"⟩ := by
    subst programmed stated
    exact ⟨by decide +kernel, by decide +kernel, by decide +kernel, by decide +kernel⟩
  have reached : (Context.ofProgram program).Reaches
      (((program.get ⟨1, two⟩).execute (.ofProgram program)).run .empty).state :=
    .step .start accepted (program.get_mem ⟨1, two⟩)
  obtain ⟨sound, each⟩ := references_resolve reached
  have known := sound _ List.mem_cons_self _ bound "Sqrt" rfl
  obtain ⟨-, founded⟩ := each missing stmts _ accepted' (stmts.get_mem ⟨0, one⟩)
  have told {outcome : Except Error (Option Value)} {error : Error}
      (failed : outcome.map (fun _ => ()) = .error error) : outcome = .error error := by
    cases outcome <;> cases failed
    rfl
  obtain ⟨origin, located, is, -, callee, -⟩ := founded _ (told failed)
  obtain ⟨token, arguments, called, named, -⟩ := callee "missing" rfl
  exact ⟨program, accepted, known, _, reached, bound, stmts, accepted', _,
    stmts.get_mem ⟨0, one⟩, origin, token, arguments, located, is ▸ rfl, called, named⟩

end Reached

end Script
