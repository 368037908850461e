import Script.Proofs.Grammar.Preference
import Script.Proofs.Grammar.Soundness

set_option autoImplicit false

/- Every phrase of the grammar with assignments preferred is read, and read to its end, wherever
the token behind it cannot go on with it. Repetitions and levels never run out: each round takes a
token, and each phrase inside another one is shorter. -/
namespace Script.Parser

open Grammar
open Token (Kind)

variable {start stop : Cursor} {tokens : List Token}

theorem typeName_complete {context : String} {name : Token} {optional : Bool}
    (phrase : TypeName tokens name optional) (passes : start.Passes tokens stop)
    (follows : stop.tape.current.kind ≠ .symbol .question) :
    Ends False (typeName context) start (.ok (name, optional)) stop := by
  rw [typeName, ends_expect_bind (by decide)]
  cases phrase with
  | plain named =>
    have absent : Ends False (advanceIf [.symbol .question]) stop (.ok false) stop :=
      ends_advanceIf_false.mpr ⟨by simpa using follows, rfl⟩
    exact ⟨name, stop, named, passes, absent.andThen (.pure _ _)⟩
  | optional named marked =>
    obtain ⟨middle, passes, passes'⟩ := passes.cons_split
    have present : Ends False (advanceIf [.symbol .question]) middle (.ok true) stop :=
      (ends_advanceIf_true (by decide)).mpr ⟨_, by simp [marked], passes'⟩
    exact ⟨name, middle, named, passes, present.andThen (.pure _ _)⟩

theorem typeWithin_complete {bound : Nat} {context : String} {type : TypeExpr}
    (phrase : TypePhrase tokens type) (room : tokens.length ≤ bound)
    (passes : start.Passes tokens stop)
    (follows : stop.tape.current.kind ≠ .symbol .question) :
    Ends False (typeWithin bound context) start (.ok type) stop := by
  induction phrase generalizing bound context start stop with
  | named rest =>
    cases bound with
    | zero => exact (typeName_complete rest passes follows).andThen (.pure _ _)
    | succ bound =>
      rw [typeWithin, ends_advanceIf_branch (by decide)]
      refine .inr ⟨?_, (typeName_complete rest passes follows).andThen (.pure _ _)⟩
      cases rest with
      | plain named => simp [passes.current, named]
      | optional named _ => simp [passes.current, named]
  | array opens closes rest =>
    obtain ⟨bound, rfl⟩ : ∃ less, bound = less + 1 := ⟨bound - 1, by simp at room; omega⟩
    obtain ⟨_, passes₁, passes⟩ := passes.cons_split
    obtain ⟨_, passes₂, passes₃⟩ := passes.cons_split
    rw [typeWithin, ends_advanceIf_branch (by decide)]
    refine .inl ⟨_, _, by simp [opens], passes₁, ends_sees_branch.mpr (.inl ⟨?_, ?_⟩)⟩
    · rw [passes₂.current, closes]
    · rw [ends_expect_bind (by decide)]
      refine ⟨_, _, closes, passes₂, ?_⟩
      exact (typeName_complete rest passes₃ follows).andThen (.pure _ _)
  | map opens keyed closes rest ih =>
    obtain ⟨bound, rfl⟩ : ∃ less, bound = less + 1 := ⟨bound - 1, by simp at room; omega⟩
    simp only [List.length_cons, List.length_append] at room
    obtain ⟨_, passes₁, passes⟩ := passes.cons_split
    obtain ⟨_, passes₂, passes⟩ := passes.split
    obtain ⟨_, passes₃, passes₄⟩ := passes.cons_split
    rw [typeWithin, ends_advanceIf_branch (by decide)]
    refine .inl ⟨_, _, by simp [opens], passes₁, ends_sees_branch.mpr (.inr ⟨?_, ?_⟩)⟩
    · obtain ⟨token, rest, rfl, starts⟩ := keyed.begins
      intro closes
      rw [passes₂.current] at closes
      exact absurd (closes ▸ starts) (by decide)
    · refine (ih (by omega) passes₂ ?_).andThen ?_
      · rw [passes₃.current, closes]
        decide
      · rw [ends_expect_bind (by decide)]
        refine ⟨_, _, closes, passes₃, ?_⟩
        exact (typeName_complete rest passes₄ follows).andThen (.pure _ _)

theorem typeExpr_complete {context : String} {type : TypeExpr} (phrase : TypePhrase tokens type)
    (passes : start.Passes tokens stop)
    (follows : stop.tape.current.kind ∉ [Kind.symbol .question]) :
    Ends False (typeExpr context) start (.ok type) stop := by
  rw [typeExpr, ends_left_bind]
  refine typeWithin_complete phrase ?_ passes (by simpa using follows)
  rw [passes.length]
  omega

section Lists

variable {α : Type} {item : Parser α} {phrase : List Token → α → Prop} {continuing : List Kind}
  (complete : ∀ {start stop : Cursor} {tokens : List Token} {value : α}, phrase tokens value →
    start.Passes tokens stop → stop.tape.current.kind ∉ continuing →
      Ends False item start (.ok value) stop)
  (apart : .symbol .comma ∉ continuing)
include complete apart

theorem separatedWithin_complete {bound : Nat} {values : List α}
    (list : Separated phrase tokens values) (room : values.length ≤ bound + 1)
    (passes : start.Passes tokens stop)
    (follows : stop.tape.current.kind ∉ .symbol .comma :: continuing) :
    Ends False (separatedWithin item bound) start (.ok values) stop := by
  induction list generalizing bound start with
  | one only =>
    rw [List.mem_cons, not_or] at follows
    have read := complete only passes follows.2
    cases bound with
    | zero => exact read.andThen (.pure _ _)
    | succ bound =>
      refine read.andThen ((ends_advanceIf_branch (by decide)).mpr (.inr ⟨?_, .pure _ _⟩))
      simpa using follows.1
  | more head parts tail ih =>
    obtain ⟨bound, rfl⟩ : ∃ less, bound = less + 1 := by
      refine ⟨bound - 1, ?_⟩
      have := tail.length_pos
      simp only [List.length_cons] at room
      omega
    obtain ⟨_, passes₁, passes⟩ := passes.split
    obtain ⟨_, passes₂, passes₃⟩ := passes.cons_split
    rw [separatedWithin]
    refine (complete head passes₁ (by rwa [passes₂.current, parts])).andThen ?_
    rw [ends_advanceIf_branch (by decide)]
    refine .inl ⟨_, _, by simp [parts], passes₂, ?_⟩
    exact (ih (by simpa using room) passes₃).andThen (.pure _ _)

theorem separated_complete {values : List α} (list : Separated phrase tokens values)
    (passes : start.Passes tokens stop)
    (follows : stop.tape.current.kind ∉ .symbol .comma :: continuing) :
    Ends False (separated item) start (.ok values) stop := by
  rw [separated, ends_left_bind]
  refine separatedWithin_complete complete apart list ?_ passes follows
  have := list.length_le
  have := passes.length
  omega

end Lists

theorem specifiersWithin_complete {context : String} {bound : Nat} {types : List TypeExpr}
    (phrase : Specifiers tokens types) (room : tokens.length ≤ bound)
    (passes : start.Passes tokens stop) (follows : stop.tape.current.kind ≠ .symbol .less) :
    Ends False (specifiersWithin context bound) start (.ok types) stop := by
  induction phrase generalizing bound start with
  | none =>
    obtain rfl := passes.eq_of_nil
    cases bound with
    | zero => exact .pure _ _
    | succ bound =>
      rw [specifiersWithin, ends_advanceIf_branch (by decide)]
      exact .inr ⟨by simpa using follows, .pure _ _⟩
  | more opens listed closes behind ih =>
    simp only [List.length_cons, List.length_append] at room
    obtain ⟨bound, rfl⟩ : ∃ less, bound = less + 1 := ⟨bound - 1, by omega⟩
    obtain ⟨_, passes₁, passes⟩ := passes.cons_split
    obtain ⟨_, passes₂, passes⟩ := passes.split
    obtain ⟨_, passes₃, passes₄⟩ := passes.cons_split
    rw [specifiersWithin, ends_advanceIf_branch (by decide)]
    refine .inl ⟨_, _, by simp [opens], passes₁, ?_⟩
    refine Ends.andThen (separated_complete typeExpr_complete (by decide) listed passes₂ ?_) ?_
    · rw [passes₃.current, closes]
      decide
    refine (ends_expect_bind (by decide)).mpr ⟨_, _, closes, passes₃, ?_⟩
    exact (ih (by omega) passes₄).andThen (.pure _ _)

theorem specifiers_complete {context : String} {types : List TypeExpr}
    (phrase : Specifiers tokens types) (passes : start.Passes tokens stop)
    (follows : stop.tape.current.kind ≠ .symbol .less) :
    Ends False (specifiers context) start (.ok types) stop := by
  rw [specifiers, ends_left_bind]
  refine specifiersWithin_complete phrase ?_ passes follows
  rw [passes.length]
  omega

theorem parameter_complete {found : Parameter} (phrase : ParameterPhrase tokens found)
    (passes : start.Passes tokens stop)
    (follows : stop.tape.current.kind ∉ [Kind.symbol .question]) :
    Ends False parameter start (.ok found) stop := by
  cases phrase with
  | typed named sign annotated =>
    obtain ⟨_, passes₁, passes⟩ := passes.cons_split
    obtain ⟨_, passes₂, passes₃⟩ := passes.cons_split
    rw [parameter, ends_expect_bind (by decide)]
    refine ⟨_, _, named, passes₁, (ends_expect_bind (by decide)).mpr ⟨_, _, sign, passes₂, ?_⟩⟩
    exact (typeExpr_complete annotated passes₃ follows).andThen (.pure _ _)

theorem parameters_complete {opening closing : Token} {found : List Parameter}
    (opens : opening.kind = .symbol .openParen) (phrase : Parameters tokens found)
    (closes : closing.kind = .symbol .closeParen)
    (passes : start.Passes (opening :: (tokens ++ [closing])) stop) :
    Ends False parameters start (.ok found) stop := by
  obtain ⟨_, passes₁, passes⟩ := passes.cons_split
  obtain ⟨middle, passes₂, passes₃⟩ := passes.split
  have ending : Ends False (do
      let _ ← expect (.symbol .closeParen) "in function declaration"
      return found) middle (.ok found) stop :=
    (ends_expect_bind (by decide)).mpr ⟨_, _, closes, passes₃, .pure _ _⟩
  rw [parameters, ends_expect_bind (by decide)]
  refine ⟨_, _, opens, passes₁, ends_sees_branch.mpr ?_⟩
  cases phrase with
  | none =>
    obtain rfl := passes₂.eq_of_nil
    refine .inl ⟨by rw [passes₃.current, closes], ?_⟩
    rwa [pure_bind]
  | some listed =>
    have starts := listed.begins fun only => only.begins
    refine .inr ⟨?_, ?_⟩
    · obtain ⟨token, rest, rfl, starts⟩ := starts
      rw [passes₂.current]
      intro closes
      exact absurd (closes ▸ starts) (by decide)
    · have read := separated_complete parameter_complete (by decide) listed passes₂
        (by rw [passes₃.current, closes]; decide)
      exact read.andThen ending

/-- A parser fails without having decided anything. -/
def Declines {α : Type} (parser : Parser α) (start : Cursor) : Prop :=
  ∃ error stop, parser.run start = ⟨.error error, stop, []⟩ ∧ stop.mark = start.mark

theorem declines_bind {α β : Type} {parser : Parser α} {next : α → Parser β}
    (silent : Silent parser)
    (rest : ∀ {value middle}, Ends False parser start (.ok value) middle →
      Declines (next value) middle) : Declines (parser >>= next) start := by
  have quiet := silent start
  cases ran : parser.run start with
  | mk outcome middle trace =>
    rw [ran] at quiet
    obtain ⟨kept, rfl⟩ := quiet
    cases outcome with
    | error error => exact ⟨error, middle, Traced.run_bind_error ran, kept⟩
    | ok value =>
      obtain ⟨error, stop, ran', kept'⟩ := rest ⟨[], ran, .inr quiet_nil⟩
      refine ⟨error, stop, ?_, kept'.trans kept⟩
      rw [Traced.run_bind_ok ran, ran', Run.behind_nil]

theorem declines_seesOneOf {α : Type} {kinds : List Kind} {yes no : Parser α}
    (seen : start.tape.current.kind ∈ kinds → Declines yes start)
    (unseen : start.tape.current.kind ∉ kinds → Declines no start) :
    Declines (seesOneOf kinds >>= fun seen => if seen = true then yes else no) start := by
  refine declines_bind (closed_silent.seesOneOf kinds) fun {value middle} ends => ?_
  obtain ⟨⟨⟩, back⟩ := (ends_of_run (run_seesOneOf kinds start) quiet_nil).mp ends
  rw [back]
  by_cases member : start.tape.current.kind ∈ kinds
  · simpa [member] using seen member
  · simpa [member] using unseen member

/-- Where no sign of a definition can be reached over the head of a declaration, none is read. -/
theorem namedDeclaration_declines {nested : Nested}
    (plain : ∀ {passed middle}, start.Passes passed middle →
      (∀ token ∈ passed, token.kind ∈ headKinds) → ∀ token ∈ passed, token.kind ∉ definers) :
    Declines (namedDeclaration nested) start := by
  refine declines_bind (closed_silent.expect _ _) fun {name middle} ends => ?_
  obtain ⟨named, passes₁⟩ := (ends_expect (by decide)).mp ends
  refine declines_bind (closed_silent.specifiers _) fun {found middle₂} ends => ?_
  obtain ⟨specified, passes₂, specifies⟩ := specifiers_sound ends
  have named' : ∀ token ∈ [name], token.kind ∈ headKinds := by simp [named, headKinds]
  have heads := List.forall_mem_append.mpr ⟨named', fun _ => specifies.kinds⟩
  refine declines_seesOneOf (fun defines => ?_) fun _ => ?_
  · have opened : middle₂.tape.current.kind ≠ .endOfFile := by
      intro ended
      simp [ended] at defines
    have passes₃ := Cursor.passes_advance opened
    refine absurd defines (plain ((passes₁.append passes₂).append passes₃) ?_ _ (by simp))
    refine List.forall_mem_append.mpr ⟨heads, fun token member => ?_⟩
    rw [List.mem_singleton.mp member]
    have known : definers ⊆ headKinds := by decide
    exact known defines
  · rw [sees_eq]
    refine declines_seesOneOf (fun _ => ?_) fun _ => ⟨_, _, rfl, rfl⟩
    refine declines_bind closed_silent.parameters fun {found middle₃} ends => ?_
    obtain ⟨opening, listed, closing, passes₃, opens, takes, closes⟩ := parameters_sound ends
    refine declines_bind (closed_silent.specifiers _) fun {effects middle₄} ends => ?_
    obtain ⟨effected, passes₄, affects⟩ := specifiers_sound ends
    refine declines_bind (closed_silent.expect _ _) fun {colon middle₅} ends => ?_
    obtain ⟨parts, passes₅⟩ := (ends_expect (by decide)).mp ends
    have passes := ((passes₁.append passes₂).append passes₃).append (passes₄.append passes₅)
    have defines : colon.kind ∈ definers := by simp [parts, definers]
    refine absurd defines (plain passes ?_ _ (by simp))
    have closes' : ∀ token ∈ [closing], token.kind ∈ headKinds := by simp [closes, headKinds]
    have parts' : ∀ token ∈ [colon], token.kind ∈ headKinds := by simp [parts, headKinds]
    have listed' := List.forall_mem_append.mpr ⟨fun _ => takes.kinds, closes'⟩
    have taken : ∀ token ∈ opening :: (listed ++ [closing]), token.kind ∈ headKinds :=
      List.forall_mem_cons.mpr ⟨by simp [opens, headKinds], listed'⟩
    have effected' := List.forall_mem_append.mpr ⟨fun _ => affects.kinds, parts'⟩
    exact List.forall_mem_append.mpr ⟨List.forall_mem_append.mpr ⟨heads, taken⟩, effected'⟩

/-- Before the end of an expression statement the head of a declaration comes to no sign of a
definition. -/
theorem guarded_plain {passed : List Token} {middle : Cursor} (guarded : Guarded tokens)
    (passes : start.Passes tokens stop) (follows : stop.tape.current.kind ∈ statementEnds)
    (passes' : start.Passes passed middle) (heads : ∀ token ∈ passed, token.kind ∈ headKinds) :
    ∀ token ∈ passed, token.kind ∉ definers := by
  have unbraced : ∀ token ∈ passed, (token.kind != .symbol .openCurly) = true := by
    intro token member
    have head := heads token member
    rw [bne_iff_ne]
    intro opens
    exact absurd (opens ▸ head) (by decide)
  have within (rest : List Token) (inside : tokens = passed ++ rest) :
      ∀ token ∈ passed, token.kind ∉ definers := by
    intro token member
    refine guarded token ?_
    rw [inside, List.takeWhile_append_of_pos unbraced]
    exact List.mem_append_left _ member
  have both := passes.ahead.symm.trans passes'.ahead
  rcases List.append_eq_append_iff.mp both with ⟨beyond, longer, behind⟩ | ⟨rest, inside, -⟩
  · cases beyond with
    | nil => exact within [] (by simpa using longer.symm)
    | cons token beyond =>
      have head := heads token (by simp [longer])
      rw [Tape.current_of_cons behind] at follows
      have outside : ∀ kind ∈ statementEnds, kind ∉ headKinds := by decide
      exact absurd head (outside _ follows)
  · exact within rest inside

def expressionContinues : List Kind := .keyword .elseWord :: continues levels

/-- Parsers for phrases inside other phrases that read all phrases of at most the given number of
tokens. -/
structure NestedComplete (limit : Nat) (nested : Nested) : Prop where
  expr : ∀ {start stop : Cursor} {tokens : List Token} {expr : Expr}, start.mark = none →
    tokens.length ≤ limit → Expression .preferred tokens expr → start.Passes tokens stop →
      stop.tape.current.kind ∉ expressionContinues →
        Ends False nested.expr start (.ok expr) stop
  assignment : ∀ {start stop : Cursor} {tokens : List Token} {expr : Expr}, start.mark = none →
    tokens.length ≤ limit → Assignment .preferred tokens expr → start.Passes tokens stop →
      stop.tape.current.kind ∉ expressionContinues →
        Ends False nested.assignment start (.ok expr) stop
  unary : ∀ {start stop : Cursor} {tokens : List Token} {expr : Expr}, start.mark = none →
    tokens.length ≤ limit → Unary .preferred tokens expr → start.Passes tokens stop →
      stop.tape.current.kind ∉ continues [] → Ends False nested.unary start (.ok expr) stop
  body : ∀ {start stop : Cursor} {tokens : List Token} {closing : Token} {stmts : List Stmt},
    start.mark = none → tokens.length ≤ limit → Statements .preferred tokens stmts →
      closing.kind = .symbol .closeCurly → start.Passes (tokens ++ [closing]) stop →
        Ends False nested.body start (.ok stmts) stop

section Phrases

variable {limit : Nat} {nested : Nested} (complete : NestedComplete limit nested)
include complete

theorem primary_complete {expr : Expr} (free : start.mark = none)
    (room : tokens.length ≤ limit + 1) (phrase : Primary .preferred tokens expr)
    (passes : start.Passes tokens stop) :
    Ends False (primary nested) start (.ok expr) stop := by
  rw [primary, ends_current_bind]
  cases phrase with
  | trueWord spelled =>
    rw [passes.current, spelled, ends_advance_pure (by simp [passes.current, spelled])]
    exact ⟨by rwa [passes.current], rfl⟩
  | falseWord spelled =>
    rw [passes.current, spelled, ends_advance_pure (by simp [passes.current, spelled])]
    exact ⟨by rwa [passes.current], rfl⟩
  | @literal token value sort carries =>
    have opened : start.tape.current.kind ≠ .endOfFile := by
      rw [passes.current]
      rcases sort with is | is | is <;> simp [is]
    have read : Ends False (do
        let _ ← advance
        return Expr.literal value token.position) start (.ok _) stop :=
      (ends_advance_pure opened).mpr ⟨passes.current ▸ passes, rfl⟩
    rcases sort with is | is | is <;> simpa only [passes.current, is, carries] using read
  | name named =>
    rw [passes.current, named, ends_advance_pure (by simp [passes.current, named])]
    exact ⟨by rwa [passes.current], rfl⟩
  | grouping opens held closes =>
    obtain ⟨_, passes₁, passes⟩ := passes.cons_split
    obtain ⟨_, passes₂, passes₃⟩ := passes.split
    simp only [List.length_cons, List.length_append] at room
    rw [passes₁.current, opens, ends_advance_bind (by simp [passes₁.current, opens])]
    refine ⟨_, by rwa [passes₁.current], ?_⟩
    refine (complete.expr (passes₁.mark.trans free) (by omega) held passes₂ ?_).andThen ?_
    · rw [passes₃.current, closes]
      decide
    · exact (ends_expect_bind (by decide)).mpr ⟨_, _, closes, passes₃, .pure _ _⟩

theorem arguments_complete {allowed : Nat} {found : List Expr} (free : start.mark = none)
    (room : tokens.length ≤ limit) (phrase : Arguments .preferred tokens found)
    (few : found.length ≤ allowed) (passes : start.Passes tokens stop)
    (follows : stop.tape.current.kind = .symbol .closeParen) :
    Ends False (arguments nested allowed) start (.ok found) stop := by
  induction allowed generalizing start tokens found with
  | zero => cases phrase <;> simp at few
  | succ allowed ih =>
    rw [arguments]
    cases phrase with
    | one only =>
      refine (complete.expr free room only passes (by rw [follows]; decide)).andThen ?_
      rw [ends_advanceIf_branch (by decide)]
      exact .inr ⟨by rw [follows]; decide, .pure _ _⟩
    | more head parts tail =>
      obtain ⟨_, passes₁, passes⟩ := passes.split
      obtain ⟨_, passes₂, passes₃⟩ := passes.cons_split
      simp only [List.length_cons, List.length_append] at room few
      refine (complete.expr free (by omega) head passes₁ ?_).andThen ?_
      · rw [passes₂.current, parts]
        decide
      · rw [ends_advanceIf_branch (by decide)]
        refine .inl ⟨_, _, by simp [parts], passes₂, ?_⟩
        have free' := (passes₁.append passes₂).mark.trans free
        exact (ih free' (by omega) tail (by omega) passes₃).andThen (.pure _ _)

omit complete in
/-- A call without arguments. -/
theorem finishCall_bare {callee : Expr} {closing : Token}
    (closes : closing.kind = .symbol .closeParen) (passes : start.Passes [closing] stop) :
    Ends False (finishCall nested callee) start (.ok (.call callee [])) stop := by
  rw [finishCall, ends_sees_branch, pure_bind]
  refine .inl ⟨by rw [passes.current, closes], ?_⟩
  exact (ends_expect_bind (by decide)).mpr ⟨_, _, closes, passes, .pure _ _⟩

theorem finishCall_complete (callee : Expr) {exprs : List Expr} {closing : Token}
    (free : start.mark = none) (room : tokens.length ≤ limit)
    (listed : Arguments .preferred tokens exprs) (few : exprs.length ≤ maxArguments)
    (closes : closing.kind = .symbol .closeParen)
    (passes : start.Passes (tokens ++ [closing]) stop) :
    Ends False (finishCall nested callee) start (.ok (.call callee exprs)) stop := by
  obtain ⟨_, passes₁, passes₂⟩ := passes.split
  rw [finishCall, ends_sees_branch]
  refine .inr ⟨?_, ?_⟩
  · obtain ⟨token, rest, rfl, starts⟩ := listed.begins
    rw [passes₁.current]
    intro closes
    exact absurd (closes ▸ starts) (by decide)
  · have follows : _ = _ := (congrArg Token.kind passes₂.current).trans closes
    refine (arguments_complete complete free room listed few passes₁ follows).andThen ?_
    exact (ends_expect_bind (by decide)).mpr ⟨_, _, closes, passes₂, .pure _ _⟩

theorem suffixesWithin_complete {bound : Nat} {expr result : Expr} (free : start.mark = none)
    (room : tokens.length ≤ limit + 1) (phrase : Suffixes .preferred expr tokens result)
    (enough : tokens.length ≤ bound) (passes : start.Passes tokens stop)
    (follows : stop.tape.current.kind ∉ continues []) :
    Ends False (suffixesWithin nested bound expr) start (.ok result) stop := by
  induction bound generalizing start tokens expr with
  | zero =>
    obtain rfl := List.length_eq_zero_iff.mp (Nat.le_zero.mp enough)
    obtain rfl := passes.eq_of_nil
    obtain rfl : result = expr := by
      generalize empty : ([] : List Token) = tokens at phrase
      cases phrase <;> simp_all
    exact .pure _ _
  | succ bound ih =>
    rw [suffixesWithin, ends_advanceIf_branch (by decide)]
    cases phrase with
    | none =>
      obtain rfl := passes.eq_of_nil
      simp only [continues, List.flatten_nil, List.nil_append, List.mem_cons, List.not_mem_nil,
        or_false, not_or] at follows
      refine .inr ⟨by simpa using follows.1, (ends_advanceIf_branch (by decide)).mpr ?_⟩
      exact .inr ⟨by simpa using follows.2, .pure _ _⟩
    | bare opens closes behind =>
      obtain ⟨_, passes₁, passes⟩ := passes.cons_split
      obtain ⟨_, passes₂, passes₃⟩ := passes.cons_split
      simp only [List.length_cons] at room enough
      have free' := (passes₁.cons passes₂).mark.trans free
      have rest := ih free' (by omega) behind (by omega) passes₃
      exact .inl ⟨_, _, by simp [opens], passes₁, (finishCall_bare closes passes₂).andThen rest⟩
    | call opens listed few closes behind =>
      obtain ⟨_, passes₁, passes⟩ := passes.cons_split
      obtain ⟨_, passes₂, passes⟩ := passes.split
      obtain ⟨_, passes₃, passes₄⟩ := passes.cons_split
      simp only [List.length_cons, List.length_append] at room enough
      have free₁ := passes₁.mark.trans free
      have free₃ := (passes₂.append passes₃).mark.trans free₁
      have rest := ih free₃ (by omega) behind (by omega) passes₄
      have read := finishCall_complete complete expr free₁ (by omega) listed few closes
        (passes₂.append passes₃)
      exact .inl ⟨_, _, by simp [opens], passes₁, read.andThen rest⟩
    | member dots named behind =>
      obtain ⟨_, passes₁, passes⟩ := passes.cons_split
      obtain ⟨_, passes₂, passes₃⟩ := passes.cons_split
      simp only [List.length_cons] at room enough
      have free' := (passes₁.cons passes₂).mark.trans free
      refine .inr ⟨by rw [passes₁.current, dots]; decide, ?_⟩
      rw [ends_advanceIf_branch (by decide)]
      refine .inl ⟨_, _, by simp [dots], passes₁, ?_⟩
      rw [ends_expect_bind (by decide)]
      exact ⟨_, _, named, passes₂, ih free' (by omega) behind (by omega) passes₃⟩

theorem unary_complete {expr : Expr} (free : start.mark = none)
    (room : tokens.length ≤ limit + 1) (phrase : Unary .preferred tokens expr)
    (passes : start.Passes tokens stop) (follows : stop.tape.current.kind ∉ continues []) :
    Ends False (unary nested) start (.ok expr) stop := by
  rw [unary, ends_seesOneOf_branch]
  cases phrase with
  | sign signs signed =>
    obtain ⟨_, passes₁, passes₂⟩ := passes.cons_split
    have opened : start.tape.current.kind ≠ .endOfFile := by
      rw [passes₁.current]
      intro ended
      simp [ended] at signs
    refine .inl ⟨by rwa [passes₁.current], ?_⟩
    rw [ends_advance_bind opened]
    refine ⟨_, by rwa [passes₁.current], ?_⟩
    rw [passes₁.current]
    rw [List.length_cons] at room
    have read := complete.unary (passes₁.mark.trans free) (by omega) signed passes₂ follows
    exact read.andThen (.pure _ _)
  | call head behind =>
    obtain ⟨_, passes₁, passes₂⟩ := passes.split
    rw [List.length_append] at room
    refine .inr ⟨?_, ?_⟩
    · obtain ⟨token, rest, rfl, starts⟩ := head.begins
      rw [passes₁.current]
      intro signs
      simp only [List.mem_cons, List.not_mem_nil, or_false] at signs
      rcases signs with is | is <;> exact absurd (is ▸ starts) (by decide)
    · rw [call]
      refine (primary_complete complete free (by omega) head passes₁).andThen ?_
      rw [ends_left_bind]
      refine suffixesWithin_complete complete (passes₁.mark.trans free) (by omega) behind ?_
        passes₂ follows
      rw [passes₂.length]
      omega

section Levels

variable {operators : List Kind} {tighter : List (List Kind)} {operand : Parser Expr}
  (known : .endOfFile ∉ operators) (apart : ∀ kind ∈ operators, kind ∉ continues tighter)
  (each : ∀ {start stop : Cursor} {tokens : List Token} {expr : Expr}, start.mark = none →
    tokens.length ≤ limit + 1 → Operation .preferred tighter tokens expr →
      start.Passes tokens stop → stop.tape.current.kind ∉ continues tighter →
        Ends False operand start (.ok expr) stop)

omit complete
include known apart each

omit known each in
/-- Before a chain stands an operator of its level or what follows it, which goes on with no
operation of a tighter level. -/
theorem chain_follows {expr result : Expr}
    (phrase : Chain .preferred operators tighter expr tokens result)
    (passes : start.Passes tokens stop)
    (follows : stop.tape.current.kind ∉ continues (operators :: tighter)) :
    start.tape.current.kind ∉ continues tighter := by
  cases phrase with
  | none =>
    obtain rfl := passes.eq_of_nil
    exact fun member => follows (mem_continues_cons.mpr (.inr member))
  | more joins _ _ =>
    rw [passes.current]
    exact apart _ joins

theorem operationsWithin_complete {bound : Nat} {expr result : Expr} (free : start.mark = none)
    (room : tokens.length ≤ limit + 1)
    (phrase : Chain .preferred operators tighter expr tokens result)
    (enough : tokens.length ≤ bound) (passes : start.Passes tokens stop)
    (follows : stop.tape.current.kind ∉ continues (operators :: tighter)) :
    Ends False (operationsWithin operators operand bound expr) start (.ok result) stop := by
  induction bound generalizing start tokens expr with
  | zero =>
    obtain rfl := List.length_eq_zero_iff.mp (Nat.le_zero.mp enough)
    obtain rfl := passes.eq_of_nil
    cases phrase with
    | none => exact .pure _ _
  | succ bound ih =>
    rw [operationsWithin, ends_seesOneOf_branch]
    cases phrase with
    | none =>
      obtain rfl := passes.eq_of_nil
      exact .inr ⟨fun member => follows (mem_continues_cons.mpr (.inl member)), .pure _ _⟩
    | more joins right behind =>
      obtain ⟨_, passes₁, passes⟩ := passes.cons_split
      obtain ⟨_, passes₂, passes₃⟩ := passes.split
      simp only [List.length_cons, List.length_append] at room enough
      have free₁ := passes₁.mark.trans free
      have free₂ := passes₂.mark.trans free₁
      refine .inl ⟨by rwa [passes₁.current], ?_⟩
      rw [ends_advance_bind fun ended => known (ended ▸ passes₁.current ▸ joins), passes₁.current]
      refine ⟨_, passes₁, ?_⟩
      refine (each free₁ (by omega) right passes₂ ?_).andThen ?_
      · exact chain_follows apart behind passes₃ follows
      · exact ih free₂ (by omega) behind (by omega) passes₃

/-- One level of operators over a tighter one. -/
theorem operations_complete {expr : Expr} (free : start.mark = none)
    (room : tokens.length ≤ limit + 1)
    (phrase : Operation .preferred (operators :: tighter) tokens expr)
    (passes : start.Passes tokens stop)
    (follows : stop.tape.current.kind ∉ continues (operators :: tighter)) :
    Ends False (operations operators operand) start (.ok expr) stop := by
  cases phrase with
  | level head behind =>
    obtain ⟨_, passes₁, passes₂⟩ := passes.split
    rw [List.length_append] at room
    have follows₁ := chain_follows apart behind passes₂ follows
    refine (each free (by omega) head passes₁ follows₁).andThen ?_
    rw [ends_left_bind]
    refine operationsWithin_complete known apart each (passes₁.mark.trans free) (by omega) behind
      ?_ passes₂ follows
    rw [passes₂.length]
    omega

end Levels

theorem equality_complete {expr : Expr} (free : start.mark = none)
    (room : tokens.length ≤ limit + 1) (phrase : Operation .preferred levels tokens expr)
    (passes : start.Passes tokens stop) (follows : stop.tape.current.kind ∉ continues levels) :
    Ends False (equality nested) start (.ok expr) stop := by
  refine operations_complete (by decide) (by decide) ?_ free room phrase passes follows
  refine operations_complete (by decide) (by decide) ?_
  refine operations_complete (by decide) (by decide) ?_
  refine operations_complete (by decide) (by decide) ?_
  intro start stop tokens expr free room phrase passes follows
  cases phrase with
  | tightest only => exact unary_complete complete free room only passes follows

/-- A block is its opening brace and what is read behind it. -/
theorem block_complete {body : List Stmt} (free : start.mark = none)
    (room : tokens.length ≤ limit) (phrase : Block .preferred tokens body)
    (passes : start.Passes tokens stop) :
    ∃ opening middle, opening.kind = .symbol .openCurly ∧ start.Passes [opening] middle ∧
      Ends False nested.body middle (.ok body) stop := by
  cases phrase with
  | braces opens held closes =>
    obtain ⟨_, passes₁, passes₂⟩ := passes.cons_split
    simp only [List.length_cons, List.length_append] at room
    exact ⟨_, _, opens, passes₁,
      complete.body (passes₁.mark.trans free) (by omega) held closes passes₂⟩

theorem elseBranch_complete {branch : List Stmt} (free : start.mark = none)
    (room : tokens.length ≤ limit) (phrase : ElseBranch .preferred tokens branch)
    (passes : start.Passes tokens stop)
    (follows : stop.tape.current.kind ≠ .keyword .elseWord) :
    Ends False (elseBranch nested) start (.ok branch) stop := by
  rw [elseBranch, ends_advanceIf_branch (by decide)]
  cases phrase with
  | none =>
    obtain rfl := passes.eq_of_nil
    exact .inr ⟨by simpa using follows, .pure _ _⟩
  | some begins body =>
    obtain ⟨_, passes₁, passes₂⟩ := passes.cons_split
    rw [List.length_cons] at room
    obtain ⟨opening, _, opens, passes₃, read⟩ :=
      block_complete complete (passes₁.mark.trans free) (by omega) body passes₂
    refine .inl ⟨_, _, by simp [begins], passes₁, ?_⟩
    exact (ends_expect_bind (by decide)).mpr ⟨_, _, opens, passes₃, read⟩

theorem expression_complete {expr : Expr} (free : start.mark = none)
    (room : tokens.length ≤ limit + 1) (phrase : Expression .preferred tokens expr)
    (passes : start.Passes tokens stop)
    (follows : stop.tape.current.kind ∉ expressionContinues) :
    Ends False (expression nested) start (.ok expr) stop := by
  rw [expressionContinues, List.mem_cons, not_or] at follows
  rw [expression, ends_advanceIf_branch (by decide)]
  cases phrase with
  | conditional begins opens tested closes body other =>
    simp only [List.length_cons, List.length_append] at room
    obtain ⟨_, passes₁, passes⟩ := passes.cons_split
    obtain ⟨_, passes₂, passes⟩ := passes.cons_split
    obtain ⟨_, passes₃, passes⟩ := passes.split
    obtain ⟨_, passes₄, passes⟩ := passes.cons_split
    obtain ⟨_, passes₅, passes₆⟩ := passes.split
    have free₂ := (passes₁.cons passes₂).mark.trans free
    have free₄ := (passes₃.append passes₄).mark.trans free₂
    have free₅ := passes₅.mark.trans free₄
    refine .inl ⟨_, _, by simp [begins], passes₁, ?_⟩
    refine (ends_expect_bind (by decide)).mpr ⟨_, _, opens, passes₂, ?_⟩
    refine (complete.expr free₂ (by omega) tested passes₃ ?_).andThen ?_
    · rw [passes₄.current, closes]
      decide
    refine (ends_expect_bind (by decide)).mpr ⟨_, _, closes, passes₄, ?_⟩
    obtain ⟨brace, _, braces, passes₇, read⟩ :=
      block_complete complete free₄ (by omega) body passes₅
    refine (ends_expect_bind (by decide)).mpr ⟨_, _, braces, passes₇, read.andThen ?_⟩
    have other := elseBranch_complete complete free₅ (by omega) other passes₆ follows.1
    exact other.andThen (.pure _ _)
  | operation only =>
    refine .inr ⟨?_, equality_complete complete free room only passes follows.2⟩
    obtain ⟨token, rest, rfl, starts⟩ := only.begins
    rw [passes.current, List.mem_singleton]
    intro begins
    exact absurd (begins ▸ starts) (by decide)

theorem assignmentOrExpression_complete {expr : Expr} (free : start.mark = none)
    (room : tokens.length ≤ limit + 1) (phrase : Assignment .preferred tokens expr)
    (passes : start.Passes tokens stop)
    (follows : stop.tape.current.kind ∉ expressionContinues) :
    Ends False (assignmentOrExpression nested) start (.ok expr) stop := by
  rw [assignmentOrExpression, ends_sees_bind, ends_nextKind?_bind]
  cases phrase with
  | assign named assigns assigned =>
    obtain ⟨_, passes₁, passes⟩ := passes.cons_split
    obtain ⟨_, passes₂, passes₃⟩ := passes.cons_split
    simp only [List.length_cons] at room
    have free₂ := (passes₁.cons passes₂).mark.trans free
    rw [passes₁.next?, passes₁.current, named, passes₂.current, Option.map_some, assigns]
    simp only [BEq.rfl, Bool.and_self, ↓reduceIte]
    rw [ends_advance_bind (by simp [passes₁.current, named]), passes₁.current]
    refine ⟨_, passes₁, ?_⟩
    rw [ends_advance_bind (by simp [passes₂.current, assigns]), passes₂.current]
    refine ⟨_, passes₂, ?_⟩
    exact (complete.assignment free₂ (by omega) assigned passes₃ follows).andThen (.pure _ _)
  | value only unassigned =>
    have plain : (start.tape.current.kind == .identifier &&
        start.tape.next?.map Token.kind == some (.symbol .equals)) = false := by
      rw [Bool.and_eq_false_imp]
      intro named
      rw [beq_iff_eq] at named
      rw [beq_eq_false_iff_ne]
      intro assigns
      obtain ⟨token, rest, rfl, -⟩ := only.begins
      obtain ⟨middle, passes₁, passes₂⟩ := passes.cons_split
      rw [passes₁.current] at named
      rw [passes₁.next?, Option.map_some, Option.some_inj] at assigns
      cases rest with
      | nil =>
        obtain rfl := passes₂.eq_of_nil
        exact follows (by rw [assigns]; decide)
      | cons sign rest =>
        rw [passes₂.current] at assigns
        exact unassigned ⟨_, _, _, rfl, named, assigns⟩
    rw [plain]
    exact expression_complete complete free room only passes follows

/-- A declaration without a type, behind its name and specifiers. -/
theorem variableDecl_complete_inferred {name sign : Token} {specifiers : List TypeExpr}
    {initializer : Expr} (free : start.mark = none) (room : tokens.length ≤ limit + 1)
    (infers : sign.kind = .symbol .inferred) (phrase : Expression .preferred tokens initializer)
    (passes : start.Passes (sign :: tokens) stop)
    (follows : stop.tape.current.kind ∉ expressionContinues) :
    Ends False (variableDecl nested name specifiers false) start
      (.ok (.variableDecl ⟨name, specifiers, none, false⟩ initializer)) stop := by
  obtain ⟨_, passes₁, passes₂⟩ := passes.cons_split
  rw [variableDecl, ends_sees_bind, Bool.false_and]
  simp only [Bool.false_eq_true, ↓reduceIte]
  rw [ends_advanceIf_branch (by decide)]
  refine .inl ⟨_, _, by simp [infers], passes₁, ?_⟩
  have free' := passes₁.mark.trans free
  exact (expression_complete complete free' room phrase passes₂ follows).andThen (.pure _ _)

/-- A declaration with a type, behind its name and specifiers. -/
theorem variableDecl_complete_typed {name colon sign : Token} {typing : List Token}
    {specifiers : List TypeExpr} {type : TypeExpr} {mutable : Bool} {initializer : Expr}
    (free : start.mark = none) (room : tokens.length ≤ limit + 1)
    (parts : colon.kind = .symbol .colon) (annotated : TypePhrase typing type)
    (defines : sign.kind = .symbol .equals) (phrase : Expression .preferred tokens initializer)
    (passes : start.Passes (colon :: (typing ++ sign :: tokens)) stop)
    (follows : stop.tape.current.kind ∉ expressionContinues) :
    Ends False (variableDecl nested name specifiers mutable) start
      (.ok (.variableDecl ⟨name, specifiers, some type, mutable⟩ initializer)) stop := by
  obtain ⟨_, passes₁, passes⟩ := passes.cons_split
  obtain ⟨_, passes₂, passes⟩ := passes.split
  obtain ⟨_, passes₃, passes₄⟩ := passes.cons_split
  rw [variableDecl, ends_sees_bind, passes₁.current, parts]
  simp only [show (Kind.symbol .colon == .symbol .inferred) = false by decide, Bool.and_false,
    Bool.false_eq_true, ↓reduceIte]
  rw [ends_advanceIf_branch (by decide)]
  refine .inr ⟨by rw [passes₁.current, parts]; decide, ?_⟩
  refine (ends_expect_bind (by decide)).mpr ⟨_, _, parts, passes₁, ?_⟩
  refine (typeExpr_complete annotated passes₂ ?_).andThen ?_
  · rw [passes₃.current, defines]
    decide
  refine (ends_expect_bind (by decide)).mpr ⟨_, _, defines, passes₃, ?_⟩
  have free' := (passes₁.cons (passes₂.append passes₃)).mark.trans free
  exact (expression_complete complete free' room phrase passes₄ follows).andThen (.pure _ _)

theorem functionBody_complete {body : Option (List Stmt)} (free : start.mark = none)
    (room : tokens.length ≤ limit) (phrase : FunctionBody .preferred tokens body)
    (passes : start.Passes tokens stop) (follows : stop.tape.current.kind ≠ .symbol .equals) :
    Ends False (functionBody nested) start (.ok body) stop := by
  rw [functionBody, ends_advanceIf_branch (by decide)]
  cases phrase with
  | none =>
    obtain rfl := passes.eq_of_nil
    exact .inr ⟨by simpa using follows, .pure _ _⟩
  | some defines braced =>
    obtain ⟨_, passes₁, passes₂⟩ := passes.cons_split
    rw [List.length_cons] at room
    obtain ⟨opening, _, opens, passes₃, read⟩ :=
      block_complete complete (passes₁.mark.trans free) (by omega) braced passes₂
    refine .inl ⟨_, _, by simp [defines], passes₁, ?_⟩
    exact (ends_expect_bind (by decide)).mpr ⟨_, _, opens, passes₃, read.andThen (.pure _ _)⟩

omit complete in
/-- The head of a declaration leads to its definition or to its parameters. -/
theorem namedDeclaration_of_head {name : Token} {specified : List Token}
    {specifiers : List TypeExpr} {middle : Cursor} {stmt : Stmt}
    (named : name.kind = .identifier) (specifies : Specifiers specified specifiers)
    (passes : start.Passes (name :: specified) middle)
    (rest : middle.tape.current.kind ∈ definers ∧
        Ends False (variableDecl nested name specifiers false) middle.unmarked (.ok stmt) stop ∨
      middle.tape.current.kind = .symbol .openParen ∧
        Ends False (functionDecl nested name specifiers) middle (.ok stmt) stop) :
    Ends False (namedDeclaration nested) start (.ok stmt) stop := by
  obtain ⟨_, passes₁, passes₂⟩ := passes.cons_split
  have follows : middle.tape.current.kind ≠ .symbol .less := by
    intro less
    rcases rest with ⟨defines, -⟩ | ⟨opens, -⟩
    · exact absurd (less ▸ defines) (by decide)
    · exact absurd (less.symm.trans opens) (by decide)
  refine (ends_expect_bind (by decide)).mpr ⟨_, _, named, passes₁, ?_⟩
  refine (specifiers_complete specifies passes₂ follows).andThen (ends_seesOneOf_branch.mpr ?_)
  rcases rest with ⟨defines, read⟩ | ⟨opens, read⟩
  · exact .inl ⟨defines, (ends_commit.mpr rfl).andThen read⟩
  · refine .inr ⟨by rw [opens]; decide, ends_sees_branch.mpr (.inl ⟨opens, read⟩)⟩

omit complete in
/-- What may follow the name in a declaration may stand behind specifiers too. -/
theorem specifiers_follower {specified : List Token} {specifiers : List TypeExpr}
    (specifies : Specifiers specified specifiers) (passes : start.Passes specified stop)
    (follows : stop.tape.current.kind ∈ declarationFollowers) :
    start.tape.current.kind ∈ declarationFollowers := by
  cases specifies with
  | none => exact passes.eq_of_nil ▸ follows
  | more opens _ _ _ =>
    rw [passes.current, opens]
    decide

omit complete in
/-- A declaration that begins with a name is tried first, with the place before it kept. -/
theorem declarationOrStatement_of_name {name : Token} {specified : List Token}
    {specifiers : List TypeExpr} {middle : Cursor} {stmt : Stmt} (free : start.mark = none)
    (named : name.kind = .identifier) (specifies : Specifiers specified specifiers)
    (passes : start.Passes (name :: specified) middle)
    (rest : middle.tape.current.kind ∈ definers ∧
        Ends False (variableDecl nested name specifiers false) middle (.ok stmt) stop ∨
      middle.tape.current.kind = .symbol .openParen ∧
        Ends False (functionDecl nested name specifiers) ⟨middle.tape, some start.tape⟩
          (.ok stmt) stop) :
    Ends False (declarationOrStatement nested) start (.ok stmt) stop := by
  obtain ⟨_, passes₁, passes₂⟩ := passes.cons_split
  have follows : middle.tape.current.kind ∈ declarationFollowers := by
    rcases rest with ⟨defines, -⟩ | ⟨opens, -⟩
    · have known : definers ⊆ declarationFollowers := by decide
      exact known defines
    · rw [opens]
      decide
  have follows' := specifiers_follower specifies passes₂ follows
  rw [declarationOrStatement_eq, ends_advanceIf_branch (by decide)]
  refine .inr ⟨by rw [passes₁.current, named]; decide, ?_⟩
  rw [ends_looksLikeDeclaration_bind, passes₁.next?, passes₁.current, named]
  simp only [BEq.rfl, Option.map_some, Option.any_some, Bool.true_and, List.contains_eq_mem,
    follows', decide_true, ↓reduceIte]
  refine (ends_speculate free).mpr (.inl ?_)
  have back : (⟨middle.tape, some start.tape⟩ : Cursor).unmarked = middle := by
    rw [Cursor.unmarked, ← passes.mark.trans free]
  refine namedDeclaration_of_head named specifies (passes.remark (some start.tape)) ?_
  rwa [back]

theorem blockOrExpression_complete {expr : Expr} (free : start.mark = none)
    (room : tokens.length ≤ limit + 1) (phrase : Assignment .preferred tokens expr)
    (passes : start.Passes tokens stop)
    (follows : stop.tape.current.kind ∉ expressionContinues) :
    Ends False (blockOrExpression nested) start (.ok (.expression expr)) stop := by
  have unblocked : (start.tape.current.kind == .keyword .blockWord) = false := by
    obtain ⟨token, rest, rfl, starts⟩ := phrase.begins
    rw [passes.current, beq_eq_false_iff_ne]
    intro blocks
    exact absurd (blocks ▸ starts) (by decide)
  rw [blockOrExpression, ends_sees_bind, ends_nextKind?_bind, unblocked, Bool.false_and]
  have read := assignmentOrExpression_complete complete free room phrase passes follows
  exact read.andThen (.pure _ _)

theorem functionDecl_complete {name opening closing colon : Token}
    {listed effected typing : List Token} {specifiers effects : List TypeExpr}
    {parameters : List Parameter} {returns : TypeExpr} {body : Option (List Stmt)}
    {mark : Option Tape} (free : start.mark = none) (room : tokens.length ≤ limit)
    (opens : opening.kind = .symbol .openParen) (takes : Parameters listed parameters)
    (closes : closing.kind = .symbol .closeParen) (affects : Specifiers effected effects)
    (parts : colon.kind = .symbol .colon) (annotated : TypePhrase typing returns)
    (bodied : FunctionBody .preferred tokens body)
    (passes : start.Passes (opening :: (listed ++ closing ::
      (effected ++ colon :: (typing ++ tokens)))) stop)
    (follows : stop.tape.current.kind ∈ statementEnds) :
    Ends False (functionDecl nested name specifiers) ⟨start.tape, mark⟩
      (.ok (.functionDecl ⟨name, specifiers, parameters, effects, returns⟩ body)) stop := by
  have shape : opening :: (listed ++ closing :: (effected ++ colon :: (typing ++ tokens))) =
      (opening :: (listed ++ [closing])) ++ (effected ++ ([colon] ++ (typing ++ tokens))) := by
    simp
  rw [shape] at passes
  obtain ⟨c₁, passes₁, passes⟩ := passes.split
  obtain ⟨c₂, passes₂, passes⟩ := passes.split
  obtain ⟨c₃, passes₃, passes⟩ := passes.split
  obtain ⟨c₄, passes₄, passes₅⟩ := passes.split
  have free₃ := (passes₁.append (passes₂.append passes₃)).mark.trans free
  have unended : stop.tape.current.kind ≠ .symbol .question ∧
      stop.tape.current.kind ≠ .symbol .equals := by
    constructor <;> intro is <;> rw [is] at follows <;> exact absurd follows (by decide)
  rw [functionDecl]
  refine (parameters_complete opens takes closes (passes₁.remark mark)).andThen ?_
  refine (specifiers_complete affects (passes₂.remark mark) ?_).andThen ?_
  · rw [show c₂.tape.current = colon from passes₃.current, parts]
    decide
  refine (ends_expect_bind (by decide)).mpr ⟨_, _, parts, passes₃.remark mark, ?_⟩
  refine (ends_commit.mpr rfl).andThen ?_
  have back : (⟨c₃.tape, mark⟩ : Cursor).unmarked = c₃ := by rw [Cursor.unmarked, ← free₃]
  rw [back]
  refine (typeExpr_complete annotated passes₄ ?_).andThen ?_
  · rw [List.mem_singleton]
    cases bodied with
    | none => exact passes₅.eq_of_nil ▸ unended.1
    | some defines _ =>
      rw [passes₅.current, defines]
      decide
  have free₄ := passes₄.mark.trans free₃
  exact (functionBody_complete complete free₄ room bodied passes₅ unended.2).andThen (.pure _ _)

theorem declarationOrStatement_of_block {begins : Token} {stmts : List Stmt}
    (free : start.mark = none) (room : tokens.length ≤ limit)
    (word : begins.kind = .keyword .blockWord) (braced : Block .preferred tokens stmts)
    (passes : start.Passes (begins :: tokens) stop) :
    Ends False (declarationOrStatement nested) start (.ok (.block stmts)) stop := by
  obtain ⟨_, passes₁, passes₂⟩ := passes.cons_split
  obtain ⟨opening, _, opens, passes₃, read⟩ :=
    block_complete complete (passes₁.mark.trans free) (by omega) braced passes₂
  rw [declarationOrStatement_eq, ends_advanceIf_branch (by decide)]
  refine .inr ⟨by rw [passes₁.current, word]; decide, ?_⟩
  rw [ends_looksLikeDeclaration_bind, passes₁.current, word,
    show (Kind.keyword .blockWord == .identifier) = false by decide, Bool.false_and]
  simp only [Bool.false_eq_true, ↓reduceIte]
  rw [blockOrExpression, ends_sees_bind, ends_nextKind?_bind, passes₁.next?, passes₁.current,
    word, passes₃.current, Option.map_some, opens]
  simp only [BEq.rfl, Bool.and_self, ↓reduceIte]
  rw [ends_advance_bind (by simp [passes₁.current, word]), passes₁.current]
  refine ⟨_, passes₁, ?_⟩
  rw [ends_advance_bind (by simp [passes₃.current, opens]), passes₃.current]
  exact ⟨_, passes₃, read.andThen (.pure _ _)⟩

/-- An expression that looks like a declaration at first is read as what it is. -/
theorem declarationOrStatement_of_expression {expr : Expr} (free : start.mark = none)
    (room : tokens.length ≤ limit + 1) (only : Assignment .preferred tokens expr)
    (passes : start.Passes tokens stop) (follows : stop.tape.current.kind ∈ statementEnds)
    (ended : stop.tape.current.kind ∉ expressionContinues) :
    Ends False (declarationOrStatement nested) start (.ok (.expression expr)) stop := by
  have read := blockOrExpression_complete complete free room only passes ended
  rw [declarationOrStatement_eq, ends_advanceIf_branch (by decide)]
  refine .inr ⟨?_, ?_⟩
  · obtain ⟨token, rest, rfl, starts⟩ := only.begins
    rw [passes.current, List.mem_singleton]
    intro mutable
    exact absurd (mutable ▸ starts) (by decide)
  rw [ends_looksLikeDeclaration_bind]
  split
  · -- What looks like a declaration is none, and reading begins again at the kept place.
    have declined : Declines (namedDeclaration nested) start.marked :=
      namedDeclaration_declines fun passes' heads =>
        guarded_plain only.guarded (passes.remark (some start.tape)) follows passes' heads
    obtain ⟨error, middle, ran, kept⟩ := declined
    refine (ends_speculate free).mpr (.inr ⟨error, middle, start.tape, ?_, kept, ?_⟩)
    · exact ⟨[], ran, .inr quiet_nil⟩
    · rwa [← free]
  · exact read

theorem declarationOrStatement_complete {stmt : Stmt} (free : start.mark = none)
    (room : tokens.length ≤ limit + 1) (phrase : Statement .preferred tokens stmt)
    (passes : start.Passes tokens stop) (follows : stop.tape.current.kind ∈ statementEnds) :
    Ends False (declarationOrStatement nested) start (.ok stmt) stop := by
  have ended : stop.tape.current.kind ∉ expressionContinues := by
    have outside : ∀ kind ∈ statementEnds, kind ∉ expressionContinues := by decide
    exact outside _ follows
  cases phrase with
  | mutable begins named specifies parts annotated defines initialized =>
    obtain ⟨_, passes₁, passes⟩ := passes.cons_split
    obtain ⟨_, passes₂, passes⟩ := passes.cons_split
    obtain ⟨_, passes₃, passes₄⟩ := passes.split
    simp only [List.length_cons, List.length_append] at room
    have free₃ := (passes₁.cons (passes₂.cons passes₃)).mark.trans free
    rw [declarationOrStatement_eq, ends_advanceIf_branch (by decide)]
    refine .inl ⟨_, _, by simp [begins], passes₁, ?_⟩
    refine (ends_expect_bind (by decide)).mpr ⟨_, _, named, passes₂, ?_⟩
    refine (specifiers_complete specifies passes₃ ?_).andThen ?_
    · rw [passes₄.current, parts]
      decide
    · exact variableDecl_complete_typed complete free₃ (by omega) parts annotated defines
        initialized passes₄ ended
  | typed named specifies parts annotated defines initialized =>
    simp only [List.length_cons, List.length_append] at room
    obtain ⟨_, passes₁, passes⟩ := passes.cons_split
    obtain ⟨_, passes₂, passes₃⟩ := passes.split
    have before := passes₁.cons passes₂
    refine declarationOrStatement_of_name free named specifies before (.inl ⟨?_, ?_⟩)
    · rw [passes₃.current, parts]
      decide
    · exact variableDecl_complete_typed complete (before.mark.trans free) (by omega) parts
        annotated defines initialized passes₃ ended
  | inferred named specifies defines initialized =>
    simp only [List.length_cons, List.length_append] at room
    obtain ⟨_, passes₁, passes⟩ := passes.cons_split
    obtain ⟨_, passes₂, passes₃⟩ := passes.split
    have before := passes₁.cons passes₂
    refine declarationOrStatement_of_name free named specifies before (.inl ⟨?_, ?_⟩)
    · rw [passes₃.current, defines]
      decide
    · exact variableDecl_complete_inferred complete (before.mark.trans free) (by omega) defines
        initialized passes₃ ended
  | function named specifies opens takes closes affects parts annotated bodied =>
    simp only [List.length_cons, List.length_append] at room
    obtain ⟨_, passes₁, passes⟩ := passes.cons_split
    obtain ⟨_, passes₂, passes₃⟩ := passes.split
    have before := passes₁.cons passes₂
    refine declarationOrStatement_of_name free named specifies before (.inr ⟨?_, ?_⟩)
    · rw [passes₃.current, opens]
    · exact functionDecl_complete complete (before.mark.trans free) (by omega) opens takes closes
        affects parts annotated bodied passes₃ follows
  | block begins braced =>
    rw [List.length_cons] at room
    exact declarationOrStatement_of_block complete free (by omega) begins braced passes
  | expression only =>
    exact declarationOrStatement_of_expression complete free room only passes follows ended

omit complete in
theorem eatBlankLines_complete {blanks : List Token}
    (breaks : ∀ token ∈ blanks, token.kind = .newline) (passes : start.Passes blanks stop)
    (stays : stop.tape.current.kind ≠ .newline) :
    Ends False eatBlankLines start (.ok stop.tape.atEnd) stop := by
  have taken : start.tape.ahead.takeWhile (fun token => token.kind == .newline) = blanks := by
    rw [passes.ahead, List.takeWhile_append_of_pos (by simpa using breaks)]
    cases shape : stop.tape.ahead with
    | nil => simp
    | cons token rest =>
      rw [Tape.current_of_cons shape] at stays
      simp [stays]
  rw [ends_of_run (run_eatBlankLines start) quiet_nil]
  simp only [Tape.advanceWhile, taken, ← passes.tape, true_and]
  rw [← passes.mark]

section Loop

variable {inBlock : Bool} {bound : Nat} {blanks : List Token}
  (breaks : ∀ token ∈ blanks, token.kind = .newline)
include breaks

omit complete in
/-- Behind blank lines there may be no statement. -/
theorem statementsWithin_blank (room : blanks.length ≤ bound) (passes : start.Passes blanks stop)
    (halts : stop.tape.ahead = [] ∨
      inBlock = true ∧ stop.tape.current.kind = .symbol .closeCurly) :
    Ends False (statementsWithin nested inBlock bound) start (.ok []) stop := by
  cases bound with
  | zero =>
    obtain rfl := List.length_eq_zero_iff.mp (Nat.le_zero.mp room)
    obtain rfl := passes.eq_of_nil
    exact .pure _ _
  | succ bound =>
    have stays : stop.tape.current.kind ≠ .newline := by
      intro newline
      rcases halts with ended | ⟨-, closes⟩
      · rw [Tape.current_kind_eq_endOfFile.mpr ended] at newline
        cases newline
      · rw [closes] at newline
        cases newline
    rw [statementsWithin_succ]
    refine (eatBlankLines_complete breaks passes stays).andThen ?_
    rcases halts with ended | ⟨rfl, closes⟩
    · rw [Tape.atEnd, ended, List.isEmpty_nil]
      exact .pure _ _
    · cases stop.tape.atEnd with
      | true => exact .pure _ _
      | false =>
        simp only [Bool.false_eq_true, ↓reduceIte]
        rw [ends_sees_bind, closes]
        exact .pure _ _

/-- Behind blank lines a statement is read, and the rest behind its end. -/
theorem statementsWithin_statement {stmt : Stmt} {stmts : List Stmt} {middle last : Cursor}
    (free : start.mark = none) (room : tokens.length ≤ limit + 1)
    (phrase : Statement .preferred tokens stmt) (passes : start.Passes (blanks ++ tokens) middle)
    (follows : middle.tape.current.kind ∈ statementEnds)
    (ended : Ends False statementEnd middle (.ok ()) last)
    (rest : Ends False (statementsWithin nested inBlock bound) last (.ok stmts) stop) :
    Ends False (statementsWithin nested inBlock (bound + 1)) start (.ok (stmt :: stmts)) stop := by
  obtain ⟨first, passes₁, passes₂⟩ := passes.split
  have starts : first.tape.current.kind ∈ statementStarts := by
    obtain ⟨token, _, rfl, starts⟩ := phrase.begins
    rwa [passes₂.current]
  have stays {kind : Kind} (other : kind ∉ statementStarts) : first.tape.current.kind ≠ kind :=
    fun is => other (is ▸ starts)
  rw [statementsWithin_succ]
  refine (eatBlankLines_complete breaks passes₁ (stays (by decide))).andThen ?_
  have unended : first.tape.atEnd = false := by
    have opened := mt Tape.current_kind_eq_endOfFile.mpr (stays (by decide))
    simpa [Tape.atEnd] using opened
  have unclosed : (first.tape.current.kind == .symbol .closeCurly) = false :=
    beq_eq_false_iff_ne.mpr (stays (by decide))
  rw [unended]
  simp only [Bool.false_eq_true, ↓reduceIte]
  rw [ends_sees_bind, unclosed, Bool.and_false]
  refine ends_recovering.mpr (.inl ⟨stmt, middle, ?_, ?_⟩)
  · exact declarationOrStatement_complete complete (passes₁.mark.trans free) room phrase passes₂
      follows
  · rw [ends_emit_bind rfl]
    exact ends_recovering.mpr (.inl ⟨(), last, ended, rest.andThen (.pure _ _)⟩)

/-- The last statement needs nothing behind it. -/
theorem statementsWithin_last {stmt : Stmt} (free : start.mark = none)
    (room : tokens.length ≤ limit + 1) (phrase : Statement .preferred tokens stmt)
    (passes : start.Passes (blanks ++ tokens) stop)
    (halts : stop.tape.ahead = [] ∨
      inBlock = true ∧ stop.tape.current.kind = .symbol .closeCurly) :
    Ends False (statementsWithin nested inBlock (bound + 1)) start (.ok [stmt]) stop := by
  have ends : stop.tape.current.kind = .symbol .closeCurly ∨
      stop.tape.current.kind = .endOfFile :=
    halts.symm.imp And.right Tape.current_kind_eq_endOfFile.mpr
  have follows : stop.tape.current.kind ∈ statementEnds := by
    rcases ends with closes | ended
    · simp [closes, statementEnds]
    · simp [ended, statementEnds]
  apply statementsWithin_statement complete breaks free room phrase passes follows
  · exact ends_statementEnd.mpr (.inl ⟨ends, rfl⟩)
  · exact statementsWithin_blank (List.forall_mem_nil _) (Nat.zero_le _) (.nil _) halts

/-- Behind the token that ends a statement the rest is read. -/
theorem statementsWithin_ended {stmt : Stmt} {stmts : List Stmt} {ending : Token}
    {rest : List Token} (free : start.mark = none) (room : tokens.length ≤ limit + 1)
    (phrase : Statement .preferred tokens stmt)
    (ends : ending.kind ∈ [.symbol .semicolon, .newline])
    (passes : start.Passes (blanks ++ (tokens ++ ending :: rest)) stop)
    (behind : ∀ {last : Cursor}, last.mark = none → last.Passes rest stop →
      Ends False (statementsWithin nested inBlock bound) last (.ok stmts) stop) :
    Ends False (statementsWithin nested inBlock (bound + 1)) start (.ok (stmt :: stmts)) stop := by
  rw [← List.append_assoc] at passes
  obtain ⟨middle, passes₁, passes⟩ := passes.split
  obtain ⟨last, passes₂, passes₃⟩ := passes.cons_split
  have follows : middle.tape.current.kind ∈ statementEnds := by
    have known : [.symbol .semicolon, .newline] ⊆ statementEnds := by decide
    rw [passes₂.current]
    exact known ends
  apply statementsWithin_statement complete breaks free room phrase passes₁ follows
  · exact ends_statementEnd.mpr (.inr ⟨_, ends, passes₂⟩)
  · exact behind ((passes₁.append passes₂).mark.trans free) passes₃

end Loop

/-- Statements are read one by one; blank lines before the next one have been seen already. -/
theorem statementsWithin_complete {inBlock : Bool} {tokens : List Token} {stmts : List Stmt} :
    Statements .preferred tokens stmts → ∀ {bound : Nat} {blanks : List Token} {start : Cursor},
      start.mark = none → tokens.length ≤ limit + 1 →
        (∀ token ∈ blanks, token.kind = .newline) → (blanks ++ tokens).length ≤ bound →
          start.Passes (blanks ++ tokens) stop →
            (stop.tape.ahead = [] ∨
              inBlock = true ∧ stop.tape.current.kind = .symbol .closeCurly) →
              Ends False (statementsWithin nested inBlock bound) start (.ok stmts) stop
  | .none, bound, blanks, start, free, room, breaks, enough, passes, halts => by
    rw [List.append_nil] at enough passes
    exact statementsWithin_blank breaks enough passes halts
  | .blank newline behind, bound, blanks, start, free, room, breaks, enough, passes, halts => by
    rw [List.append_cons] at enough passes
    rw [List.length_cons] at room
    have breaks' := List.forall_mem_append.mpr ⟨breaks, List.forall_mem_singleton.mpr newline⟩
    exact statementsWithin_complete behind free (by omega) breaks' enough passes halts
  | .last only, bound, blanks, start, free, room, breaks, enough, passes, halts => by
    have nonempty := List.length_pos_iff.mpr only.begins.ne_nil
    rw [List.length_append] at enough
    obtain ⟨bound, rfl⟩ : ∃ less, bound = less + 1 := ⟨bound - 1, by omega⟩
    exact statementsWithin_last complete breaks free room only passes halts
  | .ended head ends behind, bound, blanks, start, free, room, breaks, enough, passes, halts => by
    simp only [List.length_append, List.length_cons] at enough room
    obtain ⟨bound, rfl⟩ : ∃ less, bound = less + 1 := ⟨bound - 1, by omega⟩
    apply statementsWithin_ended complete breaks free (by omega) head ends passes
    intro last free' passes'
    refine statementsWithin_complete behind free' (by omega) (List.forall_mem_nil _) ?_ passes'
      halts
    rw [List.nil_append]
    omega
  | .skipped allowed _, _, _, _, _, _, _, _, _, _ => False.elim allowed
  | .unended allowed _ _, _, _, _, _, _, _, _, _, _ => False.elim allowed

theorem statements_complete {inBlock : Bool} {stmts : List Stmt} (free : start.mark = none)
    (room : tokens.length ≤ limit + 1) (phrase : Statements .preferred tokens stmts)
    (passes : start.Passes tokens stop)
    (halts : stop.tape.ahead = [] ∨
      inBlock = true ∧ stop.tape.current.kind = .symbol .closeCurly) :
    Ends False (statements nested inBlock) start (.ok stmts) stop := by
  rw [statements, ends_left_bind]
  refine statementsWithin_complete complete phrase free room (List.forall_mem_nil _) ?_ passes halts
  rw [passes.length]
  simp

theorem body_complete {closing : Token} {stmts : List Stmt} (free : start.mark = none)
    (room : tokens.length ≤ limit + 1) (phrase : Statements .preferred tokens stmts)
    (closes : closing.kind = .symbol .closeCurly)
    (passes : start.Passes (tokens ++ [closing]) stop) :
    Ends False (body nested) start (.ok stmts) stop := by
  obtain ⟨middle, passes₁, passes₂⟩ := passes.split
  have halts : middle.tape.current.kind = .symbol .closeCurly := by rw [passes₂.current, closes]
  refine (statements_complete complete free room phrase passes₁ (.inr ⟨rfl, halts⟩)).andThen ?_
  exact (ends_expect_bind (by decide)).mpr ⟨_, _, closes, passes₂, .pure _ _⟩

end Phrases

/-- With as many levels as a phrase has tokens, it is read. -/
theorem nested_complete (bound : Nat) : NestedComplete bound (nested bound) := by
  induction bound with
  | zero =>
    refine ⟨fun _ room phrase => ?_, fun _ room phrase => ?_, fun _ room phrase => ?_,
      fun _ room phrase closes passes => ?_⟩
    · exact absurd (List.length_eq_zero_iff.mp (Nat.le_zero.mp room)) phrase.begins.ne_nil
    · exact absurd (List.length_eq_zero_iff.mp (Nat.le_zero.mp room)) phrase.begins.ne_nil
    · exact absurd (List.length_eq_zero_iff.mp (Nat.le_zero.mp room)) phrase.begins.ne_nil
    · obtain rfl := List.length_eq_zero_iff.mp (Nat.le_zero.mp room)
      obtain rfl := phrase.eq_nil id
      exact (ends_expect_bind (by decide)).mpr ⟨_, _, closes, passes, .pure _ _⟩
  | succ bound ih =>
    exact ⟨expression_complete ih, assignmentOrExpression_complete ih, unary_complete ih,
      body_complete ih⟩

/-- Every program of the grammar is read without an error. -/
theorem statementList_complete {stmts : List Stmt} (free : start.mark = none)
    (phrase : Statements .preferred start.tape.ahead stmts) :
    ∃ stop, Ends False (statementList false) start (.ok stmts) stop := by
  refine ⟨⟨start.tape.move start.tape.ahead.length, start.mark⟩, ?_⟩
  have passes := start.passes_move start.tape.ahead.length
  rw [List.take_length] at passes
  rw [statementList, ends_left_bind]
  refine statements_complete (nested_complete _) free (by omega) phrase passes (.inl ?_)
  simp

end Script.Parser
