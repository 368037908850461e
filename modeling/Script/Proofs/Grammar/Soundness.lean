import Script.Proofs.Grammar.Phrases
import Script.Proofs.Parsing.Steady

set_option autoImplicit false

/- What a parser reads is a phrase of the grammar, and the tree it gives is the tree of that
phrase. Where errors may be skipped, so may tokens between statements. -/
namespace Script.Parser

open Grammar

variable {skips : Prop} {start stop : Cursor}

theorem typeName_sound {context : String} {name : Token} {optional : Bool}
    (ends : Ends skips (typeName context) start (.ok (name, optional)) stop) :
    ∃ tokens, start.Passes tokens stop ∧ TypeName tokens name optional := by
  rw [typeName, ends_expect_bind (by decide)] at ends
  obtain ⟨name, middle, named, passes, ends⟩ := ends
  simp only [ends_bind, ends_pure, Prod.mk.injEq] at ends
  obtain ⟨_, _, taken, ⟨rfl, rfl⟩, rfl⟩ := ends
  cases optional with
  | false =>
    obtain ⟨-, rfl⟩ := ends_advanceIf_false.mp taken
    exact ⟨[name], passes, .plain named⟩
  | true =>
    obtain ⟨mark, marks, passes'⟩ := (ends_advanceIf_true (by decide)).mp taken
    exact ⟨[name, mark], passes.cons passes', .optional named (by simpa using marks)⟩

theorem typeWithin_sound {bound : Nat} {context : String} {type : TypeExpr}
    (ends : Ends skips (typeWithin bound context) start (.ok type) stop) :
    ∃ tokens, start.Passes tokens stop ∧ TypePhrase tokens type := by
  induction bound generalizing context start stop type with
  | zero =>
    simp only [typeWithin, ends_bind, ends_pure] at ends
    obtain ⟨⟨name, optional⟩, _, rest, rfl, rfl⟩ := ends
    obtain ⟨tokens, passes, rest⟩ := typeName_sound rest
    exact ⟨tokens, passes, .named rest⟩
  | succ bound ih =>
    rw [typeWithin, ends_advanceIf_branch (by decide)] at ends
    rcases ends with ⟨opening, _, opens, passes, ends⟩ | ⟨-, ends⟩
    · rw [List.mem_singleton] at opens
      rcases ends_sees_branch.mp ends with ⟨-, ends⟩ | ⟨-, ends⟩
      · rw [ends_expect_bind (by decide)] at ends
        obtain ⟨closing, _, closes, passes', ends⟩ := ends
        simp only [ends_bind, ends_pure] at ends
        obtain ⟨⟨name, optional⟩, _, rest, rfl, rfl⟩ := ends
        obtain ⟨tokens, passes'', rest⟩ := typeName_sound rest
        exact ⟨_, passes.cons (passes'.cons passes''), .array opens closes rest⟩
      · rw [ends_bind] at ends
        obtain ⟨key, _, keyed, ends⟩ := ends
        obtain ⟨inner, within, keyed⟩ := ih keyed
        rw [ends_expect_bind (by decide)] at ends
        obtain ⟨closing, _, closes, passes', ends⟩ := ends
        simp only [ends_bind, ends_pure] at ends
        obtain ⟨⟨name, optional⟩, _, rest, rfl, rfl⟩ := ends
        obtain ⟨tokens, passes'', rest⟩ := typeName_sound rest
        exact ⟨_, passes.cons (within.append (passes'.cons passes'')),
          .map opens keyed closes rest⟩
    · simp only [ends_bind, ends_pure] at ends
      obtain ⟨⟨name, optional⟩, _, rest, rfl, rfl⟩ := ends
      obtain ⟨tokens, passes, rest⟩ := typeName_sound rest
      exact ⟨tokens, passes, .named rest⟩

theorem typeExpr_sound {context : String} {type : TypeExpr}
    (ends : Ends skips (typeExpr context) start (.ok type) stop) :
    ∃ tokens, start.Passes tokens stop ∧ TypePhrase tokens type := by
  rw [typeExpr, ends_left_bind] at ends
  exact typeWithin_sound ends

theorem separatedWithin_sound {α : Type} {item : Parser α} {phrase : List Token → α → Prop}
    (sound : ∀ {start stop value}, Ends skips item start (.ok value) stop →
      ∃ tokens, start.Passes tokens stop ∧ phrase tokens value)
    {bound : Nat} {values : List α}
    (ends : Ends skips (separatedWithin item bound) start (.ok values) stop) :
    ∃ tokens, start.Passes tokens stop ∧ Separated phrase tokens values := by
  induction bound generalizing start stop values with
  | zero =>
    simp only [separatedWithin, ends_bind, ends_pure] at ends
    obtain ⟨value, _, only, rfl, rfl⟩ := ends
    obtain ⟨tokens, passes, only⟩ := sound only
    exact ⟨tokens, passes, .one only⟩
  | succ bound ih =>
    rw [separatedWithin, ends_bind] at ends
    obtain ⟨value, _, read, ends⟩ := ends
    obtain ⟨first, passes, head⟩ := sound read
    rw [ends_advanceIf_branch (by decide)] at ends
    rcases ends with ⟨comma, _, parts, passes', ends⟩ | ⟨-, ends⟩
    · rw [List.mem_singleton] at parts
      simp only [ends_bind, ends_pure] at ends
      obtain ⟨rest, _, tail, rfl, rfl⟩ := ends
      obtain ⟨tokens, passes'', tail⟩ := ih tail
      exact ⟨_, passes.append (passes'.cons passes''), .more head parts tail⟩
    · obtain ⟨rfl, rfl⟩ := ends_pure.mp ends
      exact ⟨first, passes, .one head⟩

theorem separated_sound {α : Type} {item : Parser α} {phrase : List Token → α → Prop}
    (sound : ∀ {start stop value}, Ends skips item start (.ok value) stop →
      ∃ tokens, start.Passes tokens stop ∧ phrase tokens value)
    {values : List α} (ends : Ends skips (separated item) start (.ok values) stop) :
    ∃ tokens, start.Passes tokens stop ∧ Separated phrase tokens values := by
  rw [separated, ends_left_bind] at ends
  exact separatedWithin_sound sound ends

theorem specifiersWithin_sound {context : String} {bound : Nat} {types : List TypeExpr}
    (ends : Ends skips (specifiersWithin context bound) start (.ok types) stop) :
    ∃ tokens, start.Passes tokens stop ∧ Specifiers tokens types := by
  induction bound generalizing start stop types with
  | zero =>
    obtain ⟨rfl, rfl⟩ := ends_pure.mp ends
    exact ⟨[], .nil _, .none⟩
  | succ bound ih =>
    rw [specifiersWithin, ends_advanceIf_branch (by decide)] at ends
    rcases ends with ⟨opening, _, opens, passes, ends⟩ | ⟨-, ends⟩
    · rw [List.mem_singleton] at opens
      rw [ends_bind] at ends
      obtain ⟨found, _, listed, ends⟩ := ends
      obtain ⟨inner, within, listed⟩ := separated_sound typeExpr_sound listed
      rw [ends_expect_bind (by decide)] at ends
      obtain ⟨closing, _, closes, passes', ends⟩ := ends
      simp only [ends_bind, ends_pure] at ends
      obtain ⟨others, _, behind, rfl, rfl⟩ := ends
      obtain ⟨rest, passes'', behind⟩ := ih behind
      exact ⟨_, passes.cons (within.append (passes'.cons passes'')),
        .more opens listed closes behind⟩
    · obtain ⟨rfl, rfl⟩ := ends_pure.mp ends
      exact ⟨[], .nil _, .none⟩

theorem specifiers_sound {context : String} {types : List TypeExpr}
    (ends : Ends skips (specifiers context) start (.ok types) stop) :
    ∃ tokens, start.Passes tokens stop ∧ Specifiers tokens types := by
  rw [specifiers, ends_left_bind] at ends
  exact specifiersWithin_sound ends

theorem parameter_sound {found : Parameter}
    (ends : Ends skips parameter start (.ok found) stop) :
    ∃ tokens, start.Passes tokens stop ∧ ParameterPhrase tokens found := by
  rw [parameter, ends_expect_bind (by decide)] at ends
  obtain ⟨name, _, named, passes, ends⟩ := ends
  rw [ends_expect_bind (by decide)] at ends
  obtain ⟨colon, _, sign, passes', ends⟩ := ends
  simp only [ends_bind, ends_pure] at ends
  obtain ⟨type, _, annotated, rfl, rfl⟩ := ends
  obtain ⟨tokens, passes'', annotated⟩ := typeExpr_sound annotated
  exact ⟨_, passes.cons (passes'.cons passes''), .typed named sign annotated⟩

/-- The parameters of a function with the parentheses around them. -/
theorem parameters_sound {found : List Parameter}
    (ends : Ends skips parameters start (.ok found) stop) :
    ∃ opening tokens closing, start.Passes (opening :: (tokens ++ [closing])) stop ∧
      opening.kind = .symbol .openParen ∧ Parameters tokens found ∧
        closing.kind = .symbol .closeParen := by
  rw [parameters, ends_expect_bind (by decide)] at ends
  obtain ⟨opening, _, opens, passes, ends⟩ := ends
  rcases ends_sees_branch.mp ends with ⟨-, ends⟩ | ⟨-, ends⟩
  · rw [pure_bind, ends_expect_bind (by decide)] at ends
    obtain ⟨closing, _, closes, passes', ends⟩ := ends
    obtain ⟨rfl, rfl⟩ := ends_pure.mp ends
    exact ⟨opening, [], closing, passes.cons passes', opens, .none, closes⟩
  · rw [ends_bind] at ends
    obtain ⟨values, _, listed, ends⟩ := ends
    obtain ⟨tokens, within, listed⟩ := separated_sound parameter_sound listed
    rw [ends_expect_bind (by decide)] at ends
    obtain ⟨closing, _, closes, passes', ends⟩ := ends
    obtain ⟨rfl, rfl⟩ := ends_pure.mp ends
    exact ⟨opening, tokens, closing, passes.cons (within.append passes'), opens, .some listed,
      closes⟩

/-- Parsers for phrases inside other phrases that read phrases of the grammar. -/
structure NestedSound (mode : Mode) (nested : Nested) : Prop where
  expr : ∀ {start stop : Cursor} {expr : Expr}, start.mark = none →
    Ends mode.skips nested.expr start (.ok expr) stop →
      ∃ tokens, start.Passes tokens stop ∧ Expression mode tokens expr
  assignment : ∀ {start stop : Cursor} {expr : Expr}, start.mark = none →
    Ends mode.skips nested.assignment start (.ok expr) stop →
      ∃ tokens, start.Passes tokens stop ∧ Assignment mode tokens expr
  unary : ∀ {start stop : Cursor} {expr : Expr}, start.mark = none →
    Ends mode.skips nested.unary start (.ok expr) stop →
      ∃ tokens, start.Passes tokens stop ∧ Unary mode tokens expr
  body : ∀ {start stop : Cursor} {stmts : List Stmt}, start.mark = none →
    Ends mode.skips nested.body start (.ok stmts) stop →
      ∃ tokens closing, start.Passes (tokens ++ [closing]) stop ∧
        Statements mode tokens stmts ∧ closing.kind = .symbol .closeCurly

section Phrases

variable {mode : Mode} {nested : Nested} (sound : NestedSound mode nested)
include sound

theorem primary_sound {expr : Expr} (free : start.mark = none)
    (ends : Ends mode.skips (primary nested) start (.ok expr) stop) :
    ∃ tokens, start.Passes tokens stop ∧ Primary mode tokens expr := by
  rw [primary, ends_current_bind] at ends
  have literal {value : Value}
      (sort : start.tape.current.kind = .int ∨ start.tape.current.kind = .float ∨
        start.tape.current.kind = .string)
      (carries : start.tape.current.literal = some value)
      (ends : Ends mode.skips
        (do let _ ← advance; return Expr.literal value start.tape.current.position) start (.ok expr)
          stop) :
      ∃ tokens, start.Passes tokens stop ∧ Primary mode tokens expr := by
    rw [ends_advance_pure (by rcases sort with is | is | is <;> simp [is])] at ends
    obtain ⟨passes, rfl⟩ := ends
    exact ⟨_, passes, .literal sort carries⟩
  split at ends
  · next spelled =>
    rw [ends_advance_pure (by simp [spelled])] at ends
    obtain ⟨passes, rfl⟩ := ends
    exact ⟨_, passes, .trueWord spelled⟩
  · next spelled =>
    rw [ends_advance_pure (by simp [spelled])] at ends
    obtain ⟨passes, rfl⟩ := ends
    exact ⟨_, passes, .falseWord spelled⟩
  · next is =>
    split at ends
    · next carries => exact literal (.inl is) carries ends
    · exact absurd ends not_ends_failWith
  · next is =>
    split at ends
    · next carries => exact literal (.inr (.inl is)) carries ends
    · exact absurd ends not_ends_failWith
  · next is =>
    split at ends
    · next carries => exact literal (.inr (.inr is)) carries ends
    · exact absurd ends not_ends_failWith
  · next named =>
    rw [ends_advance_pure (by simp [named])] at ends
    obtain ⟨passes, rfl⟩ := ends
    exact ⟨_, passes, .name named⟩
  · next opens =>
    rw [ends_advance_bind (by simp [opens])] at ends
    obtain ⟨_, passes, ends⟩ := ends
    rw [ends_bind] at ends
    obtain ⟨inner, _, held, ends⟩ := ends
    obtain ⟨tokens, within, held⟩ := sound.expr (passes.mark.trans free) held
    rw [ends_expect_bind (by decide)] at ends
    obtain ⟨closing, _, closes, passes', ends⟩ := ends
    obtain ⟨rfl, rfl⟩ := ends_pure.mp ends
    exact ⟨_, passes.cons (within.append passes'), .grouping opens held closes⟩
  · exact absurd ends not_ends_failWith

theorem arguments_sound {allowed : Nat} {found : List Expr} (free : start.mark = none)
    (ends : Ends mode.skips (arguments nested allowed) start (.ok found) stop) :
    ∃ tokens, start.Passes tokens stop ∧ Arguments mode tokens found ∧
      found.length ≤ allowed := by
  induction allowed generalizing start stop found with
  | zero => exact absurd ends not_ends_failOf
  | succ allowed ih =>
    rw [arguments, ends_bind] at ends
    obtain ⟨expr, _, read, ends⟩ := ends
    obtain ⟨first, passes, head⟩ := sound.expr free read
    rw [ends_advanceIf_branch (by decide)] at ends
    rcases ends with ⟨comma, _, parts, passes', ends⟩ | ⟨-, ends⟩
    · rw [List.mem_singleton] at parts
      simp only [ends_bind, ends_pure] at ends
      obtain ⟨others, _, tail, rfl, rfl⟩ := ends
      have free' := (passes.append passes').mark.trans free
      obtain ⟨rest, passes'', tail, few⟩ := ih free' tail
      exact ⟨_, passes.append (passes'.cons passes''), .more head parts tail,
        Nat.succ_le_succ few⟩
    · obtain ⟨rfl, rfl⟩ := ends_pure.mp ends
      exact ⟨first, passes, .one head, by simp⟩

/-- The rest of a call behind its opening parenthesis. -/
theorem finishCall_sound {callee call : Expr} (free : start.mark = none)
    (ends : Ends mode.skips (finishCall nested callee) start (.ok call) stop) :
    (∃ closing, start.Passes [closing] stop ∧ closing.kind = .symbol .closeParen ∧
      call = .call callee []) ∨
    ∃ tokens closing found, start.Passes (tokens ++ [closing]) stop ∧
      Arguments mode tokens found ∧ found.length ≤ 255 ∧
        closing.kind = .symbol .closeParen ∧ call = .call callee found := by
  rw [finishCall] at ends
  rcases ends_sees_branch.mp ends with ⟨-, ends⟩ | ⟨-, ends⟩
  · rw [pure_bind, ends_expect_bind (by decide)] at ends
    obtain ⟨closing, _, closes, passes, ends⟩ := ends
    obtain ⟨rfl, rfl⟩ := ends_pure.mp ends
    exact .inl ⟨closing, passes, closes, rfl⟩
  · rw [ends_bind] at ends
    obtain ⟨found, _, read, ends⟩ := ends
    obtain ⟨tokens, passes, listed, few⟩ := arguments_sound sound free read
    rw [ends_expect_bind (by decide)] at ends
    obtain ⟨closing, _, closes, passes', ends⟩ := ends
    obtain ⟨rfl, rfl⟩ := ends_pure.mp ends
    exact .inr ⟨tokens, closing, found, passes.append passes', listed, few, closes, rfl⟩

theorem suffixesWithin_sound {bound : Nat} {expr result : Expr} (free : start.mark = none)
    (ends : Ends mode.skips (suffixesWithin nested bound expr) start (.ok result) stop) :
    ∃ tokens, start.Passes tokens stop ∧ Suffixes mode expr tokens result := by
  induction bound generalizing start stop expr with
  | zero =>
    obtain ⟨rfl, rfl⟩ := ends_pure.mp ends
    exact ⟨[], .nil _, .none⟩
  | succ bound ih =>
    rw [suffixesWithin, ends_advanceIf_branch (by decide)] at ends
    rcases ends with ⟨opening, _, opens, passes, ends⟩ | ⟨-, ends⟩
    · rw [List.mem_singleton] at opens
      rw [ends_bind] at ends
      obtain ⟨call, _, finished, ends⟩ := ends
      have free' := passes.mark.trans free
      rcases finishCall_sound sound free' finished with
        ⟨closing, passes', closes, rfl⟩ | ⟨inner, closing, found, passes', listed, few, closes, rfl⟩
      · obtain ⟨rest, passes'', behind⟩ := ih (passes'.mark.trans free') ends
        exact ⟨_, passes.cons (passes'.cons passes''), .bare opens closes behind⟩
      · obtain ⟨middle, within, passes'⟩ := passes'.split
        obtain ⟨rest, passes'', behind⟩ := ih (passes'.mark.trans (within.mark.trans free')) ends
        exact ⟨_, passes.cons (within.append (passes'.cons passes'')),
          .call opens listed few closes behind⟩
    · rw [ends_advanceIf_branch (by decide)] at ends
      rcases ends with ⟨dot, _, sign, passes, ends⟩ | ⟨-, ends⟩
      · rw [List.mem_singleton] at sign
        rw [ends_expect_bind (by decide)] at ends
        obtain ⟨name, _, named, passes', ends⟩ := ends
        have free' := (passes.cons passes').mark.trans free
        obtain ⟨rest, passes'', behind⟩ := ih free' ends
        exact ⟨_, passes.cons (passes'.cons passes''), .member sign named behind⟩
      · obtain ⟨rfl, rfl⟩ := ends_pure.mp ends
        exact ⟨[], .nil _, .none⟩

theorem unary_sound {expr : Expr} (free : start.mark = none)
    (ends : Ends mode.skips (unary nested) start (.ok expr) stop) :
    ∃ tokens, start.Passes tokens stop ∧ Unary mode tokens expr := by
  rw [unary, ends_seesOneOf_branch] at ends
  rcases ends with ⟨signs, ends⟩ | ⟨-, ends⟩
  · have opened : start.tape.current.kind ≠ .endOfFile := by
      intro ended
      simp [ended] at signs
    rw [ends_advance_bind opened] at ends
    obtain ⟨_, passes, ends⟩ := ends
    simp only [ends_bind, ends_pure] at ends
    obtain ⟨operand, _, read, rfl, rfl⟩ := ends
    obtain ⟨tokens, passes', signed⟩ := sound.unary (passes.mark.trans free) read
    exact ⟨_, passes.cons passes', .sign signs signed⟩
  · rw [call, ends_bind] at ends
    obtain ⟨head, _, read, ends⟩ := ends
    obtain ⟨first, passes, begun⟩ := primary_sound sound free read
    rw [ends_left_bind] at ends
    obtain ⟨rest, passes', behind⟩ := suffixesWithin_sound sound (passes.mark.trans free) ends
    exact ⟨_, passes.append passes', .call begun behind⟩

omit sound in
theorem operationsWithin_sound {operators : List Token.Kind} {tighter : List (List Token.Kind)}
    {operand : Parser Expr} (known : .endOfFile ∉ operators)
    (each : ∀ {start stop : Cursor} {expr : Expr}, start.mark = none →
      Ends mode.skips operand start (.ok expr) stop →
        ∃ tokens, start.Passes tokens stop ∧ Operation mode tighter tokens expr)
    {bound : Nat} {expr result : Expr} (free : start.mark = none)
    (ends : Ends mode.skips (operationsWithin operators operand bound expr) start (.ok result)
      stop) :
    ∃ tokens, start.Passes tokens stop ∧
      Chain mode operators tighter expr tokens result := by
  induction bound generalizing start stop expr with
  | zero =>
    obtain ⟨rfl, rfl⟩ := ends_pure.mp ends
    exact ⟨[], .nil _, .none⟩
  | succ bound ih =>
    rw [operationsWithin, ends_seesOneOf_branch] at ends
    rcases ends with ⟨joins, ends⟩ | ⟨-, ends⟩
    · rw [ends_advance_bind fun ended => known (ended ▸ joins)] at ends
      obtain ⟨_, passes, ends⟩ := ends
      rw [ends_bind] at ends
      obtain ⟨right, _, read, ends⟩ := ends
      obtain ⟨first, passes', operand⟩ := each (passes.mark.trans free) read
      have free' := (passes.append passes').mark.trans free
      obtain ⟨rest, passes'', behind⟩ := ih free' ends
      exact ⟨_, passes.cons (passes'.append passes''), .more joins operand behind⟩
    · obtain ⟨rfl, rfl⟩ := ends_pure.mp ends
      exact ⟨[], .nil _, .none⟩

omit sound in
/-- One level of operators over a tighter one. -/
theorem operations_sound {operators : List Token.Kind} {tighter : List (List Token.Kind)}
    {operand : Parser Expr} (known : .endOfFile ∉ operators)
    (each : ∀ {start stop : Cursor} {expr : Expr}, start.mark = none →
      Ends mode.skips operand start (.ok expr) stop →
        ∃ tokens, start.Passes tokens stop ∧ Operation mode tighter tokens expr)
    {expr : Expr} (free : start.mark = none)
    (ends : Ends mode.skips (operations operators operand) start (.ok expr) stop) :
    ∃ tokens, start.Passes tokens stop ∧
      Operation mode (operators :: tighter) tokens expr := by
  rw [operations, ends_bind] at ends
  obtain ⟨head, _, read, ends⟩ := ends
  obtain ⟨first, passes, begun⟩ := each free read
  rw [ends_left_bind] at ends
  obtain ⟨rest, passes', behind⟩ :=
    operationsWithin_sound known each (passes.mark.trans free) ends
  exact ⟨_, passes.append passes', .level begun behind⟩

theorem equality_sound {expr : Expr} (free : start.mark = none)
    (ends : Ends mode.skips (equality nested) start (.ok expr) stop) :
    ∃ tokens, start.Passes tokens stop ∧ Operation mode levels tokens expr := by
  refine operations_sound (by decide) (fun free ends => ?_) free ends
  refine operations_sound (by decide) (fun free ends => ?_) free ends
  refine operations_sound (by decide) (fun free ends => ?_) free ends
  refine operations_sound (by decide) (fun free ends => ?_) free ends
  obtain ⟨tokens, passes, only⟩ := unary_sound sound free ends
  exact ⟨tokens, passes, .tightest only⟩

/-- A block behind its opening brace is one with it. -/
theorem block_sound {opening : Token} {middle : Cursor} {body : List Stmt}
    (free : start.mark = none) (opens : opening.kind = .symbol .openCurly)
    (passes : start.Passes [opening] middle)
    (ends : Ends mode.skips nested.body middle (.ok body) stop) :
    ∃ tokens, start.Passes tokens stop ∧ Block mode tokens body := by
  obtain ⟨tokens, closing, passes', held, closes⟩ := sound.body (passes.mark.trans free) ends
  exact ⟨_, passes.cons passes', .braces opens held closes⟩

theorem elseBranch_sound {branch : List Stmt} (free : start.mark = none)
    (ends : Ends mode.skips (elseBranch nested) start (.ok branch) stop) :
    ∃ tokens, start.Passes tokens stop ∧ ElseBranch mode tokens branch := by
  rw [elseBranch, ends_advanceIf_branch (by decide)] at ends
  rcases ends with ⟨word, _, begins, passes, ends⟩ | ⟨-, ends⟩
  · rw [List.mem_singleton] at begins
    rw [ends_expect_bind (by decide)] at ends
    obtain ⟨opening, _, opens, passes', ends⟩ := ends
    obtain ⟨tokens, passes'', body⟩ := block_sound sound (passes.mark.trans free) opens passes' ends
    exact ⟨_, passes.cons passes'', .some begins body⟩
  · obtain ⟨rfl, rfl⟩ := ends_pure.mp ends
    exact ⟨[], .nil _, .none⟩

theorem expression_sound {expr : Expr} (free : start.mark = none)
    (ends : Ends mode.skips (expression nested) start (.ok expr) stop) :
    ∃ tokens, start.Passes tokens stop ∧ Expression mode tokens expr := by
  rw [expression, ends_advanceIf_branch (by decide)] at ends
  rcases ends with ⟨word, _, begins, passes₁, ends⟩ | ⟨-, ends⟩
  · rw [List.mem_singleton] at begins
    rw [ends_expect_bind (by decide)] at ends
    obtain ⟨opening, _, opens, passes₂, ends⟩ := ends
    have free₂ := (passes₁.cons passes₂).mark.trans free
    rw [ends_bind] at ends
    obtain ⟨condition, _, read, ends⟩ := ends
    obtain ⟨test, passes₃, tested⟩ := sound.expr free₂ read
    rw [ends_expect_bind (by decide)] at ends
    obtain ⟨closing, _, closes, passes₄, ends⟩ := ends
    have free₄ := (passes₃.append passes₄).mark.trans free₂
    rw [ends_expect_bind (by decide)] at ends
    obtain ⟨brace, _, braces, passes₅, ends⟩ := ends
    rw [ends_bind] at ends
    obtain ⟨thenBranch, _, read, ends⟩ := ends
    obtain ⟨first, passes₆, body⟩ := block_sound sound free₄ braces passes₅ read
    simp only [ends_bind, ends_pure] at ends
    obtain ⟨elseBranch, _, read, rfl, rfl⟩ := ends
    obtain ⟨second, passes₇, other⟩ := elseBranch_sound sound (passes₆.mark.trans free₄) read
    exact ⟨_, passes₁.cons (passes₂.cons (passes₃.append (passes₄.cons (passes₆.append passes₇)))),
      .conditional begins opens tested closes body other⟩
  · obtain ⟨tokens, passes, only⟩ := equality_sound sound free ends
    exact ⟨tokens, passes, .operation only⟩

theorem assignmentOrExpression_sound {expr : Expr} (free : start.mark = none)
    (ends : Ends mode.skips (assignmentOrExpression nested) start (.ok expr) stop) :
    ∃ tokens, start.Passes tokens stop ∧ Assignment mode tokens expr := by
  rw [assignmentOrExpression, ends_sees_bind, ends_nextKind?_bind] at ends
  by_cases assigns : start.tape.current.kind = .identifier ∧
      start.tape.next?.map Token.kind = some (.symbol .equals)
  · obtain ⟨named, next⟩ := assigns
    rw [named, next] at ends
    simp only [BEq.rfl, Bool.and_self, ↓reduceIte] at ends
    rw [ends_advance_bind (by simp [named])] at ends
    obtain ⟨middle, passes, ends⟩ := ends
    have sign : middle.tape.current.kind = .symbol .equals := by
      simpa [passes.next?] using next
    rw [ends_advance_bind (by simp [sign])] at ends
    obtain ⟨_, passes', ends⟩ := ends
    simp only [ends_bind, ends_pure] at ends
    obtain ⟨value, _, read, rfl, rfl⟩ := ends
    obtain ⟨tokens, passes'', assigned⟩ :=
      sound.assignment ((passes.cons passes').mark.trans free) read
    exact ⟨_, passes.cons (passes'.cons passes''), .assign named sign assigned⟩
  · have plain : (start.tape.current.kind == .identifier &&
        start.tape.next?.map Token.kind == some (.symbol .equals)) = false := by
      simpa using assigns
    rw [plain] at ends
    obtain ⟨tokens, passes, only⟩ := expression_sound sound free ends
    refine ⟨tokens, passes, .value only ?_⟩
    rintro ⟨name, sign, rest, rfl, named, equals⟩
    obtain ⟨_, passes, behind⟩ := passes.cons_split
    refine absurd ⟨by rw [passes.current, named], ?_⟩ assigns
    simp [passes.next?, behind.current, equals]

/-- A variable declaration behind its name and specifiers. -/
theorem variableDecl_sound {name : Token} {specifiers : List TypeExpr} {mutable : Bool}
    {stmt : Stmt} (free : start.mark = none)
    (ends : Ends mode.skips (variableDecl nested name specifiers mutable) start (.ok stmt) stop) :
    (∃ sign tokens initializer, mutable = false ∧ start.Passes (sign :: tokens) stop ∧
      sign.kind = .symbol .inferred ∧ Expression mode tokens initializer ∧
      stmt = .variableDecl ⟨name, specifiers, none, mutable⟩ initializer) ∨
    ∃ colon typing type sign tokens initializer,
      start.Passes (colon :: (typing ++ sign :: tokens)) stop ∧
      colon.kind = .symbol .colon ∧ TypePhrase typing type ∧ sign.kind = .symbol .equals ∧
      Expression mode tokens initializer ∧
      stmt = .variableDecl ⟨name, specifiers, some type, mutable⟩ initializer := by
  rw [variableDecl, ends_sees_bind] at ends
  split at ends
  · exact absurd ends not_ends_failOf
  · next typed =>
    rw [ends_advanceIf_branch (by decide)] at ends
    rcases ends with ⟨sign, _, infers, passes, ends⟩ | ⟨-, ends⟩
    · rw [List.mem_singleton] at infers
      simp only [ends_bind, ends_pure] at ends
      obtain ⟨initializer, _, read, rfl, rfl⟩ := ends
      obtain ⟨tokens, passes', initialized⟩ := expression_sound sound (passes.mark.trans free) read
      refine .inl ⟨sign, tokens, initializer, ?_, passes.cons passes', infers, initialized, rfl⟩
      simpa [passes.current, infers] using typed
    · rw [ends_expect_bind (by decide)] at ends
      obtain ⟨colon, _, parts, passes₁, ends⟩ := ends
      rw [ends_bind] at ends
      obtain ⟨type, _, read, ends⟩ := ends
      obtain ⟨typing, passes₂, annotated⟩ := typeExpr_sound read
      rw [ends_expect_bind (by decide)] at ends
      obtain ⟨sign, _, defines, passes₃, ends⟩ := ends
      simp only [ends_bind, ends_pure] at ends
      obtain ⟨initializer, _, read, rfl, rfl⟩ := ends
      have free₃ := (passes₁.cons (passes₂.append passes₃)).mark.trans free
      obtain ⟨tokens, passes₄, initialized⟩ := expression_sound sound free₃ read
      exact .inr ⟨colon, typing, type, sign, tokens, initializer,
        passes₁.cons (passes₂.append (passes₃.cons passes₄)), parts, annotated, defines,
        initialized, rfl⟩

theorem functionBody_sound {body : Option (List Stmt)} (free : start.mark = none)
    (ends : Ends mode.skips (functionBody nested) start (.ok body) stop) :
    ∃ tokens, start.Passes tokens stop ∧ FunctionBody mode tokens body := by
  rw [functionBody, ends_advanceIf_branch (by decide)] at ends
  rcases ends with ⟨sign, _, defines, passes, ends⟩ | ⟨-, ends⟩
  · rw [List.mem_singleton] at defines
    rw [ends_expect_bind (by decide)] at ends
    obtain ⟨opening, _, opens, passes', ends⟩ := ends
    simp only [ends_bind, ends_pure] at ends
    obtain ⟨stmts, _, read, rfl, rfl⟩ := ends
    obtain ⟨tokens, passes'', braced⟩ :=
      block_sound sound (passes.mark.trans free) opens passes' read
    exact ⟨_, passes.cons passes'', .some defines braced⟩
  · obtain ⟨rfl, rfl⟩ := ends_pure.mp ends
    exact ⟨[], .nil _, .none⟩

/-- A declaration gives up the kept place, so it is passed by a cursor that keeps none. -/
theorem namedDeclaration_sound {stmt : Stmt}
    (ends : Ends mode.skips (namedDeclaration nested) start (.ok stmt) stop) :
    ∃ tokens, start.unmarked.Passes tokens stop ∧ Statement mode tokens stmt := by
  rw [namedDeclaration, ends_expect_bind (by decide)] at ends
  obtain ⟨name, _, named, passes₁, ends⟩ := ends
  rw [ends_bind] at ends
  obtain ⟨specifiers, _, read, ends⟩ := ends
  obtain ⟨specified, passes₂, specifies⟩ := specifiers_sound read
  have before := (passes₁.cons passes₂).unmarked
  rcases ends_seesOneOf_branch.mp ends with ⟨-, ends⟩ | ⟨-, ends⟩
  · rw [ends_bind] at ends
    obtain ⟨_, _, committed, ends⟩ := ends
    obtain rfl := ends_commit.mp committed
    rcases variableDecl_sound sound rfl ends with
      ⟨sign, tokens, initializer, -, passes, infers, initialized, rfl⟩ |
      ⟨colon, typing, type, sign, tokens, initializer, passes, parts, annotated, defines,
        initialized, rfl⟩
    · exact ⟨_, before.append passes, .inferred named specifies infers initialized⟩
    · exact ⟨_, before.append passes, .typed named specifies parts annotated defines initialized⟩
  · rcases ends_sees_branch.mp ends with ⟨-, ends⟩ | ⟨-, ends⟩
    · rw [functionDecl, ends_bind] at ends
      obtain ⟨found, _, read, ends⟩ := ends
      obtain ⟨opening, listed, closing, passes₃, opens, takes, closes⟩ := parameters_sound read
      rw [ends_bind] at ends
      obtain ⟨effects, _, read, ends⟩ := ends
      obtain ⟨effected, passes₄, affects⟩ := specifiers_sound read
      rw [ends_expect_bind (by decide)] at ends
      obtain ⟨colon, _, parts, passes₅, ends⟩ := ends
      rw [ends_bind] at ends
      obtain ⟨_, _, committed, ends⟩ := ends
      obtain rfl := ends_commit.mp committed
      rw [ends_bind] at ends
      obtain ⟨returns, _, read, ends⟩ := ends
      obtain ⟨typing, passes₆, annotated⟩ := typeExpr_sound read
      simp only [ends_bind, ends_pure] at ends
      obtain ⟨body, _, read, rfl, rfl⟩ := ends
      obtain ⟨tokens, passes₇, bodied⟩ := functionBody_sound sound (passes₆.mark) read
      have head := (passes₃.append (passes₄.append passes₅)).unmarked
      refine ⟨_, ?_, .function named specifies opens takes closes affects parts annotated bodied⟩
      simpa using before.append (head.append (passes₆.append passes₇))
    · exact absurd ends not_ends_failWith

theorem blockOrExpression_sound {stmt : Stmt} (free : start.mark = none)
    (ends : Ends mode.skips (blockOrExpression nested) start (.ok stmt) stop) :
    ∃ tokens, start.Passes tokens stop ∧ Statement mode tokens stmt := by
  rw [blockOrExpression, ends_sees_bind, ends_nextKind?_bind] at ends
  split at ends
  · next opened =>
    simp only [Bool.and_eq_true, beq_iff_eq] at opened
    obtain ⟨begins, next⟩ := opened
    rw [ends_advance_bind (by simp [begins])] at ends
    obtain ⟨middle, passes, ends⟩ := ends
    have opens : middle.tape.current.kind = .symbol .openCurly := by
      simpa [passes.next?] using next
    rw [ends_advance_bind (by simp [opens])] at ends
    obtain ⟨_, passes', ends⟩ := ends
    simp only [ends_bind, ends_pure] at ends
    obtain ⟨body, _, read, rfl, rfl⟩ := ends
    obtain ⟨tokens, passes'', braced⟩ :=
      block_sound sound (passes.mark.trans free) opens passes' read
    exact ⟨_, passes.cons passes'', .block begins braced⟩
  · simp only [ends_bind, ends_pure] at ends
    obtain ⟨expr, _, read, rfl, rfl⟩ := ends
    obtain ⟨tokens, passes, only⟩ := assignmentOrExpression_sound sound free read
    exact ⟨tokens, passes, .expression only⟩

section Statements

variable (steady : Closed.OfNested Steady nested)
include steady

theorem declarationOrStatement_sound {stmt : Stmt} (free : start.mark = none)
    (ends : Ends mode.skips (declarationOrStatement nested) start (.ok stmt) stop) :
    ∃ tokens, start.Passes tokens stop ∧ Statement mode tokens stmt := by
  rw [declarationOrStatement_eq, ends_advanceIf_branch (by decide)] at ends
  rcases ends with ⟨word, _, begins, passes₁, ends⟩ | ⟨-, ends⟩
  · rw [List.mem_singleton] at begins
    rw [ends_expect_bind (by decide)] at ends
    obtain ⟨name, _, named, passes₂, ends⟩ := ends
    rw [ends_bind] at ends
    obtain ⟨specifiers, _, read, ends⟩ := ends
    obtain ⟨specified, passes₃, specifies⟩ := specifiers_sound read
    have before := passes₁.cons (passes₂.cons passes₃)
    rcases variableDecl_sound sound (before.mark.trans free) ends with
      ⟨_, _, _, immutable, -⟩ |
      ⟨colon, typing, type, sign, tokens, initializer, passes, parts, annotated, defines,
        initialized, rfl⟩
    · cases immutable
    · exact ⟨_, before.append passes,
        .mutable begins named specifies parts annotated defines initialized⟩
  · rw [ends_looksLikeDeclaration_bind] at ends
    split at ends
    · rw [ends_speculate free] at ends
      rcases ends with ends | ⟨error, middle, tape, failed, held, ends⟩
      · obtain ⟨tokens, passes, read⟩ := namedDeclaration_sound sound ends
        exact ⟨tokens, Cursor.unmarked_of_mark_none free ▸ passes, read⟩
      · -- A steady parser either gives the kept place up or leaves it alone.
        obtain ⟨trace, ran, -⟩ := failed
        have kept := (robust_steady.namedDeclaration steady start.marked).kept
        rw [ran] at kept
        obtain rfl : tape = start.tape := by simpa [held, Cursor.marked] using kept
        have back : (⟨start.tape, none⟩ : Cursor) = start := by rw [← free]
        exact blockOrExpression_sound sound free (back ▸ ends)
    · exact blockOrExpression_sound sound free ends

/-- One round of reading statements behind blank lines, where `again` reads the rest. -/
inductive Round (mode : Mode) (inBlock : Bool) (again : Cursor → List Stmt → Prop)
    (stop : Cursor) : Cursor → List Stmt → Prop where
  | none (ended : stop.tape.ahead = [] ∨
      inBlock = true ∧ stop.tape.current.kind = .symbol .closeCurly) :
      Round mode inBlock again stop stop []
  | last {start next : Cursor} {tokens : List Token} {stmt : Stmt} {rest : List Stmt}
      (passes : start.Passes tokens next) (head : Statement mode tokens stmt)
      (stays : next.tape.current.kind = .symbol .closeCurly ∨ next.tape.current.kind = .endOfFile)
      (behind : again next rest) : Round mode inBlock again stop start (stmt :: rest)
  | ended {start next last : Cursor} {tokens : List Token} {ending : Token} {stmt : Stmt}
      {rest : List Stmt} (passes : start.Passes tokens next)
      (head : Statement mode tokens stmt)
      (ends : ending.kind ∈ [.symbol .semicolon, .newline]) (passes' : next.Passes [ending] last)
      (behind : again last rest) : Round mode inBlock again stop start (stmt :: rest)
  | unended {start next : Cursor} {tokens : List Token} {stmt : Stmt} {rest : List Stmt}
      (allowed : mode.skips) (passes : start.Passes tokens next)
      (head : Statement mode tokens stmt)
      (behind : again ⟨next.tape.recovered inBlock, .none⟩ rest) :
      Round mode inBlock again stop start (stmt :: rest)
  | skipped {start next : Cursor} {tokens : List Token} {stmts : List Stmt} (allowed : mode.skips)
      (unclosed : ¬ (inBlock = true ∧ start.tape.current.kind = .symbol .closeCurly))
      (passes : start.Passes tokens next)
      (behind : again ⟨next.tape.recovered inBlock, .none⟩ stmts) :
      Round mode inBlock again stop start stmts

theorem statementsWithin_round {inBlock : Bool} {bound : Nat} {stmts : List Stmt}
    (free : start.mark = none)
    (ends : Ends mode.skips (statementsWithin nested inBlock (bound + 1)) start (.ok stmts) stop) :
    ∃ blanks middle, (∀ token ∈ blanks, token.kind = .newline) ∧ start.Passes blanks middle ∧
      Round mode inBlock (fun next rest =>
        Ends mode.skips (statementsWithin nested inBlock bound) next (.ok rest) stop)
        stop middle stmts := by
  rw [statementsWithin_succ] at ends
  obtain ⟨blanks, middle, ended, passes, breaks, -, reached, ends⟩ := ends_eatBlankLines_bind ends
  have free' := passes.mark.trans free
  refine ⟨blanks, middle, breaks, passes, ?_⟩
  split at ends
  · next atEnd =>
    obtain ⟨rfl, rfl⟩ := ends_pure.mp ends
    exact .none (.inl (reached.mp atEnd))
  rw [ends_sees_bind] at ends
  split at ends
  · next closing =>
    obtain ⟨rfl, rfl⟩ := ends_pure.mp ends
    exact .none (.inr (by simpa using closing))
  next goesOn =>
  rcases ends_recovering.mp ends with ⟨stmt, next, read, ends⟩ | ⟨allowed, error, next, read, ends⟩
  · obtain ⟨tokens, passes', head⟩ := declarationOrStatement_sound sound steady free' read
    rw [ends_emit_bind rfl, ends_recovering] at ends
    simp only [ends_bind, ends_pure] at ends
    rcases ends with
      ⟨_, last, finished, rest, _, behind, rfl, rfl⟩ |
      ⟨allowed, _, last, unfinished, rest, _, behind, rfl, rfl⟩
    · rcases ends_statementEnd.mp finished with ⟨stays, rfl⟩ | ⟨ending, ends, passes''⟩
      · exact .last passes' head stays behind
      · exact .ended passes' head ends passes'' behind
    · obtain rfl := ends_statementEnd_error unfinished
      exact .unended allowed passes' head behind
  · obtain ⟨tokens, passes'⟩ :=
      (robust_steady.declarationOrStatement steady).passes free' read
    exact .skipped allowed (by simpa using goesOn) passes' ends

theorem statementsWithin_sound {inBlock : Bool} {bound : Nat} {stmts : List Stmt}
    (free : start.mark = none)
    (ends : Ends mode.skips (statementsWithin nested inBlock bound) start (.ok stmts) stop) :
    ∃ tokens, start.Passes tokens stop ∧ Statements mode tokens stmts := by
  induction bound generalizing start stmts with
  | zero =>
    obtain ⟨rfl, rfl⟩ := ends_pure.mp ends
    exact ⟨[], .nil _, .none⟩
  | succ bound ih =>
    obtain ⟨blanks, middle, breaks, passes, round⟩ :=
      statementsWithin_round sound steady free ends
    suffices ∃ tokens, middle.Passes tokens stop ∧ Statements mode tokens stmts by
      obtain ⟨tokens, passes', read⟩ := this
      exact ⟨_, passes.append passes', read.blanks breaks⟩
    have free' := passes.mark.trans free
    cases round with
    | none _ => exact ⟨[], .nil _, .none⟩
    | last passes head stays behind =>
      obtain ⟨rest, passes', behind⟩ := ih (passes.mark.trans free') behind
      refine ⟨_, passes.append passes', ?_⟩
      by_cases allowed : mode.skips
      · exact .unended allowed head behind
      · -- Nothing that begins with a closing brace or the end can follow.
        obtain rfl : rest = [] := by
          refine (behind.begins allowed).resolve_right ?_
          rintro ⟨token, _, rfl, starts⟩
          rw [passes'.current] at stays
          rcases stays with closes | ended
          · rw [closes] at starts
            exact absurd starts (by decide)
          · rw [ended] at starts
            exact absurd starts (by decide)
        rw [behind.eq_nil allowed, List.append_nil]
        exact .last head
    | ended passes head finishes passes' behind =>
      have free'' := (passes.append passes').mark.trans free'
      obtain ⟨rest, passes'', behind⟩ := ih free'' behind
      exact ⟨_, passes.append (passes'.cons passes''), .ended head finishes behind⟩
    | unended allowed passes head behind =>
      obtain ⟨passed, passes'⟩ := Cursor.passes_recovered (passes.mark.trans free') inBlock
      obtain ⟨rest, passes'', behind⟩ := ih rfl behind
      exact ⟨_, passes.append (passes'.append passes''),
        .unended allowed head (.skipped allowed behind)⟩
    | skipped allowed _ passes behind =>
      obtain ⟨passed, passes'⟩ := Cursor.passes_recovered (passes.mark.trans free') inBlock
      obtain ⟨rest, passes'', behind⟩ := ih rfl behind
      exact ⟨_, passes.append (passes'.append passes''),
        .skipped allowed (.skipped allowed behind)⟩

/-- With room for all tokens ahead, reading stops only at the end, or in a block at its brace. -/
theorem statementsWithin_stops {inBlock : Bool} {bound : Nat} {stmts : List Stmt}
    (free : start.mark = none)
    (room : start.tape.ahead.length ≤ bound ∨
      inBlock = true ∧ start.tape.current.kind = .symbol .closeCurly)
    (ends : Ends mode.skips (statementsWithin nested inBlock bound) start (.ok stmts) stop) :
    stop.tape.ahead = [] ∨ inBlock = true ∧ stop.tape.current.kind = .symbol .closeCurly := by
  induction bound generalizing start stmts with
  | zero =>
    obtain ⟨rfl, rfl⟩ := ends_pure.mp ends
    exact room.imp_left fun empty => List.length_eq_zero_iff.mp (Nat.le_zero.mp empty)
  | succ bound ih =>
    obtain ⟨blanks, middle, breaks, passes, round⟩ :=
      statementsWithin_round sound steady free ends
    have free' := passes.mark.trans free
    have room' : middle.tape.ahead.length ≤ bound + 1 ∨
        inBlock = true ∧ middle.tape.current.kind = .symbol .closeCurly := by
      rcases room with room | ⟨inside, closes⟩
      · exact .inl (by have := passes.length; omega)
      · cases blanks with
        | nil => exact .inr ⟨inside, passes.eq_of_nil ▸ closes⟩
        | cons token blanks =>
          rw [passes.current, breaks token List.mem_cons_self] at closes
          cases closes
    have shorter {tokens : List Token} {next : Cursor} {stmt : Stmt}
        (passes : middle.Passes tokens next) (head : Statement mode tokens stmt) :
        next.tape.ahead.length ≤ bound := by
      obtain ⟨token, rest, rfl, starts⟩ := head.begins
      rcases room' with room | ⟨-, closes⟩
      · have := passes.length
        rw [List.length_cons] at this
        omega
      · rw [← passes.current, closes] at starts
        exact absurd starts (by decide)
    cases round with
    | none ended => exact ended
    | last passes head _ behind =>
      exact ih (passes.mark.trans free') (.inl (shorter passes head)) behind
    | ended passes head _ passes' behind =>
      have := shorter passes head
      have := passes'.length
      exact ih ((passes.append passes').mark.trans free') (.inl (by omega)) behind
    | @unended _ next _ _ _ _ passes head behind =>
      have := shorter passes head
      rcases next.tape.recovered_progress inBlock with fewer | ⟨stays, -⟩
      · exact ih rfl (.inl (by simp only; omega)) behind
      · exact ih rfl (.inl (by rw [stays]; exact this)) behind
    | @skipped _ next _ _ _ unclosed passes behind =>
      have := room'.resolve_right unclosed
      have := passes.length
      rcases next.tape.recovered_progress inBlock with fewer | ⟨stays, ended | closing⟩
      · exact ih rfl (.inl (by simp only; omega)) behind
      · exact ih rfl (.inl (by simp [stays, ended])) behind
      · exact ih rfl (.inr (by simpa [stays] using closing)) behind

theorem statements_sound {inBlock : Bool} {stmts : List Stmt} (free : start.mark = none)
    (ends : Ends mode.skips (statements nested inBlock) start (.ok stmts) stop) :
    ∃ tokens, start.Passes tokens stop ∧ Statements mode tokens stmts ∧
      (stop.tape.ahead = [] ∨ inBlock = true ∧ stop.tape.current.kind = .symbol .closeCurly) := by
  rw [statements, ends_left_bind] at ends
  obtain ⟨tokens, passes, read⟩ := statementsWithin_sound sound steady free ends
  exact ⟨tokens, passes, read,
    statementsWithin_stops sound steady free (.inl (Nat.le_refl _)) ends⟩

theorem body_sound {stmts : List Stmt} (free : start.mark = none)
    (ends : Ends mode.skips (body nested) start (.ok stmts) stop) :
    ∃ tokens closing, start.Passes (tokens ++ [closing]) stop ∧
      Statements mode tokens stmts ∧ closing.kind = .symbol .closeCurly := by
  rw [body, ends_bind] at ends
  obtain ⟨found, _, held, ends⟩ := ends
  obtain ⟨tokens, passes, held, -⟩ := statements_sound sound steady free held
  rw [ends_expect_bind (by decide)] at ends
  obtain ⟨closing, _, closes, passes', ends⟩ := ends
  obtain ⟨rfl, rfl⟩ := ends_pure.mp ends
  exact ⟨tokens, closing, passes.append passes', held, closes⟩

end Statements
end Phrases

/-- The parsers of every level read phrases of the grammar. -/
theorem nested_sound {mode : Mode} (bound : Nat) : NestedSound mode (nested bound) := by
  induction bound with
  | zero =>
    refine ⟨fun _ ends => ?_, fun _ ends => ?_, fun _ ends => ?_, fun _ ends => ?_⟩
    · exact absurd ends not_ends_failWith
    · exact absurd ends not_ends_failWith
    · exact absurd ends not_ends_failWith
    · obtain ⟨closing, _, closes, passes, ends⟩ := (ends_expect_bind (by decide)).mp ends
      obtain ⟨rfl, rfl⟩ := ends_pure.mp ends
      exact ⟨[], closing, passes, .none, closes⟩
  | succ bound ih =>
    exact ⟨expression_sound ih, assignmentOrExpression_sound ih, unary_sound ih,
      body_sound ih (robust_steady.ofNested bound)⟩

/-- Reading a program takes all of its tokens, and all but those passed over spell statements. -/
theorem statementList_sound {mode : Mode} {stmts : List Stmt} (free : start.mark = none)
    (ends : Ends mode.skips (statementList false) start (.ok stmts) stop) :
    Statements mode start.tape.ahead stmts := by
  rw [statementList, ends_left_bind] at ends
  obtain ⟨tokens, passes, read, ended⟩ :=
    statements_sound (nested_sound _) (robust_steady.ofNested _) free ends
  have ended : stop.tape.ahead = [] := by simpa using ended
  have all : start.tape.ahead = tokens := by simpa [ended] using passes.ahead
  exact all ▸ read

/-- Whatever the tokens are, the statements read from them are spelled by them, some tokens being
passed over. -/
theorem parse_lenient (tokens : List Token) :
    Statements .lenient (Tape.ofTokens tokens).ahead (parse tokens).statements := by
  obtain ⟨stop, trace, ran, -⟩ := run_parse tokens
  exact statementList_sound rfl ⟨trace, ran, .inl trivial⟩

end Script.Parser
