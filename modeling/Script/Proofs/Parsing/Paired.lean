import Script.Proofs.Parsing.Seam

set_option autoImplicit false

/- Rules of the grammar on two tapes that agree up to a seam. No rule within a statement can tell
the two ends apart, so the runs go alike; the levels and bounds that the two runs are given may
differ, as long as both are enough for the tokens up to the seam. -/
namespace Script.Parser

open Token (Kind)

variable {α β : Type} {seam : Seam} {kept left : Option (Tape × Tape)} {strict : Bool}
  {limit : Nat}

/-- Two parsers that run alike from near cursors with at most so many tokens up to the seam. Behind
them the corresponding places in `left` are kept. -/
def Paired (seam : Seam) (kept left : Option (Tape × Tape)) (strict : Bool) (limit : Nat)
    (parser parser' : Parser α) : Prop :=
  ∀ ⦃room : Nat⦄ ⦃first second : Cursor⦄, room ≤ limit → Near seam kept strict room first second →
    Alike seam kept (Near seam left true room) (parser.run first) (parser'.run second)

namespace Paired

theorem mono {more : Nat} {parser parser' : Parser α}
    (paired : Paired seam kept left strict more parser parser') (less : limit ≤ more) :
    Paired seam kept left strict limit parser parser' :=
  fun _ _ _ within near => paired (Nat.le_trans within less) near

theorem bind {parser parser' : Parser α} {next next' : α → Parser β}
    (before : Paired seam kept kept strict limit parser parser')
    (behind : ∀ value, Paired seam kept left true limit (next value) (next' value)) :
    Paired seam kept left strict limit (parser >>= next) (parser' >>= next') := by
  intro room first second within near
  exact (before within near).bind fun value _ _ near' => behind value within near'

theorem pure (value : α) :
    Paired seam kept kept true limit (pure value : Parser α) (pure value : Parser α) := by
  intro room first second within near
  exact .ok near rfl

/-- A phrase whose value is only wrapped up. -/
theorem map {parser parser' : Parser α} {wrap : α → β}
    (paired : Paired seam kept kept strict limit parser parser') :
    Paired seam kept kept strict limit (do return wrap (← parser)) (do return wrap (← parser')) :=
  paired.bind fun _ => Paired.pure _

/-- A choice made in advance. -/
theorem ite (test : Bool) {yes no yes' no' : Parser α}
    (chosen : test = true → Paired seam kept left strict limit yes yes')
    (other : test = false → Paired seam kept left strict limit no no') :
    Paired seam kept left strict limit (if test = true then yes else no)
      (if test = true then yes' else no') := by
  cases test
  · exact other rfl
  · exact chosen rfl

/-- A failure that says what stands before the current token. -/
theorem failWith {template : String} (plain : 'N' ∉ template.toList) :
    Paired seam kept left true limit (failWith template : Parser α) (failWith template) := by
  intro room first second within near
  rw [run_failWith, run_failWith]
  refine .error near.joined (.inl ⟨near.mark, near.mark'⟩) ?_ rfl
  simp only [Cursor.error, Cursor.errorOf, message_eq_fill plain, ← near.previous rfl]
  rcases near.joined.current with ⟨ended, eof, stop⟩ | ⟨-, same⟩
  · rw [eof, stop]
    exact .inr ⟨ended, .message template _⟩
  · rw [same]
    exact .inl rfl

/-- A failure that describes the current token alone. -/
theorem failWith_loose {template : String} (plain : 'N' ∉ template.toList)
    (current : 'P' ∉ template.toList) :
    Paired seam kept left strict limit (Parser.failWith template : Parser α)
      (Parser.failWith template) := by
  intro room first second within near
  rw [run_failWith, run_failWith]
  refine .error near.joined (.inl ⟨near.mark, near.mark'⟩) ?_ rfl
  have alone (token : Token) : fill template second.tape.previous? token =
      fill template first.tape.previous? token := fill_eq current _ _ token
  simp only [Cursor.error, Cursor.errorOf, message_eq_fill plain, alone]
  rcases near.joined.current with ⟨ended, eof, stop⟩ | ⟨-, same⟩
  · rw [eof, stop]
    exact .inr ⟨ended, .message template _⟩
  · rw [same]
    exact .inl rfl

theorem failOf {cause : Error.Cause} :
    Paired seam kept left strict limit (failOf cause : Parser α) (failOf cause) := by
  intro room first second within near
  rw [run_failOf, run_failOf]
  refine .error near.joined (.inl ⟨near.mark, near.mark'⟩) ?_ rfl
  simp only [Cursor.errorOf]
  rcases near.joined.current with ⟨ended, eof, stop⟩ | ⟨-, same⟩
  · rw [eof, stop]
    exact .inr ⟨ended, .cause cause⟩
  · rw [same]
    exact .inl rfl

theorem expectedExpression :
    Paired seam kept left strict limit expectedExpression expectedExpression :=
  failWith_loose (by decide) (by decide)

/-- The bounds that repetitions are given are enough. -/
theorem left_bind {next next' : Nat → Parser α}
    (behind : ∀ {enough bound bound' : Nat}, enough ≤ limit → enough ≤ bound → enough ≤ bound' →
      Paired seam kept left strict enough (next bound) (next' bound')) :
    Paired seam kept left strict limit (Parser.left >>= next) (Parser.left >>= next') := by
  intro room first second within near
  have longer : first.tape.ahead.length ≤ second.tape.ahead.length := by
    rw [near.joined.ahead, List.length_append]
    exact Nat.le_add_right ..
  rw [run_left_bind, run_left_bind]
  have exactly : Near seam kept strict first.tape.ahead.length first second :=
    { near with room := Nat.le_refl _ }
  have alike := behind (Nat.le_trans near.room within) (Nat.le_refl _) longer (Nat.le_refl _)
    exactly
  exact alike.imp fun reached => reached.mono near.room

/-- The same token is taken before the seam. -/
theorem advance_alike {next next' : Token → Parser α} {post : Cursor → Cursor → Prop} {room : Nat}
    {first second : Cursor} (opened : first.tape.ahead ≠ [])
    (near : Near seam kept strict room first second)
    (behind : Near seam kept true (room - 1) first.advance second.advance →
      Alike seam kept post ((next first.tape.current).run first.advance)
        ((next' first.tape.current).run second.advance)) :
    Alike seam kept post ((Parser.advance >>= next).run first)
      ((Parser.advance >>= next').run second) := by
  have ran (cursor : Cursor) : Parser.advance.run cursor =
      ⟨.ok cursor.tape.current, cursor.advance, []⟩ := rfl
  have nonempty := List.length_pos_iff.mpr opened
  have some := near.room
  rw [Traced.run_bind_ok (ran first), Traced.run_bind_ok (ran second), Run.behind_nil,
    Run.behind_nil, near.joined.current_eq opened]
  obtain ⟨fewer, rfl⟩ : ∃ fewer, room = fewer + 1 := ⟨room - 1, by omega⟩
  exact behind (near.advance opened)

theorem advance_bind {next next' : Token → Parser α} {room : Nat} {first second : Cursor}
    (opened : first.tape.ahead ≠ []) (within : room ≤ limit + 1)
    (near : Near seam kept strict room first second)
    (behind : ∀ token, Paired seam kept left true limit (next token) (next' token)) :
    Alike seam kept (Near seam left true room) ((Parser.advance >>= next).run first)
      ((Parser.advance >>= next').run second) := by
  apply advance_alike opened near
  intro near'
  have alike := behind first.tape.current (Nat.sub_le_of_le_add within) near'
  exact alike.imp fun reached => reached.mono (Nat.sub_le room 1)

theorem seesOneOf_branch {kinds : List Kind} {yes no yes' no' : Parser α}
    (others : ∀ kind ∈ kinds, kind ∉ statementEnds)
    (seen : Paired seam kept left strict limit yes yes')
    (unseen : Paired seam kept left strict limit no no') :
    Paired seam kept left strict limit
      (seesOneOf kinds >>= fun found => if found = true then yes else no)
      (seesOneOf kinds >>= fun found => if found = true then yes' else no') := by
  intro room first second within near
  rw [Traced.run_bind_ok (run_seesOneOf kinds first),
    Traced.run_bind_ok (run_seesOneOf kinds second), Run.behind_nil, Run.behind_nil,
    ← near.joined.contains_eq others]
  exact ite _ (fun _ => seen) (fun _ => unseen) within near

theorem sees_branch {kind : Kind} {yes no yes' no' : Parser α} (other : kind ∉ statementEnds)
    (seen : Paired seam kept left strict limit yes yes')
    (unseen : Paired seam kept left strict limit no no') :
    Paired seam kept left strict limit
      (sees kind >>= fun found => if found = true then yes else no)
      (sees kind >>= fun found => if found = true then yes' else no') := by
  have single : ∀ each ∈ [kind], each ∉ statementEnds := by simpa using other
  rw [sees_eq]
  exact seesOneOf_branch single seen unseen

/-- A token within a statement is taken on both tapes or on neither. -/
theorem take_branch {kinds : List Kind} {next next' : Token → Parser α} {no no' : Parser α}
    (others : ∀ kind ∈ kinds, kind ∉ statementEnds)
    (taken : ∀ token, Paired seam kept left true limit (next token) (next' token))
    (other : Paired seam kept left strict (limit + 1) no no') :
    Paired seam kept left strict (limit + 1)
      (seesOneOf kinds >>= fun found => if found = true then advance >>= next else no)
      (seesOneOf kinds >>= fun found => if found = true then advance >>= next' else no') := by
  intro room first second within near
  rw [Traced.run_bind_ok (run_seesOneOf kinds first),
    Traced.run_bind_ok (run_seesOneOf kinds second), Run.behind_nil, Run.behind_nil,
    ← near.joined.contains_eq others]
  by_cases member : first.tape.current.kind ∈ kinds
  · simp only [List.contains_eq_mem, member, decide_true, ↓reduceIte]
    have opened : first.tape.ahead ≠ [] := Tape.ahead_ne_nil fun ended =>
      others _ member (ended ▸ by decide)
    exact advance_bind opened within near taken
  · simp only [List.contains_eq_mem, member, decide_false, Bool.false_eq_true, ↓reduceIte]
    exact other within near

theorem advanceIf_branch {kinds : List Kind} {yes no yes' no' : Parser α}
    (others : ∀ kind ∈ kinds, kind ∉ statementEnds)
    (taken : Paired seam kept left true limit yes yes')
    (other : Paired seam kept left strict (limit + 1) no no') :
    Paired seam kept left strict (limit + 1)
      (advanceIf kinds >>= fun taken => if taken = true then yes else no)
      (advanceIf kinds >>= fun taken => if taken = true then yes' else no') := by
  rw [advanceIf_branch_eq, advanceIf_branch_eq]
  exact take_branch others (fun _ => taken) other

/-- A token that may follow a phrase. -/
theorem advanceIf {kinds : List Kind} (others : ∀ kind ∈ kinds, kind ∉ statementEnds) :
    Paired seam kept kept true limit (advanceIf kinds) (advanceIf kinds) := by
  have flag : Parser.advanceIf kinds = (Parser.advanceIf kinds >>= fun taken =>
      if taken = true then Pure.pure true else Pure.pure false) := by
    unfold Parser.advanceIf
    rw [bind_assoc]
    refine bind_congr fun found => ?_
    cases found <;> rfl
  rw [flag]
  have both : Paired seam kept kept true (limit + 1) _ _ :=
    advanceIf_branch others (Paired.pure true) (Paired.pure false)
  exact both.mono (Nat.le_succ limit)

/-- A token within a statement is required. -/
theorem expect {kind : Kind} {context : String} (other : kind ∉ statementEnds)
    (plain : 'N' ∉ context.toList) :
    Paired seam kept kept true limit (expect kind context) (expect kind context) := by
  have branches : Parser.expect kind context = (seesOneOf [kind] >>= fun found =>
      if found = true then advance >>= fun token => Pure.pure token
      else Parser.failWith (missing kind context)) := by
    rw [← sees_eq]
    rfl
  rw [branches]
  have single : ∀ each ∈ [kind], each ∉ statementEnds := by simpa using other
  have both : Paired seam kept kept true (limit + 1) _ _ :=
    take_branch single Paired.pure (failWith (missing_plain kind plain))
  exact both.mono (Nat.le_succ limit)

/-- At the seam two parsers run alike that do what a third one does where a statement ends. -/
theorem of_ended {parser parser' ended : Parser α}
    (paired : Paired seam kept left strict 0 ended ended)
    (same : ∀ cursor : Cursor, cursor.tape.current.kind ∈ statementEnds →
      parser.run cursor = ended.run cursor ∧ parser'.run cursor = ended.run cursor) :
    Paired seam kept left strict 0 parser parser' := by
  intro room first second within near
  have none : first.tape.ahead = [] := List.length_eq_zero_iff.mp (by have := near.room; omega)
  rcases near.joined.current with ⟨-, eof, stop⟩ | ⟨opened, -⟩
  · have here : first.tape.current.kind ∈ statementEnds := by
      rw [eof, seam.eof_kind]
      decide
    have there : second.tape.current.kind ∈ statementEnds := by
      rw [stop]
      exact seam.stop_kind
    rw [(same first here).1, (same second there).2]
    exact paired within near
  · exact absurd none opened

end Paired

/-- Where a statement ends, no token within a statement is taken. -/
theorem run_seesOneOf_ended {kinds : List Kind} {yes no : Parser α} {cursor : Cursor}
    (others : ∀ kind ∈ kinds, kind ∉ statementEnds)
    (ended : cursor.tape.current.kind ∈ statementEnds) :
    (seesOneOf kinds >>= fun found => if found = true then yes else no).run cursor =
      no.run cursor := by
  have unseen : cursor.tape.current.kind ∉ kinds := fun member => others _ member ended
  rw [Traced.run_bind_ok (run_seesOneOf kinds cursor), Run.behind_nil]
  simp only [List.contains_eq_mem, unseen, decide_false, Bool.false_eq_true, ↓reduceIte]

theorem run_advanceIf_ended {kinds : List Kind} {yes no : Parser α} {cursor : Cursor}
    (others : ∀ kind ∈ kinds, kind ∉ statementEnds)
    (ended : cursor.tape.current.kind ∈ statementEnds) :
    (advanceIf kinds >>= fun taken => if taken = true then yes else no).run cursor =
      no.run cursor := by
  have unseen : cursor.tape.current.kind ∉ kinds := fun member => others _ member ended
  rw [Traced.run_bind_ok (run_advanceIf kinds cursor), Run.behind_nil]
  simp only [List.contains_eq_mem, unseen, decide_false, Bool.false_eq_true, ↓reduceIte]

namespace Paired

theorem typeName {context : String} (plain : 'N' ∉ context.toList) :
    Paired seam kept kept true limit (typeName context) (typeName context) := by
  apply (expect (by decide) plain).bind
  intro name
  exact (advanceIf (by decide)).map

theorem typeWithin {bound bound' : Nat} {context : String} (enough : limit ≤ bound)
    (enough' : limit ≤ bound') (plain : 'N' ∉ context.toList) :
    Paired seam kept kept true limit (typeWithin bound context) (typeWithin bound' context) := by
  induction limit generalizing bound bound' context with
  | zero =>
    have named : Paired seam kept kept true 0 (Parser.typeWithin 0 context)
        (Parser.typeWithin 0 context) := (typeName plain).bind fun found => Paired.pure _
    apply of_ended named
    intro cursor ended
    have same (bound : Nat) : (Parser.typeWithin bound context).run cursor =
        (Parser.typeWithin 0 context).run cursor := by
      cases bound with
      | zero => rfl
      | succ bound => exact run_advanceIf_ended (by decide) ended
    exact ⟨same bound, same bound'⟩
  | succ limit ih =>
    obtain ⟨bound, rfl⟩ : ∃ fewer, bound = fewer + 1 := ⟨bound - 1, by omega⟩
    obtain ⟨bound', rfl⟩ : ∃ fewer, bound' = fewer + 1 := ⟨bound' - 1, by omega⟩
    have bracket {limit : Nat} : Paired seam kept kept true limit
        (Parser.expect (.symbol .closeBracket) "in type declaration")
        (Parser.expect (.symbol .closeBracket) "in type declaration") :=
      expect (by decide) (by decide)
    have key : Paired seam kept kept true limit (Parser.typeWithin bound "in map key type")
        (Parser.typeWithin bound' "in map key type") :=
      ih (Nat.le_of_succ_le_succ enough) (Nat.le_of_succ_le_succ enough') (by decide)
    refine advanceIf_branch (by decide) (sees_branch (by decide) ?_ ?_) ?_
    · exact bracket.bind fun _ => (typeName plain).bind fun found => Paired.pure _
    · apply key.bind
      intro inner
      exact bracket.bind fun _ => (typeName plain).bind fun found => Paired.pure _
    · exact (typeName plain).bind fun found => Paired.pure _

theorem typeExpr {context : String} (plain : 'N' ∉ context.toList) :
    Paired seam kept kept true limit (typeExpr context) (typeExpr context) :=
  left_bind fun _ enough enough' => typeWithin enough enough' plain

theorem separatedWithin {item : Parser α} {bound bound' : Nat} (enough : limit ≤ bound)
    (enough' : limit ≤ bound')
    (each : ∀ fewer, Paired seam kept kept true fewer item item) :
    Paired seam kept kept true limit (separatedWithin item bound)
      (separatedWithin item bound') := by
  induction limit generalizing bound bound' with
  | zero =>
    -- At the seam no comma follows, so the bound does not matter.
    have alone (bound : Nat) : ∃ next : α → Parser (List α),
        Parser.separatedWithin item bound = item >>= next ∧
        ∀ first cursor, cursor.tape.current.kind ∈ statementEnds →
          (next first).run cursor = (Pure.pure [first] : Parser (List α)).run cursor := by
      cases bound with
      | zero => exact ⟨_, rfl, fun _ _ _ => rfl⟩
      | succ bound => exact ⟨_, rfl, fun _ _ ended => run_advanceIf_ended (by decide) ended⟩
    obtain ⟨next, opens, ends⟩ := alone bound
    obtain ⟨next', opens', ends'⟩ := alone bound'
    rw [opens, opens']
    apply (each _).bind
    intro first
    apply of_ended (Paired.pure [first])
    exact fun cursor ended => ⟨ends first cursor ended, ends' first cursor ended⟩
  | succ limit ih =>
    obtain ⟨bound, rfl⟩ : ∃ fewer, bound = fewer + 1 := ⟨bound - 1, by omega⟩
    obtain ⟨bound', rfl⟩ : ∃ fewer, bound' = fewer + 1 := ⟨bound' - 1, by omega⟩
    apply (each _).bind
    intro first
    have rest := ih (Nat.le_of_succ_le_succ enough) (Nat.le_of_succ_le_succ enough')
    exact advanceIf_branch (by decide) (rest.bind fun _ => Paired.pure _) (Paired.pure _)

theorem separated {item : Parser α}
    (each : ∀ fewer, Paired seam kept kept true fewer item item) :
    Paired seam kept kept true limit (separated item) (separated item) :=
  left_bind fun _ enough enough' => separatedWithin enough enough' each

theorem specifiersWithin {context : String} {bound bound' : Nat} (enough : limit ≤ bound)
    (enough' : limit ≤ bound') (plain : 'N' ∉ context.toList) :
    Paired seam kept kept true limit (specifiersWithin context bound)
      (specifiersWithin context bound') := by
  induction limit generalizing bound bound' with
  | zero =>
    apply of_ended (Paired.pure [])
    intro cursor ended
    have none (bound : Nat) : (Parser.specifiersWithin context bound).run cursor =
        (Pure.pure [] : Parser (List TypeExpr)).run cursor := by
      cases bound with
      | zero => rfl
      | succ bound => exact run_advanceIf_ended (by decide) ended
    exact ⟨none bound, none bound'⟩
  | succ limit ih =>
    obtain ⟨bound, rfl⟩ : ∃ fewer, bound = fewer + 1 := ⟨bound - 1, by omega⟩
    obtain ⟨bound', rfl⟩ : ∃ fewer, bound' = fewer + 1 := ⟨bound' - 1, by omega⟩
    refine advanceIf_branch (by decide) ?_ (Paired.pure _)
    apply (separated fun _ => typeExpr plain).bind
    intro types
    apply (expect (by decide) (by decide)).bind
    intro closing
    exact (ih (Nat.le_of_succ_le_succ enough) (Nat.le_of_succ_le_succ enough')).map

theorem specifiers {context : String} (plain : 'N' ∉ context.toList) :
    Paired seam kept kept true limit (specifiers context) (specifiers context) :=
  left_bind fun _ enough enough' => specifiersWithin enough enough' plain

theorem parameter : Paired seam kept kept true limit parameter parameter := by
  apply (expect (by decide) (by decide)).bind
  intro name
  apply (expect (by decide) (by decide)).bind
  intro colon
  exact (typeExpr (by decide)).map

theorem parameters : Paired seam kept kept true limit parameters parameters := by
  have closing (found : List Parameter) : Paired seam kept kept true limit
      (do let _ ← Parser.expect (.symbol .closeParen) "in function declaration"; return found)
      (do let _ ← Parser.expect (.symbol .closeParen) "in function declaration"; return found) :=
    (expect (by decide) (by decide)).map
  apply (expect (by decide) (by decide)).bind
  intro opening
  apply sees_branch (by decide)
  · exact (Paired.pure _).bind closing
  · exact (separated fun _ => parameter).bind closing

end Paired

/-- Where a statement ends, no expression begins. -/
theorem run_primary_ended (nested : Nested) {cursor : Cursor}
    (ended : cursor.tape.current.kind ∈ statementEnds) :
    (primary nested).run cursor = expectedExpression.run cursor := by
  have seen : current.run cursor = ⟨.ok cursor.tape.current, cursor, []⟩ := rfl
  have other {kind : Kind} (is : cursor.tape.current.kind = kind) (word : kind ∉ statementEnds) :
      False := word (is ▸ ended)
  unfold primary
  rw [Traced.run_bind_ok seen, Run.behind_nil]
  split
  · next is => exact (other is (by decide)).elim
  · next is => exact (other is (by decide)).elim
  · next is => exact (other is (by decide)).elim
  · next is => exact (other is (by decide)).elim
  · next is => exact (other is (by decide)).elim
  · next is => exact (other is (by decide)).elim
  · next is => exact (other is (by decide)).elim
  · rfl

/-- The parsers for phrases inside other phrases run alike. A block can be read only where the two
tapes end together: elsewhere no brace opens before the seam. -/
structure PairedNested (seam : Seam) (limit : Nat) (nested nested' : Nested) : Prop where
  expr : ∀ strict, Paired seam none none strict limit nested.expr nested'.expr
  assignment : ∀ strict,
    Paired seam none none strict limit nested.assignment nested'.assignment
  unary : ∀ strict, Paired seam none none strict limit nested.unary nested'.unary
  body : seam.extra = [] → Paired seam none none true limit nested.body nested'.body

namespace Paired

section Expressions

variable {nested nested' : Nested} (inner : PairedNested seam limit nested nested')
include inner

/-- A block in braces. -/
theorem braces {context : String} (plain : 'N' ∉ context.toList) :
    Paired seam none none true limit
      (Parser.expect (.symbol .openCurly) context >>= fun _ => nested.body)
      (Parser.expect (.symbol .openCurly) context >>= fun _ => nested'.body) := by
  by_cases whole : seam.extra = []
  · apply (expect (by decide) plain).bind
    exact fun _ => inner.body whole
  · intro room first second within near
    -- No brace opens before the seam, so both runs miss it.
    have missed : first.tape.current.kind ≠ .symbol .openCurly :=
      mt near.joined.whole_of_brace whole
    have missed' := mt (near.joined.kind_iff (by decide)).mpr missed
    have ran := run_expect (.symbol .openCurly) context first
    have ran' := run_expect (.symbol .openCurly) context second
    rw [if_neg missed] at ran
    rw [if_neg missed'] at ran'
    rw [Traced.run_bind_error ran, Traced.run_bind_error ran']
    exact failWith (missing_plain _ plain) within near

theorem braces_bind {context : String} {next next' : List Stmt → Parser α}
    (plain : 'N' ∉ context.toList)
    (behind : ∀ stmts, Paired seam none none true limit (next stmts) (next' stmts)) :
    Paired seam none none true limit
      (Parser.expect (.symbol .openCurly) context >>= fun _ => nested.body >>= next)
      (Parser.expect (.symbol .openCurly) context >>= fun _ => nested'.body >>= next') := by
  rw [← bind_assoc, ← bind_assoc]
  exact (braces inner plain).bind behind

theorem primary : Paired seam none none strict (limit + 1) (primary nested) (primary nested') := by
  intro room first second within near
  have fails : Alike seam none (Near seam none true room) (Parser.expectedExpression.run first)
      (Parser.expectedExpression.run second) := expectedExpression within near
  rcases near.joined.current with ⟨-, eof, stop⟩ | ⟨opened, same⟩
  · rw [run_primary_ended nested (by rw [eof, seam.eof_kind]; decide),
      run_primary_ended nested' (by rw [stop]; exact seam.stop_kind)]
    exact fails
  · have seen (cursor : Cursor) : current.run cursor = ⟨.ok cursor.tape.current, cursor, []⟩ := rfl
    have read (expr : Expr) : Alike seam none (Near seam none true room)
        ((advance >>= fun _ => Pure.pure expr).run first)
        ((advance >>= fun _ => Pure.pure expr).run second) :=
      advance_bind opened within near fun _ => Paired.pure expr
    unfold Parser.primary
    rw [Traced.run_bind_ok (seen first), Traced.run_bind_ok (seen second), Run.behind_nil,
      Run.behind_nil, same]
    split
    · exact read _
    · exact read _
    · split
      · exact read _
      · exact fails
    · split
      · exact read _
      · exact fails
    · split
      · exact read _
      · exact fails
    · exact read _
    · apply advance_bind opened within near
      intro opening
      apply (inner.expr true).bind
      intro grouped
      exact (expect (by decide) (by decide)).map
    · exact fails

theorem arguments (allowed : Nat) :
    Paired seam none none true limit (arguments nested allowed) (arguments nested' allowed) := by
  induction allowed with
  | zero => exact failOf
  | succ allowed ih =>
    apply (inner.expr true).bind
    intro first
    have rest : Paired seam none none true limit
        (do return first :: (← Parser.arguments nested allowed))
        (do return first :: (← Parser.arguments nested' allowed)) := ih.map
    exact (advanceIf_branch (by decide) rest (Paired.pure _)).mono (Nat.le_succ limit)

theorem finishCall (callee : Expr) :
    Paired seam none none true limit (finishCall nested callee) (finishCall nested' callee) := by
  have closing (found : List Expr) : Paired seam none none true limit
      (do let _ ← Parser.expect (.symbol .closeParen) "after function arguments"
          return Expr.call callee found)
      (do let _ ← Parser.expect (.symbol .closeParen) "after function arguments"
          return Expr.call callee found) :=
    (expect (by decide) (by decide)).map
  apply sees_branch (by decide)
  · exact (Paired.pure _).bind closing
  · exact (arguments inner _).bind closing

theorem suffixesWithin {count bound bound' : Nat} (within : count ≤ limit + 1)
    (enough : count ≤ bound) (enough' : count ≤ bound') (expr : Expr) :
    Paired seam none none true count (suffixesWithin nested bound expr)
      (suffixesWithin nested' bound' expr) := by
  induction count generalizing bound bound' expr with
  | zero =>
    apply of_ended (Paired.pure expr)
    intro cursor ended
    have none (nested : Nested) (bound : Nat) :
        (Parser.suffixesWithin nested bound expr).run cursor =
          (Pure.pure expr : Parser Expr).run cursor := by
      cases bound with
      | zero => rfl
      | succ bound =>
        exact (run_advanceIf_ended (by decide) ended).trans
          (run_advanceIf_ended (by decide) ended)
    exact ⟨none nested bound, none nested' bound'⟩
  | succ count ih =>
    obtain ⟨bound, rfl⟩ : ∃ fewer, bound = fewer + 1 := ⟨bound - 1, by omega⟩
    obtain ⟨bound', rfl⟩ : ∃ fewer, bound' = fewer + 1 := ⟨bound' - 1, by omega⟩
    have more (expr : Expr) : Paired seam none none true count
        (Parser.suffixesWithin nested bound expr) (Parser.suffixesWithin nested' bound' expr) :=
      ih (by omega) (Nat.le_of_succ_le_succ enough) (Nat.le_of_succ_le_succ enough') expr
    have called : Paired seam none none true count (Parser.finishCall nested expr)
        (Parser.finishCall nested' expr) :=
      (finishCall inner expr).mono (Nat.le_of_succ_le_succ within)
    refine advanceIf_branch (by decide) (called.bind more) ?_
    refine advanceIf_branch (by decide) ?_ (Paired.pure _)
    exact (expect (by decide) (by decide)).bind fun member => more _

theorem call : Paired seam none none strict (limit + 1) (call nested) (call nested') := by
  apply (primary inner).bind
  intro expr
  exact left_bind fun within enough enough' => suffixesWithin inner within enough enough' expr

theorem unary : Paired seam none none strict (limit + 1) (unary nested) (unary nested') :=
  take_branch (by decide) (fun _ => (inner.unary true).map) (call inner)

omit inner in
theorem operationsWithin {operators : List Kind} {operand operand' : Parser Expr}
    (others : ∀ kind ∈ operators, kind ∉ statementEnds)
    (each : Paired seam none none true limit operand operand') {count bound bound' : Nat}
    (within : count ≤ limit) (enough : count ≤ bound) (enough' : count ≤ bound') (expr : Expr) :
    Paired seam none none true count (operationsWithin operators operand bound expr)
      (operationsWithin operators operand' bound' expr) := by
  induction count generalizing bound bound' expr with
  | zero =>
    apply of_ended (Paired.pure expr)
    intro cursor ended
    have none (operand : Parser Expr) (bound : Nat) :
        (Parser.operationsWithin operators operand bound expr).run cursor =
          (Pure.pure expr : Parser Expr).run cursor := by
      cases bound with
      | zero => rfl
      | succ bound => exact run_seesOneOf_ended others ended
    exact ⟨none operand bound, none operand' bound'⟩
  | succ count ih =>
    obtain ⟨bound, rfl⟩ : ∃ fewer, bound = fewer + 1 := ⟨bound - 1, by omega⟩
    obtain ⟨bound', rfl⟩ : ∃ fewer, bound' = fewer + 1 := ⟨bound' - 1, by omega⟩
    refine take_branch others (fun operator => ?_) (Paired.pure _)
    apply (each.mono (Nat.le_of_lt within)).bind
    intro right
    exact ih (Nat.le_of_lt within) (Nat.le_of_succ_le_succ enough)
      (Nat.le_of_succ_le_succ enough') _

omit inner in
theorem operations {operators : List Kind} {operand operand' : Parser Expr}
    (others : ∀ kind ∈ operators, kind ∉ statementEnds)
    (each : ∀ strict, Paired seam none none strict limit operand operand') :
    Paired seam none none strict limit (operations operators operand)
      (operations operators operand') := by
  apply (each strict).bind
  intro first
  exact left_bind fun within enough enough' =>
    operationsWithin others (each true) within enough enough' first

theorem equality : Paired seam none none strict (limit + 1) (equality nested) (equality nested') :=
  operations (by decide) fun _ => operations (by decide) fun _ =>
    operations (by decide) fun _ => operations (by decide) fun _ => unary inner

theorem elseBranch :
    Paired seam none none true (limit + 1) (elseBranch nested) (elseBranch nested') :=
  advanceIf_branch (by decide) (braces inner (by decide)) (Paired.pure _)

theorem expression :
    Paired seam none none strict (limit + 1) (expression nested) (expression nested') := by
  refine advanceIf_branch (by decide) ?_ (equality inner)
  apply (expect (by decide) (by decide)).bind
  intro opening
  apply (inner.expr true).bind
  intro condition
  apply (expect (by decide) (by decide)).bind
  intro closing
  apply braces_bind inner (by decide)
  intro thenBranch
  exact ((elseBranch inner).mono (Nat.le_succ limit)).map

omit inner in
/-- A word with a token behind it that only together mean something. -/
theorem pair_branch {kind follower : Kind} {next next' : Token → Parser α} {no no' : Parser α}
    (word : kind ∉ statementEnds) (other : follower ∉ statementEnds)
    (taken : (follower = .symbol .openCurly → seam.extra = []) →
      ∀ token, Paired seam none none true limit (next token) (next' token))
    (rest : Paired seam none none strict (limit + 1) no no') :
    Paired seam none none strict (limit + 1)
      (sees kind >>= fun found => nextKind? >>= fun behind =>
        if (found && behind == some follower) = true then
          advance >>= fun token => advance >>= fun _ => next token
        else no)
      (sees kind >>= fun found => nextKind? >>= fun behind =>
        if (found && behind == some follower) = true then
          advance >>= fun token => advance >>= fun _ => next' token
        else no') := by
  intro room first second within near
  have single : ∀ each ∈ [follower], each ∉ statementEnds := by simpa using other
  have followed (found : Option Kind) :
      (found == some follower) = found.any [follower].contains := by
    cases found with
    | none => rfl
    | some kind =>
      simp only [Option.any_some, List.contains_cons, List.contains_nil, Bool.or_false]
      rfl
  have same := near.joined.next_eq word single
  rw [← followed, ← followed] at same
  rw [run_pair_branch, run_pair_branch, ← same]
  by_cases both : (first.tape.current.kind == kind &&
      first.tape.next?.map Token.kind == some follower) = true
  · rw [if_pos both, if_pos both]
    rw [Bool.and_eq_true, beq_iff_eq, beq_iff_eq] at both
    have opened : first.tape.ahead ≠ [] := Tape.ahead_ne_nil fun ended =>
      word (both.1 ▸ ended ▸ by decide)
    have behind : first.tape.advance.current.kind = follower := by
      simpa [Tape.next?_eq opened] using both.2
    have inside : first.advance.tape.current.kind ≠ .endOfFile := fun ended =>
      other (behind ▸ ended ▸ by decide)
    -- The token behind the word stands before the seam, too.
    have braced (brace : follower = .symbol .openCurly) : seam.extra = [] :=
      (near.joined.advance opened).whole_of_brace (behind.trans brace)
    apply advance_alike opened near
    intro near'
    have alike := advance_bind (Tape.ahead_ne_nil inside) (Nat.sub_le_of_le_add (by omega)) near'
      fun _ => taken braced first.tape.current
    exact alike.imp fun reached => reached.mono (Nat.sub_le room 1)
  · rw [if_neg both, if_neg both]
    exact rest within near

theorem assignmentOrExpression : Paired seam none none strict (limit + 1)
    (assignmentOrExpression nested) (assignmentOrExpression nested') :=
  pair_branch (by decide) (by decide) (fun _ _ => (inner.assignment true).map) (expression inner)

theorem blockOrExpression : Paired seam none none strict (limit + 1)
    (blockOrExpression nested) (blockOrExpression nested') :=
  pair_branch (by decide) (by decide) (fun whole _ => (inner.body (whole rfl)).map)
    (assignmentOrExpression inner).map

omit inner in
/-- A token that must not stand where a flag is set. -/
theorem refuse_branch (flag : Bool) {kind : Kind} {cause : Error.Cause} {no no' : Parser α}
    (other : kind ∉ statementEnds) (rest : Paired seam kept left strict limit no no') :
    Paired seam kept left strict limit
      (sees kind >>= fun found => if (flag && found) = true then Parser.failOf cause else no)
      (sees kind >>= fun found => if (flag && found) = true then Parser.failOf cause else no') := by
  cases flag with
  | true =>
    simp only [Bool.true_and]
    exact sees_branch other failOf rest
  | false =>
    intro room first second within near
    exact rest within near

theorem variableDecl (name : Token) (specifiers : List TypeExpr) (mutable : Bool) :
    Paired seam none none true (limit + 1) (variableDecl nested name specifiers mutable)
      (variableDecl nested' name specifiers mutable) := by
  apply refuse_branch mutable (by decide)
  refine advanceIf_branch (by decide) ((expression inner).mono (Nat.le_succ limit)).map ?_
  apply (expect (by decide) (by decide)).bind
  intro colon
  apply (typeExpr (by decide)).bind
  intro type
  apply (expect (by decide) (by decide)).bind
  intro sign
  exact (expression inner).map

theorem functionBody :
    Paired seam none none true (limit + 1) (functionBody nested) (functionBody nested') :=
  advanceIf_branch (by decide) (braces_bind inner (by decide) fun _ => Paired.pure _)
    (Paired.pure _)

omit inner in
/-- Behind the point where the kept place is given up, none is kept. -/
theorem commit_bind {parser parser' : Parser α}
    (behind : Paired seam none none strict limit parser parser') :
    Paired seam kept none strict limit (commit >>= fun _ => parser)
      (commit >>= fun _ => parser') := by
  intro room first second within near
  have gives_up (cursor : Cursor) : Ends False commit cursor (.ok ()) cursor.unmarked :=
    ends_commit.mpr rfl
  obtain ⟨trace, ran, quiet⟩ := gives_up first
  obtain ⟨trace', ran', quiet'⟩ := gives_up second
  have traces : Echoes trace trace' := (quiet.resolve_left id).trans (quiet'.resolve_left id).symm
  rw [Traced.run_bind_ok ran, Traced.run_bind_ok ran']
  exact ((behind within near.unmarked).behind traces).given_up

theorem functionDecl (name : Token) (specifierTypes : List TypeExpr) :
    Paired seam kept none true (limit + 1) (functionDecl nested name specifierTypes)
      (functionDecl nested' name specifierTypes) := by
  apply parameters.bind
  intro found
  apply (specifiers (by decide)).bind
  intro effects
  apply (expect (by decide) (by decide)).bind
  intro colon
  apply commit_bind
  apply (typeExpr (by decide)).bind
  intro returns
  exact (functionBody inner).map

/-- A declaration that begins with a name, where there is a name. -/
theorem namedDeclaration {room : Nat} {first second : Cursor} (within : room ≤ limit + 1)
    (near : Near seam kept strict room first second)
    (named : first.tape.current.kind = .identifier) :
    Alike seam kept (Near seam none true room) ((namedDeclaration nested).run first)
      ((namedDeclaration nested').run second) := by
  have opened : first.tape.ahead ≠ [] := Tape.ahead_ne_nil (by rw [named]; decide)
  have named' : second.tape.current.kind = .identifier :=
    (near.joined.kind_iff (by decide)).mp named
  have taken (next : Token → Parser Stmt) (cursor : Cursor)
      (named : cursor.tape.current.kind = .identifier) :
      (Parser.expect .identifier "in declaration" >>= next).run cursor =
        (advance >>= next).run cursor := by
    have ran := run_expect .identifier "in declaration" cursor
    rw [if_pos named] at ran
    rw [Traced.run_bind_ok ran]
    rfl
  unfold Parser.namedDeclaration
  rw [taken _ _ named, taken _ _ named']
  apply advance_bind opened within.step near
  intro name
  apply (specifiers (by decide)).bind
  intro found
  refine seesOneOf_branch (by decide) (commit_bind (variableDecl inner name found false)) ?_
  exact sees_branch (by decide) (functionDecl inner name found) (failWith (by decide))

/-- Where a declaration is given up, both runs go back to the places that they kept. -/
theorem speculate {room : Nat} {first second : Cursor} (within : room ≤ limit + 1)
    (near : Near seam none strict room first second)
    (named : first.tape.current.kind = .identifier) :
    Alike seam none (Near seam none true room)
      ((speculate (Parser.namedDeclaration nested) (Parser.blockOrExpression nested)).run first)
      ((speculate (Parser.namedDeclaration nested') (Parser.blockOrExpression nested')).run
        second) := by
  have marked : Near seam (some (first.tape, second.tape)) strict room first.marked second.marked :=
    ⟨near.joined, rfl, rfl, near.previous, near.room⟩
  have tried := namedDeclaration inner within marked named
  cases ran : (Parser.namedDeclaration nested).run first.marked with
  | mk outcome stop trace =>
    cases ran' : (Parser.namedDeclaration nested').run second.marked with
    | mk outcome' stop' trace' =>
      rw [ran, ran'] at tried
      cases tried with
      | ok reached traces =>
        rw [run_speculate_ok near.mark ran, run_speculate_ok near.mark' ran']
        exact .ok reached traces
      | error joined marks errors traces =>
        rcases marks with ⟨kept, kept'⟩ | ⟨gone, gone'⟩
        · rw [run_speculate_restored near.mark ran kept,
            run_speculate_restored near.mark' ran' kept']
          have back : Near seam none strict room ⟨first.tape, none⟩ ⟨second.tape, none⟩ :=
            ⟨near.joined, rfl, rfl, near.previous, near.room⟩
          apply (blockOrExpression inner within back).behind
          exact traces.append rfl
        · rw [run_speculate_error near.mark ran gone, run_speculate_error near.mark' ran' gone']
          exact .error joined (.inr ⟨gone, gone'⟩) errors traces

theorem declarationOrStatement : Paired seam none none strict (limit + 1)
    (declarationOrStatement nested) (declarationOrStatement nested') := by
  rw [declarationOrStatement_eq, declarationOrStatement_eq]
  refine advanceIf_branch (by decide) ?_ ?_
  · apply (expect (by decide) (by decide)).bind
    intro name
    apply (specifiers (by decide)).bind
    intro found
    exact (variableDecl inner name found true).mono (Nat.le_succ limit)
  · intro room first second within near
    have looks (cursor : Cursor) : looksLikeDeclaration.run cursor =
        ⟨.ok (cursor.tape.current.kind == .identifier &&
          (cursor.tape.next?.map Token.kind).any declarationFollowers.contains), cursor, []⟩ := rfl
    rw [Traced.run_bind_ok (looks first), Traced.run_bind_ok (looks second), Run.behind_nil,
      Run.behind_nil, ← near.joined.next_eq (by decide) (by decide)]
    by_cases declares : (first.tape.current.kind == .identifier &&
        (first.tape.next?.map Token.kind).any declarationFollowers.contains) = true
    · rw [if_pos declares, if_pos declares]
      rw [Bool.and_eq_true, beq_iff_eq] at declares
      exact speculate inner within near declares.1
    · rw [if_neg declares, if_neg declares]
      exact blockOrExpression inner within near

end Expressions
end Paired
end Script.Parser
