import Mathlib.Data.List.Forall2
import Script.Proofs.Parsing.Steps
import Script.Proofs.Text.Replacing

set_option autoImplicit false

/- Two runs side by side, over tokens that agree up to a place where a statement has to end: there
one run comes to the end of file, and the other to the end of a line or to the end of file of a
longer text. No rule within a statement can tell the difference, so the runs read the same trees,
and their errors differ only where they name the token at that place. -/
namespace Script

namespace Parser

open Token (Kind)

/-- A template with the previous and the current token filled in. -/
def fill (template : String) (previous : Option Token) (current : Token) : String :=
  let described := (previous.map Token.describe).getD "start of file"
  Text.replaceAll (Text.replaceAll template "\x7bpeekPrev\x7d" described) "\x7bpeek\x7d"
    current.describe

/-- A template that does not ask for the next token is filled in without it. -/
theorem message_eq_fill {template : String} (plain : 'N' ∉ template.toList) (cursor : Cursor) :
    cursor.message template = fill template cursor.tape.previous? cursor.tape.current := by
  unfold Cursor.message fill
  dsimp only
  rw [Text.replaceAll_of_not_mem (by decide) plain]

/-- A template that does not ask for the previous token either depends on the current one alone. -/
theorem fill_eq {template : String} (plain : 'P' ∉ template.toList) (previous other : Option Token)
    (current : Token) : fill template previous current = fill template other current := by
  simp only [fill,
    Text.replaceAll_of_not_mem (show 'P' ∈ "\x7bpeekPrev\x7d".toList by decide) plain]

/-- The same error, reported at one token instead of another. -/
inductive Displaced (here there : Token) : Error → Error → Prop where
  | message (template : String) (previous : Option Token) :
      Displaced here there
        { cause := .unexpectedToken (fill template previous here), position := here.position }
        { cause := .unexpectedToken (fill template previous there), position := there.position }
  | cause (cause : Error.Cause) :
      Displaced here there { cause, position := here.position }
        { cause, position := there.position }

theorem Displaced.eq {token : Token} {error error' : Error}
    (displaced : Displaced token token error error') : error = error' := by
  cases displaced <;> rfl

theorem Displaced.name_eq {here there : Token} {error error' : Error}
    (displaced : Displaced here there error error') : error'.cause.name = error.cause.name := by
  cases displaced with
  | message template previous => simp only [Error.Cause.name]
  | cause cause => rfl

/-- The place up to which two tapes agree. There the shorter tape ends; the longer one ends too, or
it comes to a token at which a statement ends. -/
structure Seam where
  /-- The end of the shorter tape. -/
  eof : Token
  /-- What the longer tape has ahead at the seam. -/
  extra : List Token
  /-- The end of the longer tape. -/
  finish : Token
  eof_kind : eof.kind = .endOfFile
  stop_kind : (extra.headD finish).kind ∈ statementEnds
  finish_eq : extra = [] → finish = eof

/-- What the longer tape comes to at the seam. -/
def Seam.stop (seam : Seam) : Token := seam.extra.headD seam.finish

/-- Tapes that agree up to a seam. Where the longer one goes on behind it, no brace opens before. -/
structure Joined (seam : Seam) (first second : Tape) : Prop where
  ahead : second.ahead = first.ahead ++ seam.extra
  eof : first.finish = seam.eof
  finish : second.finish = seam.finish
  flat : seam.extra = [] ∨ ∀ token ∈ first.ahead, token.kind ≠ .symbol .openCurly

namespace Joined

variable {seam : Seam} {first second : Tape} (joined : Joined seam first second)
include joined

/-- A brace opens before the seam only if nothing stands behind the seam. -/
theorem whole_of_brace (found : first.current.kind = .symbol .openCurly) : seam.extra = [] := by
  have member : first.current ∈ first.ahead := by
    rw [Tape.ahead_of_current (by rw [found]; decide)]
    exact List.mem_cons_self
  exact joined.flat.resolve_right fun flat => flat _ member found

/-- At the seam the tapes come to different tokens, and before it to the same one. -/
theorem current : first.ahead = [] ∧ first.current = seam.eof ∧ second.current = seam.stop ∨
    first.ahead ≠ [] ∧ second.current = first.current := by
  cases shape : first.ahead with
  | nil =>
    refine .inl ⟨rfl, (Tape.current_of_nil shape).trans joined.eof, ?_⟩
    rw [Tape.current, joined.ahead, shape, joined.finish]
    rfl
  | cons token rest =>
    refine .inr ⟨by simp, ?_⟩
    rw [Tape.current_of_cons shape, Tape.current, joined.ahead, shape]
    rfl

theorem current_eq (opened : first.ahead ≠ []) : second.current = first.current :=
  (joined.current.resolve_left fun ended => opened ended.1).2

/-- No token at the seam is of a kind within a statement. -/
theorem kind_iff {kind : Kind} (other : kind ∉ statementEnds) :
    first.current.kind = kind ↔ second.current.kind = kind := by
  rcases joined.current with ⟨-, eof, stop⟩ | ⟨-, same⟩
  · rw [eof, stop, seam.eof_kind]
    constructor
    · rintro rfl
      exact absurd (by decide) other
    · rintro rfl
      exact absurd seam.stop_kind other
  · rw [same]

theorem contains_eq {kinds : List Kind} (others : ∀ kind ∈ kinds, kind ∉ statementEnds) :
    kinds.contains first.current.kind = kinds.contains second.current.kind := by
  have same : first.current.kind ∈ kinds ↔ second.current.kind ∈ kinds := by
    constructor
    · intro member
      exact (joined.kind_iff (others _ member)).mp rfl ▸ member
    · intro member
      exact (joined.kind_iff (others _ member)).mpr rfl ▸ member
  simp only [List.contains_eq_mem, same]

theorem move {count : Nat} (within : count ≤ first.ahead.length) :
    Joined seam (first.move count) (second.move count) where
  ahead := by
    rw [Tape.ahead_move, Tape.ahead_move, joined.ahead, List.drop_append_of_le_length within]
  eof := joined.eof
  finish := joined.finish
  flat := joined.flat.imp_right fun flat token member => flat token (List.mem_of_mem_drop member)

theorem advance (opened : first.ahead ≠ []) : Joined seam first.advance second.advance :=
  joined.move (List.length_pos_iff.mpr opened)

omit joined in
/-- Before the seam a failure that describes the current token alone is the same. -/
theorem error_eq {first second : Cursor} {template : String}
    (joined : Joined seam first.tape second.tape) (opened : first.tape.ahead ≠ [])
    (plain : 'N' ∉ template.toList) (alone : 'P' ∉ template.toList) :
    first.error template = second.error template := by
  simp only [Cursor.error, Cursor.errorOf, message_eq_fill plain, joined.current_eq opened]
  rw [fill_eq alone]

/-- A word within a statement is followed by the same token on both tapes, or by the seam. -/
theorem next_eq {kind : Kind} {kinds : List Kind} (word : kind ∉ statementEnds)
    (others : ∀ kind ∈ kinds, kind ∉ statementEnds) :
    (first.current.kind == kind && (first.next?.map Token.kind).any kinds.contains) =
      (second.current.kind == kind && (second.next?.map Token.kind).any kinds.contains) := by
  by_cases found : first.current.kind = kind
  · have opened : first.ahead ≠ [] := Tape.ahead_ne_nil fun ended =>
      word (found ▸ ended ▸ by decide)
    have opened' : second.ahead ≠ [] := by simp [joined.ahead, opened]
    rw [found, (joined.kind_iff word).mp found, Tape.next?_eq opened, Tape.next?_eq opened']
    simp only [Option.map_some, Option.any_some, (joined.advance opened).contains_eq others]
  · have found' : second.current.kind ≠ kind := mt (joined.kind_iff word).mpr found
    rw [beq_eq_false_iff_ne.mpr found, beq_eq_false_iff_ne.mpr found', Bool.false_and,
      Bool.false_and]

/-- Tapes that have moved and agree again have passed the same tokens. -/
theorem previous_of_moves {more more' : Nat} (same : first.previous? = second.previous?)
    (moved : Joined seam (first.move more) (second.move more')) :
    (first.move more).previous? = (second.move more').previous? := by
  rw [← Tape.move_length_take first more, ← Tape.move_length_take second more'] at *
  have within : (first.ahead.take more).length ≤ first.ahead.length := List.length_take_le' _ _
  have within' : (second.ahead.take more').length ≤ second.ahead.length := List.length_take_le' _ _
  generalize (first.ahead.take more).length = count at *
  generalize (second.ahead.take more').length = count' at *
  have lengths := congrArg List.length joined.ahead
  have lengths' := congrArg List.length moved.ahead
  simp only [Tape.ahead_move, List.length_append, List.length_drop] at lengths lengths'
  obtain rfl : count' = count := by omega
  have passed : second.ahead.take count' = first.ahead.take count' := by
    rw [joined.ahead, List.take_append_of_le_length within]
  simp only [Tape.previous?, Tape.move, List.head?_append, passed] at same ⊢
  rw [same]

end Joined

/-- Two cursors whose tapes agree up to a seam, with the same or corresponding places kept. If they
are strictly near, they have passed the same token; the limit bounds the tokens up to the seam. -/
structure Near (seam : Seam) (kept : Option (Tape × Tape)) (strict : Bool) (limit : Nat)
    (first second : Cursor) : Prop where
  joined : Joined seam first.tape second.tape
  mark : first.mark = kept.map Prod.fst
  mark' : second.mark = kept.map Prod.snd
  previous : strict = true → first.tape.previous? = second.tape.previous?
  room : first.tape.ahead.length ≤ limit

namespace Near

variable {seam : Seam} {kept : Option (Tape × Tape)} {strict : Bool} {limit more : Nat}
  {first second : Cursor}

theorem mono (near : Near seam kept strict limit first second) (less : limit ≤ more) :
    Near seam kept strict more first second :=
  { near with room := Nat.le_trans near.room less }

theorem advance (near : Near seam kept strict (limit + 1) first second)
    (opened : first.tape.ahead ≠ []) :
    Near seam kept true limit first.advance second.advance where
  joined := near.joined.advance opened
  mark := near.mark
  mark' := near.mark'
  previous _ := by
    have opened' : second.tape.ahead ≠ [] := by simp [near.joined.ahead, opened]
    simp only [Cursor.advance, Tape.previous?_advance opened, Tape.previous?_advance opened',
      near.joined.current_eq opened]
  room := by
    have room := near.room
    simp only [Cursor.advance, Tape.advance, Tape.ahead_move, List.length_drop]
    omega

theorem unmarked (near : Near seam kept strict limit first second) :
    Near seam none strict limit first.unmarked second.unmarked :=
  ⟨near.joined, rfl, rfl, near.previous, near.room⟩

end Near

/-- The traces record the same errors. -/
def Echoes (trace trace' : List Event) : Prop :=
  trace.filterMap Event.recorded? = trace'.filterMap Event.recorded?

theorem Echoes.append {first second first' second' : List Event} (before : Echoes first first')
    (behind : Echoes second second') : Echoes (first ++ second) (first' ++ second') := by
  unfold Echoes at *
  rw [List.filterMap_append, List.filterMap_append, before, behind]

/-- Two runs that end alike: both with the same value and as the postcondition says, or both with
the same error at corresponding places. An error at the seam names the token that is there. -/
inductive Alike {α : Type} (seam : Seam) (kept : Option (Tape × Tape))
    (post : Cursor → Cursor → Prop) :
    Run Cursor Event Error α → Run Cursor Event Error α → Prop where
  | ok {value : α} {first second : Cursor} {trace trace' : List Event}
      (reached : post first second) (traces : Echoes trace trace') :
      Alike seam kept post ⟨.ok value, first, trace⟩ ⟨.ok value, second, trace'⟩
  | error {error error' : Error} {first second : Cursor} {trace trace' : List Event}
      (joined : Joined seam first.tape second.tape)
      (marks : first.mark = kept.map Prod.fst ∧ second.mark = kept.map Prod.snd ∨
        first.mark = none ∧ second.mark = none)
      (errors : error = error' ∨
        first.tape.ahead = [] ∧ Displaced seam.eof seam.stop error error')
      (traces : Echoes trace trace') :
      Alike seam kept post ⟨.error error, first, trace⟩ ⟨.error error', second, trace'⟩

namespace Alike

variable {α β : Type} {seam : Seam} {kept : Option (Tape × Tape)}
  {middle post : Cursor → Cursor → Prop} {first second : Cursor}

theorem imp {done done' : Run Cursor Event Error α} (alike : Alike seam kept middle done done')
    (weaker : ∀ {first second}, middle first second → post first second) :
    Alike seam kept post done done' := by
  cases alike with
  | ok reached traces => exact .ok (weaker reached) traces
  | error joined marks errors traces => exact .error joined marks errors traces

/-- Behind the point where the kept place is given up, none is kept. -/
theorem given_up {done done' : Run Cursor Event Error α} (alike : Alike seam none post done done') :
    Alike seam kept post done done' := by
  cases alike with
  | ok reached traces => exact .ok reached traces
  | error joined marks errors traces => exact .error joined (.inr (marks.elim id id)) errors traces

theorem behind {done done' : Run Cursor Event Error α} {trace trace' : List Event}
    (alike : Alike seam kept post done done') (traces : Echoes trace trace') :
    Alike seam kept post (done.behind trace) (done'.behind trace') := by
  cases alike with
  | ok reached traces' => exact .ok reached (traces.append traces')
  | error joined marks errors traces' => exact .error joined marks errors (traces.append traces')

theorem bind {parser parser' : Parser α} {next next' : α → Parser β}
    (before : Alike seam kept middle (parser.run first) (parser'.run second))
    (behind : ∀ value {first second}, middle first second →
      Alike seam kept post ((next value).run first) ((next' value).run second)) :
    Alike seam kept post ((parser >>= next).run first) ((parser' >>= next').run second) := by
  cases ran : parser.run first with
  | mk outcome reached trace =>
    cases ran' : parser'.run second with
    | mk outcome' reached' trace' =>
      rw [ran, ran'] at before
      cases before with
      | ok arrived traces =>
        rw [Traced.run_bind_ok ran, Traced.run_bind_ok ran']
        exact (behind _ arrived).behind traces
      | error joined marks errors traces =>
        rw [Traced.run_bind_error ran, Traced.run_bind_error ran']
        exact .error joined marks errors traces

end Alike

/-- A description has no letter of the marks in a template. -/
theorem describe_plain (kind : Kind) : 'N' ∉ kind.describe.toList := by
  cases kind with
  | symbol sign => cases sign <;> decide
  | keyword word => cases word <;> decide
  | _ => decide

theorem missing_plain (kind : Kind) {context : String} (plain : 'N' ∉ context.toList) :
    'N' ∉ (missing kind context).toList := by
  simp only [missing, String.toList_append, List.mem_append, not_or]
  exact ⟨⟨⟨⟨by decide, describe_plain kind⟩, by decide⟩, plain⟩, by decide⟩

end Parser
end Script
