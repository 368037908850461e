import Script.Proofs.Templates.Marks

set_option autoImplicit false

/- Marks replaced one after the other, each in all that the rounds before have left. What is written
for a mark can hold marks of later rounds, but makes none up together with what stands around it. -/
namespace Script.Template

/-- A character that no mark holds. -/
def Foreign (char : Char) : Prop := ∀ mark : Mark, char ∉ mark.letters

/-- What stands for a mark: a text without braces and with a character that no mark holds, or one
that begins and ends with such characters. Neither can be a part of a mark, nor make one up together
with what stands around it. -/
inductive Shown : List Char → Prop where
  | word {text : List Char} {char : Char} (unopened : '\x7b' ∉ text) (unclosed : '\x7d' ∉ text)
      (held : char ∈ text) (foreign : Foreign char) : Shown text
  | quoted {first last : Char} {inner : List Char} (opens : Foreign first)
      (closes : Foreign last) : Shown (first :: (inner ++ [last]))

/-- A text that takes no part in marks around it. -/
structure Settled (text : List Char) : Prop where
  front : ∀ (mark : Mark) (rest : List Char), rest ≠ [] → rest <:+ mark.letters.tail →
    ¬ rest <+: text ∧ ¬ text <+: rest
  back : ∀ (mark : Mark) (before behind : List Char), before ≠ [] → behind ≠ [] →
    before ++ behind = mark.letters → ¬ before <:+ text

theorem Settled.letters (mark : Mark) : Settled mark.letters := by
  constructor
  · intro other rest some ends
    have unopened := unopened_of_ending ends
    refine ⟨fun begins => unopened (opened_of_beginning some begins), fun begins => unopened ?_⟩
    apply begins.subset
    rw [letters_eq]
    exact List.mem_cons_self
  · intro other before behind some more whole ends
    exact unclosed_of_beginning more whole (closed_of_ending some ends)

theorem Shown.settled {text : List Char} (shown : Shown text) : Settled text := by
  cases shown with
  | word unopened unclosed held foreign =>
    constructor
    · intro mark rest some ends
      have within : rest <:+ mark.letters := ends.trans (List.tail_suffix _)
      refine ⟨fun begins => unclosed (begins.subset (closed_of_ending some within)), ?_⟩
      exact fun begins => foreign mark (within.subset (begins.subset held))
    · intro mark before behind some more whole ends
      exact unopened (ends.subset (opened_of_beginning some ⟨behind, whole⟩))
  | @quoted first last inner opens closes =>
    constructor
    · intro mark rest some ends
      have within : rest <:+ mark.letters := ends.trans (List.tail_suffix _)
      refine ⟨fun begins => ?_, fun begins => ?_⟩
      · obtain ⟨rest, rfl, -⟩ := (List.prefix_cons_iff.mp begins).resolve_left some
        exact opens mark (within.subset List.mem_cons_self)
      · exact opens mark (within.subset (begins.subset List.mem_cons_self))
    · intro mark before behind some more whole ends
      rw [← List.cons_append, List.suffix_concat_iff] at ends
      obtain ⟨rest, rfl, -⟩ := ends.resolve_left some
      apply closes mark
      rw [← whole]
      exact List.mem_append_left _ (List.mem_append_right _ (List.mem_singleton_self _))

/-- A text that begins otherwise than a mark. -/
def Unlike (text : List Char) : Prop := ∃ first rest, text = first :: rest ∧ first ≠ '\x7b'

theorem Shown.unlike {text : List Char} (shown : Shown text) : Unlike text := by
  cases shown with
  | word unopened _ held _ =>
    obtain ⟨first, rest, rfl⟩ := List.exists_cons_of_ne_nil (List.ne_nil_of_mem held)
    exact ⟨first, rest, rfl, fun opens => unopened (opens ▸ List.mem_cons_self)⟩
  | quoted opens _ =>
    refine ⟨_, _, rfl, ?_⟩
    rintro rfl
    exact opens .current (by decide)

section Filling

variable {rendering other : Mark → List Char}

/-- A mark's end begins a text that is filled in only if it begins the text. -/
theorem prefix_of_prefix_fillFrom (settled : ∀ mark, Settled (rendering mark)) {mark : Mark}
    {rest text : List Char} (ends : rest <:+ mark.letters.tail)
    (begins : rest <+: fillFrom rendering 0 text) : rest <+: text := by
  induction text using reading generalizing rest with
  | nil => exact begins
  | mark begun behind ih =>
    rw [fillFrom_mark] at begins
    by_cases some : rest = []
    · exact some ▸ List.nil_prefix
    · obtain ⟨apart, apart'⟩ := (settled begun).front mark rest some ends
      rcases List.prefix_or_prefix_of_prefix begins (List.prefix_append _ _) with inside | inside
      · exact absurd inside apart
      · exact absurd inside apart'
  | char char behind none ih =>
    rw [fillFrom_char none] at begins
    cases rest with
    | nil => exact List.nil_prefix
    | cons first rest =>
      rw [List.cons_prefix_cons] at begins ⊢
      exact ⟨begins.1, ih ((List.suffix_cons first rest).trans ends) begins.2⟩

/-- What has been filled in is filled in again mark by mark. -/
theorem fillFrom_fillFrom (settled : ∀ mark, Settled (rendering mark)) (text : List Char) :
    fillFrom other 0 (fillFrom rendering 0 text) =
      fillFrom (fun mark => fillFrom other 0 (rendering mark)) 0 text := by
  induction text using reading with
  | nil => rfl
  | mark mark rest ih =>
    rw [fillFrom_mark, fillFrom_mark, fillFrom_append, ih]
    intro mark' before behind some more whole ends
    exact absurd ends ((settled mark).back mark' before behind some more whole)
  | char char rest none ih =>
    have none' : mark? (char :: fillFrom rendering 0 rest) = Option.none := by
      rw [mark?_eq_none] at none ⊢
      intro mark begins
      apply none mark
      rw [letters_eq, List.cons_prefix_cons] at begins ⊢
      exact ⟨begins.1, prefix_of_prefix_fillFrom settled List.suffix_rfl begins.2⟩
    rw [fillFrom_char none, fillFrom_char none, fillFrom_char none', ih]

theorem Unlike.fillFrom {text : List Char} (unlike : Unlike text) :
    Unlike (fillFrom rendering 0 text) := by
  obtain ⟨first, rest, rfl, differs⟩ := unlike
  have none : mark? (first :: rest) = none := by
    rw [mark?_eq_none]
    intro mark begins
    rw [letters_eq] at begins
    exact differs (List.cons_prefix_cons.mp begins).1.symm
  exact ⟨first, _, fillFrom_char none, differs⟩

/-- A text stays as it is if the marks that it holds stand for themselves. -/
theorem fillFrom_eq_self {text : List Char}
    (same : ∀ mark : Mark, mark.letters <:+: text → rendering mark = mark.letters) :
    fillFrom rendering 0 text = text :=
  (fillFrom_congr same).trans (fillFrom_letters text)

/-- A mark that stands for a text that begins otherwise changes the text that it is in. -/
theorem same_of_fillFrom_append
    (alike : ∀ mark : Mark, rendering mark = mark.letters ∨ Unlike (rendering mark))
    {text behind behind' : List Char}
    (same : fillFrom rendering 0 text ++ behind = text ++ behind') :
    ∀ mark : Mark, mark.letters <:+: text → rendering mark = mark.letters := by
  induction text using reading with
  | nil => exact fun mark held => absurd held not_held_nil
  | mark begun rest ih =>
    rw [fillFrom_mark, List.append_assoc, List.append_assoc] at same
    rcases alike begun with stays | ⟨first, others, spelled, differs⟩
    · rw [stays, List.append_cancel_left_eq] at same
      intro mark held
      rcases held_mark held with rfl | held
      · exact stays
      · exact ih same mark held
    · rw [spelled, letters_eq, List.cons_append, List.cons_append, List.cons.injEq] at same
      exact absurd same.1 differs
  | char char rest none ih =>
    rw [fillFrom_char none, List.cons_append, List.cons_append, List.cons.injEq] at same
    exact fun mark held => ih same.2 mark (held_char none held)

end Filling

/-- One mark written as what it stands for, and the other ones as they are. -/
def only (rendering : Mark → List Char) (mark : Mark) : Mark → List Char :=
  Function.update Mark.letters mark (rendering mark)

/-- What the marks stand for within a text that has been written for a mark. -/
def within (rendering : Mark → List Char) : Mark → Mark → List Char
  | .next => fun mark => fillFrom (only rendering .current) 0 (only rendering .previous mark)
  | .previous => only rendering .current
  | .current => Mark.letters

section Within

variable {rendering : Mark → List Char} (shown : ∀ mark, Shown (rendering mark))
include shown

theorem only_settled (mark inner : Mark) : Settled (only rendering mark inner) := by
  rw [only, Function.update_apply]
  split
  · exact (shown mark).settled
  · exact .letters inner

/-- Replacing the marks one after the other fills in the template once with what stands for the
marks after the later ones have been replaced in it. -/
theorem fillFrom_thrice (text : List Char) :
    fillFrom (only rendering .current) 0
        (fillFrom (only rendering .previous) 0 (fillFrom (only rendering .next) 0 text)) =
      fillFrom (fun mark => fillFrom (within rendering mark) 0 (rendering mark)) 0 text := by
  rw [fillFrom_fillFrom (only_settled shown .previous),
    fillFrom_fillFrom (only_settled shown .next)]
  congr 1
  funext mark
  cases mark with
  | next => rfl
  | previous =>
    change fillFrom (within rendering .next) 0 Mark.previous.letters = _
    rw [fillFrom_alone]
    rfl
  | current =>
    change fillFrom (within rendering .next) 0 Mark.current.letters = _
    rw [fillFrom_alone]
    change fillFrom (only rendering .current) 0 Mark.current.letters =
      fillFrom Mark.letters 0 (rendering .current)
    rw [fillFrom_alone, fillFrom_letters]
    rfl

theorem within_later {mark inner : Mark} (later : inner ∈ mark.later) :
    Unlike (within rendering mark inner) := by
  cases mark with
  | next =>
    simp only [Mark.later, List.mem_cons, List.not_mem_nil, or_false] at later
    rcases later with rfl | rfl
    · exact (shown .previous).unlike.fillFrom
    · change Unlike (fillFrom (only rendering .current) 0 Mark.current.letters)
      rw [fillFrom_alone]
      exact (shown .current).unlike
  | previous =>
    obtain rfl := List.mem_singleton.mp later
    exact (shown .current).unlike
  | current => cases later

end Within

theorem within_eq {rendering : Mark → List Char} {mark inner : Mark} (kept : inner ∉ mark.later) :
    within rendering mark inner = inner.letters := by
  cases mark with
  | next =>
    cases inner with
    | next =>
      change fillFrom (only rendering .current) 0 Mark.next.letters = _
      rw [fillFrom_alone]
      rfl
    | _ => exact absurd (by decide) kept
  | previous =>
    cases inner with
    | current => exact absurd (by decide) kept
    | _ => rfl
  | current => rfl

/-- Replacing the marks one after the other comes to the same as replacing them at once exactly if
nothing that is written for a mark of the template holds a mark that is replaced later. -/
theorem fillFrom_within_eq_iff {rendering : Mark → List Char}
    (shown : ∀ mark, Shown (rendering mark)) (text : List Char) :
    fillFrom (fun mark => fillFrom (within rendering mark) 0 (rendering mark)) 0 text =
        fillFrom rendering 0 text ↔
      ∀ mark : Mark, mark.letters <:+: text → ∀ inner ∈ mark.later,
        ¬ inner.letters <:+: rendering mark := by
  have stays {mark : Mark} (free : ∀ inner ∈ mark.later, ¬ inner.letters <:+: rendering mark) :
      fillFrom (within rendering mark) 0 (rendering mark) = rendering mark :=
    fillFrom_eq_self fun inner held => within_eq fun later => free inner later held
  constructor
  · intro same
    induction text using reading with
    | nil => exact fun mark held => absurd held not_held_nil
    | mark begun rest ih =>
      rw [fillFrom_mark, fillFrom_mark] at same
      have free : ∀ inner ∈ begun.later, ¬ inner.letters <:+: rendering begun := by
        intro inner later held
        have unchanged := same_of_fillFrom_append (fun inner => ?_) same inner held
        · obtain ⟨first, others, spelled, differs⟩ := within_later shown later
          rw [spelled, letters_eq, List.cons.injEq] at unchanged
          exact differs unchanged.1
        · by_cases later : inner ∈ begun.later
          · exact .inr (within_later shown later)
          · exact .inl (within_eq later)
      rw [stays free, List.append_cancel_left_eq] at same
      intro mark held
      rcases held_mark held with rfl | held
      · exact free
      · exact ih same mark held
    | char char rest none ih =>
      rw [fillFrom_char none, fillFrom_char none, List.cons.injEq] at same
      exact fun mark held => ih same.2 mark (held_char none held)
  · exact fun free => fillFrom_congr fun mark held => stays (free mark held)

end Script.Template
