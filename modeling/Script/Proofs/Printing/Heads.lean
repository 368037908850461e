import Script.Proofs.Grammar
import Script.Proofs.Printing.Texts
import Script.Proofs.Scanning.Segmentation
import Script.Tree.Printer

set_option autoImplicit false

/- Types, specifiers and parameters are read from their texts as they were. -/
namespace Script

/-- Tokens of a phrase whose value is the expected one, up to what is erased. -/
def Said {α β : Type} (phrase : List Token → α → Prop) (erase : α → β) (expected : β)
    (tokens : List Token) : Prop :=
  ∃ value, phrase tokens value ∧ erase value = expected

/-- Tokens that are all read from a text. -/
abbrev AllGenuine (tokens : List Token) : Prop := ∀ token ∈ tokens, token.Genuine

/-- Places are no part of a token's kind. -/
theorem kind_of_unplaced {first second : Token} (same : first.unplaced = second.unplaced) :
    first.kind = second.kind := by
  have kinds := congrArg Token.kind same
  exact kinds

namespace Token.Genuine

variable {token : Token} (genuine : token.Genuine)
include genuine

/-- The kind of a token and the value that it carries are those that its text spells. -/
theorem spells : Spells token.lexeme.toList token.kind token.literal := by
  obtain ⟨piece, valid, found⟩ := genuine
  obtain ⟨spells, text⟩ := Piece.spells_of_token? valid found
  rwa [text, String.toList_ofList]

theorem kind_ne : token.kind ≠ .endOfFile := by
  intro ends
  have spells := genuine.spells
  generalize token.lexeme.toList = text at spells
  rw [ends] at spells
  cases spells

theorem named (named : token.kind = .identifier) : Printed (Same token) token.lexeme :=
  genuine.printed (by rw [named]; decide)

/-- The name of a token begins with a letter. -/
theorem starts (named : token.kind = .identifier) :
    ∃ head tail, token.lexeme.toList = head :: tail ∧ Piece.isWordStart head = true := by
  have spells := genuine.spells
  generalize token.lexeme.toList = text at spells
  generalize token.literal = literal at spells
  rw [named] at spells
  cases spells with
  | identifier word =>
    obtain ⟨head, tail, rfl, starts, -⟩ := Pattern.mem_one_mul.mp word
    exact ⟨head, tail, rfl, starts⟩

/-- A symbol has one spelling and carries no value. -/
theorem unplaced_of_sign {sign : Symbol} (is : token.kind = .symbol sign) :
    token.unplaced = sign.token := by
  have spells := genuine.spells
  obtain ⟨kind, lexeme, literal, position⟩ := token
  subst is
  generalize spelled : lexeme.toList = text at spells
  cases spells
  rw [String.toList_inj.mp spelled]
  rfl

end Token.Genuine

namespace Grammar

variable {tokens : List Token}

theorem TypeName.printed {name : Token} {optional : Bool} (phrase : TypeName tokens name optional)
    (all : AllGenuine tokens) :
    Printed (Said (TypeName · · optional) Token.unplaced name.unplaced)
      (name.lexeme ++ optionalMark optional) := by
  cases phrase with
  | plain named =>
    rw [optionalMark, if_neg Bool.false_ne_true, String.append_empty]
    refine ((all name List.mem_cons_self).named named).mono ?_
    rintro _ ⟨name', rfl, same⟩
    exact ⟨name', .plain ((kind_of_unplaced same).trans named), same⟩
  | optional named marked =>
    rw [optionalMark, if_pos rfl]
    have marked := Trailing.sign .question fun _ => rfl
    refine (((all name List.mem_cons_self).named named).append marked).mono ?_
    rintro _ ⟨_, _, rfl, ⟨name', rfl, same⟩, mark, rfl, sign⟩
    exact ⟨name', .optional ((kind_of_unplaced same).trans named) (kind_of_unplaced sign), same⟩

theorem TypePhrase.printed {type : TypeExpr} (phrase : TypePhrase tokens type)
    (all : AllGenuine tokens) :
    Printed (Said TypePhrase TypeExpr.unplaced type.unplaced) type.print := by
  induction phrase with
  | named rest =>
    refine (rest.printed all).mono ?_
    rintro tokens ⟨name, phrase, same⟩
    exact ⟨_, .named phrase, by rw [TypeExpr.unplaced, same, TypeExpr.unplaced]⟩
  | array _ _ rest =>
    simp only [List.forall_mem_cons] at all
    have inner := ((rest.printed all.2.2).opened .closeBracket rfl).opened .openBracket rfl
    rw [TypeExpr.print, String.append_assoc, append_split (by decide : "[" ++ "]" = "[]")]
    refine inner.mono ?_
    rintro _ ⟨_, _, rfl, ⟨opening, rfl, opens⟩, _, tokens, rfl, ⟨closing, rfl, closes⟩, name,
      phrase, same⟩
    refine ⟨_, .array (kind_of_unplaced opens) (kind_of_unplaced closes) phrase, ?_⟩
    rw [TypeExpr.unplaced, same, TypeExpr.unplaced]
  | map _ _ _ rest ih =>
    simp only [List.forall_mem_cons, List.forall_mem_append] at all
    have behind := (rest.printed all.2.2.2).behind .closeBracket fun _ => rfl
    have inner := ((ih all.2.1).append behind).opened .openBracket rfl
    rw [TypeExpr.print, String.append_assoc, String.append_assoc, String.append_assoc]
    refine inner.mono ?_
    rintro _ ⟨_, _, rfl, ⟨opening, rfl, opens⟩, keyed, _, rfl, ⟨key, phrase, same⟩, _, tokens, rfl,
      ⟨closing, rfl, closes⟩, name, phrase', same'⟩
    refine ⟨_, .map (kind_of_unplaced opens) phrase (kind_of_unplaced closes) phrase', ?_⟩
    rw [TypeExpr.unplaced, same, same', TypeExpr.unplaced]

/-- The text of a type, which is read as the type. -/
abbrev TypeRead (type : TypeExpr) : Prop :=
  Printed (Said TypePhrase TypeExpr.unplaced type.unplaced) type.print

theorem Separated.forall_mem {α : Type} {item : List Token → α → Prop} {values : List α}
    {holds : α → Prop} (phrase : Separated item tokens values) (all : AllGenuine tokens)
    (each : ∀ {tokens value}, item tokens value → AllGenuine tokens → holds value) :
    ∀ value ∈ values, holds value := by
  induction phrase with
  | one only => exact List.forall_mem_singleton.mpr (each only all)
  | more head _ _ ih =>
    simp only [List.forall_mem_append, List.forall_mem_cons] at all
    exact List.forall_mem_cons.mpr ⟨each head all.1, ih all.2.2⟩

/-- Items with commas between them. -/
theorem Separated.printed {α β : Type} {item : List Token → α → Prop} {erase expected : α → β}
    {print : α → String} {values : List α} (filled : values ≠ [])
    (each : ∀ value ∈ values, Printed (Said item erase (expected value)) (print value)) :
    Printed (Said (Separated item) (List.map erase) (values.map expected))
      (", ".intercalate (values.map print)) := by
  induction values with
  | nil => exact absurd rfl filled
  | cons value rest ih =>
    rw [List.forall_mem_cons] at each
    cases rest with
    | nil =>
      rw [List.map_singleton, List.map_singleton, String.intercalate_singleton]
      refine each.1.mono ?_
      rintro tokens ⟨value', phrase, same⟩
      exact ⟨[value'], .one phrase, by rw [List.map_singleton, same]⟩
    | cons next rest =>
      have comma := Trailing.sign .comma fun _ => rfl
      have behind := comma.append (ih (List.cons_ne_nil _ _) each.2).blank
      have text : ", ".intercalate ((value :: next :: rest).map print) =
          print value ++ ("," ++ (" " ++ ", ".intercalate ((next :: rest).map print))) := by
        rw [List.map_cons, String.intercalate_cons_of_ne_nil (by simp), String.append_assoc,
          append_split (by decide : "," ++ " " = ", ")]
      rw [text]
      refine (each.1.append behind).mono ?_
      rintro _ ⟨first, _, rfl, ⟨value', phrase, same⟩, _, others, rfl, ⟨token, rfl, parts⟩, values',
        phrase', same'⟩
      refine ⟨value' :: values', .more phrase (kind_of_unplaced parts) phrase', ?_⟩
      rw [List.map_cons, same, same']
      rfl

theorem Specifiers.read {types : List TypeExpr} (phrase : Specifiers tokens types)
    (all : AllGenuine tokens) : ∀ type ∈ types, TypeRead type := by
  induction phrase with
  | none => exact List.forall_mem_nil _
  | more _ listed _ _ ih =>
    simp only [List.forall_mem_append, List.forall_mem_cons] at all
    exact List.forall_mem_append.mpr ⟨listed.forall_mem all.2.1 TypePhrase.printed, ih all.2.2.2⟩

/-- Specifiers in brackets of their own are read as specifiers all the same. -/
theorem Specifiers.trailing {types : List TypeExpr} (each : ∀ type ∈ types, TypeRead type) :
    Trailing (Said Specifiers (List.map TypeExpr.unplaced) (types.map TypeExpr.unplaced))
      (printSpecifiers types) := by
  induction types with
  | nil =>
    refine Trailing.empty.mono ?_
    rintro _ rfl
    exact ⟨[], .none, rfl⟩
  | cons type rest ih =>
    rw [List.forall_mem_cons] at each
    have bracketed := (each.1.enclosed .less .greater rfl (fun _ => rfl) fun _ => rfl).2
    have text : printSpecifiers (type :: rest) =
        "<" ++ (type.print ++ ">") ++ printSpecifiers rest := by
      simp only [printSpecifiers, List.map_cons, String.join_cons, String.append_assoc]
    rw [text]
    refine (bracketed.append (ih each.2)).mono ?_
    rintro _ ⟨_, others, rfl, ⟨_, _, rfl, ⟨opening, rfl, opens⟩, inner, _, rfl,
      ⟨type', phrase, same⟩, closing, rfl, closes⟩, types', phrase', same'⟩
    refine ⟨[type'] ++ types', ?_, ?_⟩
    · have whole := Specifiers.more (kind_of_unplaced opens) (.one phrase)
        (kind_of_unplaced closes) phrase'
      simpa using whole
    · rw [List.map_append, List.map_singleton, same, same']
      rfl

theorem ParameterPhrase.printed {parameter : Parameter} (phrase : ParameterPhrase tokens parameter)
    (all : AllGenuine tokens) :
    Printed (Said ParameterPhrase Parameter.unplaced parameter.unplaced) parameter.print := by
  cases phrase with
  | @typed name colon tokens type named _ annotated =>
    simp only [List.forall_mem_cons] at all
    have typing := Symbol.colon.genuine.infixed (annotated.printed all.2.2)
    dsimp only [Parameter.print]
    rw [String.append_assoc, append_spaced (by decide : " " ++ ":" ++ " " = " : ")]
    refine ((all.1.named named).append typing).mono ?_
    rintro _ ⟨_, _, rfl, ⟨name', rfl, same⟩, _, tokens, rfl, ⟨colon, rfl, sign⟩, type', phrase,
      same'⟩
    refine ⟨⟨name', some type'⟩, ?_, ?_⟩
    · exact .typed ((kind_of_unplaced same).trans named) (kind_of_unplaced sign) phrase
    · simp [Parameter.unplaced, same, same']

theorem Parameters.read {parameters : List Parameter} (phrase : Parameters tokens parameters)
    (all : AllGenuine tokens) : ∀ parameter ∈ parameters,
      Printed (Said ParameterPhrase Parameter.unplaced parameter.unplaced) parameter.print := by
  cases phrase with
  | none => exact List.forall_mem_nil _
  | some listed => exact listed.forall_mem all ParameterPhrase.printed

end Grammar
end Script
