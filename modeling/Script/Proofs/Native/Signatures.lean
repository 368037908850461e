import Mathlib.Data.List.Forall2
import Script.Native.Registry
import Script.Proofs.Native.Types

set_option autoImplicit false

/- Calls of host functions and their signatures. A call is refused for the first thing that is wrong
with it, and the standard functions answer every call that is not refused with a value of their
result type. -/
namespace Script

open NativeValue (Of)

namespace Registry

/-- The first argument that is not of its parameter's type, with its index. -/
structure FirstMisfit (arguments : List NativeValue) (parameters : List NativeType) (index : Nat)
    (expected : NativeType) (actual : NativeValue) : Prop where
  argument : arguments[index]? = some actual
  parameter : parameters[index]? = some expected
  misfit : ¬ actual.Of expected
  before : ∀ earlier < index, ∀ value type, arguments[earlier]? = some value →
    parameters[earlier]? = some type → value.Of type

namespace FirstMisfit

variable {argument actual : NativeValue} {arguments : List NativeValue}
  {parameter expected : NativeType} {parameters : List NativeType} {index : Nat}

theorem zero_iff :
    FirstMisfit (argument :: arguments) (parameter :: parameters) 0 expected actual ↔
      argument = actual ∧ parameter = expected ∧ ¬ argument.Of parameter := by
  constructor
  · rintro ⟨⟨⟩, ⟨⟩, misfit, -⟩
    exact ⟨rfl, rfl, misfit⟩
  · rintro ⟨rfl, rfl, misfit⟩
    exact ⟨rfl, rfl, misfit, nofun⟩

theorem succ_iff :
    FirstMisfit (argument :: arguments) (parameter :: parameters) (index + 1) expected actual ↔
      argument.Of parameter ∧ FirstMisfit arguments parameters index expected actual := by
  constructor
  · rintro ⟨found, declared, misfit, before⟩
    refine ⟨before 0 index.succ_pos _ _ rfl rfl, found, declared, misfit, ?_⟩
    intro earlier less value type
    exact before (earlier + 1) (Nat.succ_lt_succ less) value type
  · rintro ⟨fit, found, declared, misfit, before⟩
    refine ⟨found, declared, misfit, ?_⟩
    rintro (_ | earlier) less value type
    · rintro ⟨⟩ ⟨⟩
      exact fit
    · exact before earlier (Nat.lt_of_succ_lt_succ less) value type

end FirstMisfit

variable {arguments : List NativeValue} {parameters : List NativeType} {actual : NativeValue}
  {expected : NativeType}

/-- The search for a misfit finds the first one. -/
theorem firstMisfit?_eq_some {start index : Nat} :
    firstMisfit? start arguments parameters = some (index, expected, actual) ↔
      ∃ offset, index = start + offset ∧
        FirstMisfit arguments parameters offset expected actual := by
  induction arguments generalizing start parameters with
  | nil =>
    refine iff_of_false nofun ?_
    rintro ⟨_, _, ⟨⟩, _⟩
  | cons argument arguments ih =>
    cases parameters with
    | nil =>
      refine iff_of_false nofun ?_
      rintro ⟨_, _, _, ⟨⟩, _⟩
    | cons parameter parameters =>
      by_cases fit : argument.Of parameter
      · rw [firstMisfit?, if_pos (NativeValue.fits_iff.mpr fit), ih]
        constructor
        · rintro ⟨offset, rfl, first⟩
          exact ⟨offset + 1, by omega, FirstMisfit.succ_iff.mpr ⟨fit, first⟩⟩
        · rintro ⟨_ | offset, rfl, first⟩
          · exact absurd fit (FirstMisfit.zero_iff.mp first).2.2
          · exact ⟨offset, by omega, (FirstMisfit.succ_iff.mp first).2⟩
      · rw [firstMisfit?, if_neg (mt NativeValue.fits_iff.mp fit)]
        constructor
        · rintro ⟨⟩
          exact ⟨0, rfl, FirstMisfit.zero_iff.mpr ⟨rfl, rfl, fit⟩⟩
        · rintro ⟨_ | offset, rfl, first⟩
          · obtain ⟨rfl, rfl, -⟩ := FirstMisfit.zero_iff.mp first
            rfl
          · exact absurd (FirstMisfit.succ_iff.mp first).1 fit

/-- The search finds nothing where every argument is of its parameter's type. -/
theorem firstMisfit?_eq_none {start : Nat} (counted : parameters.length = arguments.length) :
    firstMisfit? start arguments parameters = none ↔ List.Forall₂ Of arguments parameters := by
  induction arguments generalizing start parameters with
  | nil =>
    obtain rfl := List.length_eq_zero_iff.mp counted
    exact iff_of_true rfl .nil
  | cons argument arguments ih =>
    cases parameters with
    | nil => cases counted
    | cons parameter parameters =>
      rw [List.forall₂_cons, firstMisfit?]
      by_cases fit : argument.Of parameter
      · rw [if_pos (NativeValue.fits_iff.mpr fit), ih (Nat.succ.inj counted)]
        exact (and_iff_right fit).symm
      · rw [if_neg (mt NativeValue.fits_iff.mp fit)]
        exact iff_of_false nofun fun both => fit both.1

namespace FirstMisfit

theorem unique {index index' : Nat} {expected' : NativeType} {actual' : NativeValue}
    (first : FirstMisfit arguments parameters index expected actual)
    (second : FirstMisfit arguments parameters index' expected' actual') :
    index = index' ∧ expected = expected' ∧ actual = actual' := by
  have found : firstMisfit? 0 arguments parameters = some (index, expected, actual) :=
    firstMisfit?_eq_some.mpr ⟨index, by omega, first⟩
  have found' : firstMisfit? 0 arguments parameters = some (index', expected', actual') :=
    firstMisfit?_eq_some.mpr ⟨index', by omega, second⟩
  simpa using found.symm.trans found'

theorem not_fit {index : Nat} (first : FirstMisfit arguments parameters index expected actual) :
    ¬ List.Forall₂ Of arguments parameters := by
  intro fit
  have found : firstMisfit? 0 arguments parameters = some (index, expected, actual) :=
    firstMisfit?_eq_some.mpr ⟨index, by omega, first⟩
  rw [(firstMisfit?_eq_none fit.length_eq.symm).mpr fit] at found
  cases found

end FirstMisfit

variable {registry : Registry} {name : String}

/-- What a registry makes of a call: it is refused for the first thing that is wrong. -/
inductive Resolves (registry : Registry) (name : String) (arguments : List NativeValue) :
    Except CallError NativeFunction → Prop where
  | unknown (absent : registry.get? name = none) :
      Resolves registry name arguments (.error (.notFound name))
  | miscounted {function : NativeFunction} (found : registry.get? name = some function)
      (counts : function.parameters.length ≠ arguments.length) :
      Resolves registry name arguments
        (.error (.arityMismatch name function.parameters.length arguments.length))
  | mistyped {function : NativeFunction} {index : Nat} {expected : NativeType}
      {actual : NativeValue} (found : registry.get? name = some function)
      (counts : function.parameters.length = arguments.length)
      (first : FirstMisfit arguments function.parameters index expected actual) :
      Resolves registry name arguments
        (.error (.argumentType name index expected actual.typeName))
  | accepted {function : NativeFunction} (found : registry.get? name = some function)
      (fit : List.Forall₂ Of arguments function.parameters) :
      Resolves registry name arguments (.ok function)

theorem resolves (registry : Registry) (name : String) (arguments : List NativeValue) :
    Resolves registry name arguments (registry.resolve name arguments) := by
  rw [resolve]
  cases found : registry.get? name with
  | none => exact .unknown found
  | some function =>
    dsimp only
    split
    · next counts => exact .miscounted found counts
    · next counts =>
      rw [not_not] at counts
      cases searched : firstMisfit? 0 arguments function.parameters with
      | none => exact .accepted found ((firstMisfit?_eq_none counts).mp searched)
      | some misfit =>
        obtain ⟨index, expected, actual⟩ := misfit
        obtain ⟨offset, is, first⟩ := firstMisfit?_eq_some.mp searched
        obtain rfl : index = offset := by omega
        exact .mistyped found counts first

end Registry

/-- A value is what a function of the given result type answers; without one, it is no value. -/
def NativeValue.Answers (value : NativeValue) : Option NativeType → Prop
  | some type => value.Of type
  | none => value = .void

/-- A host function answers arguments of its parameters' types, and with a value of its result
type. -/
def NativeFunction.Sound (function : NativeFunction) : Prop :=
  ∀ arguments, List.Forall₂ Of arguments function.parameters →
    ∃ value, (function.host arguments).result = .ok value ∧ value.Answers function.returns

theorem fit_one_iff {arguments : List NativeValue} {type : NativeType} :
    List.Forall₂ Of arguments [type] ↔ ∃ value, value.Of type ∧ arguments = [value] := by
  simp [List.forall₂_cons_right_iff, List.forall₂_nil_right_iff]

namespace HostFunction

/-- The items of an array of texts are texts. -/
theorem texts_of_strings {items : List NativeValue} (each : ∀ item ∈ items, item.Of .string) :
    ∃ parts, texts items = .ok parts := by
  induction items with
  | nil => exact ⟨[], rfl⟩
  | cons item rest ih =>
    rw [List.forall_mem_cons] at each
    obtain ⟨text, rfl⟩ := each.1.exists_string
    obtain ⟨parts, taken⟩ := ih each.2
    exact ⟨text :: parts, by rw [texts, taken]; rfl⟩

/-- Arguments of the types of a join are an array of texts and a separator. -/
theorem fit_join {arguments : List NativeValue}
    (fit : List.Forall₂ Of arguments [.array .string, .string]) :
    ∃ items separator, arguments = [.array items, .string separator] ∧
      ∀ item ∈ items, item.Of .string := by
  obtain ⟨first, rest, is, behind, rfl⟩ := List.forall₂_cons_right_iff.mp fit
  obtain ⟨items, rfl, each⟩ := is.exists_array
  obtain ⟨second, is', rfl⟩ := fit_one_iff.mp behind
  obtain ⟨separator, rfl⟩ := is'.exists_string
  exact ⟨items, separator, rfl, each⟩

end HostFunction

namespace Registry

/-- The standard functions keep what their signatures promise. -/
theorem standard_sound : ∀ function ∈ standard.functions, function.Sound := by
  simp only [standard, List.forall_mem_cons]
  refine ⟨?print, ?squareRoot, ?join, ?charToText, nofun⟩
  case print =>
    intro arguments fit
    obtain ⟨value, is, rfl⟩ := fit_one_iff.mp fit
    obtain ⟨message, rfl⟩ := is.exists_string
    exact ⟨.void, rfl, rfl⟩
  case squareRoot =>
    intro arguments fit
    obtain ⟨value, is, rfl⟩ := fit_one_iff.mp fit
    obtain ⟨number, rfl⟩ := is.exists_float
    exact ⟨.float number.sqrt, rfl, .float _⟩
  case join =>
    intro arguments fit
    obtain ⟨items, separator, rfl, each⟩ := HostFunction.fit_join fit
    obtain ⟨parts, taken⟩ := HostFunction.texts_of_strings each
    refine ⟨.string (separator.intercalate parts), ?_, .string _⟩
    change (HostFunction.texts items).map _ = _
    rw [taken]
    rfl
  case charToText =>
    intro arguments fit
    obtain ⟨value, is, rfl⟩ := fit_one_iff.mp fit
    obtain ⟨letter, rfl⟩ := is.exists_char
    exact ⟨.string letter.toString, rfl, .string _⟩

/-- Of the standard functions only one prints, and it prints its argument. -/
theorem printed_standard {function : NativeFunction} (known : function ∈ standard.functions)
    {arguments : List NativeValue} (fit : List.Forall₂ Of arguments function.parameters) :
    (function.name = "Print" ∧ ∃ line, arguments = [.string line] ∧
        (function.host arguments).printed = [line]) ∨
      (function.name ≠ "Print" ∧ (function.host arguments).printed = []) := by
  simp only [standard, List.mem_cons, List.not_mem_nil, or_false] at known
  rcases known with rfl | rfl | rfl | rfl
  · obtain ⟨value, is, rfl⟩ := fit_one_iff.mp fit
    obtain ⟨line, rfl⟩ := is.exists_string
    exact .inl ⟨rfl, line, rfl, rfl⟩
  · refine .inr ⟨by decide, ?_⟩
    dsimp only [HostFunction.squareRoot]
    split <;> rfl
  · refine .inr ⟨by decide, ?_⟩
    dsimp only [HostFunction.join]
    split <;> rfl
  · refine .inr ⟨by decide, ?_⟩
    dsimp only [HostFunction.charToText]
    split <;> rfl

end Registry

/-- A call is refused or answered as the signature of the function says: for the number of its
arguments, else for the first argument of a wrong type, and else with a value of the result type. -/
structure Invocation.Meets (called : Invocation) (function : NativeFunction)
    (arguments : List NativeValue) : Prop where
  miscounted :
    called.result = .error
        (.arityMismatch function.name function.parameters.length arguments.length) ↔
      function.parameters.length ≠ arguments.length
  mistyped : ∀ index expected actual,
    called.result = .error (.argumentType function.name index expected actual) ↔
      function.parameters.length = arguments.length ∧
        ∃ argument, Registry.FirstMisfit arguments function.parameters index expected argument ∧
          argument.typeName = actual
  answered :
    (∃ value, called.result = .ok value) ↔ List.Forall₂ Of arguments function.parameters
  typed : ∀ value, called.result = .ok value → value.Answers function.returns

namespace Registry

variable {registry : Registry} {name : String} {arguments : List NativeValue}
  {function : NativeFunction}

theorem name_of_get? (found : registry.get? name = some function) : function.name = name := by
  simpa using List.find?_some found

section Sound

variable (sound : ∀ function ∈ registry.functions, function.Sound)
include sound

/-- A call of sound functions is refused before anything runs, or it is answered. -/
theorem call_cases (name : String) (arguments : List NativeValue) :
    (∃ error, Resolves registry name arguments (.error error) ∧
        registry.call name arguments = ⟨false, [], .error error⟩) ∨
      ∃ function value, registry.get? name = some function ∧
        List.Forall₂ Of arguments function.parameters ∧ value.Answers function.returns ∧
        registry.call name arguments = ⟨true, (function.host arguments).printed, .ok value⟩ := by
  have resolved := resolves registry name arguments
  rw [call]
  generalize registry.resolve name arguments = verdict at resolved
  cases verdict with
  | error error => exact .inl ⟨error, resolved, rfl⟩
  | ok function =>
    cases resolved with
    | accepted found fit =>
      obtain ⟨value, replied, answers⟩ := sound function (List.mem_of_find?_eq_some found) _ fit
      refine .inr ⟨function, value, found, fit, answers, ?_⟩
      dsimp only
      rw [replied]
      rfl

/-- Calls of sound functions meet their signatures. -/
theorem call_meets (found : registry.get? name = some function) (arguments : List NativeValue) :
    (registry.call name arguments).Meets function arguments := by
  obtain rfl := name_of_get? found
  rcases call_cases sound function.name arguments with
    ⟨error, refused, called⟩ | ⟨function', value, found', fit, answers, called⟩
  · rw [called]
    cases refused with
    | unknown absent => cases absent.symm.trans found
    | miscounted found' counts =>
      cases found.symm.trans found'
      exact {
        miscounted := iff_of_true rfl counts
        mistyped := fun _ _ _ => iff_of_false nofun fun both => counts both.1
        answered := iff_of_false nofun fun fit => counts fit.length_eq.symm
        typed := nofun }
    | mistyped found' counts first =>
      cases found.symm.trans found'
      refine {
        miscounted := iff_of_false nofun (not_not.mpr counts)
        mistyped := fun index expected actual => ?_
        answered := iff_of_false nofun first.not_fit
        typed := nofun }
      constructor
      · rintro ⟨⟩
        exact ⟨counts, _, first, rfl⟩
      · rintro ⟨-, argument, first', rfl⟩
        obtain ⟨rfl, rfl, rfl⟩ := first.unique first'
        rfl
  · cases found.symm.trans found'
    rw [called]
    exact {
      miscounted := iff_of_false nofun (not_not.mpr fit.length_eq.symm)
      mistyped := fun _ _ _ => iff_of_false nofun fun ⟨_, _, first, _⟩ => first.not_fit fit
      answered := iff_of_true ⟨value, rfl⟩ fit
      typed := by
        rintro _ ⟨⟩
        exact answers }

theorem call_notFound_iff :
    (registry.call name arguments).result = .error (.notFound name) ↔
      registry.get? name = none := by
  rcases call_cases sound name arguments with
    ⟨error, refused, called⟩ | ⟨function, value, found, -, -, called⟩
  · rw [called]
    cases refused with
    | unknown absent => exact iff_of_true rfl absent
    | miscounted found _ => exact iff_of_false nofun (by rw [found]; nofun)
    | mistyped found _ _ => exact iff_of_false nofun (by rw [found]; nofun)
  · rw [called]
    exact iff_of_false nofun (by rw [found]; nofun)

/-- Sound functions never fall back on a message. -/
theorem call_ne_failed (told message : String) :
    (registry.call name arguments).result ≠ .error (.invocationFailed told message) := by
  rcases call_cases sound name arguments with ⟨error, refused, called⟩ | ⟨_, _, -, -, -, called⟩
  · rw [called]
    cases refused <;> nofun
  · rw [called]
    nofun

end Sound

theorem get?_standard_eq_none :
    standard.get? name = none ↔ name ∉ ["Print", "Sqrt", "Join", "ToString"] := by
  rw [get?, List.find?_eq_none]
  simp [standard, @eq_comm _ name]

/-- The standard functions have different names. -/
theorem get?_of_mem_standard :
    ∀ function ∈ standard.functions, standard.get? function.name = some function := by
  simp only [standard, List.forall_mem_cons]
  exact ⟨rfl, rfl, rfl, rfl, nofun⟩

/-- The standard functions are what their signatures say. A name that is none of theirs is unknown;
a call of one of them is refused for the number of its arguments, else for the first argument of a
wrong type, and else it is answered with a value of the result type. The host never falls back on a
message, and a line is printed exactly by the calls of `Print` that are answered. -/
theorem standard_signatures_sound (name : String) (arguments : List NativeValue) :
    let called := standard.call name arguments
    (called.result = .error (.notFound name) ↔ name ∉ ["Print", "Sqrt", "Join", "ToString"]) ∧
      (∀ function ∈ standard.functions, function.name = name →
        called.Meets function arguments) ∧
      (∀ told message, called.result ≠ .error (.invocationFailed told message)) ∧
      (∀ line, called.printed = [line] ↔ name = "Print" ∧ arguments = [.string line]) ∧
      (called.printed ≠ [] ↔ name = "Print" ∧ ∃ value, called.result = .ok value) := by
  dsimp only
  refine ⟨(call_notFound_iff standard_sound).trans get?_standard_eq_none, ?_,
    call_ne_failed standard_sound, ?_⟩
  · rintro function known rfl
    exact call_meets standard_sound (get?_of_mem_standard function known) arguments
  rcases call_cases standard_sound name arguments with
    ⟨error, -, called⟩ | ⟨function, value, found, fit, -, called⟩
  · rw [called]
    constructor
    · intro line
      refine iff_of_false nofun ?_
      rintro ⟨rfl, rfl⟩
      cases called
    · exact iff_of_false (not_not.mpr rfl) (by simp)
  · rw [called]
    obtain rfl := name_of_get? found
    dsimp only
    rcases printed_standard (List.mem_of_find?_eq_some found) fit with
      ⟨print, line, rfl, printed⟩ | ⟨other, printed⟩
    · rw [printed]
      simp [print]
    · rw [printed]
      exact ⟨fun _ => iff_of_false nofun fun both => other both.1,
        iff_of_false (not_not.mpr rfl) fun both => other both.1⟩

/-- A join of an array that holds a number, which is not an array of texts. -/
theorem standard_signatures_sound_mixed :
    let arguments := [NativeValue.array [.string "a", .int 1], .string ","]
    (standard.call "Join" arguments).result =
        .error (.argumentType "Join" 0 (.array .string) "[]String") ∧
      ¬ (standard.call "Join" arguments).printed ≠ [] := by
  intro arguments
  obtain ⟨-, meets, -, -, prints⟩ := standard_signatures_sound "Join" arguments
  have misfit : ¬ (NativeValue.array [.string "a", .int 1]).Of (.array .string) := by
    rw [← NativeValue.fits_iff]
    decide
  constructor
  · have join := meets _ (List.mem_of_getElem? (i := 2) rfl) rfl
    exact (join.mistyped _ _ _).mpr ⟨rfl, _, FirstMisfit.zero_iff.mpr ⟨rfl, rfl, misfit⟩, rfl⟩
  · rw [prints]
    exact fun both => absurd both.1 (by decide)

end Registry
end Script
