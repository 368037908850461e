import Script.Proofs.Native.Signatures

set_option autoImplicit false

/- The two types that a refused argument is told with. The check of a value looks at all items of an
array, the name of its type at the first one alone; where the items of every array are alike, the
two agree, and the argument's type is another one than the parameter's. -/
namespace Script

namespace NativeType

/-- Brackets stand before the names of array types alone. -/
theorem brackets_ne {text other : String} (plain : other.toList.head? ≠ some '[') :
    "[]" ++ text ≠ other := by
  rintro rfl
  rw [String.toList_append] at plain
  exact plain rfl

/-- No two types have one name. -/
theorem text_injective {first second : NativeType} (same : first.text = second.text) :
    first = second := by
  induction first generalizing second with
  | array element ih =>
    cases second with
    | array element' => rw [ih ((String.append_right_inj "[]").mp same)]
    | _ => exact absurd same (brackets_ne (by decide))
  | _ =>
    cases second with
    | array element' => exact absurd same.symm (brackets_ne (by decide))
    | _ =>
      first
        | rfl
        | exact absurd same (by decide)

/-- Every type has a name, so brackets alone name none. -/
theorem text_ne_brackets (type : NativeType) : type.text ≠ "[]" := by
  cases type with
  | array element =>
    intro same
    have blank : element.text = "" := (String.append_right_inj "[]").mp same
    cases element with
    | array _ => exact brackets_ne (by decide) blank
    | _ => exact absurd blank (by decide)
  | _ => decide

end NativeType

namespace NativeValue

/-- A value leads with a type: it is of the type itself, or it is an array whose first item leads
with the type of the elements. -/
inductive LeadsWith : NativeValue → NativeType → Prop where
  | whole {value : NativeValue} {type : NativeType} (single : ∀ items, value ≠ .array items)
      (is : value.Of type) : LeadsWith value type
  | first {item : NativeValue} {rest : List NativeValue} {element : NativeType}
      (leads : LeadsWith item element) : LeadsWith (.array (item :: rest)) (.array element)

/-- The name of a value's type is that of the type it leads with. -/
theorem LeadsWith.typeName {value : NativeValue} {type : NativeType}
    (leads : value.LeadsWith type) : value.typeName = type.text := by
  induction leads with
  | whole single is =>
    cases is with
    | array _ => exact absurd rfl (single _)
    | _ => rfl
  | first _ ih => rw [NativeValue.typeName, NativeType.text, ih]

/-- A value that is no array is named after its own type only. -/
theorem leadsWith_of_own {value : NativeValue} {own type : NativeType}
    (single : ∀ items, value ≠ .array items) (is : value.Of own)
    (named : value.typeName = type.text) : value.LeadsWith type := by
  have leads : value.LeadsWith own := .whole single is
  obtain rfl : own = type := NativeType.text_injective (leads.typeName.symm.trans named)
  exact leads

theorem leadsWith_of_typeName {value : NativeValue} {type : NativeType}
    (named : value.typeName = type.text) : value.LeadsWith type := by
  induction type generalizing value with
  | array element ih =>
    cases value with
    | array items =>
      cases items with
      | nil => exact absurd named.symm (NativeType.text_ne_brackets _)
      | cons item rest =>
        exact .first (ih ((String.append_right_inj "[]").mp named))
    | void => exact absurd named.symm (NativeType.brackets_ne (by decide))
    | _ => exact leadsWith_of_own nofun (by constructor) named
  | _ =>
    cases value with
    | array items =>
      cases items with
      | nil => exact absurd named (by decide)
      | cons item rest => exact absurd named (NativeType.brackets_ne (by decide))
    | void => exact absurd named (by decide)
    | _ => exact leadsWith_of_own nofun (by constructor) named

/-- The items of every array of a value have types of one name. -/
inductive Uniform : NativeValue → Prop where
  | whole {value : NativeValue} (single : ∀ items, value ≠ .array items) : Uniform value
  | array {items : List NativeValue} (each : ∀ item ∈ items, Uniform item)
      (alike : ∀ first ∈ items, ∀ second ∈ items, first.typeName = second.typeName) :
      Uniform (.array items)

/-- A value whose arrays are uniform is of the type that it leads with. -/
theorem Uniform.of_leadsWith {value : NativeValue} {type : NativeType} (uniform : value.Uniform)
    (leads : value.LeadsWith type) : value.Of type := by
  induction uniform generalizing type with
  | whole single =>
    cases leads with
    | whole _ is => exact is
    | first _ => exact absurd rfl (single _)
  | array each alike ih =>
    cases leads with
    | whole single _ => exact absurd rfl (single _)
    | first leads =>
      refine .array fun item member => ih item member ?_
      apply leadsWith_of_typeName
      rw [alike item member _ List.mem_cons_self, leads.typeName]

/-- A type that a value is not of has another name, if the arrays of the value are uniform. -/
theorem Uniform.typeName_ne {value : NativeValue} {type : NativeType} (uniform : value.Uniform)
    (misfit : ¬ value.Of type) : value.typeName ≠ type.text :=
  fun same => misfit (uniform.of_leadsWith (leadsWith_of_typeName same))

end NativeValue

namespace Registry

variable {registry : Registry} {name told actual : String} {arguments : List NativeValue}
  {index : Nat} {expected : NativeType}

/-- A call is refused for a type only because of the first argument that is not of its parameter's
type. -/
theorem misfit_of_refused
    (refused : (registry.call name arguments).result =
      .error (.argumentType told index expected actual)) :
    ∃ argument, arguments[index]? = some argument ∧ ¬ argument.Of expected ∧
      argument.typeName = actual := by
  have resolved := resolves registry name arguments
  rw [call] at refused
  generalize registry.resolve name arguments = verdict at resolved refused
  cases resolved with
  | unknown _ => cases refused
  | miscounted _ _ => cases refused
  | mistyped _ _ first =>
    cases refused
    exact ⟨_, first.argument, first.misfit, rfl⟩
  | @accepted function _ _ =>
    -- What the host says of a call it fails is another error.
    dsimp only at refused
    cases replied : (function.host arguments).result with
    | ok value =>
      rw [replied] at refused
      cases refused
    | error message =>
      rw [replied] at refused
      cases refused

/-- A refusal for a type tells the type of the parameter and the name of the argument's type. The
two read alike exactly if the argument is an array that leads with the parameter's type and does not
go on like that, so never if the items of every array are alike. -/
theorem mismatch_tells_types
    (refused : (registry.call name arguments).result =
      .error (.argumentType told index expected actual)) :
    ∃ argument, arguments[index]? = some argument ∧ ¬ argument.Of expected ∧
      (actual = expected.text ↔ argument.LeadsWith expected) ∧
      (argument.Uniform → actual ≠ expected.text) := by
  obtain ⟨argument, found, misfit, rfl⟩ := misfit_of_refused refused
  refine ⟨argument, found, misfit, ?_, fun uniform => uniform.typeName_ne misfit⟩
  exact ⟨NativeValue.leadsWith_of_typeName, NativeValue.LeadsWith.typeName⟩

/-- A join of two numbers, whose array is uniform. -/
theorem mismatch_tells_types_numbers :
    (standard.call "Join" [.array [.int 1, .int 2], .string ","]).result =
        .error (.argumentType "Join" 0 (.array .string) "[]Int") ∧
      "[]Int" ≠ (NativeType.array .string).text := by
  have refused : (standard.call "Join" [.array [.int 1, .int 2], .string ","]).result =
      .error (.argumentType "Join" 0 (.array .string) "[]Int") := rfl
  obtain ⟨_, ⟨⟩, -, -, differ⟩ := mismatch_tells_types refused
  refine ⟨refused, differ (.array ?_ ?_)⟩
  · simp only [List.forall_mem_cons]
    exact ⟨.whole nofun, .whole nofun, nofun⟩
  · simp [NativeValue.typeName]

/-- Of an array of a text and a number the type of the text is told, so a join of it is refused for
a type that reads like the one it asks for. -/
theorem mismatch_tells_one_type :
    ¬ ∀ (registry : Registry) (name told actual : String) (arguments : List NativeValue)
        (index : Nat) (expected : NativeType),
      (registry.call name arguments).result =
          .error (.argumentType told index expected actual) →
        actual ≠ expected.text := by
  intro differ
  exact differ standard "Join" "Join" "[]String" [.array [.string "a", .int 1], .string ","] 0
    (.array .string) rfl rfl

end Registry
end Script
