import Script.Native.Value

set_option autoImplicit false

/- Types of values on the host's side, and the check of a value against a type. -/
namespace Script.NativeValue

/-- A value is of a type. An array is of an array type if every item is of the element type. -/
inductive Of : NativeValue → NativeType → Prop where
  | int (value : Int32) : Of (.int value) .int
  | float (value : Binary32) : Of (.float value) .float
  | bool (value : Bool) : Of (.bool value) .bool
  | char (value : Char) : Of (.char value) .char
  | string (text : String) : Of (.string text) .string
  | function (name : String) : Of (.function name) .function
  | array {items : List NativeValue} {element : NativeType}
      (each : ∀ item ∈ items, Of item element) : Of (.array items) (.array element)

namespace Of

variable {value : NativeValue}

theorem exists_float (is : value.Of .float) : ∃ number, value = .float number := by
  cases is with
  | float number => exact ⟨number, rfl⟩

theorem exists_char (is : value.Of .char) : ∃ letter, value = .char letter := by
  cases is with
  | char letter => exact ⟨letter, rfl⟩

theorem exists_string (is : value.Of .string) : ∃ text, value = .string text := by
  cases is with
  | string text => exact ⟨text, rfl⟩

theorem exists_array {element : NativeType} (is : value.Of (.array element)) :
    ∃ items, value = .array items ∧ ∀ item ∈ items, item.Of element := by
  cases is with
  | array each => exact ⟨_, rfl, each⟩

end Of

theorem allFit_iff {items : List NativeValue} {type : NativeType} :
    allFit items type = true ↔ ∀ item ∈ items, item.fits type = true := by
  induction items with
  | nil => exact iff_of_true rfl nofun
  | cons item rest ih => rw [allFit, Bool.and_eq_true, ih, List.forall_mem_cons]

/-- The check of a value accepts the values of the type. -/
theorem fits_iff {value : NativeValue} {type : NativeType} :
    value.fits type = true ↔ value.Of type := by
  induction type generalizing value with
  | array element ih =>
    cases value with
    | array items =>
      rw [fits, allFit_iff]
      constructor
      · exact fun each => .array fun item member => ih.mp (each item member)
      · intro is item member
        cases is with
        | array each => exact ih.mpr (each item member)
    | _ => exact iff_of_false nofun nofun
  | _ =>
    -- The type is that of one constructor.
    cases value with
    | _ =>
      first
        | exact iff_of_true rfl (by constructor)
        | exact iff_of_false nofun nofun

end Script.NativeValue
