import Script.Text.Replace

set_option autoImplicit false

/- What replacing does to a text: at the pattern, before it, and where it does not occur. -/
namespace Script.Text

variable {pattern replacement : List Char}

theorem replaceFrom_drop (skip : Nat) (text : List Char) :
    replaceFrom pattern replacement skip text =
      replaceFrom pattern replacement 0 (text.drop skip) := by
  induction text generalizing skip with
  | nil => rw [List.drop_nil, replaceFrom, replaceFrom]
  | cons char rest ih =>
    cases skip with
    | zero => rfl
    | succ skip => rw [replaceFrom, List.drop_succ_cons, ih]

theorem replaceFrom_pattern (nonempty : pattern ≠ []) (rest : List Char) :
    replaceFrom pattern replacement 0 (pattern ++ rest) =
      replacement ++ replaceFrom pattern replacement 0 rest := by
  obtain ⟨first, others, rfl⟩ := List.exists_cons_of_ne_nil nonempty
  have begins : (first :: others).isPrefixOf (first :: (others ++ rest)) = true :=
    List.isPrefixOf_iff_prefix.mpr (List.prefix_append (first :: others) rest)
  rw [List.cons_append, replaceFrom, if_pos begins, replaceFrom_drop, List.length_cons,
    Nat.add_sub_cancel, List.drop_left]

theorem replaceFrom_char {char : Char} {rest : List Char} (absent : ¬ pattern <+: char :: rest) :
    replaceFrom pattern replacement 0 (char :: rest) =
      char :: replaceFrom pattern replacement 0 rest := by
  rw [replaceFrom, if_neg (mt List.isPrefixOf_iff_prefix.mp absent)]

/-- A pattern does not begin where its first character does not stand. -/
theorem replaceFrom_append {first : Char} {others text : List Char} (absent : first ∉ text)
    (rest : List Char) :
    replaceFrom (first :: others) replacement 0 (text ++ rest) =
      text ++ replaceFrom (first :: others) replacement 0 rest := by
  induction text with
  | nil => rfl
  | cons char text ih =>
    rw [List.mem_cons, not_or] at absent
    rw [List.cons_append, replaceFrom_char, ih absent.2, List.cons_append]
    exact fun begins => absent.1 (List.cons_prefix_cons.mp begins).1

/-- A pattern with a character that does not occur is not found. -/
theorem replaceFrom_of_not_mem {text : List Char} {char : Char} (inside : char ∈ pattern)
    (absent : char ∉ text) : replaceFrom pattern replacement 0 text = text := by
  induction text with
  | nil => rfl
  | cons head rest ih =>
    rw [replaceFrom_char fun begins => absent (begins.subset inside),
      ih fun member => absent (List.mem_cons_of_mem head member)]

theorem replaceAll_of_not_mem {text pattern replacement : String} {char : Char}
    (inside : char ∈ pattern.toList) (absent : char ∉ text.toList) :
    replaceAll text pattern replacement = text := by
  rw [replaceAll, replaceFrom_of_not_mem inside absent, String.ofList_toList]

end Script.Text
