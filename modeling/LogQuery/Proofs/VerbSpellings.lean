import LogQuery.Proofs.StageReading

/-!
# Verbs with two spellings

A limit begins with `limit` or `take`, a sort with `order by` or `sort by`. Both spellings of a
limit denote the same limit, whatever follows. A sort is read from its argument after the first
occurrence of the other spelling is erased, wherever in the argument that is
(`parse_order_by`, `parse_sort_by`), so the spellings of a sort agree as far as this makes no
difference, and always when the argument has neither of them in it (`sortsAlike_of_not_infix`).
-/

namespace LogQuery.Stage

open Text

variable {argument : String}

/-! ## Arguments of blank characters -/

/-- A verb without an argument loses its space and is no verb. -/
theorem parse_of_blank {verb : String} (hverb : ofTrimmed (trim verb.toList) = .passthrough)
    (h : trimEnd argument.toList = []) : parse (verb ++ argument) = .passthrough := by
  rw [parse, String.toList_append, trim_append_right (isBlank_of_trimEnd_eq_nil h), hverb]

/-! ## Limits -/

/-- The two spellings of a limit read as the same stage, whatever follows. -/
theorem parse_limit_eq_parse_take (argument : String) :
    parse ("limit " ++ argument) = parse ("take " ++ argument) := by
  by_cases h : trimEnd argument.toList = []
  · rw [parse_of_blank rfl h, parse_of_blank rfl h]
  · rw [parse, parse, String.toList_append, String.toList_append,
      ofTrimmed_trim_limit List.mem_cons_self h,
      ofTrimmed_trim_limit (List.mem_cons_of_mem _ List.mem_cons_self) h]

/-! ## Sorts -/

/-- The sort that an argument without verbs denotes: a column, and after a single space the
order. -/
def sortOf (argument : List Char) : Stage :=
  match (trim argument).splitOn ' ' with
  | column :: direction :: _ =>
    .sort (String.ofList column)
      (if direction.map Char.toLower = "desc".toList then .descending else .ascending)
  | column :: _ => .sort (String.ofList column) .ascending
  | [] => .sort "" .ascending

theorem parseSort_eq (s : List Char) :
    parseSort s = sortOf (eraseFirst "sort by ".toList (eraseFirst "order by ".toList s)) := rfl

/-- Behind `order by` the argument loses its first `sort by`. -/
theorem parse_order_by (h : trimEnd argument.toList ≠ []) :
    parse ("order by " ++ argument) =
      sortOf (eraseFirst "sort by ".toList (trimEnd argument.toList)) := by
  rw [parse, String.toList_append,
    ofTrimmed_trim_append_of_ne_nil (List.mem_of_getElem? (i := 4) rfl) h, parseSort_eq,
    eraseFirst_verbs_order_by]

/-- Behind `sort by` the argument loses its first `order by`. -/
theorem parse_sort_by (h : trimEnd argument.toList ≠ []) :
    parse ("sort by " ++ argument) =
      sortOf (eraseFirst "order by ".toList (trimEnd argument.toList)) := by
  rw [parse, String.toList_append,
    ofTrimmed_trim_append_of_ne_nil (List.mem_of_getElem? (i := 5) rfl) h, parseSort_eq,
    eraseFirst_verbs_sort_by]

/-- An argument that names the same column and order without the first `sort by` in it as without
the first `order by`. -/
def SortsAlike (argument : List Char) : Prop :=
  sortOf (eraseFirst "sort by ".toList argument) = sortOf (eraseFirst "order by ".toList argument)

/-- An argument without either of them names what it names. -/
theorem sortsAlike_of_not_infix {argument : List Char} (hsort : ¬ "sort by ".toList <:+: argument)
    (horder : ¬ "order by ".toList <:+: argument) : SortsAlike argument := by
  rw [SortsAlike, eraseFirst_eq_self hsort, eraseFirst_eq_self horder]

/-- Limits have two spellings of one meaning. Those of sorts have one meaning for all arguments
without `sort by` and `order by` in them, and for the others exactly when the first of either does
not matter for what the argument names. -/
theorem spellings_agree_iff (argument : String) :
    parse ("limit " ++ argument) = parse ("take " ++ argument) ∧
      (¬ "sort by ".toList <:+: trimEnd argument.toList →
        ¬ "order by ".toList <:+: trimEnd argument.toList →
        parse ("order by " ++ argument) = parse ("sort by " ++ argument)) ∧
      (parse ("order by " ++ argument) = parse ("sort by " ++ argument) ↔
        SortsAlike (trimEnd argument.toList)) := by
  have hsorts : parse ("order by " ++ argument) = parse ("sort by " ++ argument) ↔
      SortsAlike (trimEnd argument.toList) := by
    by_cases h : trimEnd argument.toList = []
    · rw [parse_of_blank rfl h, parse_of_blank rfl h, h]
      exact iff_of_true rfl rfl
    · rw [parse_order_by h, parse_sort_by h, SortsAlike]
  refine ⟨parse_limit_eq_parse_take argument, ?_, hsorts⟩
  intro hsort horder
  rw [hsorts]
  exact sortsAlike_of_not_infix hsort horder

/-- The argument `sort by A` names the column `A` behind the other spelling and the column `sort`
behind its own. -/
theorem parse_order_by_ne_parse_sort_by :
    parse ("order by " ++ "sort by A") ≠ parse ("sort by " ++ "sort by A") := by
  have horder : parse ("order by " ++ "sort by A") = .sort "A" .ascending := rfl
  have hsort : parse ("sort by " ++ "sort by A") = .sort "sort" .ascending := rfl
  rw [horder, hsort]
  intro h
  injection h with hcolumn
  exact absurd hcolumn (by decide)

end LogQuery.Stage
