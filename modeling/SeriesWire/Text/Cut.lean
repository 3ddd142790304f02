/-! Cutting texts at separators. -/
namespace SeriesWire.Text

/-- What stands before and behind the first `separator`, which is not empty. -/
def cut (separator : List Char) : List Char → Option (List Char × List Char)
  | [] => none
  | c :: cs =>
    if separator.isPrefixOf (c :: cs) then some ([], (c :: cs).drop separator.length)
    else (cut separator cs).map fun (before, behind) => (c :: before, behind)

section

variable {s : Char} {more : List Char}

theorem cut_append {before : List Char} (absent : s ∉ before) (behind : List Char) :
    cut (s :: more) (before ++ s :: (more ++ behind)) = some (before, behind) := by
  induction before with
  | nil => simp [cut]
  | cons c before ih =>
    rw [List.mem_cons, not_or] at absent
    have other : (s :: more).isPrefixOf (c :: (before ++ s :: (more ++ behind))) = false := by
      simp [List.isPrefixOf, absent.1]
    rw [List.cons_append, cut, other, ih absent.2]
    rfl

theorem cut_eq_none {cs : List Char} (absent : s ∉ cs) : cut (s :: more) cs = none := by
  induction cs with
  | nil => rfl
  | cons c cs ih =>
    rw [List.mem_cons, not_or] at absent
    have other : (s :: more).isPrefixOf (c :: cs) = false := by simp [List.isPrefixOf, absent.1]
    rw [cut, other, ih absent.2]
    rfl

end

/-- What stands before and behind the last `separator`. -/
def cutLast (separator : Char) (cs : List Char) : Option (List Char × List Char) :=
  match cs.reverse.dropWhile (· != separator) with
  | [] => none
  | _ :: before => some (before.reverse, (cs.reverse.takeWhile (· != separator)).reverse)

end SeriesWire.Text
