import HttpRouter.Text.Blank
import HttpRouter.Text.Case

/-!
# Methods

The methods of HTTP that a resource can answer to. Sets of methods are kept in order, each method once.

* `mem_sortedSet`, `pairwise_sortedSet`: such a set holds what it was made of, in order and without repetition.
-/

namespace HttpRouter

open Text (splitOn trim upper)

/-- Puts texts in order, each of them once. -/
def sortedSet (texts : List String) : List String :=
  (texts.mergeSort fun a b => a ≤ b).eraseDups

theorem mem_sortedSet {text : String} {texts : List String} : text ∈ sortedSet texts ↔ text ∈ texts := by
  rw [sortedSet, List.mem_eraseDups, List.mem_mergeSort]

/-- Once nothing is repeated, texts in order ascend. -/
theorem pairwise_eraseDups {texts : List String} (h : texts.Pairwise (· ≤ ·)) :
    texts.eraseDups.Pairwise (· < ·) := by
  match texts with
  | [] => exact List.Pairwise.nil
  | first :: rest =>
    obtain ⟨hfirst, hrest⟩ := List.pairwise_cons.mp h
    rw [List.eraseDups_cons]
    refine List.pairwise_cons.mpr ⟨?_, pairwise_eraseDups (hrest.filter fun text => !text == first)⟩
    intro text htext
    obtain ⟨hmem, hother⟩ := List.mem_filter.mp (List.mem_eraseDups.mp htext)
    rw [← String.not_le]
    intro hle
    have heq : text = first := String.le_antisymm hle (hfirst text hmem)
    rw [heq, beq_self_eq_true] at hother
    cases hother
termination_by texts.length
decreasing_by exact Nat.lt_succ_of_le (List.length_filter_le _ _)

theorem pairwise_sortedSet (texts : List String) : (sortedSet texts).Pairwise (· < ·) := by
  have hsorted := @List.pairwise_mergeSort String (fun a b => a ≤ b) (by simpa using fun a b c => String.le_trans)
    (by simpa using String.le_total) texts
  exact pairwise_eraseDups (hsorted.imp of_decide_eq_true)

/-- Such a set is in order already. -/
theorem mergeSort_sortedSet (texts : List String) :
    ((sortedSet texts).mergeSort fun a b => a ≤ b) = sortedSet texts := by
  refine List.mergeSort_of_pairwise ((pairwise_sortedSet texts).imp fun h => ?_)
  exact decide_eq_true (String.not_lt.mp (String.lt_asymm h))

/-- Methods in capitals, blanks around them dropped, in order and each of them once. -/
def methodSet (methods : List String) : List String :=
  sortedSet <| methods.filterMap fun m =>
    let m := trim m.toList
    if m.isEmpty then none else some (String.ofList (upper m))

/-- Methods that are written with commas between them. -/
def methodsOf (text : String) : List String :=
  methodSet ((splitOn ',' text.toList).map String.ofList)

/-- The methods that a resource can answer to. -/
def knownMethods : List String :=
  ["GET", "HEAD", "POST", "PUT", "DELETE", "PATCH", "OPTIONS"]

/-- The methods that are allowed unless something else is said. -/
def defaultMethods : List String :=
  ["DELETE", "GET", "HEAD", "POST", "PUT"]

end HttpRouter
