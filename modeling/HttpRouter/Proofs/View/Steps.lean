import HttpRouter.View.Renderer

/-!
# The two steps of a page

Which file is rendered in each of the two steps, and with which names. The first step makes a fragment from the view of
the subject, which is empty if there is none; the second goes around the fragment, or leaves it as it is.

* `Views.first?_eq_some_iff`: the file that is taken exists, and none before it does;
* `TwoStep.render_of_layout`, `TwoStep.render_of_no_layout`: a page from its fragment.
-/

namespace HttpRouter

namespace Views

variable {v : Views} {names : List Letters}

theorem first?_eq_none_iff : v.first? names = none ↔ ∀ name ∈ names, v.named? name = none :=
  List.findSome?_eq_none_iff

/-- **The file that is taken exists, and none before it does.** -/
theorem first?_eq_some_iff {file : List Char × String} :
    v.first? names = some file ↔
      ∃ before name after, names = before ++ name :: after ∧ v.named? name = some file ∧
        ∀ other ∈ before, v.named? other = none :=
  List.findSome?_eq_some_iff

end Views

namespace TwoStep

/-- What the first step makes: the text that a layout goes around. -/
def fragment (v : Views) (r : Resolver) (s : Subject) (p : Payload) : Except Fault Letters := do
  return (← renderFirst v (r.contentCandidates s) (context s p)).getD []

/-- The names that a layout can use. -/
def layoutContext (s : Subject) (p : Payload) (content : Letters) : ViewContext :=
  (context s p).set "content" (.markup content)

section Steps

variable {v : Views} {r : Resolver} {s : Subject} {path : List Char} {text : String}

/-- What is shown of a subject: the file that was chosen for it, or nothing. -/
def showing (v : Views) (s : Subject) (p : Payload) : Option (List Char × String) → Except Fault Letters
  | none => .ok []
  | some (path, text) => v.page path text (context s p)

theorem fragment_eq (v : Views) (r : Resolver) (s : Subject) (p : Payload) :
    fragment v r s p = showing v s p (v.first? (r.contentCandidates s)) := by
  rw [fragment, renderFirst]
  cases v.first? (r.contentCandidates s) with
  | none => rfl
  | some file =>
    rw [showing]
    dsimp only
    cases v.page file.1 file.2 (context s p) <;> rfl

theorem render_eq (v : Views) (r : Resolver) (s : Subject) (p : Payload) :
    render v r s p = fragment v r s p >>= fun content =>
      (·.getD content) <$> renderFirst v (r.layoutCandidates s) (layoutContext s p content) := by
  rw [render, fragment]
  cases renderFirst v (r.contentCandidates s) (context s p) <;> rfl

/-- **Without a layout a page is its fragment.** -/
theorem render_of_no_layout (h : v.first? (r.layoutCandidates s) = none) (p : Payload) :
    render v r s p = fragment v r s p := by
  rw [render_eq]
  simp only [renderFirst, h]
  cases fragment v r s p <;> rfl

/-- **With a layout a page is the layout with its fragment for `content`.** -/
theorem render_of_layout (h : v.first? (r.layoutCandidates s) = some (path, text)) (p : Payload) :
    render v r s p = fragment v r s p >>= fun content =>
      v.page path text (layoutContext s p content) := by
  rw [render_eq]
  simp only [renderFirst, h]
  cases fragment v r s p with
  | error f => rfl
  | ok content =>
    show _ <$> _ <$> v.page _ _ (layoutContext s p content) = v.page _ _ (layoutContext s p content)
    cases v.page path text (layoutContext s p content) <;> rfl

end Steps

end TwoStep

end HttpRouter
