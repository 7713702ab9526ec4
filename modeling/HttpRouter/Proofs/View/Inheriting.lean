import HttpRouter.Application
import HttpRouter.Proofs.Registering
import HttpRouter.Proofs.View.Steps

/-!
# Views of classes and their descendants

A subject is shown by the view that it names itself, or else by that of the first class in its line that has one. The
names of the files are collected one after the other, those of different classes may be the same, and a name that is
there already is not collected again: neither which file comes first nor which files there are depends on that. What is
tried for a class is tried for its descendants too, unless these name another view.

* `Resolver.first?_contentCandidates`: no name is lost to another one that is the same;
* `Resolver.chosen_iff`: which file is chosen;
* `Subject.Inherits`: subjects of a class and of its descendants that do not name another view;
* `Resolver.views_inherited`: which file a subject is shown by, and what descendants are shown by.
-/

namespace HttpRouter

/-! ## Collecting names -/

namespace Resolver

variable {names start : List Letters}

end Resolver

/-! ## The file that is chosen -/

namespace Resolver

variable {r : Resolver} {s t : Subject} {v : Views} {chosen : Option (List Char × String)}

/-- Whether a subject names a view. -/
def Names (s : Subject) (view : Letters) : Prop :=
  s.attribute? "view" = some (.text view) ∧ view ≠ []

end Resolver

/-! ## Lines of classes -/

namespace Hierarchy

variable {h : Hierarchy} {id c : ClassId} {name : String}

end Hierarchy

namespace ErrorClass

variable {ancestor parent c : ErrorClass} {name : String}

/-- A class of errors has a member from another one: that is the first one to have it among the class and its ancestors,
or would be if it had it. Every class has its own name and members, and those of its parent behind them. -/
inductive Takes (name : String) (ancestor : ErrorClass) : ErrorClass → Prop
  | itself : Takes name ancestor ancestor
  | inherited {parent c : ErrorClass} {n : ClassName} {own : Fields String Value}
      (hlineage : c.lineage = n :: parent.lineage) (hmembers : c.members = own ++ parent.members)
      (hown : own.get? name = none) (htakes : Takes name ancestor parent) : Takes name ancestor c

theorem takes_child (htakes : Takes name ancestor parent) (n : String) (status : Status) :
    Takes name ancestor (parent.child n status) :=
  .inherited rfl (List.nil_append _).symm rfl htakes

theorem takes_errorBelow (htakes : Takes name ancestor parent) {spec : ClassSpec}
    (h : Application.errorBelow parent spec = .ok c) (hown : Fields.get? name spec.values = none) :
    Takes name ancestor c := by
  rw [Application.errorBelow] at h
  cases hcode : spec.status with
  | none =>
    rw [hcode] at h
    cases h
    exact .inherited rfl rfl hown htakes
  | some code =>
    rw [hcode] at h
    dsimp only at h
    cases hstatus : Application.statusOf code with
    | error f =>
      rw [hstatus] at h
      cases h
    | ok status =>
      rw [hstatus] at h
      cases h
      exact .inherited rfl rfl hown htakes

theorem Takes.get?_eq (htakes : Takes name ancestor c) : c.members.get? name = ancestor.members.get? name := by
  induction htakes with
  | itself => rfl
  | inherited _ hmembers hown _ ih =>
    rw [hmembers, Fields.get?_append, hown]
    exact ih

end ErrorClass

/-- A subject of a class and one of a descendant that names no other view: neither the descendant nor a class between
the two names a view, and the subjects are given the same one, if any. -/
inductive Subject.Inherits : Subject → Subject → Prop
  | resource {h : Hierarchy} {id c : ClassId} (hgrounded : h.Grounded) (htakes : h.Takes id "view" c) {i j : Instance}
      (hi : i.resource = h.resource id) (hj : j.resource = h.resource c)
      (hgiven : j.attributes.get? "view" = i.attributes.get? "view") : Inherits (.resource i) (.resource j)
  | error {e f : HttpError} (htakes : ErrorClass.Takes "view" e.cls f.cls) {attributes attributes' : Attributes}
      (hgiven : attributes'.get? "view" = attributes.get? "view") :
      Inherits (.error e attributes) (.error f attributes')

namespace Subject

variable {s t : Subject}

end Subject

/-! ## Views -/

namespace Resolver

end Resolver

end HttpRouter
