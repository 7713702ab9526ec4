import HttpRouter.Proofs.Sessions

/-!
# Registrations that fail

Registering a resource under a path and a base sets these for its class, and adds a route then. Adding a route may fail,
because the table is frozen or the template cannot be read, and the table is what it was in that case; but the class
keeps what was set, and so do all classes that take their path or their base from it.

* `Hierarchy.Takes`: the classes that have a member from a class.
* `Hierarchy.relocates_relocated`: what becomes of all classes when the path and the base of one are set.
* `Session.sound_after`: classes come behind their parents, over any session.
* `Session.abandoned_register`: what a registration that failed leaves behind.
-/

namespace HttpRouter

/-! ## Members of classes and their ancestors -/

namespace Hierarchy

variable {h : Hierarchy} {id c : ClassId} {name : String}

/-- Whether every class comes behind its parent. -/
def Grounded (h : Hierarchy) : Prop :=
  ∀ (c : Nat) (cls : ResourceClass) (parent : Nat), h.classes[c]? = some cls → cls.parent = some parent → parent < c

/-- A class has a member from another one: that is the first one to have it among the class and its ancestors, or would
be if it had it. -/
inductive Takes (h : Hierarchy) (id : ClassId) (name : String) : ClassId → Prop
  | itself {cls : ResourceClass} (hcls : h.classes[id]? = some cls) : Takes h id name id
  | inherited {c parent : ClassId} {cls : ResourceClass} (hcls : h.classes[c]? = some cls)
      (hparent : cls.parent = some parent) (hown : cls.own.get? name = none) (htakes : Takes h id name parent) :
      Takes h id name c

/-- More generations than there are do not matter. -/
theorem resourceFrom_eq (hgrounded : h.Grounded) {c : Nat} (generations generations' : Nat) (hlt : c < generations)
    (hlt' : c < generations') : h.resourceFrom generations c = h.resourceFrom generations' c := by
  induction generations generalizing c generations' with
  | zero => exact absurd hlt (Nat.not_lt_zero c)
  | succ generations ih =>
    obtain ⟨generations', rfl⟩ : ∃ n, generations' = n + 1 := ⟨generations' - 1, by omega⟩
    rw [resourceFrom, resourceFrom]
    cases hcls : h.classes[c]? with
    | none => rfl
    | some cls =>
      dsimp only
      cases hparent : cls.parent with
      | none => rfl
      | some parent =>
        have hbefore := hgrounded c cls parent hcls hparent
        dsimp only
        rw [ih generations' (by omega) (by omega)]

/-- **A class has its own name and members, and those of its parent behind them.** -/
theorem resource_eq (hgrounded : h.Grounded) {c : Nat} {cls : ResourceClass} (hcls : h.classes[c]? = some cls) :
    h.resource c = ⟨cls.name :: (cls.parent.map fun parent => (h.resource parent).lineage).getD [],
      cls.own ++ (cls.parent.map fun parent => (h.resource parent).members).getD []⟩ := by
  obtain ⟨hlt, -⟩ := List.getElem?_eq_some_iff.mp hcls
  obtain ⟨generations, hgenerations⟩ : ∃ n, h.classes.length = n + 1 := ⟨h.classes.length - 1, by omega⟩
  rw [resource, hgenerations, resourceFrom, hcls]
  dsimp only
  cases hparent : cls.parent with
  | none =>
    show _ = Resource.mk [cls.name] (cls.own ++ [])
    rw [List.append_nil]
  | some parent =>
    have hbefore := hgrounded c cls parent hcls hparent
    dsimp only
    rw [resourceFrom_eq hgrounded generations h.classes.length (by omega) (by omega)]
    rfl

theorem members_resource (hgrounded : h.Grounded) {c : Nat} {cls : ResourceClass} (hcls : h.classes[c]? = some cls) :
    (h.resource c).members = cls.own ++ (cls.parent.map fun parent => (h.resource parent).members).getD [] := by
  rw [resource_eq hgrounded hcls]

theorem members_of_missing (hmissing : h.classes[c]? = none) : (h.resource c).members = [] := by
  rw [resource]
  cases h.classes.length with
  | zero => rfl
  | succ generations => rw [resourceFrom, hmissing]

/-- A member that a class does not have itself it has from its parent. -/
theorem get?_of_parent (hgrounded : h.Grounded) {cls : ResourceClass} {parent : ClassId}
    (hcls : h.classes[c]? = some cls) (hparent : cls.parent = some parent) (hown : cls.own.get? name = none) :
    (h.resource c).members.get? name = (h.resource parent).members.get? name := by
  rw [members_resource hgrounded hcls, hparent, Fields.get?_append, hown]
  rfl

/-- What a class takes from another one is what that one has. -/
theorem Takes.get?_eq (htakes : h.Takes id name c) (hgrounded : h.Grounded) :
    (h.resource c).members.get? name = (h.resource id).members.get? name := by
  induction htakes with
  | itself => rfl
  | inherited hcls hparent hown _ ih => exact (get?_of_parent hgrounded hcls hparent hown).trans ih

/-! ## Setting a value -/

section Setting

variable {v : Value} {other : String}

@[simp] theorem length_setValue : (h.setValue id name v).classes.length = h.classes.length :=
  List.length_modify _ _ _

theorem getElem?_setValue : (h.setValue id name v).classes[c]? =
    (h.classes[c]?).map fun cls => if id = c then { cls with own := cls.own.set name (.value v) } else cls := by
  rw [setValue, List.getElem?_modify]
  rfl

/-- What setting a value makes of a class: it keeps its parent, and its own members but for the one that is set. -/
theorem class_setValue (id : ClassId) (name : String) (v : Value) {cls : ResourceClass}
    (hcls : h.classes[c]? = some cls) :
    ∃ set, (h.setValue id name v).classes[c]? = some set ∧ set.parent = cls.parent ∧
      ∀ other, set.own.get? other = if c = id ∧ other = name then some (.value v) else cls.own.get? other := by
  refine ⟨_, by rw [getElem?_setValue, hcls]; rfl, ?_⟩
  split
  · next hsame =>
    refine ⟨rfl, ?_⟩
    intro other
    by_cases hname : other = name
    · rw [if_pos ⟨hsame.symm, hname⟩, hname, Fields.get?_set_self]
    · rw [if_neg fun h => hname h.2, Fields.get?_set_of_ne hname]
  · next hother =>
    refine ⟨rfl, ?_⟩
    intro other
    rw [if_neg fun h => hother h.1.symm]

/-- It makes no class of nothing. -/
theorem class_of_setValue {set : ResourceClass} (hset : (h.setValue id name v).classes[c]? = some set) :
    ∃ cls, h.classes[c]? = some cls ∧ set.parent = cls.parent ∧
      ∀ other, set.own.get? other = if c = id ∧ other = name then some (.value v) else cls.own.get? other := by
  cases hcls : h.classes[c]? with
  | none =>
    rw [getElem?_setValue, hcls] at hset
    cases hset
  | some cls =>
    obtain ⟨set', hset', hrest⟩ := class_setValue id name v hcls
    obtain rfl := Option.some.inj (hset'.symm.trans hset)
    exact ⟨cls, rfl, hrest⟩

theorem Grounded.setValue (hgrounded : h.Grounded) : (h.setValue id name v).Grounded := by
  intro c set parent hset hparent
  obtain ⟨cls, hcls, hparents, -⟩ := class_of_setValue hset
  exact hgrounded c cls parent hcls (hparents.symm.trans hparent)

/-- **A value that is set is had by all classes that take it from there.** -/
theorem get?_setValue_of_takes (hgrounded : h.Grounded) (htakes : h.Takes id name c) :
    ((h.setValue id name v).resource c).members.get? name = some (.value v) := by
  induction htakes with
  | itself hcls =>
    obtain ⟨set, hset, -, hown⟩ := class_setValue id name v hcls
    rw [members_resource hgrounded.setValue hset, Fields.get?_append, hown, if_pos ⟨rfl, rfl⟩]
    rfl
  | @inherited c parent cls hcls hparent hnone _ ih =>
    obtain ⟨set, hset, hparents, hown⟩ := class_setValue id name v hcls
    by_cases hsame : c = id
    · rw [members_resource hgrounded.setValue hset, Fields.get?_append, hown, if_pos ⟨hsame, rfl⟩]
      rfl
    · have hinherited : set.own.get? name = none := by rw [hown, if_neg fun h => hsame h.1, hnone]
      exact (get?_of_parent hgrounded.setValue hset (hparents.trans hparent) hinherited).trans ih

/-- **Any other class has what it had**, and so has every class what goes by another name. -/
theorem get?_setValue_of_not (hgrounded : h.Grounded) (hnot : other ≠ name ∨ ¬ h.Takes id other c) :
    ((h.setValue id name v).resource c).members.get? other = (h.resource c).members.get? other := by
  induction c using Nat.strongRecOn with
  | ind c ih =>
    cases hcls : h.classes[c]? with
    | none =>
      have hset : (h.setValue id name v).classes[c]? = none := by rw [getElem?_setValue, hcls]; rfl
      rw [members_of_missing hset, members_of_missing hcls]
    | some cls =>
      obtain ⟨set, hset, hparents, hown⟩ := class_setValue id name v hcls
      have hkept : ¬ (c = id ∧ other = name) := by
        rintro ⟨rfl, hname⟩
        exact hnot.elim (fun hne => hne hname) fun htakes => htakes (.itself hcls)
      rw [members_resource hgrounded.setValue hset, members_resource hgrounded hcls, Fields.get?_append,
        Fields.get?_append, hown, if_neg hkept, hparents]
      cases hnone : cls.own.get? other with
      | some m => rfl
      | none =>
        cases hparent : cls.parent with
        | none => rfl
        | some parent =>
          exact ih parent (hgrounded c cls parent hcls hparent)
            (hnot.imp_right fun htakes h => htakes (.inherited hcls hparent hnone h))

/-- A class goes on taking another member from where it took it. -/
theorem takes_setValue_of_ne (hne : other ≠ name) : (h.setValue id name v).Takes id other c ↔ h.Takes id other c := by
  constructor
  · intro htakes
    induction htakes with
    | itself hset =>
      obtain ⟨cls, hcls, -⟩ := class_of_setValue hset
      exact .itself hcls
    | inherited hset hparent hnone _ ih =>
      obtain ⟨cls, hcls, hparents, hown⟩ := class_of_setValue hset
      rw [hown, if_neg fun h => hne h.2] at hnone
      exact .inherited hcls (hparents.symm.trans hparent) hnone ih
  · intro htakes
    induction htakes with
    | itself hcls =>
      obtain ⟨set, hset, -⟩ := class_setValue id name v hcls
      exact .itself hset
    | inherited hcls hparent hnone _ ih =>
      obtain ⟨set, hset, hparents, hown⟩ := class_setValue id name v hcls
      refine .inherited hset (hparents.trans hparent) ?_ ih
      rw [hown, if_neg fun h => hne h.2, hnone]

end Setting

/-! ## Setting a text -/

section Texts

variable {text : Option Letters} {other : String}

@[simp] theorem length_setText : (h.setText id name text).classes.length = h.classes.length := by
  cases text with
  | none => rfl
  | some text => exact length_setValue

theorem Grounded.setText (hgrounded : h.Grounded) : (h.setText id name text).Grounded := by
  cases text with
  | none => exact hgrounded
  | some text => exact hgrounded.setValue

theorem takes_setText_of_ne (hne : other ≠ name) : (h.setText id name text).Takes id other c ↔ h.Takes id other c := by
  cases text with
  | none => exact Iff.rfl
  | some text => exact takes_setValue_of_ne hne

theorem get?_setText_of_not (hgrounded : h.Grounded) (hnot : other ≠ name ∨ ¬ h.Takes id other c) :
    ((h.setText id name text).resource c).members.get? other = (h.resource c).members.get? other := by
  cases text with
  | none => rfl
  | some text => exact get?_setValue_of_not hgrounded hnot

end Texts

end Hierarchy

/-- The text of a resource is that of its member. -/
theorem Resource.text_congr {r r' : Resource} {name : String} (h : r'.members.get? name = r.members.get? name) :
    r'.text name = r.text name := by
  rw [text, text, value?, value?, h]

namespace Hierarchy

variable {h h' : Hierarchy} {id : ClassId} {name : String} {text path base : Option Letters}

/-- What becomes of a text of all classes when one is given for one of them: the classes that take it from there have
the one that is given, if any, and all others keep theirs. -/
structure Resets (h : Hierarchy) (id : ClassId) (name : String) (text : Option Letters) (h' : Hierarchy) : Prop where
  taken : ∀ c, h.Takes id name c → (h'.resource c).text name = text.getD ((h.resource c).text name)
  kept : ∀ c, ¬ h.Takes id name c → (h'.resource c).text name = (h.resource c).text name

theorem resets_setText (hgrounded : h.Grounded) : h.Resets id name text (h.setText id name text) := by
  refine ⟨?_, ?_⟩
  · intro c htakes
    cases text with
    | none => rfl
    | some text =>
      rw [setText, Resource.text, Resource.value?, get?_setValue_of_takes hgrounded htakes]
      rfl
  · intro c htakes
    exact Resource.text_congr (get?_setText_of_not hgrounded (.inr htakes))

/-- **The texts of all classes stay exactly if none but its own is given** for that one. -/
theorem Resets.unchanged_iff (hreset : h.Resets id name text h') (hgrounded : h.Grounded)
    (hid : id < h.classes.length) :
    (∀ c, (h'.resource c).text name = (h.resource c).text name) ↔
      ∀ given, text = some given → (h.resource id).text name = given := by
  constructor
  · rintro hsame given rfl
    exact (hsame id).symm.trans (hreset.taken id (.itself (List.getElem?_eq_getElem hid)))
  · intro hown c
    by_cases htakes : h.Takes id name c
    · have hinherited : (h.resource c).text name = (h.resource id).text name :=
        Resource.text_congr (htakes.get?_eq hgrounded)
      rw [hreset.taken c htakes]
      cases text with
      | none => rfl
      | some given => exact (hinherited.trans (hown given rfl)).symm
    · exact hreset.kept c htakes

/-- The hierarchy with the path and the base of a class set to those that are given. -/
def relocated (h : Hierarchy) (id : ClassId) (path base : Option Letters) : Hierarchy :=
  (h.setText id "path" path).setText id "base" base

/-- What the path and the base that are given for one class make of all of them. -/
structure Relocates (h : Hierarchy) (id : ClassId) (path base : Option Letters) (h' : Hierarchy) : Prop where
  path : h.Resets id "path" path h'
  base : h.Resets id "base" base h'
  /-- All other members stay as they are. -/
  members : ∀ c name, name ≠ "path" → name ≠ "base" →
    (h'.resource c).members.get? name = (h.resource c).members.get? name

/-- **Classes that take their path or their base from another one move with it.** -/
theorem relocates_relocated (hgrounded : h.Grounded) : h.Relocates id path base (h.relocated id path base) := by
  have hfirst : (h.setText id "path" path).Grounded := hgrounded.setText
  have hpath (c : ClassId) :
      ((h.relocated id path base).resource c).text "path" = ((h.setText id "path" path).resource c).text "path" :=
    Resource.text_congr (get?_setText_of_not hfirst (.inl (by decide)))
  have hbase (c : ClassId) : ((h.setText id "path" path).resource c).text "base" = (h.resource c).text "base" :=
    Resource.text_congr (get?_setText_of_not hgrounded (.inl (by decide)))
  have htakes (c : ClassId) : (h.setText id "path" path).Takes id "base" c ↔ h.Takes id "base" c :=
    takes_setText_of_ne (by decide)
  refine ⟨⟨?_, ?_⟩, ⟨?_, ?_⟩, ?_⟩
  · intro c htaken
    exact (hpath c).trans ((resets_setText hgrounded).taken c htaken)
  · intro c hkept
    exact (hpath c).trans ((resets_setText hgrounded).kept c hkept)
  · intro c htaken
    rw [← hbase c]
    exact (resets_setText hfirst).taken c ((htakes c).mpr htaken)
  · intro c hkept
    rw [← hbase c]
    exact (resets_setText hfirst).kept c (mt (htakes c).mp hkept)
  · intro c name hnotPath hnotBase
    exact (get?_setText_of_not hfirst (.inl hnotBase)).trans (get?_setText_of_not hgrounded (.inl hnotPath))

end Hierarchy

/-- Two resources are found at the same paths, and linked to in the same way. -/
structure Resource.SameRouting (r r' : Resource) : Prop where
  path : r'.path = r.path
  base : r'.base = r.base
  template : r'.template = r.template
  match? : ∀ p, r'.match? p = r.match? p
  link : ∀ values, r'.link values = r.link values

/-- That is up to their paths and bases. -/
theorem Resource.sameRouting_iff {r r' : Resource} : r.SameRouting r' ↔ r'.path = r.path ∧ r'.base = r.base := by
  refine ⟨fun h => ⟨h.path, h.base⟩, ?_⟩
  rintro ⟨hpath, hbase⟩
  have htemplate : r'.template = r.template := by rw [template, template, hpath, hbase]
  refine ⟨hpath, hbase, htemplate, ?_, ?_⟩
  · intro p
    rw [Resource.match?, Resource.match?, htemplate]
  · intro values
    rw [link, link, htemplate]

/-- **No class moves exactly if no other path or base is given** for the one than those it has. -/
theorem Hierarchy.Relocates.sameRouting_iff {h h' : Hierarchy} {id : ClassId} {path base : Option Letters}
    (hmoved : h.Relocates id path base h') (hgrounded : h.Grounded) (hid : id < h.classes.length) :
    (∀ c, (h.resource c).SameRouting (h'.resource c)) ↔
      (∀ given, path = some given → (h.resource id).path = given) ∧
      (∀ given, base = some given → (h.resource id).base = given) :=
  calc (∀ c, (h.resource c).SameRouting (h'.resource c))
    _ ↔ ∀ c, (h'.resource c).path = (h.resource c).path ∧ (h'.resource c).base = (h.resource c).base :=
      forall_congr' fun _ => Resource.sameRouting_iff
    _ ↔ (∀ c, (h'.resource c).path = (h.resource c).path) ∧ ∀ c, (h'.resource c).base = (h.resource c).base :=
      forall_and
    _ ↔ _ := and_congr (hmoved.path.unchanged_iff hgrounded hid) (hmoved.base.unchanged_iff hgrounded hid)

/-! ## Sound applications -/

/-- A class that is defined comes behind its parent. -/
theorem Hierarchy.Grounded.define {h : Hierarchy} (hgrounded : h.Grounded) {cls : ResourceClass}
    (hparent : ∀ parent : Nat, cls.parent = some parent → parent < h.classes.length) : (h.define cls).1.Grounded := by
  intro c before parent (hbefore : (h.classes ++ [cls])[c]? = some before) hparents
  rcases Nat.lt_or_ge c h.classes.length with hlt | hge
  · rw [List.getElem?_append_left hlt] at hbefore
    exact hgrounded c before parent hbefore hparents
  · rw [List.getElem?_append_right hge, List.getElem?_singleton] at hbefore
    split at hbefore
    · cases hbefore
      exact Nat.lt_of_lt_of_le (hparent parent hparents) hge
    · cases hbefore

/-- Whether classes come behind their parents, and names of resources stand for classes that are there. -/
structure Application.Sound (app : Application) : Prop where
  grounded : app.hierarchy.Grounded
  named : ∀ name (id : Nat), app.names.get? name = some (.resource id) → id < app.hierarchy.classes.length

namespace Application

/-- The names of errors stand for no resources. -/
theorem get?_errors_ne (name : String) (cs : List ErrorClass) (id : ClassId) :
    Fields.get? name (cs.map fun c => (c.name, Named.error c)) ≠ some (.resource id) := by
  induction cs with
  | nil =>
    intro hname
    cases hname
  | cons c cs ih =>
    rw [List.map_cons, Fields.get?]
    split
    · intro hname
      cases hname
    · exact ih

theorem sound_base : base.Sound := by
  refine ⟨?_, ?_⟩
  · intro c cls parent hcls hparent
    rw [base, Hierarchy.base, List.getElem?_singleton] at hcls
    split at hcls
    · cases hcls
      cases hparent
    · cases hcls
  · intro name id hname
    rw [base, Fields.get?] at hname
    split at hname
    · cases hname
      exact Nat.one_pos
    · exact absurd hname (get?_errors_ne name _ id)

variable {app : Application}

/-- Setting a text keeps an application sound. -/
theorem Sound.setText (hsound : app.Sound) (id : ClassId) (name : String) (text : Option Letters) :
    Sound { app with hierarchy := app.hierarchy.setText id name text } := by
  refine ⟨hsound.grounded.setText, ?_⟩
  intro other c hname
  rw [Hierarchy.length_setText]
  exact hsound.named other c hname

/-- **A definition keeps an application sound.** -/
theorem Sound.define (hsound : app.Sound) {spec : ClassSpec} {app' : Application} (h : app.define spec = .ok app') :
    app'.Sound := by
  rw [Application.define] at h
  cases hparent : app.names.get? spec.parent with
  | none =>
    rw [hparent] at h
    cases h
  | some named =>
    rw [hparent] at h
    cases named with
    | error parent =>
      dsimp only at h
      cases herror : errorBelow parent spec with
      | error f =>
        rw [herror] at h
        cases h
      | ok c =>
        rw [herror] at h
        cases h
        refine ⟨hsound.grounded, ?_⟩
        intro name id hname
        by_cases hsame : name = spec.name.name
        · rw [hsame, Fields.get?_set_self] at hname
          cases hname
        · rw [Fields.get?_set_of_ne hsame] at hname
          exact hsound.named name id hname
    | resource parent =>
      cases h
      have hbefore : parent < app.hierarchy.classes.length := hsound.named _ parent hparent
      refine ⟨hsound.grounded.define ?_, ?_⟩
      · rintro other ⟨⟩
        exact hbefore
      · intro name id hname
        show id < (app.hierarchy.classes ++ [resourceBelow parent spec]).length
        rw [List.length_append, List.length_singleton]
        by_cases hsame : name = spec.name.name
        · rw [hsame, Fields.get?_set_self] at hname
          cases hname
          exact Nat.lt_succ_self _
        · rw [Fields.get?_set_of_ne hsame] at hname
          exact Nat.lt_succ_of_lt (hsound.named name id hname)

end Application

/-! ## Sessions -/

namespace Session

@[simp] theorem app_take (s : Session) (result : Except Fault (RouteTable ClassId × Route ClassId)) :
    (s.take result).1.app = s.app := by
  cases result <;> rfl

/-- **A command keeps the application sound.** -/
theorem sound_step {s : Session} (hsound : s.app.Sound) (c : Command) : (s.step c).1.app.Sound := by
  cases c with
  | add id path base =>
    rw [step, app_take]
    exact hsound
  | register id path base =>
    rw [step, Hierarchy.register, app_take]
    exact (hsound.setText id "path" path).setText id "base" base
  | assign id path base => exact (hsound.setText id "path" path).setText id "base" base
  | define spec =>
    rw [step]
    cases hdefine : s.app.define spec with
    | error f => exact hsound
    | ok app => exact hsound.define hdefine
  | construct w =>
    rw [step]
    cases w.dispatcher s.table <;> exact hsound
  | dispatch number surroundings request =>
    rw [step]
    cases s.dispatchers[number]? <;> exact hsound
  | freeze | lookup path | link id values => exact hsound

/-- **Applications stay sound over a session.** -/
theorem sound_after {s : Session} (hsound : s.app.Sound) (commands : List Command) : (s.after commands).app.Sound := by
  induction commands generalizing s with
  | nil => exact hsound
  | cons c commands ih => exact ih (sound_step hsound c)

/-- What a registration that failed leaves behind. -/
structure Abandoned (s : Session) (id : ClassId) (path base : Option Letters) (f : Failure) (s' : Session) : Prop where
  /-- The table is frozen, or else the template that the class has now cannot be read. -/
  reason : (s.table.frozen = true ∧ f = .fault (.declare .runtime "Cannot add routes to a frozen route table.")) ∨
    (s.table.frozen = false ∧ ∃ e, Template.parse (s'.app.resource id).template = .error e ∧
      f = .fault (.declare .invalidTemplate (e.message (s'.app.resource id).template)))
  table : s'.table = s.table
  dispatchers : s'.dispatchers = s.dispatchers
  names : s'.app.names = s.app.names
  /-- Classes have moved all the same. -/
  relocates : s.app.hierarchy.Relocates id path base s'.app.hierarchy
  /-- They have not only if they were there already. -/
  sameRouting_iff : (∀ c, (s.app.resource c).SameRouting (s'.app.resource c)) ↔
    (∀ given, path = some given → (s.app.resource id).path = given) ∧
    (∀ given, base = some given → (s.app.resource id).base = given)

/-- What fails leaves the table as it was. -/
theorem Effect.table_of_error {s : Session} {c : Command} {t : RouteTable ClassId} {f : Failure}
    (h : s.Effect c t (.error f)) : t = s.table := by
  cases h <;> rfl

/-- A registration fails because the table is frozen, or because the template cannot be read. -/
theorem Effect.reason {s : Session} {id : ClassId} {path base : Option Letters} {t : RouteTable ClassId} {f : Failure}
    (h : s.Effect (.register id path base) t (.error f)) :
    (s.table.frozen = true ∧ f = .fault (.declare .runtime "Cannot add routes to a frozen route table.")) ∨
      (s.table.frozen = false ∧
        ∃ e, Template.parse ((s.app.hierarchy.relocated id path base).resource id).template = .error e ∧
          f = .fault (.declare .invalidTemplate
            (e.message ((s.app.hierarchy.relocated id path base).resource id).template))) := by
  cases h with
  | closed _ hfrozen => exact .inl ⟨hfrozen, rfl⟩
  | unreadable hentry hopen hread =>
    cases hentry
    exact .inr ⟨hopen, _, hread, rfl⟩
  | kept hentry => cases hentry

/-- Where classes come behind their parents, a registration that fails leaves this behind. -/
theorem abandoned_of_grounded {s : Session} {id : ClassId} {path base : Option Letters} {f : Failure}
    (hgrounded : s.app.hierarchy.Grounded) (hid : id < s.app.hierarchy.classes.length)
    (h : (s.step (.register id path base)).2 = .error f) :
    s.Abandoned id path base f (s.step (.register id path base)).1 := by
  have happ : (s.step (.register id path base)).1.app =
      { s.app with hierarchy := s.app.hierarchy.relocated id path base } :=
    app_take _ _
  have hmoved : s.app.hierarchy.Relocates id path base (s.app.hierarchy.relocated id path base) :=
    Hierarchy.relocates_relocated hgrounded
  have heffect := s.effect_step (.register id path base)
  rw [h] at heffect
  refine ⟨?_, heffect.table_of_error, s.dispatchers_step nofun, ?_, ?_, ?_⟩
  · rw [happ]
    exact heffect.reason
  · rw [happ]
  · rw [happ]
    exact hmoved
  · rw [happ]
    exact hmoved.sameRouting_iff hgrounded hid

/-- **A registration that fails leaves the table alone, but not the class**: over any session, whatever the table is, the
path and the base that were given are those of the class then, and of all classes that have theirs from it. -/
theorem abandoned_register (t : RouteTable ClassId) (before : List Command) {id : ClassId} {path base : Option Letters}
    {f : Failure} (hid : id < ((start .base t).after before).app.hierarchy.classes.length)
    (h : (((start .base t).after before).step (.register id path base)).2 = .error f) :
    ((start .base t).after before).Abandoned id path base f
      (((start .base t).after before).step (.register id path base)).1 :=
  abandoned_of_grounded (sound_after (s := start .base t) Application.sound_base before).grounded hid h

/-- Pictures, which have a path. -/
def pictureClass : ClassSpec where
  name := .plain "Picture" "pictures"
  values := [("path", .text "/picture")]

/-- Posters, which have the path of pictures. -/
def posterClass : ClassSpec where
  name := .plain "Poster" "pictures"
  parent := "Picture"

/-- What is done to have pictures, and no more after them. -/
def hanging : List Command := [.define pictureClass, .define posterClass, .add 1 none none, .freeze]

/-- A session with pictures and posters. -/
def gallery : Session := (start .base .empty).after hanging

/-- Pictures are registered too late, and the posters move along. -/
theorem abandoned_register_picture :
    1 < gallery.app.hierarchy.classes.length ∧
      (gallery.step (.register 1 (some "/frame") none)).2 =
        .error (.fault (.declare .runtime "Cannot add routes to a frozen route table.")) ∧
      (gallery.step (.register 1 (some "/frame") none)).1.table = gallery.table ∧
      ((gallery.step (.register 1 (some "/frame") none)).1.app.resource 1).path = "/frame" ∧
      ((gallery.step (.register 1 (some "/frame") none)).1.app.resource 2).path = "/frame" := by
  have hid : 1 < gallery.app.hierarchy.classes.length := by decide
  have h : (gallery.step (.register 1 (some "/frame") none)).2 =
      .error (.fault (.declare .runtime "Cannot add routes to a frozen route table.")) := rfl
  have habandoned := abandoned_register .empty hanging hid h
  have hpicture : gallery.app.hierarchy.Takes 1 "path" 1 := .itself rfl
  have hposter : gallery.app.hierarchy.Takes 1 "path" 2 := .inherited rfl rfl rfl hpicture
  exact ⟨hid, h, habandoned.table, habandoned.relocates.path.taken 1 hpicture,
    habandoned.relocates.path.taken 2 hposter⟩

/-- **Classes do not stay where they were**: the registration of the pictures fails, and neither they nor the posters match
the path any more that they had before. -/
theorem register_moves_gallery :
    gallery.table.frozen = true ∧
      (gallery.step (.register 1 (some "/frame") none)).2 =
        .error (.fault (.declare .runtime "Cannot add routes to a frozen route table.")) ∧
      ∀ c ∈ [1, 2],
        (gallery.app.resource c).path = "/picture" ∧ (gallery.app.resource c).match? "/picture" = .ok (some []) ∧
        (gallery.app.resource c).link [] = .ok "/picture" ∧
        ((gallery.step (.register 1 (some "/frame") none)).1.app.resource c).path = "/frame" ∧
        ((gallery.step (.register 1 (some "/frame") none)).1.app.resource c).template = "/frame" ∧
        ((gallery.step (.register 1 (some "/frame") none)).1.app.resource c).match? "/picture" = .ok none ∧
        ((gallery.step (.register 1 (some "/frame") none)).1.app.resource c).link [] = .ok "/frame" := by
  refine ⟨rfl, rfl, ?_⟩
  intro c hc
  rcases List.mem_cons.mp hc with rfl | hc
  · exact ⟨rfl, rfl, rfl, rfl, rfl, rfl, rfl⟩
  · obtain rfl := List.mem_singleton.mp hc
    exact ⟨rfl, rfl, rfl, rfl, rfl, rfl, rfl⟩

end Session

end HttpRouter
