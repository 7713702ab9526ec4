import HttpRouter.Session

/-!
# Route tables over time

A table changes in two ways only: a route is put at its end, or it is frozen. Which command does which, and that every
command that fails does neither, is said once (`Effect`, `effect_step`). So a table grows with every command (`Grows`),
and over any number of them; what it found once it finds ever after, since routes in front are those that count.

Routes carry the template that was read when they were registered. What becomes of the path and the base of a class
afterwards shows in the hierarchy, and in what is registered from then on.

* `Session.routes_after`: the routes of a session are those it started with, followed by those it registered;
* `Session.grows_after`: a table grows over a session;
* `Session.shared_after`: dispatchers route by the table as it is at any time.
-/

namespace HttpRouter

/-! ## Tables that grow -/

namespace RouteTable

variable {κ : Type}

/-- A table has grown into another one: its routes are the first ones there, and if it was frozen it is the same. -/
structure Grows (t t' : RouteTable κ) : Prop where
  routes : t.routes <+: t'.routes
  frozen : t.frozen = true → t' = t

theorem Grows.refl (t : RouteTable κ) : t.Grows t :=
  ⟨List.prefix_refl _, fun _ => rfl⟩

theorem Grows.trans {t t' t'' : RouteTable κ} (h : t.Grows t') (h' : t'.Grows t'') : t.Grows t'' := by
  refine ⟨h.routes.trans h'.routes, ?_⟩
  intro hfrozen
  obtain rfl := h.frozen hfrozen
  exact h'.frozen hfrozen

theorem grows_freeze (t : RouteTable κ) : t.Grows t.freeze := by
  refine ⟨List.prefix_refl _, ?_⟩
  intro hfrozen
  rw [freeze, ← hfrozen]

/-- A table that is not frozen grows by routes at its end. -/
theorem grows_append {t : RouteTable κ} (h : t.frozen = false) (more : List (Route κ)) :
    t.Grows { t with routes := t.routes ++ more } := by
  refine ⟨List.prefix_append _ _, ?_⟩
  intro hfrozen
  rw [h] at hfrozen
  cases hfrozen

/-- **What was found is found again**, with the same parameters. -/
theorem Grows.lookup {t t' : RouteTable κ} (h : t.Grows t') {path : Letters} {m : RouteMatch κ}
    (hm : t.lookup path = some m) : t'.lookup path = some m := by
  obtain ⟨more, hmore⟩ := h.routes
  have hfound := lookup_append more hm
  rw [hmore] at hfound
  exact hfound

/-- A route keeps its place. -/
theorem Grows.getElem? {t t' : RouteTable κ} (h : t.Grows t') {i : Nat} {route : Route κ}
    (hi : t.routes[i]? = some route) : t'.routes[i]? = some route := by
  obtain ⟨more, hmore⟩ := h.routes
  obtain ⟨hlt, -⟩ := List.getElem?_eq_some_iff.mp hi
  rw [← hmore, List.getElem?_append_left hlt]
  exact hi

/-- The first route to a resource remains the first one. -/
theorem Grows.find? [BEq κ] {t t' : RouteTable κ} (h : t.Grows t') {resource : κ} {route : Route κ}
    (hr : t.find? resource = some route) : t'.find? resource = some route := by
  obtain ⟨more, hmore⟩ := h.routes
  rw [RouteTable.find?] at hr ⊢
  rw [← hmore, List.find?_append, hr]
  rfl

/-! ## What adding a route comes to -/

section Adding

variable {t : RouteTable κ} {resource : κ} {path base : Letters}

theorem add_of_frozen (h : t.frozen = true) :
    t.add resource path base = .error (.declare .runtime "Cannot add routes to a frozen route table.") := by
  rw [add, if_pos h]
  rfl

theorem add_of_unreadable (h : t.frozen = false) {e : Template.Imbalance}
    (hread : Template.parse (base ++ path) = .error e) :
    t.add resource path base = .error (.declare .invalidTemplate (e.message (base ++ path))) := by
  rw [add, if_neg (by simp [h]), Route.make, Template.ofString, hread]
  rfl

theorem add_of_readable (h : t.frozen = false) {template : Template}
    (hread : Template.parse (base ++ path) = .ok template) :
    t.add resource path base =
      .ok ({ t with routes := t.routes ++ [⟨resource, path, base, template⟩] }, ⟨resource, path, base, template⟩) := by
  rw [add, if_neg (by simp [h]), Route.make, Template.ofString, hread]
  rfl

end Adding

/-- The template of every route is that of its source. -/
def WellRead (t : RouteTable κ) : Prop :=
  ∀ route ∈ t.routes, Template.ofString route.source = .ok route.template

end RouteTable

namespace Wiring

variable {w : Wiring} {t : RouteTable ClassId}

theorem dispatcher_of_invalid {e : Config.ConfigError} (h : w.config.error? = some e) :
    w.dispatcher t = .error (.declare .value e.message) := by
  rw [dispatcher, Dispatcher.make, Config.validate, h]
  rfl

/-- A dispatcher with a valid configuration routes by the table, which is frozen. -/
theorem dispatcher_of_valid (h : w.config.error? = none) :
    ∃ d, w.dispatcher t = .ok d ∧ d.routes = t.freeze := by
  rw [dispatcher, Dispatcher.make, Config.validate, h]
  exact ⟨_, rfl, rfl⟩

/-- A dispatcher for a table routes by it, with the initializers of its configuration and those it was given. -/
theorem dispatcher_eq_ok {d : Dispatcher ClassId} (h : w.dispatcher t = .ok d) :
    d.routes = t.freeze ∧ d.initializers = w.config.initializers ++ w.initializers := by
  rw [dispatcher, Dispatcher.make] at h
  cases hvalid : w.config.validate with
  | error f =>
    rw [hvalid] at h
    cases h
  | ok valid =>
    rw [hvalid] at h
    cases h
    exact ⟨rfl, rfl⟩

end Wiring

/-! ## What a command does -/

namespace Session

/-- What a command adds to the table: the class, and the path and the base of the route. A decorated class has the path
and the base it was decorated with, and otherwise those it had. -/
def Command.entry? (h : Hierarchy) : Command → Option (ClassId × Letters × Letters)
  | .add id path base => some (id, path.getD (h.resource id).path, base.getD (h.resource id).base)
  | .register id path base => some (((h.setText id "path" path).setText id "base" base).entry id)
  | _ => none

/-- Whether a command may freeze the table. -/
def Command.freezes : Command → Bool
  | .freeze | .construct _ => true
  | _ => false

/-- What a command makes of the table of a session, and how it is answered. -/
inductive Effect (s : Session) : Command → RouteTable ClassId → Except Failure Answer → Prop
  | added {c : Command} {id : ClassId} {path base : Letters} {template : Template}
      (hentry : c.entry? s.app.hierarchy = some (id, path, base)) (hopen : s.table.frozen = false)
      (hread : Template.parse (base ++ path) = .ok template) :
      Effect s c { s.table with routes := s.table.routes ++ [⟨id, path, base, template⟩] }
        (.ok (.registered ⟨id, path, base, template⟩))
  | closed {c : Command} {entry : ClassId × Letters × Letters} (hentry : c.entry? s.app.hierarchy = some entry)
      (hfrozen : s.table.frozen = true) :
      Effect s c s.table (.error (.fault (.declare .runtime "Cannot add routes to a frozen route table.")))
  | unreadable {c : Command} {id : ClassId} {path base : Letters} {e : Template.Imbalance}
      (hentry : c.entry? s.app.hierarchy = some (id, path, base)) (hopen : s.table.frozen = false)
      (hread : Template.parse (base ++ path) = .error e) :
      Effect s c s.table (.error (.fault (.declare .invalidTemplate (e.message (base ++ path)))))
  | frozen : Effect s .freeze s.table.freeze (.ok .done)
  | constructed {w : Wiring} (hconfig : w.config.error? = none) : Effect s (.construct w) s.table.freeze (.ok .done)
  | refused {w : Wiring} {e : Config.ConfigError} (hconfig : w.config.error? = some e) :
      Effect s (.construct w) s.table (.error (.fault (.declare .value e.message)))
  | kept {c : Command} {answer : Except Failure Answer} (hentry : c.entry? s.app.hierarchy = none)
      (hfreezes : c.freezes = false) (hanswer : answer.toOption.bind Answer.route? = none) :
      Effect s c s.table answer

/-- Taking over what an addition gave has the effect of an addition. -/
theorem effect_take {s : Session} (next : Session) {c : Command} {id : ClassId} {path base : Letters}
    (hentry : c.entry? s.app.hierarchy = some (id, path, base)) (hnext : next.table = s.table) :
    s.Effect c (next.take (s.table.add id path base)).1.table (next.take (s.table.add id path base)).2 := by
  cases hfrozen : s.table.frozen with
  | true =>
    rw [RouteTable.add_of_frozen hfrozen, take, hnext]
    exact .closed hentry hfrozen
  | false =>
    cases hread : Template.parse (base ++ path) with
    | error e =>
      rw [RouteTable.add_of_unreadable hfrozen hread, take, hnext]
      exact .unreadable hentry hfrozen hread
    | ok template =>
      rw [RouteTable.add_of_readable hfrozen hread]
      exact .added hentry hfrozen hread

/-- **Every command has the effect that is listed for it.** -/
theorem effect_step (s : Session) (c : Command) : s.Effect c (s.step c).1.table (s.step c).2 := by
  cases c with
  | add id path base => exact effect_take s rfl rfl
  | register id path base => exact effect_take { s with app.hierarchy := _ } rfl rfl
  | assign id path base => exact .kept rfl rfl rfl
  | define spec =>
    rw [step]
    cases s.app.define spec with
    | error f => exact .kept rfl rfl rfl
    | ok app => exact .kept rfl rfl rfl
  | freeze => exact .frozen
  | construct w =>
    rw [step]
    cases hconfig : w.config.error? with
    | some e =>
      rw [Wiring.dispatcher_of_invalid hconfig]
      exact .refused hconfig
    | none =>
      obtain ⟨d, hd, hroutes⟩ := Wiring.dispatcher_of_valid (t := s.table) hconfig
      rw [hd]
      dsimp only
      rw [hroutes]
      exact .constructed hconfig
  | lookup path => exact .kept rfl rfl rfl
  | link id values =>
    refine .kept rfl rfl ?_
    rw [step]
    cases s.table.link id (s.app.nameOf id) values <;> rfl
  | dispatch number surroundings request =>
    rw [step]
    cases s.dispatchers[number]? with
    | none => exact .kept rfl rfl rfl
    | some d =>
      refine .kept rfl rfl ?_
      dsimp only
      cases (d.dispatch s.app.world surroundings request).1 <;> rfl

section Effects

variable {s : Session} {c : Command} {t : RouteTable ClassId} {answer : Except Failure Answer} (h : s.Effect c t answer)
include h

/-- The routes grow by the one that is registered, if there is one. -/
theorem Effect.routes : t.routes = s.table.routes ++ (answer.toOption.bind Answer.route?).toList := by
  cases h with
  | added => rfl
  | kept _ _ hanswer => rw [hanswer, Option.toList_none, List.append_nil]
  | closed | unreadable | frozen | constructed | refused => exact (List.append_nil _).symm

/-- **A table grows with every command.** -/
theorem Effect.grows : s.table.Grows t := by
  cases h with
  | added _ hopen => exact RouteTable.grows_append hopen _
  | frozen | constructed => exact s.table.grows_freeze
  | closed | unreadable | refused | kept => exact .refl _

/-- A route that is added has the template of its source. -/
theorem Effect.wellRead (ht : s.table.WellRead) : t.WellRead := by
  cases h with
  | @added c id path base template _ _ hread =>
    intro route hroute
    rcases List.mem_append.mp hroute with hroute | hroute
    · exact ht route hroute
    · obtain rfl := List.mem_singleton.mp hroute
      show (Template.parse (base ++ path)).mapError _ = _
      rw [hread]
      rfl
  | closed | unreadable | frozen | constructed | refused | kept => exact ht

end Effects

/-! ## Over a session -/

/-- **The routes of a session** are those that it started with, followed by those that it registered. -/
theorem routes_after (s : Session) (commands : List Command) :
    (s.after commands).table.routes = s.table.routes ++ s.registered commands := by
  induction commands generalizing s with
  | nil => exact (List.append_nil _).symm
  | cons c commands ih =>
    show ((s.step c).1.after commands).table.routes = _
    rw [ih, (s.effect_step c).routes, List.append_assoc]
    rfl

/-- **A table grows over a session.** -/
theorem grows_after (s : Session) (commands : List Command) : s.table.Grows (s.after commands).table := by
  induction commands generalizing s with
  | nil => exact .refl _
  | cons c commands ih => exact (s.effect_step c).grows.trans (ih (s.step c).1)

/-- **Routes have the templates of their sources**, over a session too. -/
theorem wellRead_after {s : Session} (h : s.table.WellRead) (commands : List Command) :
    (s.after commands).table.WellRead := by
  induction commands generalizing s with
  | nil => exact h
  | cons c commands ih => exact ih ((s.effect_step c).wellRead h)

/-- Every dispatcher of a session routes by its table. -/
def Shared (s : Session) : Prop :=
  ∀ d ∈ s.dispatchers, d.routes = s.table ∧ s.table.frozen = true

@[simp] theorem dispatchers_take (s : Session) (result : Except Fault (RouteTable ClassId × Route ClassId)) :
    (s.take result).1.dispatchers = s.dispatchers := by
  cases result <;> rfl

/-- Only making a dispatcher adds one. -/
theorem dispatchers_step (s : Session) {c : Command} (hc : ∀ w, c ≠ .construct w) :
    (s.step c).1.dispatchers = s.dispatchers := by
  cases c with
  | add id path base => exact dispatchers_take _ _
  | register id path base => exact dispatchers_take _ _
  | define spec =>
    rw [step]
    cases s.app.define spec <;> rfl
  | dispatch number surroundings request =>
    rw [step]
    cases s.dispatchers[number]? <;> rfl
  | construct w => exact absurd rfl (hc w)
  | assign id path base => rfl
  | freeze => rfl
  | lookup path => rfl
  | link id values => rfl

/-- **Dispatchers go on sharing the table**: it is frozen when the first one is made, and stays as it is from then on. -/
theorem shared_step {s : Session} (h : s.Shared) (c : Command) : (s.step c).1.Shared := by
  -- What was frozen is the table still, whatever the command.
  have hold : ∀ d ∈ s.dispatchers, d.routes = (s.step c).1.table ∧ (s.step c).1.table.frozen = true := by
    intro d hd
    obtain ⟨hroutes, hfrozen⟩ := h d hd
    rw [(s.effect_step c).grows.frozen hfrozen]
    exact ⟨hroutes, hfrozen⟩
  by_cases hc : ∃ w, c = .construct w
  · obtain ⟨w, rfl⟩ := hc
    intro d hd
    cases hconfig : w.config.error? with
    | some e =>
      rw [step, Wiring.dispatcher_of_invalid hconfig] at hd
      exact hold d hd
    | none =>
      obtain ⟨made, hmade, hroutes⟩ := Wiring.dispatcher_of_valid (t := s.table) hconfig
      have hstep : s.step (.construct w) =
          ({ s with table := made.routes, dispatchers := s.dispatchers ++ [made] }, .ok .done) := by
        rw [step, hmade]
      rw [hstep] at hd hold ⊢
      rcases List.mem_append.mp hd with hd | hd
      · exact hold d hd
      · obtain rfl := List.mem_singleton.mp hd
        exact ⟨rfl, by rw [hroutes]; rfl⟩
  · intro d hd
    rw [s.dispatchers_step fun w hw => hc ⟨w, hw⟩] at hd
    exact hold d hd

theorem shared_after {s : Session} (h : s.Shared) (commands : List Command) : (s.after commands).Shared := by
  induction commands generalizing s with
  | nil => exact h
  | cons c commands ih => exact ih (shared_step h c)

/-! ## The history of a table -/

/-- What holds of a session `s` at one time, and later on, after some more commands. -/
structure History (s : Session) (commands : List Command) : Prop where
  /-- Every command has the effect that is listed for it: in particular a registration that goes well puts one route at
  the end, and one that fails leaves the table as it was, as does making a dispatcher with an invalid configuration. -/
  effect : ∀ c, s.Effect c (s.step c).1.table (s.step c).2
  /-- The routes are followed by those that were registered, one for each registration that went well. -/
  routes : (s.after commands).table.routes = s.table.routes ++ s.registered commands
  /-- A frozen table never changes again. -/
  frozen : s.table.frozen = true → (s.after commands).table = s.table
  /-- Whatever route and parameters a path leads to, it leads to them later. -/
  lookup : ∀ path m, (s.step (.lookup path)).2 = .ok (.found (some m)) →
    ((s.after commands).step (.lookup path)).2 = .ok (.found (some m))
  /-- A registered route stays what it is, at its place, whatever becomes of the path and the base of its class; so it
  matches the same paths and links the same values. -/
  kept : ∀ (i : Nat) (route : Route ClassId), s.table.routes[i]? = some route → (s.after commands).table.routes[i]? = some route
  /-- The route that values of a resource are linked by stays the same. -/
  find : ∀ id route, s.table.find? id = some route → (s.after commands).table.find? id = some route
  /-- Dispatchers route by the table. -/
  shared : ∀ d ∈ (s.after commands).dispatchers, d.routes = (s.after commands).table

/-- **The route table over a session**: whatever commands came before, and whatever commands follow. -/
theorem history (app : Application) (t : RouteTable ClassId) (before later : List Command) :
    ((start app t).after before).History later := by
  have hgrows := ((start app t).after before).grows_after later
  have hshared : (((start app t).after before).after later).Shared := by
    refine shared_after (shared_after ?_ before) later
    rintro d ⟨⟩
  refine ⟨effect_step _, routes_after _ later, hgrows.frozen, ?_, fun _ _ => hgrows.getElem?, fun _ _ => hgrows.find?,
    fun d hd => (hshared d hd).1⟩
  intro path m hfound
  have hm : ((start app t).after before).table.lookup path = some m :=
    Answer.found.inj (Except.ok.inj hfound)
  exact congrArg (Except.ok ∘ Answer.found) (hgrows.lookup hm)

/-- A registration that fails sets the path of its class all the same, and leaves the route that there is. -/
example :
    let page : ClassSpec := { name := .plain "Page" "pages", values := [("path", .text "/a")] }
    let s := (start .base .empty).after [.define page, .add 1 none none, .register 1 (some "/b(") none]
    s.table.routes.map Route.source = [Text.ofString "/a"] ∧ (s.app.resource 1).path = Text.ofString "/b(" :=
  ⟨rfl, rfl⟩

end Session

end HttpRouter
