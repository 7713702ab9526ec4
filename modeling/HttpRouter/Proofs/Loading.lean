import HttpRouter.CommandLine.Program
import HttpRouter.Proofs.Sessions
import Mathlib.Data.List.Forall2

/-!
# Applications that cannot be loaded

A name leads to a dispatcher, or there is a cause why it does not, and which of the two is the case is said here without
the functions that load: by the parts of the name, the objects that its attributes lead through, and the routes of the
items that the last one yields. The program reports the causes that it looks for itself, that is a name without both of
its parts, a module that is not there, and a template whose parentheses do not balance. Of the faults of objects it reports
those of three kinds, and all others end it; and so does the name of a relative module.

* `Objects.Builds.eq`, `Objects.Fails.eq`, `Objects.builds_or_fails`: what loading comes to.
* `Objects.program_settled`: what the program does with the name of an application.
* `program_namespace`: an application that cannot be loaded, and is not reported.
-/

namespace HttpRouter.CommandLine

/-! ## Names -/

/-- The name of an application has these parts. -/
structure Names (app module : String) (path : List String) : Prop where
  name : app.toList = module.toList ++ ':' :: Text.joinWith ['.'] (path.map String.toList)
  /-- The module ends at the first colon. -/
  colon : ':' ∉ module.toList
  /-- Attributes end at dots. -/
  dot : ∀ name ∈ path, '.' ∉ name.toList
  module_ne : module ≠ ""
  /-- There is an attribute, and not only one without a name. -/
  path_ne : path ≠ [] ∧ path ≠ [""]

theorem map_ofList_map_toList (path : List String) : (path.map String.toList).map String.ofList = path := by
  rw [List.map_map]
  exact (List.map_congr_left fun name _ => String.ofList_toList).trans path.map_id

/-- Attributes are found again from where they are joined. -/
theorem Names.splitOn_path {app module : String} {path : List String} (h : Names app module path) :
    Text.splitOn '.' (Text.joinWith ['.'] (path.map String.toList)) = path.map String.toList := by
  refine Text.splitOn_joinWith (by simpa using h.path_ne.1) ?_
  intro piece hpiece
  obtain ⟨name, hname, rfl⟩ := List.mem_map.mp hpiece
  exact h.dot name hname

/-- The text of the attributes is not empty. -/
theorem Names.joined_ne {app module : String} {path : List String} (h : Names app module path) :
    Text.joinWith ['.'] (path.map String.toList) ≠ [] := by
  intro hempty
  have hsplit := h.splitOn_path
  rw [hempty] at hsplit
  refine h.path_ne.2 ?_
  rw [← map_ofList_map_toList path, ← hsplit]
  rfl

/-- A name with both parts is split into them. -/
theorem Names.splitName {app module : String} {path : List String} (h : Names app module path) :
    splitName app = .ok (module, path) := by
  have hmodule : ¬ (module.toList.isEmpty = true ∨ (Text.joinWith ['.'] (path.map String.toList)).isEmpty = true) := by
    rintro (hempty | hempty)
    · exact h.module_ne (by simpa using hempty)
    · exact h.joined_ne (by simpa using hempty)
  rw [CommandLine.splitName, h.name, Text.cut_append_cons h.colon]
  dsimp only
  rw [if_neg hmodule, h.splitOn_path, map_ofList_map_toList, String.ofList_toList]

/-- **A name is split into its parts, if it has both of them.** -/
theorem splitName_or_malformed (app : String) :
    (∃ module path, Names app module path) ∨ splitName app = .error (malformedName app) := by
  rw [splitName]
  rcases hcut : Text.cut ':' app.toList with ⟨module, _ | path⟩
  · exact .inr rfl
  · dsimp only
    split
    · exact .inr rfl
    · next hne =>
      obtain ⟨happ, hcolon⟩ := Text.cut_eq_some hcut
      rw [not_or] at hne
      -- Both parts are texts again, so that what is split of their characters has to be compared as characters.
      have hpieces : ((Text.splitOn '.' path).map String.ofList).map String.toList = Text.splitOn '.' path := by
        rw [List.map_map]
        exact (List.map_congr_left fun piece _ => String.toList_ofList).trans (List.map_id _)
      refine .inl ⟨String.ofList module, (Text.splitOn '.' path).map String.ofList, ⟨?_, ?_, ?_, ?_, ?_, ?_⟩⟩
      · rw [hpieces, Text.joinWith_splitOn, String.toList_ofList]
        exact happ
      · rwa [String.toList_ofList]
      · intro name hname
        obtain ⟨piece, hpiece, rfl⟩ := List.mem_map.mp hname
        rw [String.toList_ofList]
        exact Text.notMem_of_mem_splitOn hpiece
      · rintro hempty
        exact hne.1 (by simpa using congrArg String.toList hempty)
      · simpa using Text.splitOn_ne_nil '.' path
      · intro hempty
        have hsplit := hpieces.symm.trans (congrArg (List.map String.toList) hempty)
        have hjoin := Text.joinWith_splitOn '.' path
        rw [hsplit] at hjoin
        exact hne.2 (hjoin ▸ rfl)

namespace Objects

variable {ω : Type} {o : Objects ω}

/-! ## Attributes -/

/-- Attributes lead from an object to another one. -/
inductive Leads (o : Objects ω) : ω → List String → ω → Prop
  | here (t : ω) : Leads o t [] t
  | along {t t' u : ω} {name : String} {path : List String} (hmember : o.member t name = .ok t')
      (h : Leads o t' path u) : Leads o t (name :: path) u

/-- Following attributes passes through what they lead to. -/
theorem Leads.follow_append {t u : ω} {path : List String} (h : o.Leads t path u) (more : List String) :
    o.follow t (path ++ more) = o.follow u more := by
  -- With more attributes behind them, since the ones that lead somewhere may stand before one that cannot be read.
  induction h with
  | here t => rfl
  | along hmember _ ih =>
    rw [List.cons_append, follow, hmember]
    exact ih

theorem Leads.follow {t u : ω} {path : List String} (h : o.Leads t path u) : o.follow t path = .ok u := by
  have hfollow := h.follow_append []
  rwa [List.append_nil] at hfollow

/-- Attributes lead somewhere, up to the first one that cannot be read. -/
theorem leads_or_stops (t : ω) (path : List String) :
    (∃ u, o.Leads t path u) ∨
      ∃ before name after u f, path = before ++ name :: after ∧ o.Leads t before u ∧ o.member u name = .error f := by
  induction path generalizing t with
  | nil => exact .inl ⟨t, .here t⟩
  | cons name path ih =>
    cases hmember : o.member t name with
    | error f => exact .inr ⟨[], name, path, t, f, rfl, .here t, hmember⟩
    | ok t' =>
      rcases ih t' with ⟨u, hleads⟩ | ⟨before, stop, after, u, f, rfl, hleads, hstop⟩
      · exact .inl ⟨u, .along hmember hleads⟩
      · exact .inr ⟨name :: before, stop, after, u, f, rfl, .along hmember hleads, hstop⟩

/-! ## Items -/

/-- Why there is no dispatcher. -/
inductive Cause where
  /-- The name does not have both parts. -/
  | name
  /-- The name of the module is relative. -/
  | relative
  /-- There is no such module. -/
  | module
  /-- An object fails. -/
  | object
  /-- The parentheses of a template do not balance. -/
  | template
deriving DecidableEq, Repr

/-- An item has a route. -/
structure Routed (o : Objects ω) (item : ClassId) (r : Route ClassId) : Prop where
  resource : r.resource = item
  entry : o.entry item = .ok (r.path, r.base)
  template : Template.parse r.source = .ok r.template

/-- An item has no route. -/
inductive Unrouted (o : Objects ω) (item : ClassId) : Cause → Fault → Prop
  | unread {f : Fault} (hentry : o.entry item = .error f) : Unrouted o item .object f
  | unbalanced {path base : Letters} {e : Template.Imbalance} (hentry : o.entry item = .ok (path, base))
      (htemplate : Template.parse (base ++ path) = .error e) :
      Unrouted o item .template (.declare .invalidTemplate (e.message (base ++ path)))

/-- **An item has a route, or a cause why it has none.** -/
theorem routed_or_unrouted (item : ClassId) : (∃ r, o.Routed item r) ∨ ∃ c f, o.Unrouted item c f := by
  cases hentry : o.entry item with
  | error f => exact .inr ⟨_, _, .unread hentry⟩
  | ok e =>
    obtain ⟨path, base⟩ := e
    cases htemplate : Template.parse (base ++ path) with
    | error e => exact .inr ⟨_, _, .unbalanced hentry htemplate⟩
    | ok t => exact .inl ⟨⟨item, path, base, t⟩, rfl, hentry, htemplate⟩

section Adding

variable {t : RouteTable ClassId} {item : ClassId} {items : List ClassId}

theorem Routed.addItem {r : Route ClassId} (h : o.Routed item r) (ht : t.frozen = false) :
    o.addItem t item = .ok { t with routes := t.routes ++ [r] } := by
  obtain ⟨resource, path, base, template⟩ := r
  obtain rfl : resource = item := h.resource
  rw [Objects.addItem, h.entry]
  show (·.1) <$> t.add resource path base = _
  rw [RouteTable.add_of_readable ht h.template]
  rfl

theorem Unrouted.addItem {c : Cause} {f : Fault} (h : o.Unrouted item c f) (ht : t.frozen = false) :
    o.addItem t item = .error f := by
  cases h with
  | unread hentry =>
    rw [Objects.addItem, hentry]
    rfl
  | @unbalanced path base e hentry htemplate =>
    rw [Objects.addItem, hentry]
    show (·.1) <$> t.add item path base = _
    rw [RouteTable.add_of_unreadable ht htemplate]
    rfl

/-- The routes of items are added in order. -/
theorem foldlM_addItem {routes : List (Route ClassId)} (h : List.Forall₂ o.Routed items routes)
    (ht : t.frozen = false) (more : List ClassId) :
    (items ++ more).foldlM o.addItem t = more.foldlM o.addItem { t with routes := t.routes ++ routes } := by
  -- The table grows while it stays open, which is all that adding a route needs of it.
  induction h generalizing t with
  | nil => rw [List.nil_append, List.append_nil]
  | @cons item r items routes hitem _ ih =>
    rw [List.cons_append, List.foldlM_cons, hitem.addItem ht]
    show (items ++ more).foldlM o.addItem { t with routes := t.routes ++ [r] } = _
    rw [ih (t := { t with routes := t.routes ++ [r] }) ht, List.append_assoc, List.singleton_append]

/-- Items have routes, up to the first one that has none. -/
theorem routed_or_stops (items : List ClassId) :
    (∃ routes, List.Forall₂ o.Routed items routes) ∨
      ∃ before item after routes c f, items = before ++ item :: after ∧ List.Forall₂ o.Routed before routes ∧
        o.Unrouted item c f := by
  induction items with
  | nil => exact .inl ⟨[], .nil⟩
  | cons item items ih =>
    rcases o.routed_or_unrouted item with ⟨r, hitem⟩ | ⟨c, f, hitem⟩
    · rcases ih with ⟨routes, hitems⟩ | ⟨before, stop, after, routes, c, f, rfl, hbefore, hstop⟩
      · exact .inl ⟨r :: routes, .cons hitem hitems⟩
      · exact .inr ⟨item :: before, stop, after, r :: routes, c, f, rfl, .cons hitem hbefore, hstop⟩
    · exact .inr ⟨[], item, items, [], c, f, rfl, .nil, hitem⟩

end Adding

/-! ## Dispatchers -/

/-- The dispatcher that is made for a table with a configuration. -/
def serving (config : Config) (t : RouteTable ClassId) : Dispatcher ClassId where
  config
  routes := t.freeze
  renderer := config.renderer default
  factory := Dispatcher.plainFactory
  observer := .log
  initializers := config.initializers

/-- An object is a dispatcher, or one is made for it. -/
inductive Makes (o : Objects ω) (config : Config) (u : ω) : Dispatcher ClassId → Prop
  | itself {d : Dispatcher ClassId} (hrole : o.role u = .ok (.dispatcher d)) : Makes o config u d
  | table {t : RouteTable ClassId} (hrole : o.role u = .ok (.table t)) : Makes o config u (serving config t)
  | items {y : Yield} {routes : List (Route ClassId)} (hrole : o.role u = .ok (.other (.ok y)))
      (hroutes : List.Forall₂ o.Routed y.items routes) (hend : y.fault = none) :
      Makes o config u (serving config ⟨routes, false⟩)

/-- No dispatcher is made for an object. -/
inductive Unmade (o : Objects ω) (u : ω) : Cause → Fault → Prop
  /-- Asking what it is fails. -/
  | unseen {f : Fault} (hrole : o.role u = .error f) : Unmade o u .object f
  /-- It cannot be gone through. -/
  | closed {f : Fault} (hrole : o.role u = .ok (.other (.error f))) : Unmade o u .object f
  /-- One of its items has no route. -/
  | item {y : Yield} {before after : List ClassId} {item : ClassId} {routes : List (Route ClassId)} {c : Cause}
      {f : Fault} (hrole : o.role u = .ok (.other (.ok y))) (hitems : y.items = before ++ item :: after)
      (hbefore : List.Forall₂ o.Routed before routes) (hitem : o.Unrouted item c f) : Unmade o u c f
  /-- It breaks off behind items that all have routes. -/
  | broken {y : Yield} {routes : List (Route ClassId)} {f : Fault} (hrole : o.role u = .ok (.other (.ok y)))
      (hroutes : List.Forall₂ o.Routed y.items routes) (hend : y.fault = some f) : Unmade o u .object f

section Making

variable {config : Config} {u : ω}

/-- **An object makes a dispatcher, or there is a cause why it does not.** -/
theorem makes_or_unmade (config : Config) (u : ω) :
    (∃ d, o.Makes config u d) ∨ ∃ c f, o.Unmade u c f := by
  cases hrole : o.role u with
  | error f => exact .inr ⟨_, _, .unseen hrole⟩
  | ok role =>
    cases role with
    | dispatcher d => exact .inl ⟨_, .itself hrole⟩
    | table t => exact .inl ⟨_, .table hrole⟩
    | other start =>
      cases start with
      | error f => exact .inr ⟨_, _, .closed hrole⟩
      | ok y =>
        rcases o.routed_or_stops y.items with
          ⟨routes, hroutes⟩ | ⟨before, item, after, routes, c, f, hitems, hbefore, hitem⟩
        · cases hend : y.fault with
          | none => exact .inl ⟨_, .items hrole hroutes hend⟩
          | some f => exact .inr ⟨_, _, .broken hrole hroutes hend⟩
        · exact .inr ⟨_, _, .item hrole hitems hbefore hitem⟩

theorem plainDispatcher_ok (hvalid : config.validate = .ok ()) (t : RouteTable ClassId) :
    plainDispatcher config (.ok t) = .ok (serving config t) := by
  rw [plainDispatcher, Dispatcher.make, hvalid]
  show Except.ok _ = _
  rw [List.append_nil]
  rfl

theorem plainDispatcher_error (hvalid : config.validate = .ok ()) (f : Fault) :
    plainDispatcher config (.error f) = .error f := by
  rw [plainDispatcher, Dispatcher.make, hvalid]
  rfl

/-- The table of what an object yields, all of which has routes. -/
theorem tableOf_of_routed {y : Yield} {routes : List (Route ClassId)} (h : List.Forall₂ o.Routed y.items routes) :
    o.tableOf y = match y.fault with
      | some f => .error f
      | none => .ok ⟨routes, false⟩ := by
  have hfold := foldlM_addItem (t := .empty) h rfl []
  rw [List.append_nil] at hfold
  rw [tableOf, hfold]
  show (match y.fault with | some f => _ | none => _) = _
  cases y.fault <;> rfl

/-- There is no table of what an object yields if there is an item without a route; what comes behind it does not
matter. -/
theorem tableOf_of_unrouted {y : Yield} {before after : List ClassId} {item : ClassId} {routes : List (Route ClassId)}
    {c : Cause} {f : Fault} (hitems : y.items = before ++ item :: after) (hbefore : List.Forall₂ o.Routed before routes)
    (hitem : o.Unrouted item c f) : o.tableOf y = .error f := by
  rw [tableOf, hitems, foldlM_addItem hbefore rfl, List.foldlM_cons, hitem.addItem rfl]
  rfl

theorem toDispatcher_of_other {start : Except Fault Yield} (hrole : o.role u = .ok (.other start)) :
    o.toDispatcher config u = plainDispatcher config (start >>= o.tableOf) := by
  rw [Objects.toDispatcher, hrole]
  rfl

theorem Makes.toDispatcher {d : Dispatcher ClassId} (hvalid : config.validate = .ok ()) (h : o.Makes config u d) :
    o.toDispatcher config u = .ok d := by
  cases h with
  | itself hrole =>
    rw [Objects.toDispatcher, hrole]
    rfl
  | table hrole =>
    rw [Objects.toDispatcher, hrole]
    exact plainDispatcher_ok hvalid _
  | @items y routes hrole hroutes hend =>
    have htable : o.tableOf y = .ok ⟨routes, false⟩ := by
      rw [tableOf_of_routed hroutes, hend]
    rw [toDispatcher_of_other hrole]
    show plainDispatcher config (o.tableOf y) = _
    rw [htable]
    exact plainDispatcher_ok hvalid _

theorem Unmade.toDispatcher {c : Cause} {f : Fault} (hvalid : config.validate = .ok ()) (h : o.Unmade u c f) :
    o.toDispatcher config u = .error f := by
  cases h with
  | unseen hrole =>
    rw [Objects.toDispatcher, hrole]
    rfl
  | closed hrole =>
    rw [toDispatcher_of_other hrole]
    exact plainDispatcher_error hvalid f
  | @item y before after item routes c f hrole hitems hbefore hitem =>
    rw [toDispatcher_of_other hrole]
    show plainDispatcher config (o.tableOf y) = _
    rw [tableOf_of_unrouted hitems hbefore hitem]
    exact plainDispatcher_error hvalid f
  | @broken y routes f hrole hroutes hend =>
    have htable : o.tableOf y = .error f := by
      rw [tableOf_of_routed hroutes, hend]
    rw [toDispatcher_of_other hrole]
    show plainDispatcher config (o.tableOf y) = _
    rw [htable]
    exact plainDispatcher_error hvalid f

end Making

/-! ## Loading -/

/-- A module can be had by its name. -/
structure Imports (o : Objects ω) (module : String) (t : ω) : Prop where
  absolute : module.toList.head? ≠ some '.'
  found : o.find module = .ok t

/-- The name of an application leads to a dispatcher. -/
inductive Builds (o : Objects ω) (config : Config) (app : String) : Dispatcher ClassId → Prop
  | intro {module : String} {path : List String} {t u : ω} {d : Dispatcher ClassId} (hname : Names app module path)
      (hmodule : o.Imports module t) (hleads : o.Leads t path u) (hmakes : o.Makes config u d) : Builds o config app d

/-- The name of an application leads to no dispatcher, for a cause and with a fault. -/
inductive Fails (o : Objects ω) (app : String) : Cause → Fault → Prop
  | malformed (hname : ∀ module path, ¬ Names app module path) : Fails o app .name (malformedName app)
  | relative {module : String} {path : List String} (hname : Names app module path)
      (hdot : module.toList.head? = some '.') : Fails o app .relative (relativeModule module)
  | missing {module reason : String} {path : List String} (hname : Names app module path)
      (hdot : module.toList.head? ≠ some '.') (hmodule : o.find module = .error reason) :
      Fails o app .module (missingModule reason)
  | stopped {module name : String} {before after : List String} {t u : ω} {f : Fault}
      (hname : Names app module (before ++ name :: after)) (hmodule : o.Imports module t) (hleads : o.Leads t before u)
      (hmember : o.member u name = .error f) : Fails o app .object f
  | unmade {module : String} {path : List String} {t u : ω} {c : Cause} {f : Fault} (hname : Names app module path)
      (hmodule : o.Imports module t) (hleads : o.Leads t path u) (hunmade : o.Unmade u c f) : Fails o app c f

section Loading

variable {config : Config} {app : String}

/-- **A name leads to a dispatcher, or there is a cause why it does not.** -/
theorem builds_or_fails (o : Objects ω) (config : Config) (app : String) :
    (∃ d, o.Builds config app d) ∨ ∃ c f, o.Fails app c f := by
  by_cases hname : ∃ module path, Names app module path
  · obtain ⟨module, path, hname⟩ := hname
    by_cases hdot : module.toList.head? = some '.'
    · exact .inr ⟨_, _, .relative hname hdot⟩
    · cases hmodule : o.find module with
      | error reason => exact .inr ⟨_, _, .missing hname hdot hmodule⟩
      | ok t =>
        rcases o.leads_or_stops t path with ⟨u, hleads⟩ | ⟨before, name, after, u, f, rfl, hleads, hmember⟩
        · rcases o.makes_or_unmade config u with ⟨d, hmakes⟩ | ⟨c, f, hunmade⟩
          · exact .inl ⟨d, .intro hname ⟨hdot, hmodule⟩ hleads hmakes⟩
          · exact .inr ⟨c, f, .unmade hname ⟨hdot, hmodule⟩ hleads hunmade⟩
        · exact .inr ⟨_, f, .stopped hname ⟨hdot, hmodule⟩ hleads hmember⟩
  · exact .inr ⟨_, _, .malformed fun module path h => hname ⟨module, path, h⟩⟩

theorem Imports.importModule {module : String} {t : ω} (h : o.Imports module t) : o.importModule module = .ok t := by
  rw [Objects.importModule, if_neg h.absolute, h.found]
  rfl

/-- Loading goes by the parts of a name. -/
theorem load_of_names {module : String} {path : List String} (hname : Names app module path) :
    o.load app = o.importModule module >>= fun t => o.follow t path := by
  rw [load, hname.splitName]
  rfl

/-- With a module that can be had, it comes to following the attributes. -/
theorem loadDispatcher_of_imports {module : String} {path : List String} {t : ω} (hname : Names app module path)
    (hmodule : o.Imports module t) :
    o.loadDispatcher config app = o.follow t path >>= o.toDispatcher config := by
  rw [loadDispatcher, load_of_names hname, hmodule.importModule]
  rfl

theorem Builds.eq {d : Dispatcher ClassId} (hvalid : config.validate = .ok ()) (h : o.Builds config app d) :
    o.loadDispatcher config app = .ok d := by
  obtain ⟨hname, hmodule, hleads, hmakes⟩ := h
  rw [loadDispatcher_of_imports hname hmodule, hleads.follow]
  exact hmakes.toDispatcher hvalid

theorem Fails.eq {c : Cause} {f : Fault} (hvalid : config.validate = .ok ()) (h : o.Fails app c f) :
    o.loadDispatcher config app = .error f := by
  cases h with
  | malformed hname =>
    have hsplit := (splitName_or_malformed app).resolve_left fun ⟨module, path, h⟩ => hname module path h
    rw [loadDispatcher, load, hsplit]
    rfl
  | relative hname hdot =>
    rw [loadDispatcher, load_of_names hname, importModule, if_pos hdot]
    rfl
  | missing hname hdot hmodule =>
    rw [loadDispatcher, load_of_names hname, importModule, if_neg hdot, hmodule]
    rfl
  | stopped hname hmodule hleads hmember =>
    rw [loadDispatcher_of_imports hname hmodule, hleads.follow_append, follow, hmember]
    rfl
  | unmade hname hmodule hleads hunmade =>
    rw [loadDispatcher_of_imports hname hmodule, hleads.follow]
    exact hunmade.toDispatcher hvalid

/-! ## Causes

What an object raises may be any fault; of the other causes, the kind of fault is known. -/

theorem Unrouted.object_or_template {item : ClassId} {c : Cause} {f : Fault} (h : o.Unrouted item c f) :
    c = .object ∨ c = .template ∧ isLoadFault f = true := by
  cases h with
  | unread => exact .inl rfl
  | unbalanced => exact .inr ⟨rfl, rfl⟩

theorem Unmade.object_or_template {u : ω} {c : Cause} {f : Fault} (h : o.Unmade u c f) :
    c = .object ∨ c = .template ∧ isLoadFault f = true := by
  cases h with
  | unseen | closed | broken => exact .inl rfl
  | item _ _ _ hitem => exact hitem.object_or_template

/-- **Faults that the program looks for itself mean that the application cannot be loaded**, and that of a relative module
does not. -/
theorem Fails.isLoadFault_iff {c : Cause} {f : Fault} (h : o.Fails app c f) (hobject : c ≠ .object) :
    isLoadFault f = true ↔ c ≠ .relative := by
  cases h with
  | malformed | missing => exact ⟨nofun, fun _ => rfl⟩
  | relative => exact ⟨nofun, fun h => absurd rfl h⟩
  | stopped => exact absurd rfl hobject
  | unmade _ _ _ hunmade =>
    obtain ⟨rfl, hkind⟩ := hunmade.object_or_template.resolve_left hobject
    exact ⟨nofun, fun _ => hkind⟩

end Loading

/-! ## The program -/

/-- What the program does with the name of an application: its result is a plan, or the fault that ends it. -/
structure Settled (o : Objects ω) (config : Config) (app : String) (routes : Bool) (result : Except Fault Plan) :
    Prop where
  builds_or_fails : (∃ d, o.Builds config app d) ∨ ∃ c f, o.Fails app c f
  not_both : ∀ d c f, o.Builds config app d → ¬ o.Fails app c f
  served : routes = false → ∀ d, o.Builds config app d →
    result = .ok ⟨config.threshold, .serve "127.0.0.1" 8080 d⟩
  listed : routes = true → ∀ d, o.Builds config app d →
    result = (o.listing d.routes).map fun lines => ⟨config.threshold, .list lines⟩
  /-- What fails is reported, unless a module is relative or an object fails with a fault of another kind. -/
  reported : ∀ c f, o.Fails app c f → c ≠ .relative → (c = .object → isLoadFault f = true) →
    ∃ p, result = .ok p ∧ p.task = .report app f ∧ p.task.exitCode = 1 ∧
      p.task.complaint? = some ("Error: cannot load " ++ app ++ ": " ++ f.text) ∧ p.records = []
  /-- Then it ends the program. -/
  raised : ∀ c f, o.Fails app c f → c = .relative ∨ c = .object ∧ isLoadFault f = false → result = .error f

/-- The arguments for an application. -/
def argumentsFor (app : String) (routes : Bool) : List String :=
  app :: if routes then ["--routes"] else []

/-- What does not start with a dash is no option. -/
theorem words_argumentsFor {app : String} (happ : app.toList.head? ≠ some '-') (routes : Bool) :
    words (argumentsFor app routes) =
      .ok (.operand app :: if routes then [.option .routes true none] else []) := by
  have hword : word app = .ok (.operand app) := by
    rw [word]
    exact if_pos happ
  have hne : app ≠ "--" := by
    rintro rfl
    exact happ rfl
  rw [argumentsFor, words, if_neg hne, hword]
  cases routes <;> rfl

/-- It is the application. -/
theorem ofArguments_argumentsFor {app : String} (happ : app.toList.head? ≠ some '-') (routes : Bool) :
    Settings.ofArguments (argumentsFor app routes) = .ok { app := some app, routes } := by
  rw [Settings.ofArguments, words_argumentsFor happ]
  cases routes <;> rfl

/-- With a valid configuration the program gets as far as the application. -/
theorem program_argumentsFor (o : Objects ω) {env : Fields String String} {app : String}
    (happ : app.toList.head? ≠ some '-') (hvalid : (Config.ofEnvironment env).validate = .ok ()) (routes : Bool) :
    o.program env (argumentsFor app routes) =
      .ok ((o.taskOf (Config.ofEnvironment env) { app := some app, routes } app).map
        (Plan.mk (Config.ofEnvironment env).threshold)) := by
  rw [program, ofArguments_argumentsFor happ]
  show Except.ok (o.plan env _) = _
  rw [plan]
  show Except.ok ((Config.ofEnvironment env).validate >>= _) = _
  rw [hvalid]
  show Except.ok (o.taskOf (Config.ofEnvironment env) _ app >>= _) = _
  cases o.taskOf (Config.ofEnvironment env) { app := some app, routes } app <;> rfl

section Tasks

variable {config : Config} {app : String} {s : Settings}

theorem Builds.taskOf {d : Dispatcher ClassId} (hvalid : config.validate = .ok ()) (h : o.Builds config app d) :
    o.taskOf config s app = if s.routes then .list <$> o.listing d.routes else .ok (.serve s.host s.port d) := by
  rw [Objects.taskOf, h.eq hvalid]

theorem Fails.taskOf {c : Cause} {f : Fault} (hvalid : config.validate = .ok ()) (h : o.Fails app c f) :
    o.taskOf config s app = if isLoadFault f then .ok (.report app f) else .error f := by
  rw [Objects.taskOf, h.eq hvalid]

end Tasks

/-- **What the program does with the name of an application**, whatever objects there are: a dispatcher that it leads to is
listed or served; where there is none, that is reported unless the module is relative, or an object fails with a fault that
is none of a missing module, a missing attribute or an unacceptable value. -/
theorem program_settled (o : Objects ω) {env : Fields String String} {app : String}
    (happ : app.toList.head? ≠ some '-') (hvalid : (Config.ofEnvironment env).validate = .ok ()) (routes : Bool) :
    ∃ result, o.program env (argumentsFor app routes) = .ok result ∧
      o.Settled (Config.ofEnvironment env) app routes result := by
  refine ⟨_, program_argumentsFor o happ hvalid routes, o.builds_or_fails _ app, ?_, ?_, ?_, ?_, ?_⟩
  · intro d c f hbuilds hfails
    cases (hbuilds.eq hvalid).symm.trans (hfails.eq hvalid)
  · rintro rfl d hbuilds
    rw [hbuilds.taskOf hvalid]
    rfl
  · rintro rfl d hbuilds
    rw [hbuilds.taskOf hvalid]
    cases o.listing d.routes <;> rfl
  · intro c f hfails hrelative hobject
    -- An object's fault is of a kind that is caught by assumption; of the other causes this is known.
    have hkind : isLoadFault f = true := by
      by_cases hc : c = .object
      · exact hobject hc
      · exact (hfails.isLoadFault_iff hc).mpr hrelative
    rw [hfails.taskOf hvalid, if_pos hkind]
    exact ⟨_, rfl, rfl, rfl, rfl, rfl⟩
  · intro c f hfails hcause
    have hkind : ¬ isLoadFault f = true := by
      rcases hcause with rfl | ⟨-, hkind⟩
      · exact fun h => (hfails.isLoadFault_iff nofun).mp h rfl
      · exact Bool.eq_false_iff.mp hkind
    rw [hfails.taskOf hvalid, if_neg hkind]
    rfl

/-- A shop: a module that leads to itself, and a list of two items, one with a template that cannot be read. -/
def shop : Objects Nat where
  find name := if name = "shop" then .ok 0 else .error ("No module named " ++ name)
  member t name :=
    match t, name with
    | 0, "self" => .ok 0
    | 0, "RESOURCES" => .ok 1
    | _, _ => .error (.incidental .attribute ("no attribute " ++ name))
  role
    | 1 => .ok (.other (.ok ⟨[7, 8], none⟩))
    | _ => .ok (.other (.error (.incidental .type "'module' object is not iterable")))
  entry item := .ok (if item = 7 then "/products" else "/products/(:name", "")
  name _ := .ok "Product"

/-- The shop cannot be loaded, and that is reported. -/
theorem program_settled_shop :
    "shop:self.RESOURCES".toList.head? ≠ some '-' ∧ (Config.ofEnvironment []).validate = .ok () ∧
      ∃ p, shop.program [] ["shop:self.RESOURCES", "--routes"] = .ok (.ok p) ∧ p.task.exitCode = 1 ∧
        p.task.complaint? =
          some "Error: cannot load shop:self.RESOURCES: unclosed '(' in '/products/(:name'" := by
  have happ : "shop:self.RESOURCES".toList.head? ≠ some '-' := by decide
  have hvalid : (Config.ofEnvironment []).validate = .ok () := by decide
  have hname : Names "shop:self.RESOURCES" "shop" ["self", "RESOURCES"] :=
    ⟨rfl, by decide, by decide, by decide, by decide⟩
  have hleads : shop.Leads 0 ["self", "RESOURCES"] 1 := .along rfl (.along rfl (.here 1))
  have hfirst : shop.Routed 7 ⟨7, "/products", "", .literal "/products".toList .nil⟩ := ⟨rfl, rfl, rfl⟩
  have hsecond : shop.Unrouted 8 .template (.declare .invalidTemplate "unclosed '(' in '/products/(:name'") :=
    @Unrouted.unbalanced _ shop 8 "/products/(:name" "" .unclosed rfl rfl
  have hfails : shop.Fails "shop:self.RESOURCES" .template
      (.declare .invalidTemplate "unclosed '(' in '/products/(:name'") :=
    .unmade hname ⟨by decide, rfl⟩ hleads (.item rfl rfl (.cons hfirst .nil) hsecond)
  obtain ⟨result, hresult, hsettled⟩ := program_settled shop happ hvalid true
  obtain ⟨p, hp, -, hexit, hcomplaint, -⟩ := hsettled.reported _ _ hfails nofun nofun
  exact ⟨happ, hvalid, p, hp ▸ hresult, hexit, hcomplaint⟩

end Objects

/-- A catalogue with a group of targets. -/
def grouped : Catalogue where
  hierarchy := .base
  modules := [("shop", .group [("nested", .group [("app", .resources [])])])]

/-- **Not every application that cannot be loaded is reported**: a group is no dispatcher, no table and nothing that can be
gone through, and its name ends the program with a fault. -/
theorem program_namespace :
    "shop:nested".toList.head? ≠ some '-' ∧ (Config.ofEnvironment []).validate = .ok () ∧
      ∀ args ∈ [["shop:nested"], ["shop:nested", "--routes"]],
        program grouped [] args =
          .ok (.error (.incidental .type "'types.SimpleNamespace' object is not iterable")) := by
  refine ⟨by decide, by decide, ?_⟩
  intro args hargs
  rcases List.mem_cons.mp hargs with rfl | hargs
  · rfl
  · obtain rfl := List.mem_singleton.mp hargs
    rfl

end HttpRouter.CommandLine
