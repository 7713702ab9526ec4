import HttpRouter.Application
import HttpRouter.Proofs.Redirecting
import HttpRouter.Proofs.View.Steps

/-!
# The search for a layout

A layout is looked for in the directory of a view and in those above it, one after the other, until the one at the root,
which has no name. The search has no counter: it ends because the directory of a path that does not begin with a slash
is shorter than the path, however many slashes stand in a row, and does not begin with a slash either. `Ascent` says
what the search meets without counting; a search from a path that begins with a slash meets no end.

* `ViewPath.within_directory`: what the directory of a path is;
* `ViewPath.climb_directories`: what is met on the way up;
* `ViewPath.exists_ascent_iff`: when the search ends;
* `Resolver.layouts_upwards`: where the layout of a subject is looked for, and which one is taken.
-/

namespace HttpRouter

namespace ViewPath

/-! ## Directories -/

section Directories

variable {dir path : Letters}

/-- A directory that a path names something in: behind the directory the path goes on with slashes, however many, and a
name. The directory at the root has no name itself, and no slash follows it. -/
def Within (dir path : Letters) : Prop :=
  ∃ slashes name, path = dir ++ slashes ++ name ∧ (∀ c ∈ slashes, c = .char '/') ∧ Letter.char '/' ∉ name ∧
    dir.getLast? ≠ some (.char '/') ∧ (slashes = [] ↔ dir = [])

theorem Within.length_le (h : Within dir path) : dir.length ≤ path.length := by
  obtain ⟨slashes, name, rfl, -⟩ := h
  rw [List.length_append, List.length_append]
  omega

theorem Within.length_lt (h : Within dir path) (hpath : path ≠ []) : dir.length < path.length := by
  obtain ⟨slashes, name, rfl, -, -, -, hroot⟩ := h
  by_cases hdir : dir = []
  · have hlength := List.length_pos_iff.mpr hpath
    rw [hdir, List.length_nil]
    rwa [hdir] at hlength
  · have hslashes := List.length_pos_iff.mpr (mt hroot.mp hdir)
    rw [List.length_append, List.length_append]
    omega

theorem Within.head?_ne (h : Within dir path) (hpath : path.head? ≠ some (.char '/')) :
    dir.head? ≠ some (.char '/') := by
  obtain ⟨slashes, name, rfl, -⟩ := h
  cases dir with
  | nil => nofun
  | cons c dir => exact hpath

theorem Within.getLast?_ne (h : Within dir path) : dir.getLast? ≠ some (.char '/') := by
  obtain ⟨_, _, -, -, -, hlast, -⟩ := h
  exact hlast

/-- A path as what precedes its name, and the name. -/
theorem exists_append_name (path : Letters) :
    ∃ head name, path = head ++ name ∧ Letter.char '/' ∉ name ∧ (∀ c ∈ head.getLast?, c = .char '/') ∧
      directory path = if head.all (· == .char '/') then head else Text.dropEndWhile (· == .char '/') head := by
  refine ⟨path.rdropWhile (· != .char '/'), path.rtakeWhile (· != .char '/'), ?_, ?_, ?_, rfl⟩
  · exact List.rdropWhile_append_rtakeWhile.symm
  · exact fun hname => absurd (List.mem_rtakeWhile_imp hname) (by decide)
  · intro c hc
    have hne : path.rdropWhile (· != .char '/') ≠ [] := by
      intro hnil
      rw [hnil] at hc
      cases hc
    rw [List.getLast?_eq_some_getLast hne] at hc
    cases hc
    simpa using List.rdropWhile_last_not _ _ hne

/-- **The directory of a path that does not begin with a slash** is what the path names something in. -/
theorem within_directory (h : path.head? ≠ some (.char '/')) : Within (directory path) path := by
  obtain ⟨head, name, rfl, hname, hlast, hdirectory⟩ := exists_append_name path
  have hhead : Text.dropEndWhile (· == .char '/') head ++ head.rtakeWhile (· == .char '/') = head :=
    List.rdropWhile_append_rtakeWhile
  have hslashes : ∀ c ∈ head.rtakeWhile (· == .char '/'), c = .char '/' :=
    fun c hc => beq_iff_eq.mp (List.mem_rtakeWhile_imp (p := (· == Letter.char '/')) hc)
  -- What precedes the name does not consist of slashes, or the path would begin with one.
  have hall (hall : ∀ c ∈ head, c = .char '/') : head = [] := by
    cases head with
    | nil => rfl
    | cons c head => exact absurd (congrArg some (hall c List.mem_cons_self)) h
  have hdir : directory (head ++ name) = Text.dropEndWhile (· == .char '/') head := by
    rw [hdirectory]
    split
    · next hslash =>
      rw [hall (by simpa using hslash)]
      rfl
    · rfl
  rw [hdir]
  refine ⟨head.rtakeWhile (· == .char '/'), name, by rw [hhead], hslashes, hname, Text.getLast?_dropEndWhile _ head,
    ?_, ?_⟩
  · intro hnil
    rw [hnil, List.append_nil] at hhead
    rw [hhead]
    by_contra hne
    obtain ⟨c, hc⟩ := Option.ne_none_iff_exists'.mp (mt List.getLast?_eq_none_iff.mp hne)
    apply Text.getLast?_dropEndWhile _ head
    rw [hhead, hc, hlast c hc]
  · intro hnil
    rw [hnil, List.nil_append] at hhead
    rw [hhead] at hslashes ⊢
    exact hall hslashes

/-- The directory of a path that begins with a slash does so too. -/
theorem head?_directory (h : path.head? = some (.char '/')) : (directory path).head? = some (.char '/') := by
  obtain ⟨head, name, rfl, hname, -, hdirectory⟩ := exists_append_name path
  have hhead : head.head? = some (.char '/') := by
    cases head with
    | nil => exact absurd (List.mem_of_mem_head? h) hname
    | cons c head => exact h
  rw [hdirectory]
  split
  · exact hhead
  · next hall =>
    have hne : Text.dropEndWhile (· == .char '/') head ≠ [] := by
      intro hnil
      exact hall (List.all_eq_true.mpr (List.rdropWhile_eq_nil_iff.mp hnil))
    obtain ⟨c, dir, hdir⟩ := List.exists_cons_of_ne_nil hne
    obtain ⟨slashes, hslashes⟩ := List.rdropWhile_prefix (· == .char '/') head
    rw [← hslashes, ← Text.dropEndWhile_eq, hdir] at hhead
    rw [hdir]
    exact hhead

end Directories

/-! ## The way up -/

/-- The course of the search from a directory on: the directories that are met, up to the one at the root. -/
inductive Ascent : Letters → List Letters → Prop
  | root : Ascent [] [[]]
  | up {dir : Letters} {dirs : List Letters} (hdir : dir ≠ []) (h : Ascent (directory dir) dirs) :
      Ascent dir (dir :: dirs)

section Ascent

variable {dir path : Letters} {dirs : List Letters}

theorem ascent_upwards {fuel : Nat} (hdir : dir.head? ≠ some (.char '/')) (hfuel : dir.length ≤ fuel) :
    Ascent dir (upwards fuel dir) := by
  induction fuel generalizing dir with
  | zero =>
    rw [List.length_eq_zero_iff.mp (Nat.le_zero.mp hfuel)]
    exact .root
  | succ fuel ih =>
    rw [upwards]
    split
    · next hnil =>
      rw [List.isEmpty_iff.mp hnil]
      exact .root
    · next hne =>
      have hwithin := within_directory hdir
      have hlength := hwithin.length_lt (mt List.isEmpty_iff.mpr hne)
      exact .up (mt List.isEmpty_iff.mpr hne) (ih (hwithin.head?_ne hdir) (by omega))

/-- **The search ends from a path that does not begin with a slash**, and only from such a one. -/
theorem exists_ascent_iff : (∃ dirs, Ascent path dirs) ↔ path.head? ≠ some (.char '/') := by
  refine ⟨?_, fun h => ⟨_, ascent_upwards h (Nat.le_refl _)⟩⟩
  rintro ⟨dirs, h⟩
  induction h with
  | root => nofun
  | up _ _ ih => exact fun hslash => ih (head?_directory hslash)

theorem Ascent.head? (h : Ascent dir dirs) : dirs.head? = some dir := by
  cases h <;> rfl

theorem Ascent.getLast? (h : Ascent dir dirs) : dirs.getLast? = some [] := by
  induction h with
  | root => rfl
  | up _ h ih =>
    obtain ⟨rest, rfl⟩ := List.head?_eq_some_iff.mp h.head?
    rw [List.getLast?_cons_cons]
    exact ih

/-- A step of the search leads to the directory of a directory, which is shorter. -/
def Step (dir above : Letters) : Prop :=
  above = directory dir ∧ Within above dir ∧ above.length < dir.length

theorem Ascent.isChain (h : Ascent dir dirs) (hdir : dir.head? ≠ some (.char '/')) : dirs.IsChain Step := by
  induction h with
  | root => exact .singleton _
  | @up dir dirs hne h ih =>
    have hwithin := within_directory hdir
    obtain ⟨rest, rfl⟩ := List.head?_eq_some_iff.mp h.head?
    exact .cons_cons ⟨rfl, hwithin, hwithin.length_lt hne⟩ (ih (hwithin.head?_ne hdir))

/-- No directory that is met ends with a slash if the first one does not. -/
theorem Ascent.getLast?_ne (h : Ascent dir dirs) (hdir : dir.head? ≠ some (.char '/'))
    (hlast : dir.getLast? ≠ some (.char '/')) : ∀ d ∈ dirs, d.getLast? ≠ some (.char '/') := by
  induction h with
  | root => exact List.forall_mem_singleton.mpr nofun
  | up _ _ ih =>
    have hwithin := within_directory hdir
    exact List.forall_mem_cons.mpr ⟨hlast, ih (hwithin.head?_ne hdir) hwithin.getLast?_ne⟩

/-- The directories on the way up from a path: the first one is that of the path, every other one that of the one before
it, and the last one is the root. -/
structure Climb (path : Letters) (dirs : List Letters) : Prop where
  ascent : Ascent (directory path) dirs
  head : dirs.head? = some (directory path)
  within : Within (directory path) path
  chain : dirs.IsChain Step
  root : dirs.getLast? = some []

theorem climb_directories (h : path.head? ≠ some (.char '/')) : Climb path (directories path) := by
  have hwithin := within_directory h
  have hascent := ascent_upwards (hwithin.head?_ne h) hwithin.length_le
  exact ⟨hascent, hascent.head?, hwithin, hascent.isChain (hwithin.head?_ne h), hascent.getLast?⟩

/-- On the way up directories become shorter. -/
theorem Climb.pairwise (h : Climb path dirs) : dirs.Pairwise fun dir above => above.length < dir.length := by
  have htrans : Trans (fun dir above : Letters => above.length < dir.length)
      (fun dir above : Letters => above.length < dir.length)
      (fun dir above : Letters => above.length < dir.length) :=
    ⟨fun h h' => Nat.lt_trans h' h⟩
  exact (h.chain.imp fun _ _ hstep => hstep.2.2).pairwise

end Ascent

/-- A file of a directory; the directory at the root has no name. -/
def inside (name dir : Letters) : Letters :=
  if dir = [] then name else dir ++ .char '/' :: name

theorem file_eq_inside {dir name : Letters} (hdir : dir.getLast? ≠ some (.char '/'))
    (hname : name.head? ≠ some (.char '/')) : file dir name = inside name dir := by
  rw [file, inside]
  by_cases hnil : dir = []
  · rw [if_pos hnil, hnil]
    exact if_pos (.inr rfl)
  · rw [if_neg hnil, if_neg, if_neg hdir]
    rintro (hslash | hempty)
    · exact hname hslash
    · exact hnil (List.isEmpty_iff.mp hempty)

/-- In a shorter directory a file has a shorter path. -/
theorem length_inside_lt {dir above : Letters} (h : above.length < dir.length) (name : Letters) :
    (inside name above).length < (inside name dir).length := by
  have hdir : dir ≠ [] := List.length_pos_iff.mp (Nat.zero_lt_of_lt h)
  rw [inside, inside, if_neg hdir, List.length_append, List.length_cons]
  split
  · omega
  · rw [List.length_append, List.length_cons]
    omega

end ViewPath

namespace Resolver

open ViewPath (Climb inside)

variable {r : Resolver} {s : Subject} {layout : Letters} {dirs : List Letters}

theorem layoutCandidates_eq (hlayout : r.layoutName? s = some layout)
    (hview : (r.viewName s).head? ≠ some (.char '/')) (hname : layout.head? ≠ some (.char '/')) :
    r.layoutCandidates s = (ViewPath.directories (r.viewName s)).map (inside layout) := by
  have hclimb := ViewPath.climb_directories hview
  have hwithin := ViewPath.within_directory hview
  rw [layoutCandidates, hlayout]
  refine List.map_congr_left fun dir hdir => ViewPath.file_eq_inside ?_ hname
  exact hclimb.ascent.getLast?_ne (hwithin.head?_ne hview) hwithin.getLast?_ne dir hdir

theorem nodup_inside (h : dirs.Pairwise fun dir above => above.length < dir.length) (layout : Letters) :
    (dirs.map (inside layout)).Nodup := by
  rw [List.Nodup, List.pairwise_map]
  refine h.imp fun {dir above} hlength heq => ?_
  have hlt := ViewPath.length_inside_lt hlength layout
  rw [heq] at hlt
  exact Nat.lt_irrefl _ hlt

/-- The first file that exists is in the longest of the directories that have one. -/
theorem first?_inside (h : dirs.Pairwise fun dir above => above.length < dir.length) {v : Views} {dir : Letters}
    (hdir : dir ∈ dirs) {file : List Char × String} (hfile : v.named? (inside layout dir) = some file)
    (hdeepest : ∀ deeper ∈ dirs, dir.length < deeper.length → v.named? (inside layout deeper) = none) :
    v.first? (dirs.map (inside layout)) = some file := by
  obtain ⟨before, after, rfl⟩ := List.append_of_mem hdir
  refine Views.first?_eq_some_iff.mpr ⟨before.map (inside layout), _, after.map (inside layout), ?_, hfile, ?_⟩
  · rw [List.map_append, List.map_cons]
  · refine List.forall_mem_map.mpr fun deeper hdeeper => ?_
    refine hdeepest deeper (List.mem_append_left _ hdeeper) ?_
    exact (List.pairwise_append.mp h).2.2 deeper hdeeper dir List.mem_cons_self

/-- **The layout of a subject is looked for from the directory of its view upwards**, in shorter and shorter directories
until the root. The page has the layout of the deepest directory that has one, and none if no directory has one. -/
theorem layouts_upwards (hlayout : r.layoutName? s = some layout)
    (hview : (r.viewName s).head? ≠ some (.char '/')) (hname : layout.head? ≠ some (.char '/')) :
    ∃ dirs, Climb (r.viewName s) dirs ∧ r.layoutCandidates s = dirs.map (inside layout) ∧
      (r.layoutCandidates s).Nodup ∧ (r.layoutCandidates s).getLast? = some layout ∧
      ∀ (v : Views) (p : Payload),
        (∀ dir ∈ dirs, ∀ path text, v.named? (inside layout dir) = some (path, text) →
          (∀ deeper ∈ dirs, dir.length < deeper.length → v.named? (inside layout deeper) = none) →
          TwoStep.render v r s p = TwoStep.fragment v r s p >>= fun content =>
            v.page path text (TwoStep.layoutContext s p content)) ∧
        ((∀ dir ∈ dirs, v.named? (inside layout dir) = none) → TwoStep.render v r s p = TwoStep.fragment v r s p) := by
  have hclimb := ViewPath.climb_directories hview
  have hcandidates := layoutCandidates_eq hlayout hview hname
  refine ⟨_, hclimb, hcandidates, ?_, ?_, fun v p => ⟨fun dir hdir path text hfile hdeepest => ?_, fun hnone => ?_⟩⟩
  · rw [hcandidates]
    exact nodup_inside hclimb.pairwise layout
  · rw [hcandidates, List.getLast?_map, hclimb.root]
    rfl
  · refine TwoStep.render_of_layout ?_ p
    rw [hcandidates]
    exact first?_inside hclimb.pairwise hdir hfile hdeepest
  · refine TwoStep.render_of_no_layout ?_ p
    rw [hcandidates]
    exact Views.first?_eq_none_iff.mpr (List.forall_mem_map.mpr hnone)

theorem layouts_upwards_shop :
    ∃ dirs, Climb (Text.ofString "shop//admin/list") dirs ∧
      dirs.map (inside "layout.html") =
        ["shop//admin/layout.html", "shop/layout.html", "layout.html"].map Text.ofString ∧
      (dirs.map (inside "layout.html")).Nodup := by
  have hlayout : ({} : Resolver).layoutName? (.resource
      { Application.base.fresh Hierarchy.root with attributes := [("view", .text "shop//admin/list")] }) =
      some (Text.ofString "layout.html") := by decide
  obtain ⟨dirs, hclimb, hcandidates, hnodup, -⟩ := layouts_upwards hlayout (by decide) (by decide)
  rw [hcandidates] at hnodup
  exact ⟨dirs, hclimb, hcandidates.symm.trans (by decide), hnodup⟩

end Resolver

end HttpRouter
