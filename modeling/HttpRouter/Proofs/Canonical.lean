import HttpRouter.Template.Parser
import Mathlib.Data.List.TakeWhile

/-!
# Canonical templates

A template that was read can be written again, and that gives the text that it was read from. What is read is
*canonical* besides: literal text is never empty, never stands next to other literal text, and holds nothing that would
be read in another way. A canonical template is read again from what it is written as, so that texts and canonical
templates correspond to each other.

Reading goes from right to left, and so do the proofs: what one more character does to what was read so far is said
first (`Reads.opening`, `Reads.closing`, `Reads.plain`), then what has been read at any place of a balanced text
(`reads_of_imbalanceFrom`).

* `write_of_parse`, `canonical_of_parse`: what is read is written as the text was, and it is canonical;
* `parse_write`: what is canonical is read again;
* `ofString_eq_ok_iff`: all of it together.
-/

namespace HttpRouter.Template

/-! ## Canonical templates -/

/-- Whether a text is literal wherever it stands: it has neither parentheses nor stars, nor a colon in front of a
character that may stand in a name. -/
structure IsPlain (text : Letters) : Prop where
  ordinary : ∀ c ∈ text, c ≠ '(' ∧ c ≠ ')' ∧ c ≠ '*'
  unnamed : ∀ c, isNameChar c = true → ¬ [.char ':', c] <:+: text

/-- Whether a template starts with literal text. -/
def StartsWithText : Template → Prop
  | literal _ _ => True
  | _ => False

/-- Whether a template starts with literal text that a name in front of it would take characters of. -/
def ContinuesName : Template → Prop
  | literal (c :: _) _ => isNameChar c = true
  | _ => False

/-- Whether a template can come of reading: literal text is plain, neither empty nor followed by more of it, and names
are made of name characters, at least one, and not followed by another one. -/
def Canonical : Template → Prop
  | nil => True
  | literal text rest => text ≠ [] ∧ IsPlain text ∧ ¬ rest.StartsWithText ∧ rest.Canonical
  | segment name rest =>
    name ≠ [] ∧ (∀ c ∈ name, isNameChar c = true) ∧ ¬ rest.ContinuesName ∧ rest.Canonical
  | wildcard rest => rest.Canonical
  | group inner rest => inner.Canonical ∧ rest.Canonical

theorem startsWithText_iff {t : Template} : t.StartsWithText ↔ ∃ text rest, t = literal text rest := by
  cases t <;> simp [StartsWithText]

theorem continuesName_iff {t : Template} :
    t.ContinuesName ↔ ∃ c text rest, isNameChar c = true ∧ t = literal (c :: text) rest := by
  cases t with
  | literal text rest => cases text <;> simp [ContinuesName]
  | _ => simp [ContinuesName]

/-- What a name would take characters of is text. -/
theorem ContinuesName.startsWithText {t : Template} (h : t.ContinuesName) : t.StartsWithText := by
  obtain ⟨c, text, rest, -, rfl⟩ := continuesName_iff.mp h
  trivial

/-! ## Plain text -/

theorem isPlain_nil : IsPlain [] :=
  ⟨nofun, fun _ _ h => by cases List.eq_nil_of_infix_nil h⟩

theorem isPlain_cons_iff {c : Letter} {text : Letters} :
    IsPlain (c :: text) ↔
      (c ≠ '(' ∧ c ≠ ')' ∧ c ≠ '*') ∧ (c = ':' → ∀ d ∈ text.head?, isNameChar d = false) ∧ IsPlain text := by
  constructor
  · rintro ⟨hordinary, hunnamed⟩
    obtain ⟨hc, htext⟩ := List.forall_mem_cons.mp hordinary
    refine ⟨hc, ?_, htext, fun d hd hmark => hunnamed d hd (List.infix_cons hmark)⟩
    rintro rfl d hd
    obtain ⟨after, rfl⟩ := List.head?_eq_some_iff.mp hd
    exact Bool.eq_false_iff.mpr fun hname => hunnamed d hname ⟨[], after, rfl⟩
  · rintro ⟨hc, hcolon, htext⟩
    refine ⟨List.forall_mem_cons.mpr ⟨hc, htext.ordinary⟩, fun d hd hmark => ?_⟩
    rcases List.infix_cons_iff.mp hmark with hprefix | hmark
    · obtain ⟨rfl, after, rfl⟩ := List.cons_prefix_cons.mp hprefix
      rw [hcolon rfl d rfl] at hd
      cases hd
    · exact htext.unnamed d hd hmark

/-- A part of a plain text is plain. -/
theorem IsPlain.of_infix {text part : Letters} (h : IsPlain text) (hpart : part <:+: text) : IsPlain part :=
  ⟨fun c hc => h.ordinary c (hpart.subset hc), fun d hd hmark => h.unnamed d hd (hmark.trans hpart)⟩

/-! ## Reading keeps templates canonical -/

theorem cons_of_not_startsWithText (c : Letter) {t : Template} (h : ¬ t.StartsWithText) : cons c t = literal [c] t := by
  cases t with
  | literal text rest => exact absurd trivial h
  | _ => rfl

/-- A colon in front of what goes on with no name is text. -/
theorem consColon_of_not_continuesName {t : Template} (h : ¬ t.ContinuesName) : consColon t = cons ':' t := by
  cases t with
  | literal text rest =>
    cases text with
    | nil => rfl
    | cons c text =>
      have hname : ((c :: text).takeWhile isNameChar).isEmpty = true := by
        rw [List.takeWhile_cons_of_neg h]
        rfl
      exact if_pos hname
  | _ => rfl

/-- A colon in front of a name makes it that of a segment. -/
theorem consColon_of_isNameChar {c : Letter} (h : isNameChar c = true) (text : Letters) (rest : Template) :
    consColon (literal (c :: text) rest) =
      segment (c :: text.takeWhile isNameChar) (withText (text.dropWhile isNameChar) rest) := by
  rw [consColon]
  simp only [List.takeWhile_cons_of_pos h, List.dropWhile_cons_of_pos h]
  rfl

/-- A character that is not special is put in front of a canonical template. -/
theorem Canonical.cons {t : Template} (h : t.Canonical) {c : Letter} (hc : c ≠ '(' ∧ c ≠ ')' ∧ c ≠ '*')
    (hcolon : c = ':' → ¬ t.ContinuesName) : (cons c t).Canonical := by
  by_cases hstart : t.StartsWithText
  · obtain ⟨text, rest, rfl⟩ := startsWithText_iff.mp hstart
    obtain ⟨hne, hplain, hrest⟩ := h
    refine ⟨List.cons_ne_nil _ _, isPlain_cons_iff.mpr ⟨hc, fun he d hd => ?_, hplain⟩, hrest⟩
    obtain ⟨after, rfl⟩ := List.head?_eq_some_iff.mp hd
    exact Bool.eq_false_iff.mpr (hcolon he)
  · rw [cons_of_not_startsWithText c hstart]
    exact ⟨List.cons_ne_nil _ _, isPlain_cons_iff.mpr ⟨hc, fun _ => nofun, isPlain_nil⟩, hstart, h⟩

/-- Text in front of a canonical template may be missing. -/
theorem Canonical.withText {t : Template} (h : t.Canonical) (hstart : ¬ t.StartsWithText) {text : Letters}
    (hplain : IsPlain text) : (withText text t).Canonical := by
  cases text with
  | nil => exact h
  | cons c text => exact ⟨List.cons_ne_nil _ _, hplain, hstart, h⟩

/-- A colon is put in front of a canonical template. -/
theorem Canonical.consColon {t : Template} (h : t.Canonical) : (consColon t).Canonical := by
  by_cases hcontinues : t.ContinuesName
  · obtain ⟨c, text, rest, hc, rfl⟩ := continuesName_iff.mp hcontinues
    obtain ⟨-, hplain, hstart, hrest⟩ := h
    rw [consColon_of_isNameChar hc]
    have hpart : text.dropWhile isNameChar <:+: c :: text := List.infix_cons (List.dropWhile_suffix _).isInfix
    refine ⟨List.cons_ne_nil _ _, List.forall_mem_cons.mpr ⟨hc, fun d hd => List.mem_takeWhile_imp hd⟩, ?_,
      hrest.withText hstart (hplain.of_infix hpart)⟩
    -- The name takes all the characters that it can.
    intro hmore
    cases hdrop : text.dropWhile isNameChar with
    | nil =>
      rw [hdrop] at hmore
      exact hstart hmore.startsWithText
    | cons d after =>
      have hd := List.head?_dropWhile_not isNameChar text
      rw [hdrop] at hmore hd
      have hd : isNameChar d = false := by simpa using hd
      exact Bool.eq_false_iff.mp hd hmore
  · rw [consColon_of_not_continuesName hcontinues]
    exact h.cons (by decide) fun _ => hcontinues

/-! ## Reading loses nothing -/

theorem write_cons (c : Letter) (t : Template) : (cons c t).write = c :: t.write := by
  cases t <;> rfl

theorem write_withText (text : Letters) (t : Template) : (withText text t).write = text ++ t.write := by
  cases text <;> rfl

theorem write_consColon (t : Template) : (consColon t).write = .char ':' :: t.write := by
  by_cases hcontinues : t.ContinuesName
  · obtain ⟨c, text, rest, hc, rfl⟩ := continuesName_iff.mp hcontinues
    have hsplit : text.takeWhile isNameChar ++ (withText (text.dropWhile isNameChar) rest).write =
        text ++ rest.write := by
      rw [write_withText, ← List.append_assoc, List.takeWhile_append_dropWhile]
    rw [consColon_of_isNameChar hc]
    exact congrArg (fun s => .char ':' :: c :: s) hsplit
  · rw [consColon_of_not_continuesName hcontinues, write_cons]

/-- How what has been read is written: each open group is closed in front of the template to its right. -/
def Reading.write (r : Reading) : Letters :=
  r.current.write ++ r.outer.flatMap fun t => .char ')' :: t.write

/-- What has been read of a text at a place where `depth` groups are open: canonical templates, one more than open
groups, which are written as the rest of the text is. -/
structure Reads (rest : Letters) (depth : Nat) (r : Reading) : Prop where
  current : r.current.Canonical
  outer : ∀ t ∈ r.outer, t.Canonical
  length_outer : r.outer.length = depth
  write : r.write = rest

section Steps

variable {rest : Letters} {depth : Nat} {r : Reading}

/-- A closing parenthesis is read: what was read so far stands to the right of a group. -/
theorem Reads.closing (h : Reads rest depth r) : Reads (.char ')' :: rest) (depth + 1) (r.step ')') := by
  refine ⟨trivial, List.forall_mem_cons.mpr ⟨h.current, h.outer⟩, congrArg Nat.succ h.length_outer, ?_⟩
  rw [← h.write]
  rfl

/-- An opening parenthesis is read: it makes what was read since the closing one a group. -/
theorem Reads.opening (h : Reads rest (depth + 1) r) : Reads (.char '(' :: rest) depth (r.step '(') := by
  obtain ⟨current, outer⟩ := r
  obtain ⟨hcurrent, houter, hlength, rfl⟩ := h
  cases outer with
  | nil => cases hlength
  | cons after outer =>
    obtain ⟨hafter, houter⟩ := List.forall_mem_cons.mp houter
    refine ⟨⟨hcurrent, hafter⟩, houter, Nat.succ.inj hlength, ?_⟩
    show (.char '(' :: current.write ++ .char ')' :: after.write) ++ outer.flatMap (fun t => .char ')' :: t.write) =
      .char '(' :: (current.write ++ (after :: outer).flatMap fun t => .char ')' :: t.write)
    rw [List.flatMap_cons, List.append_assoc, List.cons_append, List.cons_append]

/-- Any other character is read: it changes the template in front only. -/
theorem Reads.plain (h : Reads rest depth r) {c : Letter} (hopen : c ≠ '(') (hclose : c ≠ ')') :
    Reads (c :: rest) depth (r.step c) := by
  have front : ∀ t : Template, t.Canonical → t.write = c :: r.current.write →
      Reads (c :: rest) depth { r with current := t } := fun t ht hwrite =>
    ⟨ht, h.outer, h.length_outer, by rw [← h.write, Reading.write, hwrite]; rfl⟩
  rw [Reading.step, if_neg hclose, if_neg hopen]
  by_cases hstar : c = '*'
  · subst hstar
    exact front (wildcard r.current) h.current rfl
  · rw [if_neg hstar]
    by_cases hcolon : c = ':'
    · subst hcolon
      exact front _ h.current.consColon (write_consColon r.current)
    · rw [if_neg hcolon]
      exact front _ (h.current.cons ⟨hopen, hclose, hstar⟩ fun he => absurd he hcolon) (write_cons c r.current)

end Steps

/-- **What has been read at any place of a balanced text** is canonical and written as the rest of the text is. -/
theorem reads_of_imbalanceFrom {position depth : Nat} {rest : Letters}
    (h : imbalanceFrom position depth rest = none) : Reads rest depth (rest.foldr Reading.step ⟨nil, []⟩) := by
  induction rest generalizing position depth with
  | nil =>
    rw [imbalanceFrom] at h
    split at h
    · next hdepth => exact ⟨trivial, List.forall_mem_nil _, hdepth.symm, rfl⟩
    · cases h
  | cons c rest ih =>
    by_cases hopen : c = '('
    · subst hopen
      rw [imbalanceFrom_opening] at h
      exact (ih h).opening
    · by_cases hclose : c = ')'
      · subst hclose
        cases depth with
        | zero => cases h
        | succ depth =>
          rw [imbalanceFrom_closing] at h
          exact (ih h).closing
      · rw [imbalanceFrom_plain hopen hclose] at h
        exact (ih h).plain hopen hclose

/-- What is read is read from a balanced text. -/
theorem parse_eq_ok {s : Letters} {t : Template} (h : parse s = .ok t) : imbalance? s = none ∧ ofBalanced s = t := by
  rw [parse] at h
  split at h
  · cases h
  · next hbalanced => exact ⟨hbalanced, Except.ok.inj h⟩

/-- The fault tells no more than the imbalance. -/
theorem ofString_eq_ok {source : Letters} {t : Template} : ofString source = .ok t ↔ parse source = .ok t := by
  rw [ofString]
  cases parse source <;> simp [Except.mapError]

/-- What is left when nothing is open is the whole template. -/
theorem reads_of_parse {s : Letters} {t : Template} (h : parse s = .ok t) : Reads s 0 ⟨t, []⟩ := by
  obtain ⟨hbalanced, rfl⟩ := parse_eq_ok h
  have hreads := reads_of_imbalanceFrom hbalanced
  have hread : s.foldr Reading.step ⟨nil, []⟩ = ⟨ofBalanced s, []⟩ :=
    congrArg (Reading.mk (ofBalanced s)) (List.eq_nil_of_length_eq_zero hreads.length_outer)
  rwa [hread] at hreads

/-- **Writing what was read gives the text that it was read from.** -/
theorem write_of_parse {s : Letters} {t : Template} (h : parse s = .ok t) : t.write = s := by
  rw [← (reads_of_parse h).write]
  exact (List.append_nil _).symm

/-- **What is read is canonical.** -/
theorem canonical_of_parse {s : Letters} {t : Template} (h : parse s = .ok t) : t.Canonical :=
  (reads_of_parse h).current

/-! ## What is written is read -/

/-- Text without parentheses does not count for the balance. -/
theorem imbalanceFrom_append {text : Letters} (h : ∀ c ∈ text, c ≠ '(' ∧ c ≠ ')') (position depth : Nat)
    (rest : Letters) :
    imbalanceFrom position depth (text ++ rest) = imbalanceFrom (position + text.length) depth rest := by
  induction text generalizing position with
  | nil => rfl
  | cons c text ih =>
    obtain ⟨⟨hopen, hclose⟩, htext⟩ := List.forall_mem_cons.mp h
    rw [List.cons_append, imbalanceFrom_plain hopen hclose, ih htext, List.length_cons, Nat.add_right_comm,
      Nat.add_assoc]

/-- A name character has no meaning of its own in a template. -/
theorem ordinary_of_isNameChar {c : Letter} (h : isNameChar c = true) : c ≠ '(' ∧ c ≠ ')' ∧ c ≠ '*' ∧ c ≠ ':' := by
  refine ⟨?_, ?_, ?_, ?_⟩ <;>
  · rintro rfl
    exact absurd h (by decide)

/-- **What a canonical template is written as is balanced**, and so does not count for the balance of what follows. -/
theorem imbalanceFrom_write {t : Template} (ht : t.Canonical) (position depth : Nat) (rest : Letters) :
    imbalanceFrom position depth (t.write ++ rest) = imbalanceFrom (position + t.write.length) depth rest := by
  induction t generalizing position depth rest with
  | nil => rfl
  | literal text after ih =>
    obtain ⟨-, hplain, -, hafter⟩ := ht
    have htext : ∀ c ∈ text, c ≠ '(' ∧ c ≠ ')' := fun c hc =>
      ⟨(hplain.ordinary c hc).1, (hplain.ordinary c hc).2.1⟩
    rw [write, List.append_assoc, imbalanceFrom_append htext, ih hafter, List.length_append, Nat.add_assoc]
  | segment name after ih =>
    obtain ⟨-, hname, -, hafter⟩ := ht
    have htext : ∀ c ∈ .char ':' :: name, c ≠ '(' ∧ c ≠ ')' :=
      List.forall_mem_cons.mpr ⟨by decide, fun c hc =>
        ⟨(ordinary_of_isNameChar (hname c hc)).1, (ordinary_of_isNameChar (hname c hc)).2.1⟩⟩
    rw [write, List.append_assoc, imbalanceFrom_append htext, ih hafter, List.length_append, Nat.add_assoc]
  | wildcard after ih =>
    rw [write, List.cons_append, imbalanceFrom_plain (by decide) (by decide), ih ht, List.length_cons,
      Nat.add_right_comm, Nat.add_assoc]
  | group inner after ihInner ihAfter =>
    obtain ⟨hinner, hafter⟩ := ht
    have hlength : position + 1 + inner.write.length + 1 + after.write.length =
        position + (group inner after).write.length := by
      simp only [write, List.cons_append, List.length_cons, List.length_append]
      omega
    show imbalanceFrom position depth (.char '(' :: ((inner.write ++ .char ')' :: after.write) ++ rest)) = _
    rw [imbalanceFrom_opening, List.append_assoc, ihInner hinner, List.cons_append, imbalanceFrom_closing,
      ihAfter hafter, hlength]

/-- A character that is not special is put in front of the template in front. -/
theorem step_eq_cons {c : Letter} (hc : c ≠ '(' ∧ c ≠ ')' ∧ c ≠ '*') {t : Template}
    (hcolon : c = ':' → ¬ t.ContinuesName) (outer : List Template) :
    Reading.step c ⟨t, outer⟩ = ⟨cons c t, outer⟩ := by
  rw [Reading.step, if_neg hc.2.1, if_neg hc.1, if_neg hc.2.2]
  split
  · next he =>
    subst he
    rw [consColon_of_not_continuesName (hcolon rfl)]
  · rfl

/-- **Plain text is read as literal text.** -/
theorem foldr_step_of_isPlain {text : Letters} (hne : text ≠ []) (hplain : IsPlain text) {t : Template}
    (hstart : ¬ t.StartsWithText) (outer : List Template) :
    text.foldr Reading.step ⟨t, outer⟩ = ⟨literal text t, outer⟩ := by
  induction text with
  | nil => exact absurd rfl hne
  | cons c text ih =>
    obtain ⟨hc, hcolon, hplain⟩ := isPlain_cons_iff.mp hplain
    rw [List.foldr_cons]
    cases text with
    | nil =>
      rw [List.foldr_nil, step_eq_cons hc fun _ hname => hstart hname.startsWithText,
        cons_of_not_startsWithText c hstart]
    | cons d text =>
      have hname : c = ':' → ¬ (literal (d :: text) t).ContinuesName := fun he => Bool.eq_false_iff.mp (hcolon he d rfl)
      rw [ih (List.cons_ne_nil _ _) hplain, step_eq_cons hc hname]
      rfl

/-- The characters of a name are read as text at first. -/
theorem foldr_step_of_name {name : Letters} (h : ∀ c ∈ name, isNameChar c = true) (t : Template)
    (outer : List Template) : name.foldr Reading.step ⟨t, outer⟩ = ⟨name.foldr cons t, outer⟩ := by
  induction name with
  | nil => rfl
  | cons c name ih =>
    obtain ⟨hc, hname⟩ := List.forall_mem_cons.mp h
    obtain ⟨hopen, hclose, hstar, hcolon⟩ := ordinary_of_isNameChar hc
    rw [List.foldr_cons, ih hname, step_eq_cons ⟨hopen, hclose, hstar⟩ fun he => absurd he hcolon]
    rfl

theorem foldr_cons_literal (name text : Letters) (rest : Template) :
    name.foldr cons (literal text rest) = literal (name ++ text) rest := by
  induction name with
  | nil => rfl
  | cons c name ih => rw [List.foldr_cons, ih]; rfl

theorem foldr_cons_of_not_startsWithText {name : Letters} (hne : name ≠ []) {t : Template}
    (h : ¬ t.StartsWithText) : name.foldr cons t = literal name t := by
  induction name with
  | nil => exact absurd rfl hne
  | cons c name ih =>
    cases name with
    | nil => exact cons_of_not_startsWithText c h
    | cons d name =>
      rw [List.foldr_cons, ih (List.cons_ne_nil _ _)]
      rfl

/-- **A colon takes the name behind it**, and nothing else, as that of a segment. -/
theorem consColon_foldr_cons {c : Letter} {name : Letters} (hname : ∀ d ∈ c :: name, isNameChar d = true)
    {t : Template} (ht : t.Canonical) (hcontinues : ¬ t.ContinuesName) :
    consColon ((c :: name).foldr cons t) = segment (c :: name) t := by
  obtain ⟨hc, hname⟩ := List.forall_mem_cons.mp hname
  by_cases hstart : t.StartsWithText
  · obtain ⟨text, rest, rfl⟩ := startsWithText_iff.mp hstart
    obtain ⟨d, text, rfl⟩ := List.exists_cons_of_ne_nil ht.1
    rw [foldr_cons_literal, List.cons_append, consColon_of_isNameChar hc, List.takeWhile_append_of_pos hname,
      List.dropWhile_append_of_pos hname, List.takeWhile_cons_of_neg hcontinues, List.dropWhile_cons_of_neg hcontinues,
      List.append_nil]
    rfl
  · have htake : (name ++ []).takeWhile isNameChar = name ++ [] := List.takeWhile_append_of_pos hname
    have hdrop : (name ++ []).dropWhile isNameChar = [] := List.dropWhile_append_of_pos hname
    rw [List.append_nil] at htake hdrop
    rw [foldr_cons_of_not_startsWithText (List.cons_ne_nil _ _) hstart, consColon_of_isNameChar hc, htake, hdrop]
    simp [Template.withText]

/-- **What a canonical template is written as is read as that template**, whatever groups are open there. -/
theorem foldr_step_write {t : Template} (ht : t.Canonical) (outer : List Template) :
    t.write.foldr Reading.step ⟨nil, outer⟩ = ⟨t, outer⟩ := by
  induction t generalizing outer with
  | nil => rfl
  | literal text rest ih =>
    obtain ⟨hne, hplain, hstart, hrest⟩ := ht
    rw [write, List.foldr_append, ih hrest, foldr_step_of_isPlain hne hplain hstart]
  | segment name rest ih =>
    obtain ⟨hne, hname, hcontinues, hrest⟩ := ht
    obtain ⟨c, name, rfl⟩ := List.exists_cons_of_ne_nil hne
    rw [write, List.cons_append, List.foldr_cons, List.foldr_append, ih hrest, foldr_step_of_name hname]
    show (⟨consColon ((c :: name).foldr cons rest), outer⟩ : Reading) = _
    rw [consColon_foldr_cons hname hrest hcontinues]
  | wildcard rest ih =>
    rw [write, List.foldr_cons, ih ht]
    rfl
  | group inner rest ihInner ihRest =>
    obtain ⟨hinner, hrest⟩ := ht
    have hclose : Reading.step ')' ⟨rest, outer⟩ = ⟨nil, rest :: outer⟩ := rfl
    rw [write, List.cons_append, List.foldr_cons, List.foldr_append, List.foldr_cons, ihRest hrest, hclose,
      ihInner hinner]
    rfl

/-- **A canonical template is read from what it is written as.** -/
theorem parse_write {t : Template} (ht : t.Canonical) : parse t.write = .ok t := by
  have hbalanced : imbalance? t.write = none := by
    have h := imbalanceFrom_write ht 0 0 []
    rw [List.append_nil] at h
    exact h
  rw [parse, hbalanced, ofBalanced, foldr_step_write ht]

/-- **Texts and canonical templates correspond**: a template is read from a text exactly if it is canonical and written
as that text. -/
theorem ofString_eq_ok_iff {source : Letters} {t : Template} :
    ofString source = .ok t ↔ t.Canonical ∧ t.write = source := by
  rw [ofString]
  constructor
  · intro h
    cases hread : parse source with
    | error e =>
      rw [hread] at h
      cases h
    | ok t' =>
      rw [hread] at h
      obtain rfl := Except.ok.inj h
      exact ⟨canonical_of_parse hread, write_of_parse hread⟩
  · rintro ⟨ht, hwrite⟩
    rw [← hwrite, parse_write ht]
    rfl

/-- A colon that no name follows is text, and literals that stand next to each other are read as one. -/
example :
    parse "/a::b(:)" =
        .ok (literal "/a:" (segment "b" (group (literal ":" nil) nil))) ∧
      parse (literal "a" (literal "b" nil)).write = .ok (literal "ab" nil) := by
  decide

end HttpRouter.Template
