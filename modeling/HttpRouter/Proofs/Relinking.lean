import HttpRouter.Proofs.Delivery

/-!
# Paths that are linked again

A path that a template matches may be written in many ways: escapes that need not be there, in either case, and such as
stand for no character. Linking what the slots took, decoded, to the same template gives a path that is written in one
way, and matches with the same parameters if the template is a chain. It takes three facts: slots take part from left to
right (`Spells.taking`), so that linking drops no group that was there and lacks no value; what a segment took is never
read as nothing (`Percent.decodeLetters_ne_nil`), so that it can be linked; and what is linked reads back. Only a path
that holds half of a surrogate pair alone gives parameters that cannot be linked, since such a half cannot be escaped.

* `link?_of_match?`: parameters are linked again to a path that gives the same parameters, if they have an encoding.
-/

namespace HttpRouter

namespace Text

/-! ## What is read is not empty -/

namespace Utf8

/-- An octet completes some character or begins one. -/
theorem feed_ne_nothing (state : State) (b : UInt8) : feed state b ≠ ([], none) := by
  have hstart : start b.toNat ≠ ([], none) := by
    rcases Nat.lt_or_ge b.toNat 0x80 with h | h
    · rw [start_of_ascii h]
      nofun
    · rcases start_of_above h with ⟨p, -, heq⟩ | heq
      · rw [heq]
        nofun
      · rw [heq]
        nofun
  cases state with
  | none => exact hstart
  | some p =>
    by_cases hb : p.low ≤ b.toNat ∧ b.toNat ≤ p.high
    · rcases hmore : p.more with _ | more
      · rw [feed_of_last hb hmore]
        nofun
      · rw [feed_of_more hb hmore]
        nofun
    · rw [feed_of_outside hb]
      nofun

theorem finish_eq_nil {state : State} (h : finish state = []) : state = none := by
  cases state with
  | none => rfl
  | some p => cases h

end Utf8

namespace Percent

/-- If nothing is read, nothing was there, and no character was begun. -/
theorem nothing_of_decodeFrom {state : Utf8.State} {s : List Char} (h : decodeFrom state s = []) :
    state = none ∧ s = [] := by
  -- Behind an octet something is read, if what follows is not read as nothing from inside a character.
  have octet : ∀ {state : Utf8.State} {b : UInt8} {rest : List Char},
      (decodeFrom (Utf8.feed state b).2 rest = [] → (Utf8.feed state b).2 = none ∧ rest = []) →
        (Utf8.feed state b).1 ++ decodeFrom (Utf8.feed state b).2 rest ≠ [] := by
    intro state b rest hrest hnil
    obtain ⟨hread, hnil⟩ := List.append_eq_nil_iff.mp hnil
    exact Utf8.feed_ne_nothing state b (Prod.ext hread (hrest hnil).1)
  induction s using octets.induct generalizing state with
  | case1 => exact ⟨Utf8.finish_eq_nil h, rfl⟩
  | case2 high low rest b hb ih =>
    rw [decodeFrom, hb] at h
    exact absurd h (octet ih)
  | case3 high low rest hb ih =>
    rw [decodeFrom, hb] at h
    exact absurd h (octet ih)
  | case4 c rest hc ih =>
    rw [decodeFrom] at h
    · split at h
      · exact absurd h (octet ih)
      · exact absurd h (List.append_ne_nil_of_right_ne_nil _ (List.cons_ne_nil _ _))
    · exact hc

/-- **A text is never read as nothing**, whatever its escapes stand for. -/
theorem decode_ne_nil {s : List Char} (h : s ≠ []) : decode s ≠ [] :=
  fun hnil => h (nothing_of_decodeFrom hnil).2

/-- Letters are never read as nothing either, behind any characters. -/
theorem decodeRun_ne_nil {run : List Char} {s : Letters} (h : run ≠ [] ∨ s ≠ []) : decodeRun run s ≠ [] := by
  induction s generalizing run with
  | nil =>
    rw [decodeRun]
    exact fun hnil => decode_ne_nil (h.resolve_right fun hne => hne rfl) (ofChars_eq_nil_iff.mp hnil)
  | cons l s ih =>
    cases l with
    | char c => exact ih (.inl (List.append_ne_nil_of_right_ne_nil _ (List.cons_ne_nil _ _)))
    | lone half => exact List.append_ne_nil_of_right_ne_nil _ (List.cons_ne_nil _ _)

theorem decodeLetters_ne_nil {s : Letters} (h : s ≠ []) : decodeLetters s ≠ [] :=
  decodeRun_ne_nil (.inr h)

end Percent

end Text

namespace Template

/-! ## Which slots take part -/

/-- The slots of a chain take part from left to right: the first ones took a text each, which suits it, and a link with
as many values leaves no slot vacant. -/
structure Taking (t : Template) (captures : Captures) (texts : List Letters) : Prop where
  captures_eq : captures = capturesOf t.slots texts
  length_le : texts.length ≤ t.slots.length
  complete : t.Complete texts.length
  takes : ∀ p ∈ t.slots.zip texts, p.1.Takes p.2

theorem Spells.taking {t : Template} (ht : t.IsChain) {s : Letters} {captures : Captures} (h : t.Spells s captures) :
    ∃ texts, t.Taking captures texts := by
  induction t generalizing s captures with
  | nil =>
    obtain ⟨-, rfl⟩ := spells_nil_iff.mp h
    exact ⟨[], rfl, Nat.le_refl 0, trivial, List.forall_mem_nil _⟩
  | literal text rest ih =>
    obtain ⟨s', rfl, h'⟩ := spells_literal_iff.mp h
    obtain ⟨texts, hcaptures, hlength, hcomplete, htakes⟩ := ih ht h'
    exact ⟨texts, hcaptures, hlength, hcomplete, htakes⟩
  | segment name rest ih =>
    obtain ⟨taken, s', more, rfl, rfl, htaken, h'⟩ := spells_segment_iff.mp h
    obtain ⟨texts, rfl, hlength, hcomplete, htakes⟩ := ih ht.2 h'
    exact ⟨taken :: texts, rfl, Nat.succ_le_succ hlength, ⟨Nat.succ_pos _, hcomplete⟩,
      List.forall_mem_cons.mpr ⟨htaken, htakes⟩⟩
  | wildcard rest ih =>
    obtain rfl : rest = .nil := ht
    obtain ⟨taken, s', more, rfl, rfl, h'⟩ := spells_wildcard_iff.mp h
    obtain ⟨-, rfl⟩ := spells_nil_iff.mp h'
    exact ⟨[taken], rfl, Nat.le_refl 1, ⟨Nat.succ_pos _, trivial⟩,
      List.forall_mem_cons.mpr ⟨trivial, List.forall_mem_nil _⟩⟩
  | group inner rest ihInner ihRest =>
    obtain ⟨rfl, -, hinner⟩ := ht
    rcases spells_group_iff.mp h with ⟨s₁, s₂, own, more, rfl, rfl, h₁, h₂⟩ | h
    · obtain ⟨-, rfl⟩ := spells_nil_iff.mp h₂
      obtain ⟨texts, rfl, hlength, hcomplete, htakes⟩ := ihInner hinner h₁
      refine ⟨texts, ?_, ?_, ⟨.inr hcomplete, trivial⟩, ?_⟩
      · rw [slots, slots, List.append_nil, List.append_nil]
      · rwa [slots, slots, List.append_nil]
      · rwa [slots, slots, List.append_nil]
    · -- A group that is left out is the last of all, so that no slot took part behind it.
      obtain ⟨-, rfl⟩ := spells_nil_iff.mp h
      refine ⟨[], ?_, Nat.zero_le _, ⟨.inl rfl, trivial⟩, ?_⟩
      · rw [capturesOf, List.zip_nil_right]
        rfl
      · rw [List.zip_nil_right]
        exact List.forall_mem_nil _

/-! ## Linking what was taken -/

/-- A raw text as the value that it is read as. -/
def readValue (raw : Letters) : Value :=
  .text (Text.Percent.decodeLetters raw)

/-- What slots took can be linked again, as long as it has an encoding. -/
theorem Taking.fits {t : Template} {captures : Captures} {texts : List Letters} (h : t.Taking captures texts)
    (hcode : ∀ raw ∈ texts, (readValue raw).isEncodable) : t.Fits (texts.map readValue) := by
  refine ⟨?_, .inl ?_, List.forall_mem_map.mpr hcode, ?_⟩
  · rw [List.zip_map_right]
    intro p hp
    obtain ⟨⟨slot, raw⟩, hraw, rfl⟩ := List.mem_map.mp hp
    cases slot with
    | wildcard => exact .inl rfl
    | segment name =>
      obtain ⟨hne, -⟩ := h.takes _ hraw
      exact .inr (Text.Percent.decodeLetters_ne_nil hne)
  · rw [List.length_map]
    exact h.length_le
  · rw [List.length_map]
    exact h.complete

/-- The parameters are named as the first slots are. -/
theorem Taking.map_fst_decoded {t : Template} {captures : Captures} {texts : List Letters}
    (h : t.Taking captures texts) :
    (captures.map decoded).map (·.1) = t.names.take texts.length := by
  have hfirst : (t.slots.zip texts).map (·.1) = t.slots.take texts.length := by
    rw [List.zip_eq_zip_take_min, Nat.min_eq_right h.length_le, List.take_length]
    exact List.map_fst_zip (Nat.le_of_eq (List.length_take_of_le h.length_le))
  rw [h.captures_eq, capturesOf, names, ← List.map_take, ← hfirst]
  simp only [List.map_map]
  rfl

/-- The values of the parameters are what was read from the texts. -/
theorem Taking.map_text_decoded {t : Template} {captures : Captures} {texts : List Letters}
    (h : t.Taking captures texts) : (captures.map decoded).map (fun p => Value.text p.2) = texts.map readValue := by
  rw [h.captures_eq, capturesOf, List.map_map, List.map_map]
  conv_rhs => rw [← List.map_snd_zip h.length_le, List.map_map]
  rfl

/-- Without values left over a slot takes the text of its value. -/
theorem textOf_nil (slot : Slot) (v : Value) : slot.textOf v [] = v.shown := by
  rw [Slot.textOf]
  split
  · rw [List.map_singleton, Text.joinWith]
  · rfl

/-- **What is linked again reads back** as what was taken at first. -/
theorem Taking.decoded_bindValues {t : Template} (ht : t.IsChain) {captures : Captures} {texts again : List Letters}
    (h : t.Taking captures texts) (hbind : bindValues t.slots (texts.map readValue) = .ok again) :
    (capturesOf t.slots again).map decoded = captures.map decoded := by
  have hleft : (texts.map readValue).drop t.slots.length = [] := by
    rw [List.drop_eq_nil_iff, List.length_map]
    exact h.length_le
  rw [Template.decoded_bindValues (fun _ _ e => ht.wildcard_last e) hbind, hleft, h.captures_eq, capturesOf,
    List.zip_map_right, List.map_map, List.map_map]
  refine List.map_congr_left fun p _ => ?_
  show (p.1.name, p.1.textOf (readValue p.2) []) = _
  rw [textOf_nil]
  rfl

/-- **Matching and linking again keeps the parameters.** If a path matches a chain, however it is escaped, the slots
that took part are the first ones of the template. What they took is linked again exactly if all of it has an encoding,
and then the link matches with the same parameters. -/
theorem link?_of_match? {t : Template} (ht : t.Chained) {path : Letters} {params : Params}
    (h : t.match? path = some params) :
    let values := params.map fun p => Value.text p.2
    params.map (·.1) <+: t.names ∧
      ((∃ canonical, t.link? values = .ok canonical) ↔ ∀ v ∈ values, v.isEncodable) ∧
      ∀ canonical, t.link? values = .ok canonical → t.match? canonical = some params := by
  obtain ⟨captures, hfound, rfl⟩ := Option.map_eq_some_iff.mp h
  have hs := spells_of_capture? hfound
  obtain ⟨texts, htaking⟩ := hs.taking ht.isChain
  have hparams : paramsOf captures = captures.map decoded := hs.paramsOf_eq ht.names_nodup
  rw [hparams, htaking.map_text_decoded]
  refine ⟨?_, ⟨?_, fun hcode => ?_⟩, fun canonical hcanonical => ?_⟩
  · rw [htaking.map_fst_decoded]
    exact List.take_prefix _ _
  · rintro ⟨canonical, hcanonical⟩
    exact (exists_link_iff_fits.mp ⟨canonical, link?_eq_ok hcanonical⟩).encodable
  · obtain ⟨canonical, hcanonical⟩ := exists_link_iff_fits.mpr (htaking.fits (List.forall_mem_map.mp hcode))
    exact ⟨canonical, by rw [link?, hcanonical]; rfl⟩
  · -- The link is another spelling of the template, and it reads back as what was linked.
    obtain ⟨again, hbind, hspells⟩ := spells_link (link?_eq_ok hcanonical)
    have hmatch : t.match? canonical = some (paramsOf (capturesOf t.slots again)) := ht.isChain.match?_of_spells hspells
    rw [hmatch, hspells.paramsOf_eq ht.names_nodup, htaking.decoded_bindValues ht.isChain hbind]

/-- An octet that stands for no character is linked as U+FFFD, and a stray `%` is escaped. -/
theorem link?_of_match?_files :
    let t := ofBalanced "/files/:id(/*)"
    let params : Params := [("id", "\uFFFD."), ("rest", "x/y%zz")]
    t.Chained ∧ t.match? "/files/%ff%2E/x%2Fy%zz" = some params ∧
      ∃ canonical, t.link? [.text "\uFFFD.", .text "x/y%zz"] = .ok canonical ∧ t.match? canonical = some params := by
  have ht : (ofBalanced "/files/:id(/*)").Chained := by decide
  have h : (ofBalanced "/files/:id(/*)").match? "/files/%ff%2E/x%2Fy%zz" =
      some ([("id", "\uFFFD."), ("rest", "x/y%zz")] : Params) := by decide
  obtain ⟨-, hlinked, hsame⟩ := link?_of_match? ht h
  obtain ⟨canonical, hcanonical⟩ := hlinked.mpr (by decide)
  exact ⟨ht, h, canonical, hcanonical, hsame canonical hcanonical⟩

/-- A path that holds half of a surrogate pair alone matches, and gives a parameter that cannot be linked. -/
theorem exists_match?_not_link? :
    let t := ofBalanced "/products/:name"
    t.Chained ∧ t.match? (Text.ofString "/products/" ++ [.half]) = some ([("name", [.half])] : Params) ∧
      ∀ path, t.link? [.text [.half]] ≠ .ok path := by
  refine ⟨by decide, by decide, fun path => ?_⟩
  rw [show (ofBalanced "/products/:name").link? [.text [.half]] = .error (.unencodable [.half]) from rfl]
  exact nofun

/-- The escapes of a link are the ones that have to be there, in capitals. -/
example :
    (ofBalanced "/files/:id(/*)").link? [.text "\uFFFD.", .text "x/y%zz"] =
      .ok "/files/%EF%BF%BD%2E/x/y%25zz" := rfl

end Template

end HttpRouter
