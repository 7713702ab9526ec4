import HttpRouter.Application
import HttpRouter.Proofs.View.Steps
import Mathlib.Data.List.Forall2

/-!
# Content inside a layout

A layout is literal text with outputs of `content` in it. What the view of a subject makes of its data is put there as
it is: data that comes under the name `content` does not take its place, and what has been escaped is not escaped again.
Texts from the data are escaped where the view of the subject prints them, which is once.

* `Page.pieces_of_isView`: how literal text with outputs of names in it is read;
* `Page.flatMap_framed`: what a layout makes of markup;
* `Page.unescape_escape`: what is escaped once shows as the text it was;
* `Engine.Lawful`: what is assumed of an engine, and `Page.lawful_engine`: that the one for outputs is such an engine;
* `TwoStep.get?_layoutContext`: the names that a layout can use;
* `TwoStep.render_framed_content`: the page of a subject in a layout.
-/

namespace HttpRouter

open Text (joinWith)

namespace Page

/-! ## Layouts as they are read -/

/-- Whether no delimiter begins in a text. -/
def Plain (s : List Char) : Prop :=
  ∀ c ∈ ['\x7b', '%', '#'], ¬ ['\x7b', c] <:+: s

/-- In a text without braces no delimiter begins, nor does one with a brace behind the text. -/
theorem plain_of_notMem {s : List Char} (h : '\x7b' ∉ s) : Plain s ∧ Plain (s ++ ['\x7b']) := by
  refine ⟨fun c _ hdelimiter => h (hdelimiter.subset List.mem_cons_self), ?_⟩
  rintro c - ⟨before, after, heq⟩
  have hs : before ++ '\x7b' :: (c :: after).dropLast = s := by
    have hlast : (before ++ '\x7b' :: c :: after).dropLast = (s ++ ['\x7b']).dropLast :=
      congrArg List.dropLast ((List.append_assoc _ _ _).symm.trans heq)
    rwa [List.dropLast_concat, List.dropLast_append_of_ne_nil (List.cons_ne_nil _ _)] at hlast
  exact h (hs ▸ List.mem_append_right before List.mem_cons_self)

/-- The words that are no names. -/
def reserved : List String :=
  ["true", "false", "none", "True", "False", "None", "not", "and", "or", "in", "is", "if", "else", "self", "super"]

/-- Whether a text is a name: letters, digits and low lines, and no digit in front. -/
structure IsPlainName (name : String) : Prop where
  chars : ∀ c ∈ name.toList, Template.isNameChar c = true
  first : ∃ c, name.toList.head? = some c ∧ c.isDigit = false
  free : name ∉ reserved

/-- Literal text with outputs of names in it. No delimiter begins in a literal piece, not even with the brace behind it
that begins an output. -/
inductive Outputs : List Char → List Piece → Prop
  | last {literal : List Char} (hplain : Plain literal) : Outputs literal [.text literal]
  | output {literal blanks blanks' text : List Char} {name : String} {pieces : List Piece}
      (hplain : Plain (literal ++ ['\x7b'])) (hblanks : ∀ c ∈ blanks ++ blanks', Text.isBlank c = true)
      (hname : IsPlainName name) (htext : Outputs text pieces) :
      Outputs (literal ++ '\x7b' :: '\x7b' :: (blanks ++ name.toList ++ blanks' ++ '\x7d' :: '\x7d' :: text))
        (.text literal :: .output name [] :: pieces)

/-- A view that is literal text with outputs of names, without carriage returns, and without a line end at its end. -/
structure IsView (text : List Char) (pieces : List Piece) : Prop where
  outputs : Outputs text pieces
  noReturn : '\r' ∉ text
  last : text.getLast? ≠ some '\n'

/-- A layout: literal pieces, with an output of `content` between each two of them. -/
def framed : List (List Char) → List Piece
  | [] => []
  | [literal] => [.text literal]
  | literal :: literals => .text literal :: .output "content" [] :: framed literals

/-- What such a view shows for a piece of it. -/
def shownPiece (escaped : Bool) (context : ViewContext) : Piece → Letters
  | .text s => Text.ofChars s
  | .output name _ => ((context.get? name).map (·.shownIn escaped)).getD []

section Reading

variable {mark : Char} {s t : List Char}

theorem cutPair_cons {c : Char} (h : ¬ (c = mark ∧ s.head? = some mark)) :
    cutPair mark (c :: s) = (cutPair mark s).map fun (before, after) => (c :: before, after) := by
  cases s with
  | nil => rfl
  | cons d s =>
    rw [cutPair, if_neg]
    rintro ⟨hc, rfl⟩
    exact h ⟨hc, rfl⟩

/-- Two marks in a row are part of a text that begins with them. -/
theorem infix_of_pair {c : Char} (h : c = mark ∧ s.head? = some mark) : [mark, mark] <:+: c :: s := by
  obtain ⟨rfl, hs⟩ := h
  obtain ⟨t, rfl⟩ := List.head?_eq_some_iff.mp hs
  exact ⟨[], t, rfl⟩

theorem cutPair_eq_none (h : ¬ [mark, mark] <:+: s) : cutPair mark s = none := by
  induction s with
  | nil => rfl
  | cons c s ih => rw [cutPair_cons (mt infix_of_pair h), ih fun hpair => h (List.infix_cons hpair), Option.map_none]

/-- A text is cut at the first pair of marks. -/
theorem cutPair_append (h : ¬ [mark, mark] <:+: s ++ [mark]) (t : List Char) :
    cutPair mark (s ++ mark :: mark :: t) = some (s, t) := by
  induction s with
  | nil => rw [List.nil_append, cutPair, if_pos ⟨rfl, rfl⟩]
  | cons c s ih =>
    have hhead : (s ++ mark :: mark :: t).head? = (s ++ [mark]).head? := by
      cases s <;> rfl
    rw [List.cons_append] at h ⊢
    rw [cutPair_cons, ih fun hpair => h (List.infix_cons hpair), Option.map_some]
    rw [hhead]
    exact mt infix_of_pair h

/-- The characters of names are not blank, and names are told from everything else by them. -/
theorem isNameChar_cases {c : Char} (h : Template.isNameChar c = true) :
    Text.isBlank c = false ∧ c ≠ '.' ∧ c ≠ '\x7d' ∧
      (c == '_' || !Text.inRanges [(0, 0x2f), (0x3a, 0x40), (0x5b, 0x60), (0x7b, 0x7f)] c.toNat) = true := by
  have hascii : c.toNat < 0x80 := by
    simp only [Template.isNameChar, Letter.has, Bool.decide_or, Bool.or_eq_true, decide_eq_true_eq, Bool.decide_and,
      Bool.and_eq_true] at h
    rcases h with ⟨-, h⟩ | ⟨-, h⟩ | ⟨-, h⟩ | rfl
    · exact Nat.lt_of_le_of_lt h (by decide)
    · exact Nat.lt_of_le_of_lt h (by decide)
    · exact Nat.lt_of_le_of_lt h (by decide)
    · decide
  have hall : ∀ n < 0x80, Template.isNameChar (Char.ofNat n) = true →
      Text.isBlank (Char.ofNat n) = false ∧ Char.ofNat n ≠ '.' ∧ Char.ofNat n ≠ '\x7d' ∧
        (Char.ofNat n == '_' ||
          !Text.inRanges [(0, 0x2f), (0x3a, 0x40), (0x5b, 0x60), (0x7b, 0x7f)] (Char.ofNat n).toNat) = true := by
    decide
  have hc := hall c.toNat hascii
  rw [Char.ofNat_toNat] at hc
  exact hc h

theorem dropWhile_eq_self {p : Char → Bool} (h : ∀ c ∈ s, p c = false) : s.dropWhile p = s := by
  cases s with
  | nil => rfl
  | cons c s => exact List.dropWhile_cons_of_neg (Bool.eq_false_iff.mp (h c List.mem_cons_self))

theorem trim_append {blanks blanks' : List Char} (h : ∀ c ∈ blanks ++ blanks', Text.isBlank c = true) (hne : s ≠ [])
    (hs : ∀ c ∈ s, Text.isBlank c = false) : Text.trim (blanks ++ s ++ blanks') = s := by
  obtain ⟨hblanks, hblanks'⟩ := List.forall_mem_append.mp h
  have hback : ∀ c ∈ blanks'.reverse, Text.isBlank c = true := fun c hc => hblanks' c (List.mem_reverse.mp hc)
  have hfront : (s ++ blanks').dropWhile Text.isBlank = s ++ blanks' := by
    obtain ⟨c, t, rfl⟩ := List.exists_cons_of_ne_nil hne
    exact List.dropWhile_cons_of_neg (Bool.eq_false_iff.mp (hs c List.mem_cons_self))
  rw [Text.trim, List.append_assoc, List.dropWhile_append_of_pos hblanks, hfront, Text.dropEndWhile,
    List.reverse_append, List.dropWhile_append_of_pos hback, dropWhile_eq_self fun c hc => hs c (List.mem_reverse.mp hc),
    List.reverse_reverse]

theorem IsPlainName.ne_nil {name : String} (h : IsPlainName name) : name.toList ≠ [] := by
  obtain ⟨c, hc, -⟩ := h.first
  rintro hnil
  rw [hnil] at hc
  cases hc

theorem output?_name {blanks blanks' : List Char} {name : String}
    (h : ∀ c ∈ blanks ++ blanks', Text.isBlank c = true) (hname : IsPlainName name) :
    output? (blanks ++ name.toList ++ blanks') = some (.output name []) := by
  have hblank : ∀ c ∈ name.toList, Text.isBlank c = false := fun c hc => (isNameChar_cases (hname.chars c hc)).1
  have hdot : '.' ∉ name.toList := fun hc => (isNameChar_cases (hname.chars _ hc)).2.1 rfl
  have htrim : Text.trim name.toList = name.toList := by
    have h : Text.trim ([] ++ name.toList ++ []) = name.toList := trim_append nofun hname.ne_nil hblank
    rwa [List.nil_append, List.append_nil] at h
  have hisName : isName name.toList = true := by
    rw [isName, Bool.and_eq_true, List.all_eq_true]
    exact ⟨by simpa using hname.ne_nil, fun c hc => (isNameChar_cases (hname.chars c hc)).2.2.2⟩
  rw [output?, trim_append h hname.ne_nil hblank, Text.splitOn_eq_self hdot, List.map_singleton, htrim]
  rw [List.all_cons, hisName, if_pos (by rfl), List.map_singleton, String.ofList_toList]

theorem not_infix_pair (h : mark ∉ s) : ¬ [mark, mark] <:+: s ++ [mark] := by
  intro hpair
  have hcount := hpair.sublist.count_le mark
  rw [List.count_append, List.count_eq_zero_of_not_mem h] at hcount
  simp at hcount

theorem brace_notMem_output {blanks blanks' : List Char} {name : String}
    (h : ∀ c ∈ blanks ++ blanks', Text.isBlank c = true) (hname : IsPlainName name) :
    '\x7d' ∉ blanks ++ name.toList ++ blanks' := by
  have hbrace : '\x7d' ∉ blanks ++ blanks' := fun hmem => absurd (h _ hmem) (by decide)
  have hplain : '\x7d' ∉ name.toList := fun hc => (isNameChar_cases (hname.chars _ hc)).2.2.1 rfl
  simp only [List.mem_append, not_or] at hbrace ⊢
  exact ⟨⟨hbrace.1, hplain⟩, hbrace.2⟩

/-- **A view that is literal text with outputs is read as its pieces.** -/
theorem piecesFrom_of_outputs {text : List Char} {pieces : List Piece} (h : Outputs text pieces) {fuel : Nat}
    (hfuel : text.length ≤ fuel) : piecesFrom fuel text = pieces := by
  induction h generalizing fuel with
  | @last literal hplain =>
    cases fuel with
    | zero => rfl
    | succ fuel => rw [piecesFrom, cutPair_eq_none (hplain '\x7b' (by decide))]
  | @output literal blanks blanks' text name pieces hplain hblanks hname htext ih =>
    have hopening := cutPair_append (hplain '\x7b' (by decide))
      (blanks ++ name.toList ++ blanks' ++ '\x7d' :: '\x7d' :: text)
    have hclosing := cutPair_append (not_infix_pair (brace_notMem_output hblanks hname)) text
    rw [List.length_append, List.length_cons, List.length_cons, List.length_append, List.length_cons,
      List.length_cons] at hfuel
    obtain ⟨fuel, rfl⟩ : ∃ n, fuel = n + 1 := ⟨fuel - 1, by omega⟩
    rw [piecesFrom, hopening]
    dsimp only
    rw [hclosing]
    dsimp only
    rw [output?_name hblanks hname, ih (by omega)]

theorem unifyLineEnds_eq_self (h : '\r' ∉ s) : unifyLineEnds s = s := by
  induction s with
  | nil => rfl
  | cons c s ih =>
    have hc : c ≠ '\r' := fun hc => h (hc ▸ List.mem_cons_self)
    rw [unifyLineEnds, ih fun hs => h (List.mem_cons_of_mem c hs)]
    · exact fun _ hreturn _ => hc hreturn
    · exact hc

theorem pieces_of_isView {pieces : List Piece} (h : IsView s pieces) : Page.pieces s = pieces := by
  have hcontent : content s = s := by
    rw [content, unifyLineEnds_eq_self h.noReturn]
    exact if_neg h.last
  rw [Page.pieces, hcontent]
  exact piecesFrom_of_outputs h.outputs (Nat.le_refl _)

/-- The outputs of such a view are of names only. -/
theorem Outputs.attributes_nil {text : List Char} {pieces : List Piece} (h : Outputs text pieces) {name : String}
    {attributes : List String} (hpiece : .output name attributes ∈ pieces) : attributes = [] := by
  induction h with
  | last => cases List.mem_singleton.mp hpiece
  | output _ _ _ _ ih =>
    rcases List.mem_cons.mp hpiece with hliteral | hpiece
    · cases hliteral
    · rcases List.mem_cons.mp hpiece with houtput | hpiece
      · cases houtput
        rfl
      · exact ih hpiece

end Reading

/-! ## Escaping -/

/-- The text that HTML shows for an escaped one. -/
def unescape : Letters → Letters
  | .char '&' :: .char 'a' :: .char 'm' :: .char 'p' :: .char ';' :: s => .char '&' :: unescape s
  | .char '&' :: .char 'l' :: .char 't' :: .char ';' :: s => .char '<' :: unescape s
  | .char '&' :: .char 'g' :: .char 't' :: .char ';' :: s => .char '>' :: unescape s
  | .char '&' :: .char '#' :: .char '3' :: .char '9' :: .char ';' :: s => .char '\'' :: unescape s
  | .char '&' :: .char '#' :: .char '3' :: .char '4' :: .char ';' :: s => .char '"' :: unescape s
  | l :: s => l :: unescape s
  | [] => []

/-- **What is escaped once shows as the text it was.** -/
theorem unescape_escape (s : Letters) : unescape (escape s) = s := by
  induction s with
  | nil => rfl
  | cons l s ih =>
    have hcons : escape (l :: s) = escapeLetter l ++ escape s := List.flatMap_cons
    rw [hcons, escapeLetter]
    split
    · next h => exact congrArg₂ List.cons h.symm ih
    split
    · next h => exact congrArg₂ List.cons h.symm ih
    split
    · next h => exact congrArg₂ List.cons h.symm ih
    split
    · next h => exact congrArg₂ List.cons h.symm ih
    split
    · next h => exact congrArg₂ List.cons h.symm ih
    · next hne _ _ _ _ =>
      rw [List.singleton_append, unescape, ih]
      all_goals exact fun _ hc _ => hne hc

end Page

/-! ## Engines -/

/-- What is assumed of an engine. -/
structure Engine.Lawful (e : Engine) : Prop where
  /-- Where escaping is in force, an item is shown escaped, unless it is markup. -/
  shown {files : Fields String String} {path : List Char} {text : String} {context : ViewContext} {parts : List Part}
    {expression : String} {escaped : Bool} {i : Item} {s : Letters} :
    e.print files path text context = .ok parts → Part.output expression escaped i s ∈ parts → s = i.shownIn escaped
  /-- In a view without statements, it is in force as the file says. -/
  escaping {files : Fields String String} {path : List Char} {text : String} {context : ViewContext}
    {parts : List Part} {expression : String} {escaped : Bool} {i : Item} {s : Letters} :
    ¬ ['\x7b', '%'] <:+: text.toList → e.print files path text context = .ok parts →
      Part.output expression escaped i s ∈ parts → escaped = Page.isEscaped path
  /-- Literal text is printed as it is, and a name stands for what the router says it does. -/
  outputs {files : Fields String String} {path : List Char} {text : String} {context : ViewContext}
    {pieces : List Piece} :
    Page.IsView text.toList pieces → (∀ name, Piece.output name [] ∈ pieces → (context.get? name).isSome) →
      Page.all <$> e.print files path text context =
        .ok (pieces.flatMap (Page.shownPiece (Page.isEscaped path) context))

namespace Page

section Printing

variable {escaped : Bool} {context : ViewContext} {pieces : List Piece}

/-- What is printed comes from the pieces of a view. -/
theorem exists_of_printPieces {parts : List Part} (h : printPieces escaped context pieces = .ok parts) {part : Part}
    (hpart : part ∈ parts) : ∃ piece ∈ pieces, printPiece escaped context piece = .ok (some part) := by
  induction pieces generalizing parts with
  | nil =>
    cases h
    cases hpart
  | cons piece pieces ih =>
    rw [printPieces, List.mapM_cons] at h
    rcases hpiece : printPiece escaped context piece with f | printed
    · rw [hpiece] at h
      cases h
    · rcases hrest : pieces.mapM (printPiece escaped context) with f | rest
      · rw [hpiece, hrest] at h
        cases h
      · rw [hpiece, hrest] at h
        have hpieces : printPieces escaped context pieces = .ok (rest.filterMap id) := by
          rw [printPieces, hrest]
          rfl
        obtain rfl := Except.ok.inj h
        obtain ⟨_, hmem, rfl⟩ := List.mem_filterMap.mp hpart
        rcases List.mem_cons.mp hmem with rfl | hmem
        · exact ⟨piece, List.mem_cons_self, hpiece⟩
        · obtain ⟨other, hother, hprint⟩ := ih hpieces (List.mem_filterMap.mpr ⟨some part, hmem, rfl⟩)
          exact ⟨other, List.mem_cons_of_mem _ hother, hprint⟩

/-- What is shown of an item. -/
theorem output_of_printPiece {piece : Piece} {expression : String} {escaped' : Bool} {i : Item} {s : Letters}
    (h : printPiece escaped context piece = .ok (some (.output expression escaped' i s))) :
    escaped' = escaped ∧ s = i.shownIn escaped := by
  cases piece with
  | text t => cases h
  | output name attributes =>
    rw [printPiece] at h
    rcases hfound : attributes.foldlM (fun found name => found.attribute name) (find context name) with f | found
    · rw [hfound] at h
      cases h
    · rw [hfound] at h
      cases found with
      | item i => cases h; exact ⟨rfl, rfl⟩
      | missing text => cases h

theorem printPiece_of_isSome (escaped : Bool) {piece : Piece}
    (h : ∀ name attributes, piece = .output name attributes → attributes = [] ∧ (context.get? name).isSome) :
    ∃ part, printPiece escaped context piece = .ok (some part) ∧ part.all = shownPiece escaped context piece := by
  cases piece with
  | text s => exact ⟨_, rfl, rfl⟩
  | output name attributes =>
    obtain ⟨rfl, hname⟩ := h name attributes rfl
    obtain ⟨i, hi⟩ := Option.isSome_iff_exists.mp hname
    refine ⟨.output (expression name []) escaped i (i.shownIn escaped), ?_, ?_⟩
    · rw [printPiece, List.foldlM_nil, find, hi]
      rfl
    · rw [shownPiece, hi]
      rfl

theorem printPieces_of_isSome (escaped : Bool)
    (h : ∀ name attributes, .output name attributes ∈ pieces → attributes = [] ∧ (context.get? name).isSome) :
    ∃ parts, printPieces escaped context pieces = .ok parts ∧
      all parts = pieces.flatMap (shownPiece escaped context) := by
  induction pieces with
  | nil => exact ⟨[], rfl, rfl⟩
  | cons piece pieces ih =>
    obtain ⟨parts, hparts, hall⟩ := ih fun name attributes hmem => h name attributes (List.mem_cons_of_mem _ hmem)
    obtain ⟨part, hpart, hshown⟩ := printPiece_of_isSome escaped
      fun name attributes (hpiece : piece = _) => h name attributes (hpiece ▸ List.mem_cons_self)
    refine ⟨part :: parts, ?_, ?_⟩
    · rw [printPieces] at hparts ⊢
      rw [List.mapM_cons, hpart]
      cases hrest : pieces.mapM (printPiece escaped context) with
      | error f =>
        rw [hrest] at hparts
        cases hparts
      | ok rest =>
        rw [hrest] at hparts
        obtain rfl := Except.ok.inj hparts
        rfl
    · rw [List.flatMap_cons, ← hshown, ← hall]
      rfl

/-- **The engine for outputs is such an engine.** -/
theorem lawful_engine : engine.Lawful where
  shown hprint hpart := by
    obtain ⟨piece, -, hpiece⟩ := exists_of_printPieces hprint hpart
    obtain ⟨rfl, hs⟩ := output_of_printPiece hpiece
    exact hs
  escaping _ hprint hpart := by
    obtain ⟨piece, -, hpiece⟩ := exists_of_printPieces hprint hpart
    exact (output_of_printPiece hpiece).1
  outputs {files path text context pieces} hview hnames := by
    have hpieces : ∀ name attributes, .output name attributes ∈ pieces →
        attributes = [] ∧ (context.get? name).isSome := by
      intro name attributes hpiece
      obtain rfl := hview.outputs.attributes_nil hpiece
      exact ⟨rfl, hnames name hpiece⟩
    obtain ⟨parts, hparts, hall⟩ := printPieces_of_isSome (isEscaped path) hpieces
    show all <$> printPieces (isEscaped path) context (Page.pieces text.toList) = _
    rw [pieces_of_isView hview, hparts]
    exact congrArg Except.ok hall

end Printing

/-- **In a layout, markup takes the place of every output of it**, as it is. -/
theorem flatMap_framed {escaped : Bool} {context : ViewContext} {content : Letters}
    (h : context.get? "content" = some (.markup content)) (literals : List (List Char)) :
    (framed literals).flatMap (shownPiece escaped context) = joinWith content (literals.map Text.ofChars) := by
  induction literals with
  | nil => rfl
  | cons literal literals ih =>
    cases literals with
    | nil => exact List.append_nil (Text.ofChars literal)
    | cons next literals =>
      have hcontent : shownPiece escaped context (.output "content" []) = content := by
        rw [shownPiece, h]
        rfl
      rw [framed, List.flatMap_cons, List.flatMap_cons, ih, hcontent]
      · exact (List.append_assoc _ _ _).symm
      · exact nofun

theorem output_mem_framed {literals : List (List Char)} {name : String} {attributes : List String}
    (h : .output name attributes ∈ framed literals) : name = "content" := by
  induction literals with
  | nil => cases h
  | cons literal literals ih =>
    cases literals with
    | nil => cases List.mem_singleton.mp h
    | cons next literals =>
      rw [framed] at h
      · rcases List.mem_cons.mp h with hliteral | h
        · cases hliteral
        · rcases List.mem_cons.mp h with houtput | h
          · cases houtput
            rfl
          · exact ih h
      · exact nofun

end Page

/-! ## Names -/

/-- What the data of a view brings along under a name: the value of a key, or data that is no mapping. -/
def Payload.value? : Payload → String → Option Value
  | .data v, name =>
    match v.entries? with
    | some entries => Fields.get? (.text name) entries
    | none => if name = "data" then some v else none
  | .itself, _ => none

namespace TwoStep

variable {s : Subject} {p : Payload} {name : String} {v : Value}

theorem get?_nameable (name : String) (entries : List (Value × Value)) :
    Fields.get? name (entries.filterMap nameable?) = (Fields.get? (Value.text name) entries).map Item.value := by
  induction entries with
  | nil => rfl
  | cons e entries ih =>
    obtain ⟨key, v⟩ := e
    cases key with
    | text k =>
      have hkey : (Value.text name == Value.text k) = (Text.ofString name == k) := rfl
      cases hplain : Text.plain? k with
      | none =>
        have hentry : nameable? (.text k, v) = none := by
          rw [nameable?, hplain]
          rfl
        have hne : ¬ (Text.ofString name == k) = true := by
          rw [beq_iff_eq]
          rintro rfl
          rw [Text.plain?_ofString] at hplain
          cases hplain
        rw [List.filterMap_cons_none hentry, ih, Fields.get?.eq_2, hkey, if_neg hne]
      | some chars =>
        obtain rfl := Text.plain?_eq_some_iff.mp hplain
        have hentry : nameable? (.text (Text.ofChars chars), v) = some (String.ofList chars, .value v) := by
          rw [nameable?, hplain]
          rfl
        rw [List.filterMap_cons_some hentry, Fields.get?, Fields.get?, hkey, ← Text.ofString_ofList,
          Text.ofString_beq, ih]
        split <;> rfl
    | _ => exact ih

theorem get?_dataContext (h : p.value? name = some v) : (dataContext s p).get? name = some (.value v) := by
  cases p with
  | itself => cases h
  | data data =>
    rw [Payload.value?] at h
    rw [dataContext]
    cases hentries : data.entries? with
    | some entries =>
      rw [hentries] at h
      exact (get?_nameable name entries).trans (congrArg _ h)
    | none =>
      rw [hentries] at h
      dsimp only at h
      split at h
      · next hname =>
        cases h
        subst hname
        rfl
      · cases h

/-- What the data brings along under a name is what the name stands for in the view of a subject. -/
theorem get?_context (h : p.value? name = some v) (hname : name ≠ "subject") :
    (context s p).get? name = some (.value v) := by
  have hdata := get?_dataContext (s := s) h
  rw [context, Fields.get?_set_of_ne hname]
  by_cases hkey : name = if s.isError then "error" else "resource"
  · rw [hkey] at hdata ⊢
    rw [Fields.get?_setDefault_self, hdata, Option.getD_some]
  · rw [Fields.get?_setDefault_of_ne hkey, hdata]

theorem get?_context_subject (s : Subject) (p : Payload) : (context s p).get? "subject" = some (.subject s) :=
  Fields.get?_set_self _ _ _

/-- **No name from the data stands for the content or the subject in a layout.** -/
theorem get?_layoutContext (s : Subject) (p : Payload) (content : Letters) :
    (layoutContext s p content).get? "content" = some (.markup content) ∧
      (layoutContext s p content).get? "subject" = some (.subject s) := by
  refine ⟨Fields.get?_set_self _ _ _, ?_⟩
  rw [layoutContext, Fields.get?_set_of_ne (by decide)]
  exact get?_context_subject s p

theorem isEscaped_of_html {path : List Char} (h : ".html".toList <:+ path) : Page.isEscaped path = true := by
  obtain ⟨start, rfl⟩ := h
  have hlower (before : List Char) : ".html".toList <:+ Text.lowerFrom before (start ++ ".html".toList) := by
    induction start generalizing before with
    | nil => exact List.suffix_refl _
    | cons c start ih => exact (ih (c :: before)).trans (List.suffix_append _ _)
  exact Bool.or_eq_true_iff.mpr (.inl (List.isSuffixOf_iff_suffix.mpr (hlower [])))

section Framed

variable {views : Views} {r : Resolver} {path layoutPath : List Char} {text layoutText : String}
  {literals : List (List Char)}

/-- A layout is printed as its literal pieces with a fragment between them. -/
theorem page_of_framed (hengine : views.engine.Lawful) (hframed : Page.IsView layoutText.toList (Page.framed literals))
    (s : Subject) (p : Payload) (content : Letters) :
    views.page layoutPath layoutText (layoutContext s p content) =
      .ok (joinWith content (literals.map Text.ofChars)) := by
  have hcontent := (get?_layoutContext s p content).1
  refine (hengine.outputs hframed fun name hname => ?_).trans (congrArg _ (Page.flatMap_framed hcontent literals))
  rw [Page.output_mem_framed hname, hcontent]
  rfl

/-- Around a layout there is nothing more: what is rendered is the layout with the fragment. -/
theorem render_of_framed (hengine : views.engine.Lawful)
    (hview : views.first? (r.contentCandidates s) = some (path, text))
    (hlayout : views.first? (r.layoutCandidates s) = some (layoutPath, layoutText))
    (hframed : Page.IsView layoutText.toList (Page.framed literals)) (p : Payload) :
    render views r s p =
      (views.page path text (context s p)).map fun content => joinWith content (literals.map Text.ofChars) := by
  rw [render_of_layout hlayout, fragment_eq, hview, showing]
  cases views.page path text (context s p) with
  | error f => rfl
  | ok content => exact page_of_framed hengine hframed s p content

/-- Where escaping is in force, a text is shown escaped once. -/
theorem shown_of_text {escaped : Bool} {expression : String} {t shown : Letters} {parts : List Part}
    (hengine : views.engine.Lawful)
    (hparts : views.engine.print views.files path text (context s p) = .ok parts)
    (hpart : .output expression escaped (.value (.text t)) shown ∈ parts) (hescaped : escaped = true) :
    shown = Page.escape t ∧ Page.unescape shown = t := by
  subst hescaped
  obtain rfl := hengine.shown hparts hpart
  exact ⟨rfl, Page.unescape_escape _⟩

/-- A view of literal text and outputs shows what the data says under the names, escaped. -/
theorem page_of_outputs {pieces : List Piece} (hengine : views.engine.Lawful) (hhtml : ".html".toList <:+ path)
    (hpieces : Page.IsView text.toList pieces)
    (hnames : ∀ name, .output name [] ∈ pieces → name ≠ "subject" ∧ (p.value? name).isSome) :
    views.page path text (context s p) = .ok (pieces.flatMap fun
      | .text literal => Text.ofChars literal
      | .output name _ => ((p.value? name).map fun v => Page.escape v.shown).getD []) := by
  have hcontext : ∀ name, .output name [] ∈ pieces →
      ∃ v, p.value? name = some v ∧ (context s p).get? name = some (.value v) := by
    intro name hname
    obtain ⟨hne, hvalue⟩ := hnames name hname
    obtain ⟨v, hv⟩ := Option.isSome_iff_exists.mp hvalue
    exact ⟨v, hv, get?_context hv hne⟩
  refine (hengine.outputs hpieces fun name hname => ?_).trans (congrArg Except.ok ?_)
  · obtain ⟨v, -, hv⟩ := hcontext name hname
    rw [hv]
    rfl
  · rw [isEscaped_of_html hhtml]
    refine List.flatMap_congr fun piece hpiece => ?_
    cases piece with
    | text literal => rfl
    | output name attributes =>
      obtain rfl := hpieces.outputs.attributes_nil hpiece
      obtain ⟨v, hvalue, hv⟩ := hcontext name hpiece
      dsimp only
      rw [Page.shownPiece, hv, hvalue]
      rfl

/-- **The content comes into a layout as it is**, whatever the engine prints for the view of the subject: the page is
the layout with that for every output of `content`, and the body is its encoding, if it has one. A text is shown escaped
once, wherever the view of the subject shows it with escaping in force, as it is in all of a view without statements; and
where the view is literal text with outputs of names, all of it is known. Whatever the data brings along, `subject` is
the subject in both steps, `content` the content, and any other name what the data says. -/
theorem render_framed_content (hengine : views.engine.Lawful)
    (hview : views.first? (r.contentCandidates s) = some (path, text)) (hhtml : ".html".toList <:+ path)
    (hlayout : views.first? (r.layoutCandidates s) = some (layoutPath, layoutText))
    (hframed : Page.IsView layoutText.toList (Page.framed literals)) (p : Payload) :
    ((Renderer.twoStep views r).render s p =
        (views.page path text (context s p) >>= fun content =>
          Text.encoded (joinWith content (literals.map Text.ofChars))).mapError Failure.fault) ∧
      (∀ parts, views.engine.print views.files path text (context s p) = .ok parts →
        ∀ expression escaped t shown, .output expression escaped (.value (.text t)) shown ∈ parts →
          (¬ ['\x7b', '%'] <:+: text.toList → escaped = true) ∧
            (escaped = true → shown = Page.escape t ∧ Page.unescape shown = t)) ∧
      (∀ pieces, Page.IsView text.toList pieces →
        (∀ name, .output name [] ∈ pieces → name ≠ "subject" ∧ (p.value? name).isSome) →
          views.page path text (context s p) = .ok (pieces.flatMap fun
            | .text literal => Text.ofChars literal
            | .output name _ => ((p.value? name).map fun v => Page.escape v.shown).getD [])) ∧
      (∀ name v, name ≠ "subject" → p.value? name = some v → (context s p).get? name = some (.value v)) ∧
      (context s p).get? "subject" = some (.subject s) ∧
      ∀ content, (layoutContext s p content).get? "content" = some (.markup content) ∧
        (layoutContext s p content).get? "subject" = some (.subject s) := by
  refine ⟨?_, ?_, fun _ => page_of_outputs hengine hhtml, fun name v hname hv => get?_context hv hname,
    get?_context_subject s p, get?_layoutContext s p⟩
  · show (render views r s p >>= Text.encoded).mapError Failure.fault = _
    rw [render_of_framed hengine hview hlayout hframed]
    cases views.page path text (context s p) <;> rfl
  · intro parts hparts expression escaped t shown hpart
    refine ⟨fun hstatement => ?_, shown_of_text hengine hparts hpart⟩
    rw [hengine.escaping hstatement hparts hpart, isEscaped_of_html hhtml]

/-- A view, and a layout with its content twice. -/
def twice : Views :=
  ⟨[("resource.html", "<p>\x7b\x7b name \x7d\x7d</p>"),
    ("layout.html", "[\x7b\x7b content \x7d\x7d|\x7b\x7bcontent\x7d\x7d]")], Page.engine⟩

theorem render_framed_content_twice :
    (Renderer.twoStep twice {}).render (.resource (Application.base.fresh Hierarchy.root))
        (.data (.mapping [(.text "name", .text "<b>"), (.text "content", .text "<i>")])) =
      .ok (Text.Utf8.ofString "[<p>&lt;b&gt;</p>|<p>&lt;b&gt;</p>]") := by
  have hview : twice.first? (({} : Resolver).contentCandidates (.resource (Application.base.fresh Hierarchy.root))) =
      some ("resource.html".toList, "<p>\x7b\x7b name \x7d\x7d</p>") := rfl
  have hcontent : Page.IsPlainName "content" := ⟨List.all_eq_true.mp rfl, ⟨'c', rfl, rfl⟩, by decide⟩
  have houtputs : Page.Outputs "[\x7b\x7b content \x7d\x7d|\x7b\x7bcontent\x7d\x7d]".toList
      (Page.framed [['['], ['|'], [']']]) := by
    have hblank : ∀ c ∈ [' '] ++ [' '], Text.isBlank c = true := List.all_eq_true.mp rfl
    have hnone : ∀ c ∈ ([] ++ [] : List Char), Text.isBlank c = true := nofun
    have hplain (c : Char) (hc : '\x7b' ≠ c) := Page.plain_of_notMem (mt List.mem_singleton.mp hc)
    have hinner := Page.Outputs.output (hplain '|' (by decide)).2 hnone hcontent (.last (hplain ']' (by decide)).1)
    have houter := Page.Outputs.output (hplain '[' (by decide)).2 hblank hcontent hinner
    refine (congrArg (Page.Outputs · (Page.framed [['['], ['|'], [']']])) ?_).mpr houter
    decide
  have hframed : Page.IsView "[\x7b\x7b content \x7d\x7d|\x7b\x7bcontent\x7d\x7d]".toList
      (Page.framed [['['], ['|'], [']']]) := ⟨houtputs, by decide, by decide⟩
  refine (render_framed_content Page.lawful_engine hview (by decide) rfl hframed _).1.trans ?_
  rfl

/-- A name that is half of a surrogate pair. -/
def halfName : Payload :=
  .data (.mapping [(.text "name", .text [.half])])

/-- **A page has no body if its text has no encoding**: the view prints half of a surrogate pair, and the layout goes
around it, but that cannot be sent. -/
theorem render_framed_half :
    twice.page "resource.html".toList "<p>\x7b\x7b name \x7d\x7d</p>"
        (context (.resource (Application.base.fresh Hierarchy.root)) halfName) =
        .ok (Text.ofString "<p>" ++ [.half] ++ Text.ofString "</p>") ∧
      (Renderer.twoStep twice {}).render (.resource (Application.base.fresh Hierarchy.root)) halfName =
        .error (.fault (.unencodable (Text.ofString "[<p>" ++ [.half] ++ Text.ofString "</p>|<p>" ++ [.half] ++
          Text.ofString "</p>]"))) :=
  ⟨rfl, rfl⟩

end Framed

end TwoStep

end HttpRouter
