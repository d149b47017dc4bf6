import BuildConst.Proofs.Naming
import BuildConst.Proofs.Text.Lines

/-!
# The lines of artifacts in source form

An artifact consists of visible lines, and how many there are is decided by the layout: by the
depth of the container, the number of constants, and the lists that are spread over several lines.
The characters of the values have no part in it, as literals are visible.

## Main definitions

* `Source.constantHeight`, `Source.height` — the numbers of lines of a constant and an artifact.

## Main results

* `Source.isVisible_stringLiteral` — the literals of texts are visible.
* `Source.visibleLines_constantLines` — the lines of a constant.
* `Source.visibleLines_text` — the lines of an artifact.
-/

set_option relaxedAutoImplicit false
set_option autoImplicit false

namespace BuildConst.Source

open Text

/-! ## Heights -/

/-- The number of lines of the declaration of a constant: a list that is spread over several lines
has one for each item and two around them. -/
def constantHeight (depth : Nat) (c : Constant) : Nat :=
  match c.value with
  | .stringArray items =>
    if items = [] ∨ (constantHead c ++ literal c.value ++ ";").utf8ByteSize ≤ roomAt depth then 1
    else items.length + 2
  | _ => 1

/-- The number of lines of the type that holds the constants.  The attribute in front of them does
not fit on one line if it is indented further than by 21 columns. -/
def containerHeight (depth : Nat) (t : Table) : Nat :=
  3 + (if depth ≤ 21 then 1 else 4) +
    if t.constants = [] then 1
    else 2 + (t.constants.map (constantHeight (depth + step))).sum

/-- The number of lines of an artifact: two before everything else, three for each module, and those
of the type inside the modules. -/
def height (t : Table) (c : Container) : Nat :=
  2 + (3 * c.segments.length + containerHeight (step * c.segments.length) t)

/-! ## Literals -/

/-- The characters of a string literal are printable. -/
theorem arePrintable_literalBody (cs : List Char) : ArePrintable (literalBody cs) := by
  induction cs with
  | nil => exact fun c hc => absurd hc List.not_mem_nil
  | cons c rest ih =>
    rw [literalBody]
    split
    · have hzero : ArePrintable ['\\', 'x', '0', '0'] := arePrintable_of_isPlain (by decide)
      exact List.forall_mem_append.2 ⟨hzero, ih⟩
    · exact List.forall_mem_append.2 ⟨arePrintable_escape c, ih⟩

/-- **Literals of texts are visible**, whatever characters the texts are made of. -/
theorem isVisible_stringLiteral (s : String) : IsVisible (stringLiteral s) :=
  isVisible_between_quotes (arePrintable_literalBody s.toList)

/-- The literals of several texts are visible. -/
theorem isVisible_of_mem_map_stringLiteral (items : List String) :
    ∀ l ∈ items.map stringLiteral, IsVisible l := by
  intro l hl
  obtain ⟨item, -, rfl⟩ := List.mem_map.1 hl
  exact isVisible_stringLiteral item

/-- Values are visible as expressions. -/
theorem isVisible_literal (v : Value) : IsVisible (literal v) := by
  cases v with
  | string text => exact isVisible_stringLiteral text
  | bool truth => cases truth <;> exact isVisible_of_isPlain (by decide)
  | int number => exact isVisible_toString number.toInt
  | stringArray items =>
    have hopen : IsVisible "&[" := isVisible_of_isPlain (by decide)
    have hcomma : IsVisible ", " := isVisible_of_isPlain (by decide)
    have hclose : IsVisible "]" := isVisible_of_isPlain (by decide)
    rw [literal, isVisible_append, isVisible_append]
    exact ⟨⟨hopen, isVisible_intercalate hcomma (isVisible_of_mem_map_stringLiteral items)⟩, hclose⟩

/-! ## Lines -/

/-- A name is visible as an identifier. -/
theorem isVisible_spell {name : String} (h : Identifier.Speakable name) :
    IsVisible (spell name) := by
  have hname := Identifier.isVisible_of_speakable h
  have hraw : IsVisible "r#" := isVisible_of_isPlain (by decide)
  unfold spell
  split
  · exact isVisible_append.2 ⟨hraw, hname⟩
  · exact hname

/-- Indentation is visible, so a line of visible text is. -/
theorem visibleLines_line (depth : Nat) {text : String} (h : IsVisible text) :
    VisibleLines 1 (line depth text) := by
  have hspace : isPrintable ' ' = true := isPrintable_of_ascii (by decide) (by decide)
  refine IsVisible.visibleLines (isVisible_append.2 ⟨fun c hc => ?_, h⟩)
  rw [String.toList_ofList] at hc
  exact List.eq_of_mem_replicate hc ▸ hspace

/-- A line that names something between two visible texts. -/
theorem visibleLines_named (depth : Nat) {before behind name : String} (hbefore : IsVisible before)
    (hname : Identifier.Speakable name) (hbehind : IsVisible behind) :
    VisibleLines 1 (line depth (before ++ spell name ++ behind)) :=
  visibleLines_line depth
    (isVisible_append.2 ⟨isVisible_append.2 ⟨hbefore, isVisible_spell hname⟩, hbehind⟩)

/-- Items on lines of their own take one line each. -/
theorem visibleLines_itemLines (depth : Nat) {last : String} (hlast : IsVisible last)
    {items : List String} (h : ∀ item ∈ items, IsVisible item) :
    VisibleLines items.length (itemLines depth last items) := by
  have hcomma : IsVisible "," := isVisible_of_isPlain (by decide)
  induction items with
  | nil => exact .empty
  | cons item more ih =>
    have hitem := h item List.mem_cons_self
    cases more with
    | nil => exact visibleLines_line depth (isVisible_append.2 ⟨hitem, hlast⟩)
    | cons next more =>
      have hmore := ih fun i hi => h i (List.mem_cons_of_mem _ hi)
      rw [itemLines, List.length_cons, Nat.add_comm]
      · exact (visibleLines_line depth (isVisible_append.2 ⟨hitem, hcomma⟩)).append hmore
      · exact fun h => List.cons_ne_nil next more h

/-- A list takes one line, or one for each item and two around them. -/
theorem visibleLines_listLines (depth : Nat) {head last tail : String} {items : List String}
    (hhead : IsVisible head) (hitems : ∀ item ∈ items, IsVisible item) (hlast : IsVisible last)
    (htail : IsVisible tail) :
    VisibleLines
      (if items = [] ∨
          (head ++ ", ".intercalate items ++ tail).utf8ByteSize ≤ roomAt depth then 1
        else items.length + 2)
      (listLines depth head items last tail) := by
  have hcomma : IsVisible ", " := isVisible_of_isPlain (by decide)
  rw [listLines]
  simp only [List.isEmpty_iff]
  split
  · exact visibleLines_line depth
      (isVisible_append.2 ⟨isVisible_append.2 ⟨hhead, isVisible_intercalate hcomma hitems⟩, htail⟩)
  · have hspread := ((visibleLines_line depth hhead).append
      (visibleLines_itemLines (depth + step) hlast hitems)).append (visibleLines_line depth htail)
    rwa [Nat.add_comm 1, Nat.add_assoc] at hspread

/-! ## Constants -/

/-- What precedes the value of a constant is visible. -/
theorem isVisible_constantHead {c : Constant} (h : Identifier.Speakable c.name) :
    IsVisible (constantHead c) := by
  have hopen : IsVisible "pub const " := isVisible_of_isPlain (by decide)
  have htype : IsVisible (": " ++ c.value.kind.accessorType ++ " = ") := by
    cases c.value.kind <;> exact isVisible_of_isPlain (by decide)
  simp only [isVisible_append] at htype
  simp only [constantHead, isVisible_append]
  exact ⟨⟨⟨⟨hopen, isVisible_spell h⟩, htype.1.1⟩, htype.1.2⟩, htype.2⟩

/-- A list on one line stands between both of its brackets. -/
theorem bracketed_eq (c : Constant) (items : List String) :
    constantHead c ++ "&[" ++ ", ".intercalate (items.map stringLiteral) ++ "];" =
      constantHead c ++ literal (.stringArray items) ++ ";" := by
  rw [← String.toList_inj]
  simp [literal]

/-- **Constants**: the declaration of a constant consists of as many visible lines as its height
says. -/
theorem visibleLines_constantLines (depth : Nat) {c : Constant}
    (h : Identifier.Speakable c.name) :
    VisibleLines (constantHeight depth c) (constantLines depth c) := by
  have hhead := isVisible_constantHead h
  have hend : IsVisible ";" := isVisible_of_isPlain (by decide)
  have hline := visibleLines_line depth
    (isVisible_append.2 ⟨isVisible_append.2 ⟨hhead, isVisible_literal c.value⟩, hend⟩)
  cases hvalue : c.value with
  | stringArray items =>
    have hopen : IsVisible "&[" := isVisible_of_isPlain (by decide)
    have hcomma : IsVisible "," := isVisible_of_isPlain (by decide)
    have hclose : IsVisible "];" := isVisible_of_isPlain (by decide)
    have hlist := visibleLines_listLines depth (isVisible_append.2 ⟨hhead, hopen⟩)
      (isVisible_of_mem_map_stringLiteral items) hcomma hclose
    rw [bracketed_eq] at hlist
    simpa only [constantHeight, constantLines, hvalue, List.map_eq_nil_iff, List.length_map]
      using hlist
  | _ => simpa only [constantHeight, constantLines, hvalue] using hline

/-! ## Containers -/

/-- The attribute in front of constants takes one line or four. -/
theorem visibleLines_attribute (depth : Nat) :
    VisibleLines (if depth ≤ 21 then 1 else 4)
      (listLines depth "#[allow("
        ["non_upper_case_globals", "clippy::redundant_static_lifetimes"] "" ")]") := by
  have hhead : IsVisible "#[allow(" := isVisible_of_isPlain (by decide)
  have hitems : ∀ item ∈ ["non_upper_case_globals", "clippy::redundant_static_lifetimes"],
      IsVisible item := by
    simp only [List.forall_mem_cons, List.not_mem_nil, false_imp_iff, implies_true, and_true]
    exact ⟨isVisible_of_isPlain (by decide), isVisible_of_isPlain (by decide)⟩
  have hlast : IsVisible "" := isVisible_of_isPlain (by decide)
  have htail : IsVisible ")]" := isVisible_of_isPlain (by decide)
  have hlist := visibleLines_listLines depth hhead hitems hlast htail
  have hsize : ("#[allow(" ++ ", ".intercalate
      ["non_upper_case_globals", "clippy::redundant_static_lifetimes"] ++ ")]").utf8ByteSize =
        68 := by
    decide
  have hroom : 68 ≤ roomAt depth ↔ depth ≤ 21 := by
    unfold roomAt
    omega
  rw [hsize] at hlist
  simpa only [hroom, List.cons_ne_nil, false_or, List.length_cons, List.length_nil] using hlist

/-- The constants of a type take the lines of each of them, between the lines of its braces. -/
theorem visibleLines_constants (depth : Nat) {t : Table} {name : String}
    (hnames : ∀ c ∈ t.constants, Identifier.Speakable c.name)
    (hname : Identifier.Speakable name) :
    VisibleLines
      (if t.constants = [] then 1
        else 2 + (t.constants.map (constantHeight (depth + step))).sum)
      (if t.constants.isEmpty then line depth ("impl " ++ spell name ++ " \x7b\x7d")
        else line depth ("impl " ++ spell name ++ " \x7b") ++
          String.join (t.constants.map (constantLines (depth + step))) ++ line depth "\x7d") := by
  have himpl : IsVisible "impl " := isVisible_of_isPlain (by decide)
  have hboth : IsVisible " \x7b\x7d" := isVisible_of_isPlain (by decide)
  have hopen : IsVisible " \x7b" := isVisible_of_isPlain (by decide)
  have hclose : IsVisible "\x7d" := isVisible_of_isPlain (by decide)
  simp only [List.isEmpty_iff]
  split
  · exact visibleLines_named depth himpl hname hboth
  · have hconstants := VisibleLines.join fun c hc =>
      visibleLines_constantLines (depth + step) (hnames c hc)
    have hwhole := ((visibleLines_named depth himpl hname hopen).append hconstants).append
      (visibleLines_line depth hclose)
    rwa [Nat.add_right_comm] at hwhole

/-- **Types**: a type consists of as many visible lines as its height says. -/
theorem visibleLines_containerLines (depth : Nat) {t : Table} {name : String}
    (hnames : ∀ c ∈ t.constants, Identifier.Speakable c.name)
    (hname : Identifier.Speakable name) :
    VisibleLines (containerHeight depth t) (containerLines depth t name) := by
  have hcomment : IsVisible s!"/// Build-time constants generated by {programName}." :=
    isVisible_of_isPlain (by decide)
  have hallow : IsVisible "#[allow(non_camel_case_types)]" := isVisible_of_isPlain (by decide)
  have henum : IsVisible "pub enum " := isVisible_of_isPlain (by decide)
  have hboth : IsVisible " \x7b\x7d" := isVisible_of_isPlain (by decide)
  exact ((((visibleLines_line depth hcomment).append (visibleLines_line depth hallow)).append
    (visibleLines_named depth henum hname hboth)).append (visibleLines_attribute depth)).append
    (visibleLines_constants depth hnames hname)

/-- **Modules**: each module puts three lines around the type inside. -/
theorem visibleLines_moduleLines {t : Table} {name : String}
    (hnames : ∀ c ∈ t.constants, Identifier.Speakable c.name)
    (hname : Identifier.Speakable name) {segments : List String}
    (hsegments : ∀ s ∈ segments, Identifier.Speakable s) (depth : Nat) :
    VisibleLines
      (3 * segments.length + containerHeight (depth + step * segments.length) t)
      (moduleLines t name depth segments) := by
  have hallow : IsVisible "#[allow(non_snake_case)]" := isVisible_of_isPlain (by decide)
  have hmod : IsVisible "pub mod " := isVisible_of_isPlain (by decide)
  have hopen : IsVisible " \x7b" := isVisible_of_isPlain (by decide)
  have hclose : IsVisible "\x7d" := isVisible_of_isPlain (by decide)
  induction segments generalizing depth with
  | nil => simpa [moduleLines] using visibleLines_containerLines depth hnames hname
  | cons segment inner ih =>
    have hsegment := hsegments segment List.mem_cons_self
    have hinner := ih (fun s hs => hsegments s (List.mem_cons_of_mem _ hs)) (depth + step)
    have hwhole := (((visibleLines_line depth hallow).append
      (visibleLines_named depth hmod hsegment hopen)).append hinner).append
      (visibleLines_line depth hclose)
    have hdepth : depth + step + step * inner.length = depth + step * (inner.length + 1) := by
      rw [Nat.mul_succ]
      omega
    rw [hdepth] at hwhole
    have hcount (n : Nat) : 1 + 1 + (3 * inner.length + n) + 1 =
        3 * (inner.length + 1) + n := by
      omega
    rwa [hcount] at hwhole

/-! ## Whole artifacts -/

/-- The first lines of an artifact. -/
theorem visibleLines_header : VisibleLines 2 header := by
  have hfirst : IsVisible s!"// Generated by {programName} v{programVersion}. Do not edit." :=
    isVisible_of_isPlain (by decide)
  have hsecond : IsVisible "" := isVisible_of_isPlain (by decide)
  exact hfirst.visibleLines.append hsecond.visibleLines

/-- **Artifacts**: the text of a table consists of as many visible lines as its height says. -/
theorem visibleLines_text {t : Table} (hnames : ∀ k ∈ t.constants, Identifier.Speakable k.name)
    {c : Container} (hsegments : ∀ s ∈ c.segments, Identifier.Speakable s)
    (hname : Identifier.Speakable c.name) : VisibleLines (height t c) (text t c) := by
  have hmodules := visibleLines_moduleLines hnames hname hsegments 0
  rw [Nat.zero_add] at hmodules
  exact visibleLines_header.append hmodules

end BuildConst.Source
