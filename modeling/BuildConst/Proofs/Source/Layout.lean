import BuildConst.Proofs.Listing.Grammar
import BuildConst.Proofs.Source.Height

/-!
# What artifacts in source form say

The layout of an artifact is taken apart line by line.  Indentation, comments and attributes say
nothing; what is left are the tokens by which the constants of the table are declared in their
container, with a comma behind the last item of a list exactly if the list takes several lines.

## Main definitions

* `Source.Shows` — what a text says besides attributes.

## Main results

* `Source.shows_moduleLines` — the tokens of an artifact.
* `Source.read?_text` — an artifact is read as the table that it was written for.
-/

set_option relaxedAutoImplicit false
set_option autoImplicit false

namespace BuildConst.Source

open Lexer Listing

/-- What a text says besides attributes. -/
def Shows (s : String) (ts : List Token) : Prop :=
  ∃ raw, Reads s.toList raw ∧ Erases raw ts

/-- Texts may follow one another. -/
theorem Shows.append {s s' : String} {ts ts' : List Token} (h : Shows s ts) (h' : Shows s' ts') :
    Shows (s ++ s') (ts ++ ts') := by
  obtain ⟨raw, hreads, herases⟩ := h
  obtain ⟨raw', hreads', herases'⟩ := h'
  exact ⟨raw ++ raw', String.toList_append ▸ hreads.append hreads', herases.append herases'⟩

/-! ## Lines -/

/-- Indentation says nothing. -/
theorem reads_indentation (depth : Nat) : Reads (List.replicate depth ' ') [] := by
  induction depth with
  | zero => exact Reads.nil
  | succ depth ih =>
    have hspace : Reads [' '] [] := rfl
    exact hspace.append ih

/-- A line says what its text says when it ends. -/
theorem reads_line (depth : Nat) {text : String} {ts : List Token}
    (h : Reads (text.toList ++ ['\n']) ts) : Reads (line depth text).toList ts := by
  have hline : (line depth text).toList =
      List.replicate depth ' ' ++ (text.toList ++ ['\n']) := by
    simp [line]
  rw [hline]
  exact (reads_indentation depth).append h

/-- A line of complete tokens says what its text says. -/
theorem reads_line_of_reads (depth : Nat) {text : String} {ts : List Token}
    (h : Reads text.toList ts) : Reads (line depth text).toList ts := by
  refine reads_line depth ?_
  have hend : Reads ['\n'] [] := rfl
  simpa using h.append hend

/-- A text without attributes says all of its tokens. -/
theorem shows_of_reads {s : String} {ts : List Token} (h : Reads s.toList ts)
    (hmark : .sign '#' ∉ ts) : Shows s ts :=
  ⟨ts, h, erases_self hmark⟩

/-! ## Lines with names -/

/-- The token of a name is no sign. -/
theorem ofName_ne_sign (name : String) (c : Char) : Token.ofName name ≠ .sign c := by
  unfold Token.ofName
  split <;> nofun

/-- A name with something before it and a blank behind it. -/
theorem reads_named {before behind : String} {cs : List Char} {ts us : List Token} {name : String}
    (hbefore : Reads before.toList ts) (hname : Identifier.Speakable name)
    (hblank : behind.toList = ' ' :: cs) (hbehind : Reads cs us) :
    Reads (before ++ spell name ++ behind).toList (ts ++ (Token.ofName name :: us)) := by
  have hspell : Reads ((spell name).toList ++ [' ']) [Token.ofName name] :=
    reads_spell (Identifier.speakable_iff.1 hname).1 rfl rfl
  simpa [hblank] using hbefore.append (hspell.append hbehind)

/-! ## Constants -/

/-- What precedes the value of a constant. -/
theorem reads_constantHead {c : Constant} (h : Identifier.Speakable c.name) :
    Reads (constantHead c).toList ([Token.word "pub", .word "const"] ++
      ([Token.ofName c.name, .sign ':'] ++ (typeTokens c.value.kind ++ [Token.sign '=']))) := by
  have hopen : Reads "pub const ".toList [Token.word "pub", .word "const"] := rfl
  have hspell : Reads ((spell c.name).toList ++ [':']) [Token.ofName c.name, .sign ':'] :=
    reads_spell (Identifier.speakable_iff.1 h).1 rfl rfl
  have htype (k : Kind) : Reads (' ' :: k.accessorType.toList ++ " = ".toList)
      (typeTokens k ++ [Token.sign '=']) := by
    cases k <;> rfl
  simpa [constantHead] using hopen.append (hspell.append (htype c.value.kind))

/-- The literals of a list on lines of their own. -/
theorem reads_itemLines (depth : Nat) (items : List String) :
    Reads (itemLines depth "," (items.map stringLiteral)).toList
      (itemTokens [Token.sign ','] items) := by
  have hcomma : Reads ",".toList [Token.sign ','] := rfl
  have hline (item : String) : Reads (line depth (stringLiteral item ++ ",")).toList
      [Token.text item, .sign ','] :=
    reads_line_of_reads depth ((reads_stringLiteral item).append_toList hcomma)
  induction items with
  | nil => exact Reads.nil
  | cons item more ih =>
    cases more with
    | nil => exact hline item
    | cons next more =>
      rw [List.map_cons, List.map_cons, itemLines, ← List.map_cons]
      · exact (hline item).append_toList ih
      · exact fun h => List.cons_ne_nil _ _ h

/-- A value on one line, at the end of a declaration. -/
theorem reads_literal (v : Value) :
    Reads (literal v ++ ";").toList (v.tokens [] ++ [Token.sign ';']) := by
  have hend : Reads ";".toList [Token.sign ';'] := rfl
  cases v with
  | string text => exact (reads_stringLiteral text).append_toList hend
  | bool truth => cases truth <;> rfl
  | int number =>
    rw [String.toList_append]
    exact reads_int number.toInt
  | stringArray items =>
    have hopen : Reads "&[".toList [Token.sign '&', .sign '['] := rfl
    have hclose : Reads "]".toList [Token.sign ']'] := rfl
    rw [literal]
    have hitems := reads_intercalate reads_stringLiteral items
    exact ((hopen.append_toList hitems).append_toList hclose).append_toList hend

/-- A constant whose value is on the line of its name. -/
theorem reads_constantLine {c : Constant} (h : Identifier.Speakable c.name) (depth : Nat) :
    Reads (line depth (constantHead c ++ literal c.value ++ ";")).toList (c.tokens []) := by
  have hwhole := (reads_constantHead h).append_toList (reads_literal c.value)
  rw [← String.append_assoc] at hwhole
  simpa [Constant.tokens] using reads_line_of_reads depth hwhole

/-- A constant whose value takes several lines. -/
theorem reads_spread {c : Constant} (h : Identifier.Speakable c.name) {items : List String}
    (hvalue : c.value = .stringArray items) (depth : Nat) :
    Reads (line depth (constantHead c ++ "&[") ++
        itemLines (depth + step) "," (items.map stringLiteral) ++ line depth "];").toList
      (c.tokens [Token.sign ',']) := by
  have hopen : Reads "&[".toList [Token.sign '&', .sign '['] := rfl
  have hclose : Reads "];".toList [Token.sign ']', .sign ';'] := rfl
  have hhead := (reads_constantHead h).append_toList hopen
  have hlines := ((reads_line_of_reads depth hhead).append_toList
    (reads_itemLines (depth + step) items)).append_toList (reads_line_of_reads depth hclose)
  simpa only [Constant.tokens, hvalue, Value.tokens, List.append_assoc, List.cons_append,
    List.nil_append] using hlines

/-- The lines of a constant: its value stands on the line of its name, or it is a list whose items
stand on lines of their own. -/
theorem constantLines_eq (depth : Nat) (c : Constant) :
    constantLines depth c = line depth (constantHead c ++ literal c.value ++ ";") ∨
      ∃ items, c.value = .stringArray items ∧ constantLines depth c =
        line depth (constantHead c ++ "&[") ++
          itemLines (depth + step) "," (items.map stringLiteral) ++ line depth "];" := by
  unfold constantLines
  split
  next items hvalue =>
    rw [listLines]
    split
    · rw [hvalue, ← bracketed_eq]
      exact .inl rfl
    · exact .inr ⟨items, hvalue, rfl⟩
  next => exact .inl rfl

/-- **Constants**: the lines of a constant say its name, kind and value, with a comma behind the
last item of a list if the list takes several lines. -/
theorem reads_constantLines (depth : Nat) (c : Constant) :
    ∃ last, IsEnd last ∧
      (Identifier.Speakable c.name → Reads (constantLines depth c).toList (c.tokens last)) := by
  rcases constantLines_eq depth c with hlines | ⟨items, hvalue, hlines⟩
  · rw [hlines]
    exact ⟨[], .inl rfl, fun h => reads_constantLine h depth⟩
  · rw [hlines]
    exact ⟨[Token.sign ','], .inr rfl, fun h => reads_spread h hvalue depth⟩

/-- The items of a list hold no attribute. -/
theorem mark_notMem_itemTokens {last : List Token} (h : IsEnd last) (items : List String) :
    Token.sign '#' ∉ itemTokens last items := by
  induction items with
  | nil => exact List.not_mem_nil
  | cons item more ih =>
    cases more with
    | nil => rcases h with rfl | rfl <;> simp [itemTokens]
    | cons => simpa [itemTokens] using ih

/-- The tokens of a constant hold no attribute. -/
theorem mark_notMem_tokens {last : List Token} (h : IsEnd last) (c : Constant) :
    Token.sign '#' ∉ c.tokens last := by
  have hname := (ofName_ne_sign c.name '#').symm
  have htype (k : Kind) : .sign '#' ∉ typeTokens k := by cases k <;> decide
  have hvalue (v : Value) : .sign '#' ∉ v.tokens last := by
    cases v with
    | string text => simp [Value.tokens]
    | bool truth => simp [Value.tokens]
    | int number =>
      simp only [Value.tokens, Token.ofInt]
      split <;> simp
    | stringArray items => simp [Value.tokens, mark_notMem_itemTokens h]
  simp [Constant.tokens, hname, htype, hvalue]

/-- The lines of constants say what each of them says. -/
theorem shows_constants {depth : Nat} {last : Constant → List Token}
    (h : ∀ c, IsEnd (last c) ∧ (Identifier.Speakable c.name →
      Reads (constantLines depth c).toList (c.tokens (last c))))
    {cs : List Constant} (hnames : ∀ c ∈ cs, Identifier.Speakable c.name) :
    Shows (String.join (cs.map (constantLines depth))) (cs.flatMap fun c => c.tokens (last c)) := by
  induction cs with
  | nil => exact shows_of_reads Reads.nil List.not_mem_nil
  | cons c cs ih =>
    have hread := (h c).2 (hnames c List.mem_cons_self)
    have hhead := shows_of_reads hread (mark_notMem_tokens (h c).1 c)
    have htail := ih fun c hc => hnames c (List.mem_cons_of_mem _ hc)
    rw [List.map_cons, String.join_cons, List.flatMap_cons]
    exact hhead.append htail

/-! ## Containers -/

/-- An attribute says nothing. -/
theorem shows_attribute {s : String} {inner : List Token}
    (h : Reads s.toList ([Token.sign '#', .sign '['] ++ inner ++ [Token.sign ']']))
    (hopen : .sign '[' ∉ inner) (hclose : .sign ']' ∉ inner) : Shows s [] :=
  ⟨_, h, erases_attribute hopen hclose⟩

/-- The line of a name that opens a declaration. -/
theorem shows_named {before behind : String} {cs : List Char} {ts us : List Token} {name : String}
    (depth : Nat) (hbefore : Reads before.toList ts) (hname : Identifier.Speakable name)
    (hblank : behind.toList = ' ' :: cs) (hbehind : Reads cs us)
    (hts : .sign '#' ∉ ts) (hus : .sign '#' ∉ us) :
    Shows (line depth (before ++ spell name ++ behind)) (ts ++ (Token.ofName name :: us)) := by
  have hreads := reads_named hbefore hname hblank hbehind
  have hne := (ofName_ne_sign name '#').symm
  exact shows_of_reads (reads_line_of_reads depth hreads) (by simp [hts, hus, hne])

/-- The comment in front of a type says nothing. -/
theorem shows_comment (depth : Nat) :
    Shows (line depth s!"/// Build-time constants generated by {programName}.") [] := by
  refine shows_of_reads (reads_line depth ?_) List.not_mem_nil
  decide

/-- What the attribute in front of constants holds. -/
def constantsAttribute : List Token :=
  [.word "allow", .sign '(', .word "non_upper_case_globals", .sign ',', .word "clippy", .sign ':',
    .sign ':', .word "redundant_static_lifetimes", .sign ')']

/-- The attribute in front of constants, on one line or on several. -/
theorem reads_constantsAttribute (depth : Nat) :
    Reads (listLines depth "#[allow("
      ["non_upper_case_globals", "clippy::redundant_static_lifetimes"] "" ")]").toList
      ([Token.sign '#', .sign '['] ++ constantsAttribute ++ [Token.sign ']']) := by
  have hopen : Reads "#[allow(".toList [Token.sign '#', .sign '[', .word "allow", .sign '('] := rfl
  rw [listLines]
  split
  · have hfirst : Reads ("non_upper_case_globals" ++ ", ").toList
        [Token.word "non_upper_case_globals", .sign ','] := rfl
    have hlast : Reads ("clippy::redundant_static_lifetimes" ++ ")]").toList
        [Token.word "clippy", .sign ':', .sign ':', .word "redundant_static_lifetimes", .sign ')',
          Token.sign ']'] := rfl
    have hwhole := hopen.append_toList (hfirst.append_toList hlast)
    refine reads_line_of_reads depth ?_
    simp only [String.append_assoc] at hwhole
    simp only [String.intercalate_cons_cons, String.intercalate_singleton, String.append_assoc]
    exact hwhole
  · have hfirst : Reads ("non_upper_case_globals" ++ ",").toList
        [Token.word "non_upper_case_globals", .sign ','] := rfl
    have hlast : Reads (("clippy::redundant_static_lifetimes" ++ "").toList ++ ['\n'])
        [Token.word "clippy", .sign ':', .sign ':', .word "redundant_static_lifetimes"] := rfl
    have hclose : Reads ")]".toList [Token.sign ')', .sign ']'] := rfl
    simp only [itemLines]
    exact ((reads_line_of_reads depth hopen).append_toList
      ((reads_line_of_reads _ hfirst).append_toList (reads_line _ hlast))).append_toList
      (reads_line_of_reads depth hclose)

/-- The attribute in front of constants says nothing. -/
theorem shows_constantsAttribute (depth : Nat) :
    Shows (listLines depth "#[allow("
      ["non_upper_case_globals", "clippy::redundant_static_lifetimes"] "" ")]") [] :=
  shows_attribute (reads_constantsAttribute depth) (by decide) (by decide)

/-- The closing brace of a declaration. -/
theorem shows_brace (depth : Nat) : Shows (line depth "\x7d") [Token.sign '}'] :=
  shows_of_reads (reads_line_of_reads depth rfl) (by decide)

/-- The constants of a type, inside its braces. -/
theorem shows_constantsOf (depth : Nat) {last : Constant → List Token}
    (h : ∀ c, IsEnd (last c) ∧ (Identifier.Speakable c.name →
      Reads (constantLines (depth + step) c).toList (c.tokens (last c))))
    {t : Table} (hnames : ∀ c ∈ t.constants, Identifier.Speakable c.name) {name : String}
    (hname : Identifier.Speakable name) :
    Shows (if t.constants.isEmpty then line depth ("impl " ++ spell name ++ " \x7b\x7d")
        else line depth ("impl " ++ spell name ++ " \x7b") ++
          String.join (t.constants.map (constantLines (depth + step))) ++ line depth "\x7d")
      ([Token.word "impl"] ++ ([Token.ofName name, .sign '{'] ++
        (t.constants.flatMap (fun c => c.tokens (last c)) ++ [Token.sign '}']))) := by
  have himpl : Reads "impl ".toList [Token.word "impl"] := rfl
  split
  -- Without constants both braces stand on one line, but the tokens are the same.
  next hempty =>
    have hbraces : Reads ['{', '}'] [Token.sign '{', .sign '}'] := rfl
    have hline : Shows (line depth ("impl " ++ spell name ++ " \x7b\x7d"))
        ([Token.word "impl"] ++ [Token.ofName name, .sign '{', .sign '}']) :=
      shows_named depth himpl hname rfl hbraces (by decide) (by decide)
    rw [List.isEmpty_iff.1 hempty]
    exact hline
  next =>
    have hbrace : Reads ['{'] [Token.sign '{'] := rfl
    have hline : Shows (line depth ("impl " ++ spell name ++ " \x7b"))
        ([Token.word "impl"] ++ [Token.ofName name, .sign '{']) :=
      shows_named depth himpl hname rfl hbrace (by decide) (by decide)
    simpa only [List.append_assoc, List.cons_append, List.nil_append] using
      (hline.append (shows_constants h hnames)).append (shows_brace depth)

/-- **Types**: the lines of a type say its name and its constants. -/
theorem shows_containerLines (depth : Nat) {t : Table}
    (hnames : ∀ c ∈ t.constants, Identifier.Speakable c.name) {name : String}
    (hname : Identifier.Speakable name) :
    ∃ last : Constant → List Token, (∀ c, IsEnd (last c)) ∧
      Shows (containerLines depth t name) (typeDefTokens last t.constants name) := by
  choose last hlast using reads_constantLines (depth + step)
  refine ⟨last, fun c => (hlast c).1, ?_⟩
  have hallow : Reads "#[allow(non_camel_case_types)]".toList ([Token.sign '#', .sign '['] ++
      [Token.word "allow", .sign '(', .word "non_camel_case_types", .sign ')'] ++
      [Token.sign ']']) := rfl
  have hattribute : Shows (line depth "#[allow(non_camel_case_types)]") [] :=
    shows_attribute (reads_line_of_reads depth hallow) (by decide) (by decide)
  have henum : Reads "pub enum ".toList [Token.word "pub", .word "enum"] := rfl
  have hbraces : Reads ['{', '}'] [Token.sign '{', .sign '}'] := rfl
  have hline : Shows (line depth ("pub enum " ++ spell name ++ " \x7b\x7d"))
      ([Token.word "pub", .word "enum"] ++ [Token.ofName name, .sign '{', .sign '}']) :=
    shows_named depth henum hname rfl hbraces (by decide) (by decide)
  exact ((((shows_comment depth).append hattribute).append hline).append
    (shows_constantsAttribute depth)).append (shows_constantsOf depth hlast hnames hname)

/-- **Modules**: the lines of a type inside modules say the names of the modules, and what the type
says. -/
theorem shows_moduleLines {t : Table} (hnames : ∀ c ∈ t.constants, Identifier.Speakable c.name)
    {name : String} (hname : Identifier.Speakable name) {segments : List String}
    (hsegments : ∀ s ∈ segments, Identifier.Speakable s) (depth : Nat) :
    ∃ last : Constant → List Token, (∀ c, IsEnd (last c)) ∧
      Shows (moduleLines t name depth segments) (moduleTokens last t.constants name segments) := by
  induction segments generalizing depth with
  | nil => exact shows_containerLines depth hnames hname
  | cons segment inner ih =>
    obtain ⟨last, hlast, hinner⟩ := ih (fun s hs => hsegments s (List.mem_cons_of_mem _ hs))
      (depth + step)
    refine ⟨last, hlast, ?_⟩
    have hallow : Reads "#[allow(non_snake_case)]".toList ([Token.sign '#', .sign '['] ++
        [Token.word "allow", .sign '(', .word "non_snake_case", .sign ')'] ++
        [Token.sign ']']) := rfl
    have hattribute : Shows (line depth "#[allow(non_snake_case)]") [] :=
      shows_attribute (reads_line_of_reads depth hallow) (by decide) (by decide)
    have hmod : Reads "pub mod ".toList [Token.word "pub", .word "mod"] := rfl
    have hbrace : Reads ['{'] [Token.sign '{'] := rfl
    have hline : Shows (line depth ("pub mod " ++ spell segment ++ " \x7b"))
        ([Token.word "pub", .word "mod"] ++ [Token.ofName segment, .sign '{']) :=
      shows_named depth hmod (hsegments segment List.mem_cons_self) rfl hbrace (by decide)
        (by decide)
    exact ((hattribute.append hline).append hinner).append (shows_brace depth)

/-! ## Whole artifacts -/

/-- The first lines of an artifact say nothing. -/
theorem shows_header : Shows header [] := by
  refine shows_of_reads ?_ List.not_mem_nil
  decide

/-- **Artifacts**: the text of a table is read as the modules and the type of its container, and the
names, kinds and values of its constants in table order.

**Proof sketch.** What the lines of the artifact say besides attributes are the tokens of the
declaration of the table, and these are read as what they declare wherever a comma stands behind the
last item of a list. -/
theorem read?_text {t : Table} (hnames : ∀ c ∈ t.constants, Identifier.Speakable c.name)
    {c : Container} (hsegments : ∀ s ∈ c.segments, Identifier.Speakable s)
    (hname : Identifier.Speakable c.name) :
    read? (text t c) = some (of c t.constants) := by
  obtain ⟨last, hlast, hlines⟩ := shows_moduleLines hnames hname hsegments 0
  obtain ⟨raw, hreads, herases⟩ := shows_header.append hlines
  have htokens : tokens? (text t c) = some raw := tokens?_of_reads hreads
  have hdeclared := enclosed?_moduleTokens hlast hnames hname hsegments []
  rw [List.append_nil] at hdeclared
  simp [read?, htokens, herases.eq, hdeclared]

-- The reader does not depend on this layout: without any, and with a comma in a list of one item,
-- a declaration is read just as well.
example : read? ("pub mod r#mod\x7bpub enum C\x7b\x7dimpl C\x7b" ++
      "pub const A:&'static[&'static str]=&[\"a\",];\x7d\x7d") =
    some ⟨["mod"], "C", [⟨"A", .stringArray, .stringArray ["a"]⟩]⟩ := by
  decide +kernel

end BuildConst.Source
