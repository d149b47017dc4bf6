import BuildConst.Compilation
import BuildConst.Files.Disk
import BuildConst.Proofs.Source.Layout

/-!
# What the types of accessors mean

A word that is written for a type means the builtin type of that name, unless a type or module of
the name is declared in the module where the word is written; what is declared in the modules around
that one has no say.  A reader of tokens finds out which names are declared in each module of a
source text and which words are written for types there.  It knows nothing of how artifacts are put
together, and refuses whatever could bring a name into a module in another way.

In an artifact, the innermost module declares the container and nothing else, and all accessors are
written there.  So their types mean the builtin ones exactly if none of them has the name of the
container.

## Main definitions

* `Scope`, `Scope.IsClear` — what a module declares and uses, and that nothing used is declared.
* `Scope.Reader`, `Scope.read?` — the modules of a source text.
* `Kind.typeNames` — the words of the type of an accessor.

## Main results

* `Scope.read?_text` — the modules of an artifact.
* `accessor_types_builtin_iff` — when the types of accessors mean the builtin ones.
-/

set_option relaxedAutoImplicit false
set_option autoImplicit false

namespace BuildConst

/-- What stands directly in a module: the names of the types and modules that are declared there,
and the words that are written for types. -/
structure Scope where
  items : List String := []
  types : List String := []
deriving DecidableEq, Repr

namespace Scope

/-- Every word that is written for a type means the builtin one: the module declares nothing of that
name. -/
def IsClear (s : Scope) : Prop :=
  ∀ word ∈ s.types, word ∉ s.items

instance (s : Scope) : Decidable s.IsClear :=
  inferInstanceAs (Decidable (∀ word ∈ s.types, word ∉ s.items))

/-! ## Reading modules -/

/-- What a reader expects: the beginning of an item or a part of an expression, the name of an item
that is declared, a name that declares no item, the brace that opens a module, or a type. -/
inductive Mode where
  | plain
  | naming (opens : Bool)
  | passing
  | opening
  | typing
deriving DecidableEq, Repr

/-- What a reader of modules has found: the innermost module that is open, with the number of other
braces that are open in it, the modules around that one, and the modules that are complete. -/
structure Reader where
  mode : Mode := .plain
  current : Scope := {}
  braces : Nat := 0
  outer : List (Scope × Nat) := []
  closed : List Scope := []
deriving DecidableEq, Repr

namespace Reader

/-- The reader behind a closing brace. -/
def leave (r : Reader) : Option Reader :=
  match r.braces, r.outer with
  | braces + 1, _ => some { r with braces }
  | 0, [] => none
  | 0, (current, braces) :: outer =>
    some { r with current, braces, outer, closed := r.current :: r.closed }

/-- The reader behind a word that begins an item or is a part of one. -/
def word (r : Reader) (w : String) : Option Reader :=
  if w = "mod" then some { r with mode := .naming true }
  else if w ∈ ["enum", "struct", "trait", "type", "union"] then
    some { r with mode := .naming false }
  else if w ∈ ["const", "impl", "static"] then some { r with mode := .passing }
  else if w ∈ ["false", "pub", "true"] then some r
  else none

/-- The reader behind a sign outside types. -/
def sign (r : Reader) (c : Char) : Option Reader :=
  if c = '{' then some { r with braces := r.braces + 1 }
  else if c = '}' then r.leave
  else if c = ':' then some { r with mode := .typing }
  else if c ∈ ['&', ',', '-', ';', '[', ']'] then some r
  else none

/-- The reader behind one more token. -/
def step (r : Reader) (t : Token) : Option Reader :=
  match r.mode with
  | .plain =>
    match t with
    | .word w => r.word w
    | .sign c => r.sign c
    | .number _ | .text _ => some r
    | _ => none
  | .naming opens =>
    (Listing.nameOf? t).map fun name =>
      { r with
        mode := if opens then .opening else .plain
        current := { r.current with items := r.current.items ++ [name] } }
  | .passing => (Listing.nameOf? t).map fun _ => { r with mode := .plain }
  | .opening =>
    if t = .sign '{' then
      some { r with
        mode := .plain, current := {}, braces := 0, outer := (r.current, r.braces) :: r.outer }
    else none
  | .typing =>
    match t with
    | .word w => some { r with current := { r.current with types := r.current.types ++ [w] } }
    | .lifetime _ => some r
    | .sign c =>
      if c = '=' then some { r with mode := .plain }
      else if c ∈ ['&', '[', ']'] then some r
      else none
    | _ => none

/-- The reader behind a list of tokens. -/
def run (r : Reader) (ts : List Token) : Option Reader :=
  ts.foldlM step r

/-- The modules that were found once nothing is open any more, the outermost one first. -/
def finish (r : Reader) : Option (List Scope) :=
  if r.mode = .plain ∧ r.braces = 0 ∧ r.outer = [] then some (r.current :: r.closed) else none

end Reader

/-- The modules of a source text, the text itself first. -/
def read? (s : String) : Option (List Scope) := do
  let ts ← Listing.withoutAttributes none (← tokens? s)
  let last ← Reader.run {} ts
  last.finish

end Scope

/-- The words of the type of an accessor: `str`, `bool` or `i32`. -/
def Kind.typeNames (k : Kind) : List String :=
  (Listing.typeTokens k).filterMap fun t =>
    match t with
    | .word w => some w
    | _ => none

namespace Scope.Reader

open Listing

/-! ## Reading part by part -/

variable {r r' r'' : Reader} {t : Token} {ts us : List Token}

/-- Tokens are read part by part. -/
theorem run_append (h : r.run ts = some r') (h' : r'.run us = some r'') :
    r.run (ts ++ us) = some r'' := by
  rw [run, List.foldlM_append]
  show (r.run ts).bind (fun between => between.run us) = some r''
  rw [h]
  exact h'

/-- Tokens are read one by one. -/
theorem run_cons (h : r.step t = some r') (h' : r'.run ts = some r'') :
    r.run (t :: ts) = some r'' := by
  rw [run, List.foldlM_cons, h]
  exact h'

variable (s : Scope) (braces : Nat) (outer : List (Scope × Nat)) (closed : List Scope)

/-- A token that neither declares nor uses anything. -/
def IsQuiet (t : Token) : Prop :=
  ∀ s braces outer closed, step ⟨.plain, s, braces, outer, closed⟩ t =
    some ⟨.plain, s, braces, outer, closed⟩

/-- Tokens that neither declare nor use anything are passed over. -/
theorem run_of_isQuiet (h : ∀ t ∈ ts, IsQuiet t) :
    run ⟨.plain, s, braces, outer, closed⟩ ts = some ⟨.plain, s, braces, outer, closed⟩ := by
  induction ts with
  | nil => rfl
  | cons t ts ih =>
    have hfirst := h t List.mem_cons_self s braces outer closed
    exact run_cons hfirst (ih fun u hu => h u (List.mem_cons_of_mem _ hu))

/-- A text neither declares nor uses anything. -/
theorem isQuiet_text (value : String) : IsQuiet (.text value) :=
  fun _ _ _ _ => rfl

/-- A number neither declares nor uses anything. -/
theorem isQuiet_number (value : Nat) : IsQuiet (.number value) :=
  fun _ _ _ _ => rfl

/-- The signs of values, and those between constants, neither declare nor use anything. -/
theorem isQuiet_sign {c : Char} (h : c ∈ ['&', ',', '-', ';', '[', ']']) : IsQuiet (.sign c) := by
  intro s braces outer closed
  simp only [List.mem_cons, List.not_mem_nil, or_false] at h
  rcases h with rfl | rfl | rfl | rfl | rfl | rfl <;> rfl

/-! ## Names -/

variable {name : String}

/-- The name of an item is declared in the module where it stands. -/
theorem step_naming (h : Identifier.Speakable name) (opens : Bool) :
    step ⟨.naming opens, s, braces, outer, closed⟩ (Token.ofName name) =
      some ⟨if opens then .opening else .plain, ⟨s.items ++ [name], s.types⟩, braces, outer,
        closed⟩ := by
  show (nameOf? (Token.ofName name)).map _ = _
  rw [nameOf?_ofName h]
  rfl

/-- The name of a constant is declared in its type, and that of its type was declared before. -/
theorem step_passing (h : Identifier.Speakable name) :
    step ⟨.passing, s, braces, outer, closed⟩ (Token.ofName name) =
      some ⟨.plain, s, braces, outer, closed⟩ := by
  show (nameOf? (Token.ofName name)).map _ = _
  rw [nameOf?_ofName h]
  rfl

/-! ## Constants -/

/-- The items of a list neither declare nor use anything. -/
theorem isQuiet_itemTokens {last : List Token} (h : IsEnd last) (strings : List String) :
    ∀ t ∈ itemTokens last strings, IsQuiet t := by
  have hcomma : IsQuiet (.sign ',') := isQuiet_sign (by decide)
  induction strings with
  | nil => exact nofun
  | cons item more ih =>
    cases more with
    | nil =>
      rcases h with rfl | rfl
      · exact List.forall_mem_singleton.2 (isQuiet_text item)
      · exact List.forall_mem_cons.2 ⟨isQuiet_text item, List.forall_mem_singleton.2 hcomma⟩
    | cons next more =>
      exact List.forall_mem_cons.2 ⟨isQuiet_text item, List.forall_mem_cons.2 ⟨hcomma, ih⟩⟩

/-- A value neither declares nor uses anything. -/
theorem isQuiet_tokens {last : List Token} (h : IsEnd last) (v : Value) :
    ∀ t ∈ v.tokens last, IsQuiet t := by
  cases v with
  | string text => exact List.forall_mem_singleton.2 (isQuiet_text text)
  | bool truth =>
    refine List.forall_mem_singleton.2 fun s braces outer closed => ?_
    cases truth <;> rfl
  | int number =>
    rw [Value.tokens, Token.ofInt]
    have hminus : IsQuiet (.sign '-') := isQuiet_sign (by decide)
    split
    · exact List.forall_mem_singleton.2 (isQuiet_number _)
    · exact List.forall_mem_cons.2 ⟨hminus, List.forall_mem_singleton.2 (isQuiet_number _)⟩
  | stringArray items =>
    have hopen : ∀ t ∈ [Token.sign '&', .sign '['], IsQuiet t :=
      List.forall_mem_cons.2
        ⟨isQuiet_sign (by decide), List.forall_mem_singleton.2 (isQuiet_sign (by decide))⟩
    have hclose : ∀ t ∈ [Token.sign ']'], IsQuiet t :=
      List.forall_mem_singleton.2 (isQuiet_sign (by decide))
    exact List.forall_mem_append.2
      ⟨List.forall_mem_append.2 ⟨hopen, isQuiet_itemTokens h items⟩, hclose⟩

/-- The type of an accessor uses the words that it is made of. -/
theorem run_typeTokens (k : Kind) :
    run ⟨.typing, s, braces, outer, closed⟩ (typeTokens k) =
      some ⟨.typing, ⟨s.items, s.types ++ k.typeNames⟩, braces, outer, closed⟩ := by
  cases k with
  | string => rfl
  | bool => rfl
  | int => rfl
  | stringArray => rfl

/-- A constant declares no item, and it uses the words of its type. -/
theorem run_constant {last : List Token} (h : IsEnd last) {c : Constant}
    (hname : Identifier.Speakable c.name) :
    run ⟨.plain, s, braces, outer, closed⟩ (c.tokens last) =
      some ⟨.plain, ⟨s.items, s.types ++ c.value.kind.typeNames⟩, braces, outer, closed⟩ := by
  have hconst : run ⟨.plain, s, braces, outer, closed⟩ [Token.word "pub", .word "const"] =
      some ⟨.passing, s, braces, outer, closed⟩ := rfl
  have hcolon : run ⟨.passing, s, braces, outer, closed⟩ [Token.ofName c.name, .sign ':'] =
      some ⟨.typing, s, braces, outer, closed⟩ :=
    run_cons (step_passing s braces outer closed hname) rfl
  have hvalue : ∀ t ∈ c.value.tokens last ++ [Token.sign ';'], IsQuiet t :=
    List.forall_mem_append.2
      ⟨isQuiet_tokens h c.value, List.forall_mem_singleton.2 (isQuiet_sign (by decide))⟩
  exact run_append hconst (run_append hcolon (run_append (run_typeTokens s braces outer closed _)
    (run_cons rfl (run_of_isQuiet _ braces outer closed hvalue))))

/-- Constants declare no item, and they use the words of their types. -/
theorem run_constants {last : Constant → List Token} (h : ∀ c, IsEnd (last c))
    {cs : List Constant} (hnames : ∀ c ∈ cs, Identifier.Speakable c.name) :
    run ⟨.plain, s, braces, outer, closed⟩ (cs.flatMap fun c => c.tokens (last c)) =
      some ⟨.plain, ⟨s.items, s.types ++ cs.flatMap fun c => c.value.kind.typeNames⟩, braces,
        outer, closed⟩ := by
  induction cs generalizing s with
  | nil => simp [run]
  | cons c cs ih =>
    have hfirst := run_constant s braces outer closed (h c) (hnames c List.mem_cons_self)
    have hrest := ih ⟨s.items, s.types ++ c.value.kind.typeNames⟩ fun d hd =>
      hnames d (List.mem_cons_of_mem _ hd)
    rw [List.append_assoc] at hrest
    rw [List.flatMap_cons, List.flatMap_cons]
    exact run_append hfirst hrest

/-! ## Modules -/

/-- A type with its constants is declared in the module where it stands, and the types of its
constants are used there. -/
theorem run_typeDefTokens {last : Constant → List Token} (h : ∀ c, IsEnd (last c))
    {cs : List Constant} (hnames : ∀ c ∈ cs, Identifier.Speakable c.name)
    (hname : Identifier.Speakable name) :
    run ⟨.plain, {}, 0, outer, closed⟩ (typeDefTokens last cs name) =
      some ⟨.plain, ⟨[name], cs.flatMap fun c => c.value.kind.typeNames⟩, 0, outer, closed⟩ := by
  have henum : run ⟨.plain, {}, 0, outer, closed⟩ [Token.word "pub", .word "enum"] =
      some ⟨.naming false, {}, 0, outer, closed⟩ := rfl
  have hbraces : run ⟨.naming false, {}, 0, outer, closed⟩
      [Token.ofName name, .sign '{', .sign '}', .word "impl"] =
        some ⟨.passing, ⟨[name], []⟩, 0, outer, closed⟩ :=
    run_cons (step_naming {} 0 outer closed hname false) rfl
  have howner : run ⟨.passing, ⟨[name], []⟩, 0, outer, closed⟩ [Token.ofName name, .sign '{'] =
      some ⟨.plain, ⟨[name], []⟩, 1, outer, closed⟩ :=
    run_cons (step_passing ⟨[name], []⟩ 0 outer closed hname) rfl
  have hconstants := run_constants ⟨[name], []⟩ 1 outer closed h hnames
  exact run_append henum (run_append hbraces (run_append howner (run_append hconstants rfl)))

end Scope.Reader

namespace Scope

/-- The modules of a type that stands inside modules, where words are used beside the type. -/
def around (name : String) (types : List String) : List String → List Scope
  | [] => [⟨[name], types⟩]
  | segment :: inner => ⟨[segment], []⟩ :: around name types inner

/-- **Modules**: each one declares the one inside it, and the innermost one declares the type and
uses the types of the constants.

**Proof sketch.** Induction on the modules.  What is inside a module is read into a scope of its own,
which is complete at the closing brace of the module. -/
theorem Reader.run_moduleTokens {last : Constant → List Token} (h : ∀ c, Listing.IsEnd (last c))
    {cs : List Constant} (hnames : ∀ c ∈ cs, Identifier.Speakable c.name) {name : String}
    (hname : Identifier.Speakable name) {segments : List String}
    (hsegments : ∀ s ∈ segments, Identifier.Speakable s) (outer : List (Scope × Nat))
    (closed : List Scope) :
    ∃ first others,
      around name (cs.flatMap fun c => c.value.kind.typeNames) segments = first :: others ∧
      run ⟨.plain, {}, 0, outer, closed⟩ (Listing.moduleTokens last cs name segments) =
        some ⟨.plain, first, 0, outer, others ++ closed⟩ := by
  induction segments generalizing outer closed with
  | nil => exact ⟨_, [], rfl, run_typeDefTokens outer closed h hnames hname⟩
  | cons segment inner ih =>
    obtain ⟨first, others, haround, hinner⟩ :=
      ih (fun s hs => hsegments s (List.mem_cons_of_mem _ hs)) ((⟨[segment], []⟩, 0) :: outer) closed
    have hnaming := step_naming {} 0 outer closed (hsegments segment List.mem_cons_self) true
    have hleave : run ⟨.plain, first, 0, (⟨[segment], []⟩, 0) :: outer, others ++ closed⟩
        [Token.sign '}'] =
          some ⟨.plain, ⟨[segment], []⟩, 0, outer, first :: (others ++ closed)⟩ := rfl
    refine ⟨⟨[segment], []⟩, first :: others, by rw [around, haround], ?_⟩
    exact run_cons rfl (run_cons rfl (run_cons hnaming (run_cons rfl (run_append hinner hleave))))

/-- **The modules of an artifact**: those of the namespaces, each of which declares the next one, and
the innermost one, which declares the container and uses the types of all accessors. -/
theorem read?_text {t : Table} (hnames : ∀ c ∈ t.constants, Identifier.Speakable c.name)
    {c : Container} (hsegments : ∀ s ∈ c.segments, Identifier.Speakable s)
    (hname : Identifier.Speakable c.name) :
    read? (Source.text t c) =
      some (around c.name (t.constants.flatMap fun k => k.value.kind.typeNames) c.segments) := by
  obtain ⟨last, hlast, hlines⟩ := Source.shows_moduleLines hnames hname hsegments 0
  obtain ⟨raw, hreads, herases⟩ := Source.shows_header.append hlines
  have htokens : tokens? (Source.text t c) = some raw := tokens?_of_reads hreads
  obtain ⟨first, others, haround, hrun⟩ :=
    Reader.run_moduleTokens hlast hnames hname hsegments [] []
  rw [List.nil_append] at herases
  rw [List.append_nil] at hrun
  simp [read?, htokens, herases.eq, hrun, haround, Reader.finish]

-- A module may have the name of a type that is used inside it.
example : read? ("pub mod bool\x7bpub enum C\x7b\x7dimpl C\x7b" ++
    "pub const A:bool=true;\x7d\x7d") = some [⟨["bool"], []⟩, ⟨["C"], ["bool"]⟩] := by
  decide +kernel

/-- All words that are written for types stand in the innermost module. -/
theorem flatMap_types_around (name : String) (types segments : List String) :
    (around name types segments).flatMap Scope.types = types := by
  induction segments with
  | nil => simp [around]
  | cons segment inner ih => simpa [around] using ih

/-- Only the name of the type can stand for another one than the builtin one. -/
theorem isClear_around_iff (name : String) (types segments : List String) :
    (∀ scope ∈ around name types segments, scope.IsClear) ↔ name ∉ types := by
  induction segments with
  | nil =>
    have hsingle : (⟨[name], types⟩ : Scope).IsClear ↔ name ∉ types := by
      constructor
      · intro hclear hname
        exact hclear name hname (List.mem_singleton.2 rfl)
      · intro hname word hword hitem
        exact hname (List.mem_singleton.1 hitem ▸ hword)
    rw [around, List.forall_mem_singleton, hsingle]
  | cons segment inner ih => simpa [around, IsClear] using ih

end Scope

/-! ## Main result -/

/-- **When the types of accessors mean the builtin ones.**  Every collected table is rendered into
every container that can be named, and all words of the types of its accessors are found in the
modules of the text.  They mean the builtin types exactly if the container is not named by one of
these words; the namespaces may have any names.

**Proof sketch.** The words are written in the innermost module, which declares the container and
nothing else (`Scope.read?_text`). -/
theorem accessor_types_builtin_iff (ds : List Declaration) {namespaceText name : String}
    {c : Container} (h : Container.parse namespaceText name = .ok c) :
    ∃ text scopes, Source.render (collect ds).table c = .ok text ∧
      Scope.read? text = some scopes ∧
      scopes.flatMap Scope.types =
        (collect ds).table.constants.flatMap (fun k => k.value.kind.typeNames) ∧
      ((∀ scope ∈ scopes, scope.IsClear) ↔
        ∀ k ∈ (collect ds).table.constants, name ∉ k.value.kind.typeNames) := by
  obtain ⟨hc, hsegments, hname⟩ := Container.speakable_of_parse h
  have hnames : ∀ k ∈ (collect ds).table.constants, Identifier.Speakable k.name :=
    speakable_of_mem_collect
  refine ⟨_, _, Source.render_of_speakable hnames c, Scope.read?_text hnames hsegments hname,
    Scope.flatMap_types_around _ _ _, ?_⟩
  rw [Scope.isClear_around_iff, hc]
  simp only [List.mem_flatMap, not_exists, not_and]

/-- A truth value and a list are declared with their builtin types in a container named for the type
of integers. -/
theorem accessor_types_builtin_iff_of_other_kinds :
    ∃ text scopes, Container.parse "bool::str" "i32" = .ok ⟨["bool", "str"], "i32"⟩ ∧
      Source.render (collect [⟨"DEBUG=true", some "Bool"⟩, ⟨"DIRS=a;b", some "array"⟩]).table
        ⟨["bool", "str"], "i32"⟩ = .ok text ∧
      Scope.read? text = some scopes ∧ scopes.flatMap Scope.types = ["bool", "str"] ∧
      ∀ scope ∈ scopes, scope.IsClear := by
  have hparse : Container.parse "bool::str" "i32" = .ok ⟨["bool", "str"], "i32"⟩ := by decide
  obtain ⟨text, scopes, htext, hread, htypes, hclear⟩ := accessor_types_builtin_iff
    [⟨"DEBUG=true", some "Bool"⟩, ⟨"DIRS=a;b", some "array"⟩] hparse
  refine ⟨text, scopes, hparse, htext, hread, ?_, hclear.2 ?_⟩
  · rw [htypes]
    decide
  · decide

/-- A container that is named for the type of truth values is accepted, and so is a run that writes a
truth value into it; but the type of the accessor means the container there. -/
theorem accessor_type_shadowed_by_bool :
    Container.parse "" "bool" = .ok ⟨[], "bool"⟩ ∧
    ((compile [⟨"DEBUG=true", some "Bool"⟩] ⟨"out.rs", "", "bool", .source⟩ :
      StateM Disk Outcome).run ⟨[], []⟩).1.status = .done "/out.rs" ∧
    (∃ text, Source.render (collect [⟨"DEBUG=true", some "Bool"⟩]).table ⟨[], "bool"⟩ = .ok text ∧
      Scope.read? text = some [⟨["bool"], ["bool"]⟩]) ∧
    ¬∀ (ds : List Declaration) (namespaceText name : String) (c : Container) (text : String)
      (scopes : List Scope), Container.parse namespaceText name = .ok c →
        Source.render (collect ds).table c = .ok text → Scope.read? text = some scopes →
          ∀ scope ∈ scopes, scope.IsClear := by
  have hparse : Container.parse "" "bool" = .ok ⟨[], "bool"⟩ := by decide
  have hdone : ((compile [⟨"DEBUG=true", some "Bool"⟩] ⟨"out.rs", "", "bool", .source⟩ :
      StateM Disk Outcome).run ⟨[], []⟩).1.status = .done "/out.rs" := by
    decide +kernel
  have hread : Scope.read? (Source.text (collect [⟨"DEBUG=true", some "Bool"⟩]).table
      ⟨[], "bool"⟩) = some [⟨["bool"], ["bool"]⟩] := by
    obtain ⟨-, hsegments, hname⟩ := Container.speakable_of_parse hparse
    rw [Scope.read?_text speakable_of_mem_collect hsegments hname]
    decide
  have hrender : Source.render (collect [⟨"DEBUG=true", some "Bool"⟩]).table ⟨[], "bool"⟩ =
      .ok (Source.text (collect [⟨"DEBUG=true", some "Bool"⟩]).table ⟨[], "bool"⟩) :=
    Source.render_of_speakable speakable_of_mem_collect _
  refine ⟨hparse, hdone, ⟨_, hrender, hread⟩, fun hall => ?_⟩
  have hclear := hall _ "" "bool" _ _ _ hparse hrender hread _ List.mem_cons_self
  exact absurd hclear (by decide)

end BuildConst
