import BuildConst.Proofs.Listing
import BuildConst.Proofs.Naming
import BuildConst.Proofs.Token.Literals

/-!
# Declarations as tokens

The tokens by which a table in a container is declared, and what the reader of source text makes of
them.  Whether a comma stands behind the last item of a list is left open.

## Main definitions

* `Constant.tokens`, `Listing.moduleTokens` — the tokens of a constant, and of constants in their
  container.
* `Listing.Erases` — some tokens are others with attributes between them.

## Main results

* `Listing.enclosed?_moduleTokens` — the declaration of a table is read as what it declares.
-/

set_option relaxedAutoImplicit false
set_option autoImplicit false

namespace BuildConst

/-! ## Tokens -/

namespace Listing

/-- What may stand behind the last item of a list: a comma, or nothing. -/
def IsEnd (last : List Token) : Prop :=
  last = [] ∨ last = [Token.sign ',']

/-- The items of a list, with `last` behind the last one. -/
def itemTokens (last : List Token) : List String → List Token
  | [] => []
  | [item] => .text item :: last
  | item :: more => .text item :: Token.sign ',' :: itemTokens last more

end Listing

/-- The tokens of a value, where `last` stands behind the last item of a list. -/
def Value.tokens (last : List Token) : Value → List Token
  | .string text => [Token.text text]
  | .bool truth => [Token.word (if truth then "true" else "false")]
  | .int number => Token.ofInt number.toInt
  | .stringArray items =>
    [Token.sign '&', .sign '['] ++ Listing.itemTokens last items ++ [Token.sign ']']

/-- The tokens of a constant, where `last` stands behind the last item of a list. -/
def Constant.tokens (last : List Token) (c : Constant) : List Token :=
  [Token.word "pub", .word "const"] ++ ([Token.ofName c.name, .sign ':'] ++
    (Listing.typeTokens c.value.kind ++
      ([Token.sign '='] ++ (c.value.tokens last ++ [Token.sign ';']))))

/-- The tokens of a type and its constants, where `last` gives what stands behind the last item of
the list of a constant. -/
def Listing.typeDefTokens (last : Constant → List Token) (cs : List Constant) (name : String) :
    List Token :=
  [Token.word "pub", .word "enum"] ++
    ([Token.ofName name, .sign '{', .sign '}', .word "impl"] ++
      ([Token.ofName name, .sign '{'] ++
        (cs.flatMap (fun c => c.tokens (last c)) ++ [Token.sign '}'])))

/-- The tokens of a type and its constants inside modules. -/
def Listing.moduleTokens (last : Constant → List Token) (cs : List Constant) (name : String) :
    List String → List Token
  | [] => typeDefTokens last cs name
  | segment :: inner =>
    Token.word "pub" :: Token.word "mod" :: Token.ofName segment :: Token.sign '{' ::
      (moduleTokens last cs name inner ++ [Token.sign '}'])

namespace Listing

/-! ## Attributes -/

/-- Some tokens are others with attributes between them. -/
def Erases (raw ts : List Token) : Prop :=
  ∀ rest, withoutAttributes none (raw ++ rest) = (withoutAttributes none rest).map (ts ++ ·)

/-- Tokens with attributes between them may follow one another. -/
theorem Erases.append {raw raw' ts ts' : List Token} (h : Erases raw ts) (h' : Erases raw' ts') :
    Erases (raw ++ raw') (ts ++ ts') := by
  intro rest
  rw [List.append_assoc, h, h', Option.map_map]
  simp only [Function.comp_def, List.append_assoc]

/-- Tokens without a number sign are no part of attributes. -/
theorem erases_self {ts : List Token} (h : .sign '#' ∉ ts) : Erases ts ts := by
  intro rest
  induction ts with
  | nil => simp
  | cons t ts ih =>
    rw [List.mem_cons, not_or] at h
    rw [List.cons_append, withoutAttributes]
    simp only [if_neg (Ne.symm h.1), ih h.2, Option.map_map, Function.comp_def, List.cons_append]

/-- An attribute that holds no brackets lasts until its closing bracket. -/
theorem withoutAttributes_inner {inner : List Token} (hopen : .sign '[' ∉ inner)
    (hclose : .sign ']' ∉ inner) (rest : List Token) :
    withoutAttributes (some 1) (inner ++ .sign ']' :: rest) = withoutAttributes none rest := by
  induction inner with
  | nil => simp [withoutAttributes]
  | cons t inner ih =>
    rw [List.mem_cons, not_or] at hopen hclose
    rw [List.cons_append, withoutAttributes]
    simp only [if_neg (Ne.symm hopen.1), if_neg (Ne.symm hclose.1), Nat.one_ne_zero, if_false]
    exact ih hopen.2 hclose.2

/-- Nothing is left of an attribute. -/
theorem erases_attribute {inner : List Token} (hopen : .sign '[' ∉ inner)
    (hclose : .sign ']' ∉ inner) :
    Erases ([Token.sign '#', .sign '['] ++ inner ++ [Token.sign ']']) [] := by
  intro rest
  have hinner := withoutAttributes_inner hopen hclose rest
  simp [withoutAttributes, hinner]

/-- All tokens are left of a text without attributes. -/
theorem Erases.eq {raw ts : List Token} (h : Erases raw ts) :
    withoutAttributes none raw = some ts := by
  simpa [withoutAttributes] using h []

/-! ## Names -/

/-- Nothing is expected any more. -/
@[simp]
theorem skip_nil (ts : List Token) : skip [] ts = some ts :=
  rfl

/-- An expected token is skipped. -/
@[simp]
theorem skip_cons_cons (t : Token) (expected rest : List Token) :
    skip (t :: expected) (t :: rest) = skip expected rest := by
  rw [skip, if_pos rfl]

/-- The name of a token is the one that the token was made for. -/
theorem nameOf?_ofName {name : String} (h : Identifier.Speakable name) :
    nameOf? (Token.ofName name) = some name := by
  have hreserved := (Identifier.speakable_iff.1 h).2
  unfold Token.ofName
  split
  next =>
    have hnever : ∀ word ∈ neverNames, word ∈ Identifier.reservedNames := by decide
    rw [nameOf?, if_neg fun hmem => hreserved (hnever name hmem)]
  next hraw =>
    have hkeywords : ∀ word ∈ keywords, word ∉ Identifier.reservedNames →
        Identifier.needsRaw word := by
      decide
    rw [nameOf?, if_neg fun hmem => hraw (hkeywords name hmem hreserved)]

/-- A name is read back. -/
theorem name?_ofName {name : String} (h : Identifier.Speakable name) (rest : List Token) :
    name? (Token.ofName name :: rest) = some (name, rest) := by
  rw [name?, nameOf?_ofName h, Option.map_some]

/-! ## Values -/

/-- A type is read back. -/
theorem type?_typeTokens (k : Kind) (rest : List Token) :
    type? (typeTokens k ++ rest) = some (k, rest) := by
  cases k <;> simp [type?, typeTokens, skip, Kind.all]

/-- The items of a list are read back. -/
theorem items_itemTokens {last : List Token} (h : IsEnd last) (strings : List String)
    (rest : List Token) :
    items (itemTokens last strings ++ .sign ']' :: rest) = (strings, .sign ']' :: rest) := by
  induction strings with
  | nil => rfl
  | cons s more ih =>
    cases more with
    | nil => rcases h with rfl | rfl <;> simp [itemTokens, items]
    | cons => simp only [itemTokens, List.cons_append, items, if_true, ih]

/-- An integer is read back. -/
theorem value?_ofInt (n : Int32) (rest : List Token) :
    value? (Token.ofInt n.toInt ++ rest) = some (.int n, rest) := by
  have hlower := n.le_toInt
  have hupper := n.toInt_lt
  unfold Token.ofInt
  split
  next hnonneg =>
    have hback : ((n.toInt.toNat : Nat) : Int) = n.toInt := Int.toNat_of_nonneg hnonneg
    simp only [List.singleton_append, value?, hback, Int32.ofInt_toInt]
    rw [if_pos (by omega)]
  next hneg =>
    have hback : -(((-n.toInt).toNat : Nat) : Int) = n.toInt := by omega
    simp only [List.cons_append, List.nil_append, value?, hback, Int32.ofInt_toInt]
    rw [if_pos ⟨trivial, by omega⟩]

/-- Texts are read with commas between them if each of them is read alone. -/
theorem reads_intercalate {write : String → String}
    (h : ∀ s, Lexer.Reads (write s).toList [.text s]) (strings : List String) :
    Lexer.Reads (", ".intercalate (strings.map write)).toList (itemTokens [] strings) := by
  induction strings with
  | nil => exact Lexer.Reads.nil
  | cons s more ih =>
    cases more with
    | nil => simpa [itemTokens] using h s
    | cons next more =>
      have hcomma : Lexer.Reads ", ".toList [Token.sign ','] := rfl
      rw [List.map_cons, List.map_cons, String.intercalate_cons_cons, ← List.map_cons]
      exact ((h s).append_toList hcomma).append_toList ih

/-- A value is read back. -/
theorem value?_tokens {last : List Token} (h : IsEnd last) (v : Value) (rest : List Token) :
    value? (v.tokens last ++ rest) = some (v, rest) := by
  cases v with
  | string text => rfl
  | bool truth => cases truth <;> simp [Value.tokens, value?]
  | int number => exact value?_ofInt number rest
  | stringArray strings =>
    simp [Value.tokens, value?, items_itemTokens h]

/-! ## Declarations -/

/-- A constant is read back. -/
theorem constant?_tokens {last : List Token} (h : IsEnd last) {c : Constant}
    (hname : Identifier.Speakable c.name) (rest : List Token) :
    constant? (c.tokens last ++ rest) = some (c.entry, rest) := by
  simp [constant?, Constant.tokens, Constant.entry, name?_ofName hname, type?_typeTokens,
    value?_tokens h]

/-- A constant takes up tokens. -/
theorem length_tokens_pos (last : List Token) (c : Constant) : 0 < (c.tokens last).length := by
  simp [Constant.tokens]

/-- Constants are read back up to the closing brace. -/
theorem constants_tokens {last : Constant → List Token} (h : ∀ c, IsEnd (last c))
    {cs : List Constant} (hnames : ∀ c ∈ cs, Identifier.Speakable c.name) (rest : List Token) :
    constants (cs.flatMap (fun c => c.tokens (last c)) ++ .sign '}' :: rest) =
      (cs.map Constant.entry, .sign '}' :: rest) := by
  induction cs with
  | nil =>
    have hnone : constant? (Token.sign '}' :: rest) = none := rfl
    rw [List.flatMap_nil, List.nil_append, constants, hnone]
    rfl
  | cons c cs ih =>
    have hpos := length_tokens_pos (last c) c
    have hread := constant?_tokens (h c) (hnames c List.mem_cons_self)
      (cs.flatMap (fun c => c.tokens (last c)) ++ .sign '}' :: rest)
    rw [List.flatMap_cons, List.append_assoc, constants, hread]
    dsimp only
    -- The reader goes on, since a constant takes up tokens.
    rw [if_pos (by simp only [List.length_append]; omega),
      ih fun c hc => hnames c (List.mem_cons_of_mem _ hc), List.map_cons]

/-- A type with its constants is read back. -/
theorem container?_tokens {last : Constant → List Token} (h : ∀ c, IsEnd (last c))
    {cs : List Constant} (hnames : ∀ c ∈ cs, Identifier.Speakable c.name) {name : String}
    (hname : Identifier.Speakable name) (rest : List Token) :
    container? (typeDefTokens last cs name ++ rest) = some (of ⟨[], name⟩ cs, rest) := by
  simp [container?, typeDefTokens, of, name?_ofName hname, constants_tokens h hnames]

/-- A type begins with other tokens than a module. -/
theorem enclosed?_typeDefTokens (last : Constant → List Token) (cs : List Constant) (name : String)
    (rest : List Token) :
    enclosed? (typeDefTokens last cs name ++ rest) =
      container? (typeDefTokens last cs name ++ rest) := by
  simp [enclosed?, typeDefTokens]

/-- **Declarations are read back**: a type with its constants inside modules. -/
theorem enclosed?_moduleTokens {last : Constant → List Token} (h : ∀ c, IsEnd (last c))
    {cs : List Constant} (hnames : ∀ c ∈ cs, Identifier.Speakable c.name) {name : String}
    (hname : Identifier.Speakable name) {segments : List String}
    (hsegments : ∀ s ∈ segments, Identifier.Speakable s) (rest : List Token) :
    enclosed? (moduleTokens last cs name segments ++ rest) =
      some (of ⟨segments, name⟩ cs, rest) := by
  induction segments generalizing rest with
  | nil =>
    rw [moduleTokens, enclosed?_typeDefTokens]
    exact container?_tokens h hnames hname rest
  | cons segment inner ih =>
    have hsegment := nameOf?_ofName (hsegments segment List.mem_cons_self)
    have hinner := ih fun s hs => hsegments s (List.mem_cons_of_mem _ hs)
    simp [moduleTokens, enclosed?, of, hsegment, hinner]

end Listing

end BuildConst
