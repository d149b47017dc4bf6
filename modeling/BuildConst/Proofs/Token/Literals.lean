import Mathlib.Algebra.Group.Nat.Defs
import BuildConst.Artifact.Source
import BuildConst.Proofs.Text.Hexadecimal
import BuildConst.Proofs.Token

/-!
# Reading names and literals

Names, numbers and texts are read from their written forms.  A name or a number lasts until a
character that cannot belong to it; a text lasts until its closing quote, and each of its characters
is read from the one escape that stands for it.

## Main definitions

* `Token.ofName` — the token of a name.
* `Token.ofInt` — the tokens of an integer.

## Main results

* `Lexer.reads_spell`, `Lexer.tokens?_spell` — names are read.
* `Lexer.reads_int` — integers are read.
* `Lexer.reads_stringLiteral` — texts are read.
-/

set_option relaxedAutoImplicit false
set_option autoImplicit false

namespace BuildConst

namespace Token

/-- The token of a name. -/
def ofName (name : String) : Token :=
  if Identifier.needsRaw name then .raw name else .word name

/-- The tokens of an integer. -/
def ofInt (n : Int) : List Token :=
  if 0 ≤ n then [Token.number n.toNat] else [Token.sign '-', .number (-n).toNat]

end Token

namespace Lexer

open Token

/-! ## Names -/

/-- A word goes on through characters that may go it on. -/
theorem run_word {cs : List Char} (h : cs.all continuesWord) (name : List Char) :
    (word name).run cs = some ([], word (cs.reverse ++ name)) := by
  induction cs generalizing name with
  | nil => rfl
  | cons c cs ih =>
    rw [List.all_cons, Bool.and_eq_true] at h
    have hstep : (word name).step c = some ([], word (c :: name)) := by simp [step, h.1]
    rw [run_cons_of_silent hstep, ih h.2, List.reverse_cons, List.append_assoc,
      List.singleton_append]

/-- A raw identifier goes on through characters that may go on a word. -/
theorem run_raw {cs : List Char} (h : cs.all continuesWord) (name : List Char) :
    (raw name).run cs = some ([], raw (cs.reverse ++ name)) := by
  induction cs generalizing name with
  | nil => rfl
  | cons c cs ih =>
    rw [List.all_cons, Bool.and_eq_true] at h
    have hstep : (raw name).step c = some ([], raw (c :: name)) := by simp [step, h.1]
    rw [run_cons_of_silent hstep, ih h.2, List.reverse_cons, List.append_assoc,
      List.singleton_append]

/-- The characters of a well-formed name. -/
theorem exists_of_wellFormed {name : String} (h : Identifier.wellFormed name) :
    ∃ c cs, name.toList = c :: cs ∧ beginsWord c ∧ cs.all continuesWord := by
  unfold Identifier.wellFormed at h
  split at h
  · cases h
  next c cs hname => exact ⟨c, cs, hname, Bool.and_eq_true_iff.1 h⟩

/-- What the reader is in the middle of behind a name. -/
def behindName (name : String) : Lexer :=
  if Identifier.needsRaw name then raw name.toList.reverse else word name.toList.reverse

/-- A name is read up to its end.

**Proof sketch.** A name that is written as it is begins a word and goes it on to its end.  A name
in raw form is read as the word `r`, then the mark, and then the name. -/
theorem run_spell {name : String} (h : Identifier.wellFormed name) :
    between.run (Source.spell name).toList = some ([], behindName name) := by
  obtain ⟨d, ds, hname, hd, hds⟩ := exists_of_wellFormed h
  have hback : (d :: ds).reverse = ds.reverse ++ [d] := List.reverse_cons
  unfold Source.spell behindName
  split
  next hraw =>
    -- The mark is read first, and from then on every word is a name.
    rw [String.toList_append, hname, hback]
    have hopen : between.run "r#".toList = some ([], rawMark) := by decide
    have hfirst : rawMark.step d = some ([], raw [d]) := by simp [step, hd]
    refine run_append_of_silent hopen ?_
    rw [run_cons_of_silent hfirst]
    exact run_raw hds [d]
  next hplain =>
    have hfirst : between.step d = some ([], word [d]) := by simp [step, start, hd]
    rw [hname, hback, run_cons_of_silent hfirst]
    exact run_word hds [d]

/-- A character that ends words ends a name. -/
theorem step_behindName (name : String) {c : Char} {us : List Token} (hc : endsWord c)
    (hstart : start c = some (us, between)) :
    (behindName name).step c = some (Token.ofName name :: us, between) := by
  have hcontinues : continuesWord c = false := by
    simp only [endsWord, Bool.and_eq_true, Bool.not_eq_true'] at hc
    exact hc.1
  have hmark : c ≠ '#' := by
    rintro rfl
    simp [endsWord] at hc
  unfold behindName Token.ofName
  split <;> simp [step, hcontinues, hmark, close, hc, hstart, Progress.after]

/-- **Names are read**: behind a name, a character that ends words is read as if it stood between
tokens. -/
theorem reads_spell {name : String} (h : Identifier.wellFormed name) {c : Char} {us : List Token}
    (hc : endsWord c) (hstart : start c = some (us, between)) :
    Reads ((Source.spell name).toList ++ [c]) (Token.ofName name :: us) :=
  run_append_of_silent (run_spell h) (run_singleton (step_behindName name hc hstart))

/-- A name that stands alone is read as its token. -/
theorem tokens?_spell {name : String} (h : Identifier.wellFormed name) :
    tokens? (Source.spell name) = some [Token.ofName name] := by
  have hfinish : (behindName name).finish = some [Token.ofName name] := by
    unfold behindName Token.ofName
    split <;> simp [finish]
  simp [tokens?, run_spell h, hfinish]

/-! ## Numbers -/

/-- The digits of a number are read as the number. -/
theorem run_toDigits (n : Nat) : between.run (Nat.toDigits 10 n) = some ([], number n) := by
  induction n using Nat.strongRecOn with
  | ind n ih =>
    have hstart : ∀ d < 10, between.step (Nat.digitChar d) = some ([], number d) := by decide
    have hdigit : ∀ d < 10, decimalDigit? (Nat.digitChar d) = some d := by decide
    rw [Nat.toDigits_eq_if (by decide)]
    split
    next hsmall => exact run_singleton (hstart n hsmall)
    next hlarge =>
      refine run_append_of_silent (ih (n / 10) (by omega)) (run_singleton ?_)
      have hn : 10 * (n / 10) + n % 10 = n := Nat.div_add_mod n 10
      simp [step, hdigit (n % 10) (Nat.mod_lt n (by decide)), hn]

/-- A number in front of the end of a declaration is read. -/
theorem reads_nat (n : Nat) : Reads (Nat.toDigits 10 n ++ [';']) [Token.number n, .sign ';'] :=
  run_append_of_silent (run_toDigits n) (run_singleton rfl)

/-- **Integers are read**, in front of the end of a declaration. -/
theorem reads_int (n : Int) :
    Reads ((toString n).toList ++ [';']) (Token.ofInt n ++ [Token.sign ';']) := by
  have hminus : Reads "-".toList [Token.sign '-'] := rfl
  rw [Int.toString_eq_repr, Int.repr_eq_if, Token.ofInt]
  split
  · rw [Nat.toList_repr]
    exact reads_nat n.toNat
  · rw [String.toList_append, Nat.toList_repr, List.append_assoc]
    exact hminus.append (reads_nat (-n).toNat)

/-! ## Texts -/

/-- The digits of a number of at most six hexadecimal digits are read inside an escape. -/
theorem run_scalar_toDigits (chars : List Char) {n : Nat} (h : n < 16 ^ 6) :
    (scalar chars 0 0).run (Nat.toDigits 16 n) =
      some ([], scalar chars (Nat.toDigits 16 n).length n) := by
  induction n using Nat.strongRecOn with
  | ind n ih =>
    have hdigit : ∀ d < 16, hexDigit? (Nat.digitChar d) = some d := by decide
    have hopen : ∀ d < 16, Nat.digitChar d ≠ '}' := by decide
    rw [Nat.toDigits_eq_if (by decide)]
    split
    next hsmall =>
      refine run_singleton ?_
      simp [step, hdigit n hsmall, hopen n hsmall]
    next hlarge =>
      have hmod : n % 16 < 16 := Nat.mod_lt n (by decide)
      have hn : 16 * (n / 16) + n % 16 = n := Nat.div_add_mod n 16
      have hroom : (Nat.toDigits 16 (n / 16)).length < 6 := by
        have hle : (Nat.toDigits 16 (n / 16)).length ≤ 5 :=
          (Nat.length_toDigits_le_iff (by decide) (by decide)).2 (by omega)
        omega
      refine run_append_of_silent (ih (n / 16) (by omega) (by omega)) (run_singleton ?_)
      simp [step, hdigit _ hmod, hopen _ hmod, hroom, hn]

/-- An escape by number is read as the character with that number. -/
theorem run_hexEscape (c : Char) (chars : List Char) :
    (text chars).run (Text.hexEscape c) = some ([], text (c :: chars)) := by
  have hescape : Text.hexEscape c = ['\\', 'u', '{'] ++ (Nat.toDigits 16 c.toNat ++ ['}']) := rfl
  have hopen : (text chars).run ['\\', 'u', '{'] = some ([], scalar chars 0 0) := rfl
  have hvalid : c.toNat.isValidChar := c.valid
  rw [hescape]
  refine run_append_of_silent hopen (run_append_of_silent
    (run_scalar_toDigits chars (Text.toNat_lt_sixteen_pow c)) (run_singleton ?_))
  have hdigits : (Nat.toDigits 16 c.toNat).length ≠ 0 := by
    simp [Nat.toDigits_ne_nil]
  simp only [step, if_true, hdigits, hvalid, ne_eq, not_false_eq_true, and_self,
    Char.ofNat_toNat]

/-- The escape of a character is read as the character. -/
theorem run_escape (c : Char) (chars : List Char) :
    (text chars).run (Text.escape c) = some ([], text (c :: chars)) := by
  unfold Text.escape
  -- Six characters have an escape by a letter or sign, and most of the others none.
  split
  next h => subst h; rfl
  split
  next h => subst h; rfl
  split
  next h => subst h; rfl
  split
  next h => subst h; rfl
  split
  next h => subst h; rfl
  split
  next h => subst h; rfl
  next _ _ _ hreturn hquote hbackslash =>
    split
    · refine run_singleton ?_
      simp [step, hreturn, hquote, hbackslash]
    · exact run_hexEscape c chars

/-- What is read as the characters of a text is read as the text when it stands in quotes. -/
theorem reads_quoted {body : List Char} {s : String}
    (h : (text []).run body = some ([], text s.toList.reverse)) :
    Reads ('"' :: body ++ ['"']) [.text s] := by
  have hopen : between.run ['"'] = some ([], text []) := rfl
  have hclose : (text s.toList.reverse).run ['"'] = some ([Token.text s], between) := by
    refine run_singleton ?_
    simp [step]
  have hwhole : '"' :: body ++ ['"'] = ['"'] ++ (body ++ ['"']) := rfl
  rw [hwhole]
  exact run_append_of_silent hopen (run_append_of_silent h hclose)

/-- The body of a literal is read as its characters. -/
theorem run_literalBody (cs chars : List Char) :
    (text chars).run (Source.literalBody cs) = some ([], text (cs.reverse ++ chars)) := by
  induction cs generalizing chars with
  | nil => rfl
  | cons c cs ih =>
    rw [Source.literalBody, List.reverse_cons, List.append_assoc, List.singleton_append]
    split
    next hzero =>
      obtain ⟨rfl, -⟩ := hzero
      have hopen : (text chars).run ['\\', 'x', '0', '0'] = some ([], text ('\x00' :: chars)) := rfl
      exact run_append_of_silent hopen (ih ('\x00' :: chars))
    next => exact run_append_of_silent (run_escape c chars) (ih (c :: chars))

/-- **Texts are read**: a literal is read as the text that it was written for.

**Proof sketch.** The body of the literal is the escapes of the characters of the text, one after
the other, and reading any of them gives the character and leaves the literal open.  Only the quote
at the end closes it. -/
theorem reads_stringLiteral (s : String) : Reads (Source.stringLiteral s).toList [.text s] := by
  rw [Source.stringLiteral, String.toList_ofList]
  refine reads_quoted ?_
  simpa using run_literalBody s.toList []

end Lexer

end BuildConst
