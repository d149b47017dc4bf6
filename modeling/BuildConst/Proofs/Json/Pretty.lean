import Mathlib.Algebra.Group.Int.Defs
import BuildConst.Json.Pretty
import BuildConst.Proofs.Json.Grammar

/-!
# Indented texts are texts of their documents

A document is written with its items and members on lines of their own and with escapes inside its
strings.  The grammar of documents allows any blanks between tokens and several spellings of a
character, and what is written is one of the texts that it allows.  So it is valid, and reading it
gives the document back.

## Main definitions

* `Json.Integral` — documents whose numbers are integers of at most 64 bits.

## Main results

* `Json.spelling_escape` — the escape of a character is a spelling of it.
* `Json.writes_prettyAt` — an indented text is a text of its document.
* `Json.Integral.document_pretty` — the same of a whole text, with blanks behind it.
-/

set_option relaxedAutoImplicit false
set_option autoImplicit false

namespace BuildConst

/-! ## Padded numbers -/

namespace Text

/-- A zero in front of a numeral does not change its number. -/
theorem HexNumeral.zero_cons {cs : List Char} {n : Nat} (h : HexNumeral cs n) :
    HexNumeral ('0' :: cs) n := by
  have hzero : HexDigit '0' 0 := by decide
  induction h with
  | @digit c n hc =>
    have hpair := (HexNumeral.digit hzero).concat hc
    rwa [Nat.mul_zero, Nat.zero_add] at hpair
  | concat _ hd ih => exact ih.concat hd

/-- Zeros in front of a numeral do not change its number. -/
theorem HexNumeral.zeros_append {cs : List Char} {n : Nat} (h : HexNumeral cs n) (count : Nat) :
    HexNumeral (List.replicate count '0' ++ cs) n := by
  induction count with
  | zero => exact h
  | succ count ih => exact ih.zero_cons

end Text

namespace Json

/-! ## Strings -/

/-- The number of a control character is written in four digits. -/
theorem spelling_unicodeEscape {c : Char} (h : c.toNat < 0x20) : Spelling c (unicodeEscape c) := by
  have hshort : ∀ n < 0x20, (Nat.toDigits 16 n).length ≤ 4 := by decide
  have hfour (digits : List Char) (hdigits : digits.length ≤ 4) :
      (List.replicate (4 - digits.length) '0' ++ digits).length = 4 := by
    rw [List.length_append, List.length_replicate, Nat.sub_add_cancel hdigits]
  exact .number (hfour _ (hshort _ h)) ((Text.hexNumeral_toDigits c.toNat).zeros_append _)

/-- **The escape of a character is a spelling of it.** -/
theorem spelling_escape (c : Char) : Spelling c (escape c) := by
  unfold escape
  split_ifs with hquote hbackslash hb hf hn hr ht hcontrol
  · exact .letter (by rw [hquote]; decide)
  · exact .letter (by rw [hbackslash]; decide)
  · exact .letter (by rw [hb]; decide)
  · exact .letter (by rw [hf]; decide)
  · exact .letter (by rw [hn]; decide)
  · exact .letter (by rw [hr]; decide)
  · exact .letter (by rw [ht]; decide)
  · exact spelling_unicodeEscape hcontrol
  · exact .plain (Nat.le_of_not_lt hcontrol) hquote hbackslash

/-- Characters are written one after the other. -/
theorem body_escape (cs : List Char) : Body cs (cs.flatMap escape) := by
  induction cs with
  | nil => exact .nil
  | cons c cs ih => exact .cons (spelling_escape c) ih

/-! ## Numbers -/

/-- An integer of at most 64 bits is written in its decimal form. -/
theorem writes_whole {n : Int} (hlow : -2 ^ 63 ≤ n) (hhigh : n < 2 ^ 64) :
    Writes (.number (.whole n)) (Number.text (.whole n)).toList := by
  have hdigits (m : Nat) : (toString m).toList = Nat.toDigits 10 m := by
    rw [Nat.toString_eq_repr, Nat.toList_repr]
  cases n with
  | ofNat m =>
    show Writes _ (toString m).toList
    rw [hdigits]
    exact .natural (Int.ofNat_lt.1 hhigh)
  | negSucc m =>
    show Writes _ ("-" ++ toString (m + 1)).toList
    rw [String.toList_append, hdigits]
    exact .negative (Nat.succ_pos m) (by omega)

/-! ## Lists and objects -/

/-- The blanks between two lines. -/
theorem blanks_newline (depth : Nat) : Blanks (newline depth) := by
  intro c hc
  rcases List.mem_cons.1 hc with rfl | hspace
  · rfl
  · rw [List.eq_of_mem_replicate hspace]
    rfl

/-- Entries behind the first one, each of them on a line of its own. -/
def onLines (depth : Nat) (texts : List (List Char)) : List Char :=
  texts.flatMap fun text => ',' :: (newline depth ++ text)

/-- Entries on lines of their own are separated by commas. -/
theorem separated_onLines (depth : Nat) (text : List Char) (more : List (List Char))
    {behind : List Char} (h : Blanks behind) :
    Separated (text :: more) (newline depth ++ (text ++ (onLines depth more ++ behind))) := by
  induction more generalizing text with
  | nil => exact .single (blanks_newline depth) h
  | cons next more ih =>
    have hnone : Blanks [] := nofun
    have hnext : Separated (text :: next :: more) (newline depth ++ (text ++ ([] ++
        ',' :: (newline depth ++ (next ++ (onLines depth more ++ behind)))))) :=
      .cons (blanks_newline depth) hnone (ih next)
    simpa only [onLines, List.flatMap_cons, List.cons_append, List.append_assoc,
      List.nil_append] using hnext

/-- The text of a member of an object. -/
def memberText (depth : Nat) (member : String × Json) : List Char :=
  quote member.1 ++ [':', ' '] ++ prettyAt depth member.2

/-- The items of a list behind the first one. -/
theorem prettyItems_eq (depth : Nat) (items : List Json) :
    prettyItems depth items = onLines depth (items.map (prettyAt depth)) := by
  induction items with
  | nil => rfl
  | cons item items ih => simp [prettyItems, ih, onLines]

/-- The members of an object behind the first one. -/
theorem prettyMembers_eq (depth : Nat) (members : List (String × Json)) :
    prettyMembers depth members = onLines depth (members.map (memberText depth)) := by
  induction members with
  | nil => rfl
  | cons member members ih => simp [prettyMembers, ih, onLines, memberText]

/-- A member is written with its key in quotes. -/
theorem member_memberText {depth : Nat} {member : String × Json}
    (h : Writes member.2 (prettyAt depth member.2)) :
    Member Writes member (memberText depth member) := by
  have hspace : Blanks [' '] := by decide
  have hmember := Member.intro (body_escape member.1.toList) (List.forall_mem_nil _) hspace h
  simpa only [memberText, quote, List.cons_append, List.append_assoc, List.nil_append] using hmember

/-! ## Documents -/

/-- A document whose numbers are integers of at most 64 bits. -/
inductive Integral : Json → Prop
  | null : Integral .null
  | bool (truth : Bool) : Integral (.bool truth)
  | number {n : Int} (hlow : -2 ^ 63 ≤ n) (hhigh : n < 2 ^ 64) : Integral (.number (.whole n))
  | string (text : String) : Integral (.string text)
  | array {items : List Json} (h : ∀ item ∈ items, Integral item) : Integral (.array items)
  | object {members : List (String × Json)} (h : ∀ member ∈ members, Integral member.2) :
      Integral (.object members)

/-- A natural number of at most 64 bits is an integer of a document. -/
theorem integral_ofNat {n : Nat} (h : n < 2 ^ 64) : (ofNat n).Integral :=
  .number (by omega) (by omega)

/-- **An indented text is a text of its document**, at whatever depth it is written. -/
theorem writes_prettyAt {v : Json} (h : v.Integral) (depth : Nat) :
    Writes v (prettyAt depth v) := by
  induction h generalizing depth with
  | null => exact .null
  | bool truth =>
    cases truth with
    | true => exact .true
    | false => exact .false
  | number hlow hhigh => exact writes_whole hlow hhigh
  | string text => exact .string (body_escape text.toList)
  | @array items _ ih =>
    cases items with
    | nil => exact .emptyArray (List.forall_mem_nil _)
    | cons item items =>
      have hitems : List.Forall₂ Writes (item :: items)
          ((item :: items).map (prettyAt (depth + 1))) :=
        List.forall₂_map_right_iff.2 (List.forall₂_same.2 fun v hv => ih v hv (depth + 1))
      have hlines := separated_onLines (depth + 1) (prettyAt (depth + 1) item)
        (items.map (prettyAt (depth + 1))) (blanks_newline depth)
      simpa only [prettyAt, prettyItems_eq, List.cons_append, List.append_assoc] using
        Writes.array hitems hlines
  | @object members _ ih =>
    cases members with
    | nil => exact .emptyObject (List.forall_mem_nil _)
    | cons member members =>
      have hmembers : List.Forall₂ (Member Writes) (member :: members)
          ((member :: members).map (memberText (depth + 1))) :=
        List.forall₂_map_right_iff.2
          (List.forall₂_same.2 fun m hm => member_memberText (ih m hm (depth + 1)))
      have hlines := separated_onLines (depth + 1) (memberText (depth + 1) member)
        (members.map (memberText (depth + 1))) (blanks_newline depth)
      simpa only [prettyAt, prettyMembers_eq, memberText, List.cons_append, List.append_assoc] using
        Writes.object hmembers hlines

/-- An indented text is a text of its document, also with blanks behind it. -/
theorem Integral.document_pretty {v : Json} (h : v.Integral) {behind : String}
    (hbehind : Blanks behind.toList) : v.Document (v.pretty ++ behind) := by
  refine ⟨[], _, _, List.forall_mem_nil _, writes_prettyAt h 0, hbehind, ?_⟩
  rw [String.toList_append, pretty, String.toList_ofList, List.nil_append]

end Json

end BuildConst
